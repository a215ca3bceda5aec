import RuntimeMux.Cri.Image
import RuntimeMux.Cri.Stats

/-!
# Messages of the legacy schema

Only the messages whose layout differs from the current schema stand here; a caller of the legacy
schema sends and receives the other ones in their current layout. Host namespaces are flags, there
are no runtime handlers, and filesystems are named by the id of their storage device.
-/

namespace RuntimeMux.Cri.Legacy

open Wire

/-- Which kernel namespaces of the host a sandbox or container joins. -/
structure NamespaceOption where
  hostNetwork : Bool := false
  hostPid : Bool := false
  hostIpc : Bool := false

instance : Message NamespaceOption where
  name := "NamespaceOption"
  blank := {}
  fields := [.one 1 "host_network" (·.hostNetwork) fun x m => { m with hostNetwork := x },
    .one 2 "host_pid" (·.hostPid) fun x m => { m with hostPid := x },
    .one 3 "host_ipc" (·.hostIpc) fun x m => { m with hostIpc := x }]

/-- The security settings of a pod sandbox. -/
structure LinuxSandboxSecurityContext where
  namespaceOptions : Option NamespaceOption := none
  selinuxOptions : Option SeLinuxOption := none
  runAsUser : Option Int64Value := none
  readonlyRootfs : Bool := false
  supplementalGroups : List Int64 := []
  privileged : Bool := false
  seccompProfilePath : String := ""

instance : Message LinuxSandboxSecurityContext where
  name := "LinuxSandboxSecurityContext"
  blank := {}
  fields := [.message 1 "namespace_options" (·.namespaceOptions)
      fun x m => { m with namespaceOptions := x },
    .message 2 "selinux_options" (·.selinuxOptions) fun x m => { m with selinuxOptions := x },
    .message 3 "run_as_user" (·.runAsUser) fun x m => { m with runAsUser := x },
    .one 4 "readonly_rootfs" (·.readonlyRootfs) fun x m => { m with readonlyRootfs := x },
    .packed 5 "supplemental_groups" (·.supplementalGroups)
      fun x m => { m with supplementalGroups := x },
    .one 6 "privileged" (·.privileged) fun x m => { m with privileged := x },
    .one 7 "seccomp_profile_path" (·.seccompProfilePath)
      fun x m => { m with seccompProfilePath := x }]

/-- The settings of a pod sandbox that only Linux has. -/
structure LinuxPodSandboxConfig where
  cgroupParent : String := ""
  securityContext : Option LinuxSandboxSecurityContext := none
  sysctls : TextMap := .empty

instance : Message LinuxPodSandboxConfig where
  name := "LinuxPodSandboxConfig"
  blank := {}
  fields := [.one 1 "cgroup_parent" (·.cgroupParent) fun x m => { m with cgroupParent := x },
    .message 2 "security_context" (·.securityContext) fun x m => { m with securityContext := x },
    .map 3 "sysctls" (·.sysctls) fun x m => { m with sysctls := x }]

/-- The settings of a pod sandbox. -/
structure PodSandboxConfig where
  metadata : Option PodSandboxMetadata := none
  hostname : String := ""
  logDirectory : String := ""
  dnsConfig : Option DnsConfig := none
  portMappings : List PortMapping := []
  labels : TextMap := .empty
  annotations : TextMap := .empty
  linux : Option LinuxPodSandboxConfig := none

instance : Message PodSandboxConfig where
  name := "PodSandboxConfig"
  blank := {}
  fields := [.message 1 "metadata" (·.metadata) fun x m => { m with metadata := x },
    .one 2 "hostname" (·.hostname) fun x m => { m with hostname := x },
    .one 3 "log_directory" (·.logDirectory) fun x m => { m with logDirectory := x },
    .message 4 "dns_config" (·.dnsConfig) fun x m => { m with dnsConfig := x },
    .messages 5 "port_mappings" (·.portMappings) fun x m => { m with portMappings := x },
    .map 6 "labels" (·.labels) fun x m => { m with labels := x },
    .map 7 "annotations" (·.annotations) fun x m => { m with annotations := x },
    .message 8 "linux" (·.linux) fun x m => { m with linux := x }]

/-- Creates and starts a pod sandbox. -/
structure RunPodSandboxRequest where
  config : Option PodSandboxConfig := none

instance : Message RunPodSandboxRequest where
  name := "RunPodSandboxRequest"
  blank := {}
  fields := [.message 1 "config" (·.config) fun x m => { m with config := x }]

/-- The security settings of a container. -/
structure LinuxContainerSecurityContext where
  capabilities : Option Capability := none
  privileged : Bool := false
  namespaceOptions : Option NamespaceOption := none
  selinuxOptions : Option SeLinuxOption := none
  runAsUser : Option Int64Value := none
  runAsUsername : String := ""
  readonlyRootfs : Bool := false
  supplementalGroups : List Int64 := []
  apparmorProfile : String := ""
  seccompProfilePath : String := ""
  noNewPrivs : Bool := false

instance : Message LinuxContainerSecurityContext where
  name := "LinuxContainerSecurityContext"
  blank := {}
  fields := [.message 1 "capabilities" (·.capabilities) fun x m => { m with capabilities := x },
    .one 2 "privileged" (·.privileged) fun x m => { m with privileged := x },
    .message 3 "namespace_options" (·.namespaceOptions) fun x m => { m with namespaceOptions := x },
    .message 4 "selinux_options" (·.selinuxOptions) fun x m => { m with selinuxOptions := x },
    .message 5 "run_as_user" (·.runAsUser) fun x m => { m with runAsUser := x },
    .one 6 "run_as_username" (·.runAsUsername) fun x m => { m with runAsUsername := x },
    .one 7 "readonly_rootfs" (·.readonlyRootfs) fun x m => { m with readonlyRootfs := x },
    .packed 8 "supplemental_groups" (·.supplementalGroups)
      fun x m => { m with supplementalGroups := x },
    .one 9 "apparmor_profile" (·.apparmorProfile) fun x m => { m with apparmorProfile := x },
    .one 10 "seccomp_profile_path" (·.seccompProfilePath)
      fun x m => { m with seccompProfilePath := x },
    .one 11 "no_new_privs" (·.noNewPrivs) fun x m => { m with noNewPrivs := x }]

/-- The settings of a container that only Linux has. -/
structure LinuxContainerConfig where
  resources : Option LinuxContainerResources := none
  securityContext : Option LinuxContainerSecurityContext := none

instance : Message LinuxContainerConfig where
  name := "LinuxContainerConfig"
  blank := {}
  fields := [.message 1 "resources" (·.resources) fun x m => { m with resources := x },
    .message 2 "security_context" (·.securityContext) fun x m => { m with securityContext := x }]

/-- The settings of a container. -/
structure ContainerConfig where
  metadata : Option ContainerMetadata := none
  image : Option ImageSpec := none
  command : List String := []
  args : List String := []
  workingDir : String := ""
  envs : List KeyValue := []
  mounts : List Mount := []
  devices : List Device := []
  labels : TextMap := .empty
  annotations : TextMap := .empty
  logPath : String := ""
  stdin : Bool := false
  stdinOnce : Bool := false
  tty : Bool := false
  linux : Option LinuxContainerConfig := none

instance : Message ContainerConfig where
  name := "ContainerConfig"
  blank := {}
  fields := [.message 1 "metadata" (·.metadata) fun x m => { m with metadata := x },
    .message 2 "image" (·.image) fun x m => { m with image := x },
    .texts 3 "command" (·.command) fun x m => { m with command := x },
    .texts 4 "args" (·.args) fun x m => { m with args := x },
    .one 5 "working_dir" (·.workingDir) fun x m => { m with workingDir := x },
    .messages 6 "envs" (·.envs) fun x m => { m with envs := x },
    .messages 7 "mounts" (·.mounts) fun x m => { m with mounts := x },
    .messages 8 "devices" (·.devices) fun x m => { m with devices := x },
    .map 9 "labels" (·.labels) fun x m => { m with labels := x },
    .map 10 "annotations" (·.annotations) fun x m => { m with annotations := x },
    .one 11 "log_path" (·.logPath) fun x m => { m with logPath := x },
    .one 12 "stdin" (·.stdin) fun x m => { m with stdin := x },
    .one 13 "stdin_once" (·.stdinOnce) fun x m => { m with stdinOnce := x },
    .one 14 "tty" (·.tty) fun x m => { m with tty := x },
    .message 15 "linux" (·.linux) fun x m => { m with linux := x }]

/-- Creates a container in a pod sandbox. -/
structure CreateContainerRequest where
  podSandboxId : String := ""
  config : Option ContainerConfig := none
  sandboxConfig : Option PodSandboxConfig := none

instance : Message CreateContainerRequest where
  name := "CreateContainerRequest"
  blank := {}
  fields := [.one 1 "pod_sandbox_id" (·.podSandboxId) fun x m => { m with podSandboxId := x },
    .message 2 "config" (·.config) fun x m => { m with config := x },
    .message 3 "sandbox_config" (·.sandboxConfig) fun x m => { m with sandboxConfig := x }]

/-- Fetches an image from a registry. -/
structure PullImageRequest where
  image : Option ImageSpec := none
  auth : Option AuthConfig := none
  sandboxConfig : Option PodSandboxConfig := none

instance : Message PullImageRequest where
  name := "PullImageRequest"
  blank := {}
  fields := [.message 1 "image" (·.image) fun x m => { m with image := x },
    .message 2 "auth" (·.auth) fun x m => { m with auth := x },
    .message 3 "sandbox_config" (·.sandboxConfig) fun x m => { m with sandboxConfig := x }]

/-- The kernel namespaces of a pod sandbox. -/
structure Namespace where
  options : Option NamespaceOption := none

instance : Message Namespace where
  name := "Namespace"
  blank := {}
  fields := [.message 2 "options" (·.options) fun x m => { m with options := x }]

/-- The part of a pod sandbox status that only Linux has. -/
structure LinuxPodSandboxStatus where
  namespaces : Option Namespace := none

instance : Message LinuxPodSandboxStatus where
  name := "LinuxPodSandboxStatus"
  blank := {}
  fields := [.message 1 "namespaces" (·.namespaces) fun x m => { m with namespaces := x }]

/-- How a pod sandbox is doing. -/
structure PodSandboxStatus where
  id : String := ""
  metadata : Option PodSandboxMetadata := none
  state : Int32 := 0
  createdAt : Int64 := 0
  network : Option PodSandboxNetworkStatus := none
  linux : Option LinuxPodSandboxStatus := none
  labels : TextMap := .empty
  annotations : TextMap := .empty

instance : Message PodSandboxStatus where
  name := "PodSandboxStatus"
  blank := {}
  fields := [.one 1 "id" (·.id) fun x m => { m with id := x },
    .message 2 "metadata" (·.metadata) fun x m => { m with metadata := x },
    .one 3 "state" (·.state) fun x m => { m with state := x },
    .one 4 "created_at" (·.createdAt) fun x m => { m with createdAt := x },
    .message 5 "network" (·.network) fun x m => { m with network := x },
    .message 6 "linux" (·.linux) fun x m => { m with linux := x },
    .map 7 "labels" (·.labels) fun x m => { m with labels := x },
    .map 8 "annotations" (·.annotations) fun x m => { m with annotations := x }]

/-- How a pod sandbox is doing, with more information if it was asked for. -/
structure PodSandboxStatusResponse where
  status : Option PodSandboxStatus := none
  info : TextMap := .empty

instance : Message PodSandboxStatusResponse where
  name := "PodSandboxStatusResponse"
  blank := {}
  fields := [.message 1 "status" (·.status) fun x m => { m with status := x },
    .map 2 "info" (·.info) fun x m => { m with info := x }]

/-- A storage device, by its unique id. -/
structure StorageIdentifier where
  uuid : String := ""

instance : Message StorageIdentifier where
  name := "StorageIdentifier"
  blank := {}
  fields := [.one 1 "uuid" (·.uuid) fun x m => { m with uuid := x }]

/-- How much of a filesystem is in use. -/
structure FilesystemUsage where
  timestamp : Int64 := 0
  storageId : Option StorageIdentifier := none
  usedBytes : Option UInt64Value := none
  inodesUsed : Option UInt64Value := none

instance : Message FilesystemUsage where
  name := "FilesystemUsage"
  blank := {}
  fields := [.one 1 "timestamp" (·.timestamp) fun x m => { m with timestamp := x },
    .message 2 "storage_id" (·.storageId) fun x m => { m with storageId := x },
    .message 3 "used_bytes" (·.usedBytes) fun x m => { m with usedBytes := x },
    .message 4 "inodes_used" (·.inodesUsed) fun x m => { m with inodesUsed := x }]

/-- The statistics of a container. -/
structure ContainerStats where
  attributes : Option ContainerAttributes := none
  cpu : Option CpuUsage := none
  memory : Option MemoryUsage := none
  writableLayer : Option FilesystemUsage := none

instance : Message ContainerStats where
  name := "ContainerStats"
  blank := {}
  fields := [.message 1 "attributes" (·.attributes) fun x m => { m with attributes := x },
    .message 2 "cpu" (·.cpu) fun x m => { m with cpu := x },
    .message 3 "memory" (·.memory) fun x m => { m with memory := x },
    .message 4 "writable_layer" (·.writableLayer) fun x m => { m with writableLayer := x }]

/-- The statistics of a container that was asked for. -/
structure ContainerStatsResponse where
  stats : Option ContainerStats := none

instance : Message ContainerStatsResponse where
  name := "ContainerStatsResponse"
  blank := {}
  fields := [.message 1 "stats" (·.stats) fun x m => { m with stats := x }]

/-- A list of container statistics. -/
structure ListContainerStatsResponse where
  stats : List ContainerStats := []

instance : Message ListContainerStatsResponse where
  name := "ListContainerStatsResponse"
  blank := {}
  fields := [.messages 1 "stats" (·.stats) fun x m => { m with stats := x }]

/-- The filesystems that hold images. -/
structure ImageFsInfoResponse where
  imageFilesystems : List FilesystemUsage := []

instance : Message ImageFsInfoResponse where
  name := "ImageFsInfoResponse"
  blank := {}
  fields := [.messages 1 "image_filesystems" (·.imageFilesystems)
      fun x m => { m with imageFilesystems := x }]

end RuntimeMux.Cri.Legacy
