import RuntimeMux.Cri.PodSandbox

/-!
# Messages about containers

Creating, starting, stopping, removing and listing them, and changing their resources.
-/

namespace RuntimeMux.Cri

open Wire

/-- The resources that a container may use. -/
structure LinuxContainerResources where
  cpuPeriod : Int64 := 0
  cpuQuota : Int64 := 0
  cpuShares : Int64 := 0
  memoryLimitInBytes : Int64 := 0
  oomScoreAdj : Int64 := 0
  cpusetCpus : String := ""
  cpusetMems : String := ""

instance : Message LinuxContainerResources where
  name := "LinuxContainerResources"
  blank := {}
  fields := [.one 1 "cpu_period" (·.cpuPeriod) fun x m => { m with cpuPeriod := x },
    .one 2 "cpu_quota" (·.cpuQuota) fun x m => { m with cpuQuota := x },
    .one 3 "cpu_shares" (·.cpuShares) fun x m => { m with cpuShares := x },
    .one 4 "memory_limit_in_bytes" (·.memoryLimitInBytes)
      fun x m => { m with memoryLimitInBytes := x },
    .one 5 "oom_score_adj" (·.oomScoreAdj) fun x m => { m with oomScoreAdj := x },
    .one 6 "cpuset_cpus" (·.cpusetCpus) fun x m => { m with cpusetCpus := x },
    .one 7 "cpuset_mems" (·.cpusetMems) fun x m => { m with cpusetMems := x }]

/-- The security settings of a container. -/
structure LinuxContainerSecurityContext where
  capabilities : Option Capability := none
  privileged : Bool := false
  namespaceOptions : Option NamespaceOption := none
  selinuxOptions : Option SeLinuxOption := none
  runAsUser : Option Int64Value := none
  runAsUsername : String := ""
  readonlyRootfs : Bool := false
  supplementalGroups : List Int64 := []
  apparmorProfile : String := ""
  seccompProfilePath : String := ""
  noNewPrivs : Bool := false
  runAsGroup : Option Int64Value := none
  maskedPaths : List String := []
  readonlyPaths : List String := []

instance : Message LinuxContainerSecurityContext where
  name := "LinuxContainerSecurityContext"
  blank := {}
  fields := [.message 1 "capabilities" (·.capabilities) fun x m => { m with capabilities := x },
    .one 2 "privileged" (·.privileged) fun x m => { m with privileged := x },
    .message 3 "namespace_options" (·.namespaceOptions) fun x m => { m with namespaceOptions := x },
    .message 4 "selinux_options" (·.selinuxOptions) fun x m => { m with selinuxOptions := x },
    .message 5 "run_as_user" (·.runAsUser) fun x m => { m with runAsUser := x },
    .one 6 "run_as_username" (·.runAsUsername) fun x m => { m with runAsUsername := x },
    .one 7 "readonly_rootfs" (·.readonlyRootfs) fun x m => { m with readonlyRootfs := x },
    .packed 8 "supplemental_groups" (·.supplementalGroups)
      fun x m => { m with supplementalGroups := x },
    .one 9 "apparmor_profile" (·.apparmorProfile) fun x m => { m with apparmorProfile := x },
    .one 10 "seccomp_profile_path" (·.seccompProfilePath)
      fun x m => { m with seccompProfilePath := x },
    .one 11 "no_new_privs" (·.noNewPrivs) fun x m => { m with noNewPrivs := x },
    .message 12 "run_as_group" (·.runAsGroup) fun x m => { m with runAsGroup := x },
    .texts 13 "masked_paths" (·.maskedPaths) fun x m => { m with maskedPaths := x },
    .texts 14 "readonly_paths" (·.readonlyPaths) fun x m => { m with readonlyPaths := x }]

/-- The settings of a container that only Linux has. -/
structure LinuxContainerConfig where
  resources : Option LinuxContainerResources := none
  securityContext : Option LinuxContainerSecurityContext := none

instance : Message LinuxContainerConfig where
  name := "LinuxContainerConfig"
  blank := {}
  fields := [.message 1 "resources" (·.resources) fun x m => { m with resources := x },
    .message 2 "security_context" (·.securityContext) fun x m => { m with securityContext := x }]

/-- What identifies a container to its owner. -/
structure ContainerMetadata where
  name : String := ""
  attempt : UInt32 := 0

instance : Message ContainerMetadata where
  name := "ContainerMetadata"
  blank := {}
  fields := [.one 1 "name" (·.name) fun x m => { m with name := x },
    .one 2 "attempt" (·.attempt) fun x m => { m with attempt := x }]

/-- A device of the host that is visible in a container. -/
structure Device where
  containerPath : String := ""
  hostPath : String := ""
  permissions : String := ""

instance : Message Device where
  name := "Device"
  blank := {}
  fields := [.one 1 "container_path" (·.containerPath) fun x m => { m with containerPath := x },
    .one 2 "host_path" (·.hostPath) fun x m => { m with hostPath := x },
    .one 3 "permissions" (·.permissions) fun x m => { m with permissions := x }]

/-- The settings of a container. -/
structure ContainerConfig where
  metadata : Option ContainerMetadata := none
  image : Option ImageSpec := none
  command : List String := []
  args : List String := []
  workingDir : String := ""
  envs : List KeyValue := []
  mounts : List Mount := []
  devices : List Device := []
  labels : TextMap := .empty
  annotations : TextMap := .empty
  logPath : String := ""
  stdin : Bool := false
  stdinOnce : Bool := false
  tty : Bool := false
  linux : Option LinuxContainerConfig := none

instance : Message ContainerConfig where
  name := "ContainerConfig"
  blank := {}
  fields := [.message 1 "metadata" (·.metadata) fun x m => { m with metadata := x },
    .message 2 "image" (·.image) fun x m => { m with image := x },
    .texts 3 "command" (·.command) fun x m => { m with command := x },
    .texts 4 "args" (·.args) fun x m => { m with args := x },
    .one 5 "working_dir" (·.workingDir) fun x m => { m with workingDir := x },
    .messages 6 "envs" (·.envs) fun x m => { m with envs := x },
    .messages 7 "mounts" (·.mounts) fun x m => { m with mounts := x },
    .messages 8 "devices" (·.devices) fun x m => { m with devices := x },
    .map 9 "labels" (·.labels) fun x m => { m with labels := x },
    .map 10 "annotations" (·.annotations) fun x m => { m with annotations := x },
    .one 11 "log_path" (·.logPath) fun x m => { m with logPath := x },
    .one 12 "stdin" (·.stdin) fun x m => { m with stdin := x },
    .one 13 "stdin_once" (·.stdinOnce) fun x m => { m with stdinOnce := x },
    .one 14 "tty" (·.tty) fun x m => { m with tty := x },
    .message 15 "linux" (·.linux) fun x m => { m with linux := x }]

/-- Creates a container in a pod sandbox. -/
structure CreateContainerRequest where
  podSandboxId : String := ""
  config : Option ContainerConfig := none
  sandboxConfig : Option PodSandboxConfig := none

instance : Message CreateContainerRequest where
  name := "CreateContainerRequest"
  blank := {}
  fields := [.one 1 "pod_sandbox_id" (·.podSandboxId) fun x m => { m with podSandboxId := x },
    .message 2 "config" (·.config) fun x m => { m with config := x },
    .message 3 "sandbox_config" (·.sandboxConfig) fun x m => { m with sandboxConfig := x }]

/-- The id of a new container. -/
structure CreateContainerResponse where
  containerId : String := ""

instance : Message CreateContainerResponse where
  name := "CreateContainerResponse"
  blank := {}
  fields := [.one 1 "container_id" (·.containerId) fun x m => { m with containerId := x }]

/-- Starts a container. -/
structure StartContainerRequest where
  containerId : String := ""

instance : Message StartContainerRequest where
  name := "StartContainerRequest"
  blank := {}
  fields := [.one 1 "container_id" (·.containerId) fun x m => { m with containerId := x }]

/-- Confirms that a container was started. -/
structure StartContainerResponse where

instance : Message StartContainerResponse where
  name := "StartContainerResponse"
  blank := {}
  fields := []

/-- Stops a container, which is given some time for it. -/
structure StopContainerRequest where
  containerId : String := ""
  timeout : Int64 := 0

instance : Message StopContainerRequest where
  name := "StopContainerRequest"
  blank := {}
  fields := [.one 1 "container_id" (·.containerId) fun x m => { m with containerId := x },
    .one 2 "timeout" (·.timeout) fun x m => { m with timeout := x }]

/-- Confirms that a container was stopped. -/
structure StopContainerResponse where

instance : Message StopContainerResponse where
  name := "StopContainerResponse"
  blank := {}
  fields := []

/-- Removes a container. -/
structure RemoveContainerRequest where
  containerId : String := ""

instance : Message RemoveContainerRequest where
  name := "RemoveContainerRequest"
  blank := {}
  fields := [.one 1 "container_id" (·.containerId) fun x m => { m with containerId := x }]

/-- Confirms that a container was removed. -/
structure RemoveContainerResponse where

instance : Message RemoveContainerResponse where
  name := "RemoveContainerResponse"
  blank := {}
  fields := []

/-- The state that a filter selects, by its code. -/
structure ContainerStateValue where
  state : Int32 := 0

instance : Message ContainerStateValue where
  name := "ContainerStateValue"
  blank := {}
  fields := [.one 1 "state" (·.state) fun x m => { m with state := x }]

/-- Which containers to list. An empty field selects all. -/
structure ContainerFilter where
  id : String := ""
  state : Option ContainerStateValue := none
  podSandboxId : String := ""
  labelSelector : TextMap := .empty

instance : Message ContainerFilter where
  name := "ContainerFilter"
  blank := {}
  fields := [.one 1 "id" (·.id) fun x m => { m with id := x },
    .message 2 "state" (·.state) fun x m => { m with state := x },
    .one 3 "pod_sandbox_id" (·.podSandboxId) fun x m => { m with podSandboxId := x },
    .map 4 "label_selector" (·.labelSelector) fun x m => { m with labelSelector := x }]

/-- Asks for the containers that a filter selects. -/
structure ListContainersRequest where
  filter : Option ContainerFilter := none

instance : Message ListContainersRequest where
  name := "ListContainersRequest"
  blank := {}
  fields := [.message 1 "filter" (·.filter) fun x m => { m with filter := x }]

/-- A container in a list. -/
structure Container where
  id : String := ""
  podSandboxId : String := ""
  metadata : Option ContainerMetadata := none
  image : Option ImageSpec := none
  imageRef : String := ""
  state : Int32 := 0
  createdAt : Int64 := 0
  labels : TextMap := .empty
  annotations : TextMap := .empty

instance : Message Container where
  name := "Container"
  blank := {}
  fields := [.one 1 "id" (·.id) fun x m => { m with id := x },
    .one 2 "pod_sandbox_id" (·.podSandboxId) fun x m => { m with podSandboxId := x },
    .message 3 "metadata" (·.metadata) fun x m => { m with metadata := x },
    .message 4 "image" (·.image) fun x m => { m with image := x },
    .one 5 "image_ref" (·.imageRef) fun x m => { m with imageRef := x },
    .one 6 "state" (·.state) fun x m => { m with state := x },
    .one 7 "created_at" (·.createdAt) fun x m => { m with createdAt := x },
    .map 8 "labels" (·.labels) fun x m => { m with labels := x },
    .map 9 "annotations" (·.annotations) fun x m => { m with annotations := x }]

/-- A list of containers. -/
structure ListContainersResponse where
  containers : List Container := []

instance : Message ListContainersResponse where
  name := "ListContainersResponse"
  blank := {}
  fields := [.messages 1 "containers" (·.containers) fun x m => { m with containers := x }]

/-- Asks how a container is doing. -/
structure ContainerStatusRequest where
  containerId : String := ""
  verbose : Bool := false

instance : Message ContainerStatusRequest where
  name := "ContainerStatusRequest"
  blank := {}
  fields := [.one 1 "container_id" (·.containerId) fun x m => { m with containerId := x },
    .one 2 "verbose" (·.verbose) fun x m => { m with verbose := x }]

/-- How a container is doing. -/
structure ContainerStatus where
  id : String := ""
  metadata : Option ContainerMetadata := none
  state : Int32 := 0
  createdAt : Int64 := 0
  startedAt : Int64 := 0
  finishedAt : Int64 := 0
  exitCode : Int32 := 0
  image : Option ImageSpec := none
  imageRef : String := ""
  reason : String := ""
  message : String := ""
  labels : TextMap := .empty
  annotations : TextMap := .empty
  mounts : List Mount := []
  logPath : String := ""

instance : Message ContainerStatus where
  name := "ContainerStatus"
  blank := {}
  fields := [.one 1 "id" (·.id) fun x m => { m with id := x },
    .message 2 "metadata" (·.metadata) fun x m => { m with metadata := x },
    .one 3 "state" (·.state) fun x m => { m with state := x },
    .one 4 "created_at" (·.createdAt) fun x m => { m with createdAt := x },
    .one 5 "started_at" (·.startedAt) fun x m => { m with startedAt := x },
    .one 6 "finished_at" (·.finishedAt) fun x m => { m with finishedAt := x },
    .one 7 "exit_code" (·.exitCode) fun x m => { m with exitCode := x },
    .message 8 "image" (·.image) fun x m => { m with image := x },
    .one 9 "image_ref" (·.imageRef) fun x m => { m with imageRef := x },
    .one 10 "reason" (·.reason) fun x m => { m with reason := x },
    .one 11 "message" (·.message) fun x m => { m with message := x },
    .map 12 "labels" (·.labels) fun x m => { m with labels := x },
    .map 13 "annotations" (·.annotations) fun x m => { m with annotations := x },
    .messages 14 "mounts" (·.mounts) fun x m => { m with mounts := x },
    .one 15 "log_path" (·.logPath) fun x m => { m with logPath := x }]

/-- How a container is doing, with more information if it was asked for. -/
structure ContainerStatusResponse where
  status : Option ContainerStatus := none
  info : TextMap := .empty

instance : Message ContainerStatusResponse where
  name := "ContainerStatusResponse"
  blank := {}
  fields := [.message 1 "status" (·.status) fun x m => { m with status := x },
    .map 2 "info" (·.info) fun x m => { m with info := x }]

/-- Changes the resources that a container may use. -/
structure UpdateContainerResourcesRequest where
  containerId : String := ""
  linux : Option LinuxContainerResources := none

instance : Message UpdateContainerResourcesRequest where
  name := "UpdateContainerResourcesRequest"
  blank := {}
  fields := [.one 1 "container_id" (·.containerId) fun x m => { m with containerId := x },
    .message 2 "linux" (·.linux) fun x m => { m with linux := x }]

/-- Confirms that the resources of a container were changed. -/
structure UpdateContainerResourcesResponse where

instance : Message UpdateContainerResourcesResponse where
  name := "UpdateContainerResourcesResponse"
  blank := {}
  fields := []

/-- Asks to open the log of a container anew. -/
structure ReopenContainerLogRequest where
  containerId : String := ""

instance : Message ReopenContainerLogRequest where
  name := "ReopenContainerLogRequest"
  blank := {}
  fields := [.one 1 "container_id" (·.containerId) fun x m => { m with containerId := x }]

/-- Confirms that the log of a container was opened anew. -/
structure ReopenContainerLogResponse where

instance : Message ReopenContainerLogResponse where
  name := "ReopenContainerLogResponse"
  blank := {}
  fields := []

end RuntimeMux.Cri
