import RuntimeMux.Cri.Parts

/-!
# Messages about pod sandboxes

Creating, stopping, removing and listing them, and reaching their ports.
-/

namespace RuntimeMux.Cri

open Wire

/-- The security settings of a pod sandbox. -/
structure LinuxSandboxSecurityContext where
  namespaceOptions : Option NamespaceOption := none
  selinuxOptions : Option SeLinuxOption := none
  runAsUser : Option Int64Value := none
  readonlyRootfs : Bool := false
  supplementalGroups : List Int64 := []
  privileged : Bool := false
  seccompProfilePath : String := ""
  runAsGroup : Option Int64Value := none

instance : Message LinuxSandboxSecurityContext where
  name := "LinuxSandboxSecurityContext"
  blank := {}
  fields := [.message 1 "namespace_options" (·.namespaceOptions)
      fun x m => { m with namespaceOptions := x },
    .message 2 "selinux_options" (·.selinuxOptions) fun x m => { m with selinuxOptions := x },
    .message 3 "run_as_user" (·.runAsUser) fun x m => { m with runAsUser := x },
    .one 4 "readonly_rootfs" (·.readonlyRootfs) fun x m => { m with readonlyRootfs := x },
    .packed 5 "supplemental_groups" (·.supplementalGroups)
      fun x m => { m with supplementalGroups := x },
    .one 6 "privileged" (·.privileged) fun x m => { m with privileged := x },
    .one 7 "seccomp_profile_path" (·.seccompProfilePath)
      fun x m => { m with seccompProfilePath := x },
    .message 8 "run_as_group" (·.runAsGroup) fun x m => { m with runAsGroup := x }]

/-- The settings of a pod sandbox that only Linux has. -/
structure LinuxPodSandboxConfig where
  cgroupParent : String := ""
  securityContext : Option LinuxSandboxSecurityContext := none
  sysctls : TextMap := .empty

instance : Message LinuxPodSandboxConfig where
  name := "LinuxPodSandboxConfig"
  blank := {}
  fields := [.one 1 "cgroup_parent" (·.cgroupParent) fun x m => { m with cgroupParent := x },
    .message 2 "security_context" (·.securityContext) fun x m => { m with securityContext := x },
    .map 3 "sysctls" (·.sysctls) fun x m => { m with sysctls := x }]

/-- What identifies a pod sandbox to its owner. -/
structure PodSandboxMetadata where
  name : String := ""
  uid : String := ""
  kubeNamespace : String := ""
  attempt : UInt32 := 0

instance : Message PodSandboxMetadata where
  name := "PodSandboxMetadata"
  blank := {}
  fields := [.one 1 "name" (·.name) fun x m => { m with name := x },
    .one 2 "uid" (·.uid) fun x m => { m with uid := x },
    .one 3 "namespace" (·.kubeNamespace) fun x m => { m with kubeNamespace := x },
    .one 4 "attempt" (·.attempt) fun x m => { m with attempt := x }]

/-- The settings of a pod sandbox. -/
structure PodSandboxConfig where
  metadata : Option PodSandboxMetadata := none
  hostname : String := ""
  logDirectory : String := ""
  dnsConfig : Option DnsConfig := none
  portMappings : List PortMapping := []
  labels : TextMap := .empty
  annotations : TextMap := .empty
  linux : Option LinuxPodSandboxConfig := none

instance : Message PodSandboxConfig where
  name := "PodSandboxConfig"
  blank := {}
  fields := [.message 1 "metadata" (·.metadata) fun x m => { m with metadata := x },
    .one 2 "hostname" (·.hostname) fun x m => { m with hostname := x },
    .one 3 "log_directory" (·.logDirectory) fun x m => { m with logDirectory := x },
    .message 4 "dns_config" (·.dnsConfig) fun x m => { m with dnsConfig := x },
    .messages 5 "port_mappings" (·.portMappings) fun x m => { m with portMappings := x },
    .map 6 "labels" (·.labels) fun x m => { m with labels := x },
    .map 7 "annotations" (·.annotations) fun x m => { m with annotations := x },
    .message 8 "linux" (·.linux) fun x m => { m with linux := x }]

/-- Creates and starts a pod sandbox. -/
structure RunPodSandboxRequest where
  config : Option PodSandboxConfig := none
  runtimeHandler : String := ""

instance : Message RunPodSandboxRequest where
  name := "RunPodSandboxRequest"
  blank := {}
  fields := [.message 1 "config" (·.config) fun x m => { m with config := x },
    .one 2 "runtime_handler" (·.runtimeHandler) fun x m => { m with runtimeHandler := x }]

/-- The id of a new pod sandbox. -/
structure RunPodSandboxResponse where
  podSandboxId : String := ""

instance : Message RunPodSandboxResponse where
  name := "RunPodSandboxResponse"
  blank := {}
  fields := [.one 1 "pod_sandbox_id" (·.podSandboxId) fun x m => { m with podSandboxId := x }]

/-- Stops a pod sandbox. -/
structure StopPodSandboxRequest where
  podSandboxId : String := ""

instance : Message StopPodSandboxRequest where
  name := "StopPodSandboxRequest"
  blank := {}
  fields := [.one 1 "pod_sandbox_id" (·.podSandboxId) fun x m => { m with podSandboxId := x }]

/-- Confirms that a pod sandbox was stopped. -/
structure StopPodSandboxResponse where

instance : Message StopPodSandboxResponse where
  name := "StopPodSandboxResponse"
  blank := {}
  fields := []

/-- Removes a pod sandbox. -/
structure RemovePodSandboxRequest where
  podSandboxId : String := ""

instance : Message RemovePodSandboxRequest where
  name := "RemovePodSandboxRequest"
  blank := {}
  fields := [.one 1 "pod_sandbox_id" (·.podSandboxId) fun x m => { m with podSandboxId := x }]

/-- Confirms that a pod sandbox was removed. -/
structure RemovePodSandboxResponse where

instance : Message RemovePodSandboxResponse where
  name := "RemovePodSandboxResponse"
  blank := {}
  fields := []

/-- Asks how a pod sandbox is doing. -/
structure PodSandboxStatusRequest where
  podSandboxId : String := ""
  verbose : Bool := false

instance : Message PodSandboxStatusRequest where
  name := "PodSandboxStatusRequest"
  blank := {}
  fields := [.one 1 "pod_sandbox_id" (·.podSandboxId) fun x m => { m with podSandboxId := x },
    .one 2 "verbose" (·.verbose) fun x m => { m with verbose := x }]

/-- The address of a pod sandbox. -/
structure PodSandboxNetworkStatus where
  ip : String := ""

instance : Message PodSandboxNetworkStatus where
  name := "PodSandboxNetworkStatus"
  blank := {}
  fields := [.one 1 "ip" (·.ip) fun x m => { m with ip := x }]

/-- The kernel namespaces of a pod sandbox. -/
structure Namespace where
  options : Option NamespaceOption := none

instance : Message Namespace where
  name := "Namespace"
  blank := {}
  fields := [.message 2 "options" (·.options) fun x m => { m with options := x }]

/-- The part of a pod sandbox status that only Linux has. -/
structure LinuxPodSandboxStatus where
  namespaces : Option Namespace := none

instance : Message LinuxPodSandboxStatus where
  name := "LinuxPodSandboxStatus"
  blank := {}
  fields := [.message 1 "namespaces" (·.namespaces) fun x m => { m with namespaces := x }]

/-- How a pod sandbox is doing. -/
structure PodSandboxStatus where
  id : String := ""
  metadata : Option PodSandboxMetadata := none
  state : Int32 := 0
  createdAt : Int64 := 0
  network : Option PodSandboxNetworkStatus := none
  linux : Option LinuxPodSandboxStatus := none
  labels : TextMap := .empty
  annotations : TextMap := .empty
  runtimeHandler : String := ""

instance : Message PodSandboxStatus where
  name := "PodSandboxStatus"
  blank := {}
  fields := [.one 1 "id" (·.id) fun x m => { m with id := x },
    .message 2 "metadata" (·.metadata) fun x m => { m with metadata := x },
    .one 3 "state" (·.state) fun x m => { m with state := x },
    .one 4 "created_at" (·.createdAt) fun x m => { m with createdAt := x },
    .message 5 "network" (·.network) fun x m => { m with network := x },
    .message 6 "linux" (·.linux) fun x m => { m with linux := x },
    .map 7 "labels" (·.labels) fun x m => { m with labels := x },
    .map 8 "annotations" (·.annotations) fun x m => { m with annotations := x },
    .one 9 "runtime_handler" (·.runtimeHandler) fun x m => { m with runtimeHandler := x }]

/-- How a pod sandbox is doing, with more information if it was asked for. -/
structure PodSandboxStatusResponse where
  status : Option PodSandboxStatus := none
  info : TextMap := .empty

instance : Message PodSandboxStatusResponse where
  name := "PodSandboxStatusResponse"
  blank := {}
  fields := [.message 1 "status" (·.status) fun x m => { m with status := x },
    .map 2 "info" (·.info) fun x m => { m with info := x }]

/-- The state that a filter selects, by its code. -/
structure PodSandboxStateValue where
  state : Int32 := 0

instance : Message PodSandboxStateValue where
  name := "PodSandboxStateValue"
  blank := {}
  fields := [.one 1 "state" (·.state) fun x m => { m with state := x }]

/-- Which pod sandboxes to list. An empty field selects all. -/
structure PodSandboxFilter where
  id : String := ""
  state : Option PodSandboxStateValue := none
  labelSelector : TextMap := .empty

instance : Message PodSandboxFilter where
  name := "PodSandboxFilter"
  blank := {}
  fields := [.one 1 "id" (·.id) fun x m => { m with id := x },
    .message 2 "state" (·.state) fun x m => { m with state := x },
    .map 3 "label_selector" (·.labelSelector) fun x m => { m with labelSelector := x }]

/-- Asks for the pod sandboxes that a filter selects. -/
structure ListPodSandboxRequest where
  filter : Option PodSandboxFilter := none

instance : Message ListPodSandboxRequest where
  name := "ListPodSandboxRequest"
  blank := {}
  fields := [.message 1 "filter" (·.filter) fun x m => { m with filter := x }]

/-- A pod sandbox in a list. -/
structure PodSandbox where
  id : String := ""
  metadata : Option PodSandboxMetadata := none
  state : Int32 := 0
  createdAt : Int64 := 0
  labels : TextMap := .empty
  annotations : TextMap := .empty
  runtimeHandler : String := ""

instance : Message PodSandbox where
  name := "PodSandbox"
  blank := {}
  fields := [.one 1 "id" (·.id) fun x m => { m with id := x },
    .message 2 "metadata" (·.metadata) fun x m => { m with metadata := x },
    .one 3 "state" (·.state) fun x m => { m with state := x },
    .one 4 "created_at" (·.createdAt) fun x m => { m with createdAt := x },
    .map 5 "labels" (·.labels) fun x m => { m with labels := x },
    .map 6 "annotations" (·.annotations) fun x m => { m with annotations := x },
    .one 7 "runtime_handler" (·.runtimeHandler) fun x m => { m with runtimeHandler := x }]

/-- A list of pod sandboxes. -/
structure ListPodSandboxResponse where
  items : List PodSandbox := []

instance : Message ListPodSandboxResponse where
  name := "ListPodSandboxResponse"
  blank := {}
  fields := [.messages 1 "items" (·.items) fun x m => { m with items := x }]

/-- Asks for a stream to ports of a pod sandbox. -/
structure PortForwardRequest where
  podSandboxId : String := ""
  port : List Int32 := []

instance : Message PortForwardRequest where
  name := "PortForwardRequest"
  blank := {}
  fields := [.one 1 "pod_sandbox_id" (·.podSandboxId) fun x m => { m with podSandboxId := x },
    .packed 2 "port" (·.port) fun x m => { m with port := x }]

/-- Where the stream to the ports is served. -/
structure PortForwardResponse where
  url : String := ""

instance : Message PortForwardResponse where
  name := "PortForwardResponse"
  blank := {}
  fields := [.one 1 "url" (·.url) fun x m => { m with url := x }]

end RuntimeMux.Cri
