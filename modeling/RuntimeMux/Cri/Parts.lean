import RuntimeMux.Wire.Message

/-!
# Parts of messages

Messages that only occur inside other ones, and in more than one place.
-/

namespace RuntimeMux.Cri

open Wire

/-- How names are resolved in a pod sandbox. -/
structure DnsConfig where
  servers : List String := []
  searches : List String := []
  options : List String := []

instance : Message DnsConfig where
  name := "DnsConfig"
  blank := {}
  fields := [.texts 1 "servers" (·.servers) fun x m => { m with servers := x },
    .texts 2 "searches" (·.searches) fun x m => { m with searches := x },
    .texts 3 "options" (·.options) fun x m => { m with options := x }]

/-- A port of the host that leads to a port of a container. -/
structure PortMapping where
  protocol : Int32 := 0
  containerPort : Int32 := 0
  hostPort : Int32 := 0
  hostIp : String := ""

instance : Message PortMapping where
  name := "PortMapping"
  blank := {}
  fields := [.one 1 "protocol" (·.protocol) fun x m => { m with protocol := x },
    .one 2 "container_port" (·.containerPort) fun x m => { m with containerPort := x },
    .one 3 "host_port" (·.hostPort) fun x m => { m with hostPort := x },
    .one 4 "host_ip" (·.hostIp) fun x m => { m with hostIp := x }]

/-- A path of the host that is visible in a container. -/
structure Mount where
  containerPath : String := ""
  hostPath : String := ""
  readonly : Bool := false
  selinuxRelabel : Bool := false
  propagation : Int32 := 0

instance : Message Mount where
  name := "Mount"
  blank := {}
  fields := [.one 1 "container_path" (·.containerPath) fun x m => { m with containerPath := x },
    .one 2 "host_path" (·.hostPath) fun x m => { m with hostPath := x },
    .one 3 "readonly" (·.readonly) fun x m => { m with readonly := x },
    .one 4 "selinux_relabel" (·.selinuxRelabel) fun x m => { m with selinuxRelabel := x },
    .one 5 "propagation" (·.propagation) fun x m => { m with propagation := x }]

/-- Which kernel namespaces a sandbox or container joins, by the codes of `NamespaceMode`. -/
structure NamespaceOption where
  network : Int32 := 0
  pid : Int32 := 0
  ipc : Int32 := 0
  targetId : String := ""

instance : Message NamespaceOption where
  name := "NamespaceOption"
  blank := {}
  fields := [.one 1 "network" (·.network) fun x m => { m with network := x },
    .one 2 "pid" (·.pid) fun x m => { m with pid := x },
    .one 3 "ipc" (·.ipc) fun x m => { m with ipc := x },
    .one 4 "target_id" (·.targetId) fun x m => { m with targetId := x }]

/-- A signed number that may be absent where it is used. -/
structure Int64Value where
  value : Int64 := 0

instance : Message Int64Value where
  name := "Int64Value"
  blank := {}
  fields := [.one 1 "value" (·.value) fun x m => { m with value := x }]

/-- An unsigned number that may be absent where it is used. -/
structure UInt64Value where
  value : UInt64 := 0

instance : Message UInt64Value where
  name := "UInt64Value"
  blank := {}
  fields := [.one 1 "value" (·.value) fun x m => { m with value := x }]

/-- The labels that SELinux applies. -/
structure SeLinuxOption where
  user : String := ""
  role : String := ""
  kind : String := ""
  level : String := ""

instance : Message SeLinuxOption where
  name := "SeLinuxOption"
  blank := {}
  fields := [.one 1 "user" (·.user) fun x m => { m with user := x },
    .one 2 "role" (·.role) fun x m => { m with role := x },
    .one 3 "r#type" (·.kind) fun x m => { m with kind := x },
    .one 4 "level" (·.level) fun x m => { m with level := x }]

/-- The kernel capabilities that are granted and taken away. -/
structure Capability where
  addCapabilities : List String := []
  dropCapabilities : List String := []

instance : Message Capability where
  name := "Capability"
  blank := {}
  fields := [.texts 1 "add_capabilities" (·.addCapabilities)
      fun x m => { m with addCapabilities := x },
    .texts 2 "drop_capabilities" (·.dropCapabilities) fun x m => { m with dropCapabilities := x }]

/-- An environment variable. -/
structure KeyValue where
  key : String := ""
  value : String := ""

instance : Message KeyValue where
  name := "KeyValue"
  blank := {}
  fields := [.one 1 "key" (·.key) fun x m => { m with key := x },
    .one 2 "value" (·.value) fun x m => { m with value := x }]

/-- A reference to an image. -/
structure ImageSpec where
  image : String := ""

instance : Message ImageSpec where
  name := "ImageSpec"
  blank := {}
  fields := [.one 1 "image" (·.image) fun x m => { m with image := x }]

end RuntimeMux.Cri
