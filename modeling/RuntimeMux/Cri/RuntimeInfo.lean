import RuntimeMux.Wire.Message

/-!
# Messages about a runtime itself

Its version, its condition, and the part of its configuration that can be changed.
-/

namespace RuntimeMux.Cri

open Wire

/-- Asks which versions a runtime has. -/
structure VersionRequest where
  version : String := ""

instance : Message VersionRequest where
  name := "VersionRequest"
  blank := {}
  fields := [.one 1 "version" (·.version) fun x m => { m with version := x }]

/-- The name of a runtime, its version, and the version of its interface. -/
structure VersionResponse where
  version : String := ""
  runtimeName : String := ""
  runtimeVersion : String := ""
  runtimeApiVersion : String := ""

instance : Message VersionResponse where
  name := "VersionResponse"
  blank := {}
  fields := [.one 1 "version" (·.version) fun x m => { m with version := x },
    .one 2 "runtime_name" (·.runtimeName) fun x m => { m with runtimeName := x },
    .one 3 "runtime_version" (·.runtimeVersion) fun x m => { m with runtimeVersion := x },
    .one 4 "runtime_api_version" (·.runtimeApiVersion) fun x m => { m with runtimeApiVersion := x }]

/-- Asks how a runtime is doing. -/
structure StatusRequest where
  verbose : Bool := false

instance : Message StatusRequest where
  name := "StatusRequest"
  blank := {}
  fields := [.one 1 "verbose" (·.verbose) fun x m => { m with verbose := x }]

/-- One aspect of how a runtime is doing. -/
structure RuntimeCondition where
  kind : String := ""
  status : Bool := false
  reason : String := ""
  message : String := ""

instance : Message RuntimeCondition where
  name := "RuntimeCondition"
  blank := {}
  fields := [.one 1 "r#type" (·.kind) fun x m => { m with kind := x },
    .one 2 "status" (·.status) fun x m => { m with status := x },
    .one 3 "reason" (·.reason) fun x m => { m with reason := x },
    .one 4 "message" (·.message) fun x m => { m with message := x }]

/-- How a runtime is doing, aspect by aspect. -/
structure RuntimeStatus where
  conditions : List RuntimeCondition := []

instance : Message RuntimeStatus where
  name := "RuntimeStatus"
  blank := {}
  fields := [.messages 1 "conditions" (·.conditions) fun x m => { m with conditions := x }]

/-- How a runtime is doing, with more information if it was asked for. -/
structure StatusResponse where
  status : Option RuntimeStatus := none
  info : TextMap := .empty

instance : Message StatusResponse where
  name := "StatusResponse"
  blank := {}
  fields := [.message 1 "status" (·.status) fun x m => { m with status := x },
    .map 2 "info" (·.info) fun x m => { m with info := x }]

/-- The addresses that a runtime may give to pods. -/
structure NetworkConfig where
  podCidr : String := ""

instance : Message NetworkConfig where
  name := "NetworkConfig"
  blank := {}
  fields := [.one 1 "pod_cidr" (·.podCidr) fun x m => { m with podCidr := x }]

/-- The configuration of a runtime that can change while it runs. -/
structure RuntimeConfig where
  networkConfig : Option NetworkConfig := none

instance : Message RuntimeConfig where
  name := "RuntimeConfig"
  blank := {}
  fields := [.message 1 "network_config" (·.networkConfig) fun x m => { m with networkConfig := x }]

/-- Changes the configuration of a runtime. -/
structure UpdateRuntimeConfigRequest where
  runtimeConfig : Option RuntimeConfig := none

instance : Message UpdateRuntimeConfigRequest where
  name := "UpdateRuntimeConfigRequest"
  blank := {}
  fields := [.message 1 "runtime_config" (·.runtimeConfig) fun x m => { m with runtimeConfig := x }]

/-- Confirms that the configuration of a runtime was changed. -/
structure UpdateRuntimeConfigResponse where

instance : Message UpdateRuntimeConfigResponse where
  name := "UpdateRuntimeConfigResponse"
  blank := {}
  fields := []

end RuntimeMux.Cri
