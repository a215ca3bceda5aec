import RuntimeMux.Cri.RuntimeInfo
import RuntimeMux.Cri.Scoped
import RuntimeMux.Cri.Convertible
import RuntimeMux.Cri.Views
import RuntimeMux.Revision

/-!
# The catalog of messages

Every type of messages, under its name and with all that is declared for it. Messages of a type that
is only known by its name are handled as bytes.
-/

namespace RuntimeMux.Cri

open Wire

/-- A type of messages with all that is declared for it. -/
structure MessageType where
  Carrier : Type
  [message : Message Carrier]
  [views : Views Carrier]
  [scoping : Scoped Carrier]
  [convertible : Convertible Carrier]
  listing? : Option (Listing Carrier)

namespace MessageType

/-- A type of messages that are no lists. -/
def of (M : Type) [Message M] [Views M] [Scoped M] [Convertible M] : MessageType where
  Carrier := M
  listing? := none

/-- A type of messages that are lists. -/
def ofList (M : Type) [Message M] [Views M] [Scoped M] [Convertible M] [listing : Listing M] :
    MessageType where
  Carrier := M
  listing? := some listing

instance (t : MessageType) : Message t.Carrier := t.message

instance (t : MessageType) : Views t.Carrier := t.views

instance (t : MessageType) : Scoped t.Carrier := t.scoping

instance (t : MessageType) : Convertible t.Carrier := t.convertible

/-- The name of a type of messages. -/
def name (t : MessageType) : String :=
  Message.name t.Carrier

/-- The message that the bytes stand for. -/
def decode (t : MessageType) (bytes : Bytes) : Except Failure t.Carrier :=
  Message.decode bytes

/-- The bytes of the message in the current schema. -/
def upgraded (t : MessageType) (m : t.Carrier) : Bytes :=
  Message.encode (Convertible.upgrade m)

/-- The message that the bytes of its counterpart in the current schema stand for. -/
def downgraded (t : MessageType) (bytes : Bytes) : Except Failure t.Carrier :=
  (Message.decode bytes).map Convertible.downgrade

/-- A list taken apart, as bytes: its items, and what is left without them; and the list with the
items in the opposite order. -/
structure Parts where
  items : List Bytes
  rest : Bytes
  reversed : Bytes

/-- Takes a list apart. -/
def Parts.ofList {L : Type} [Message L] [Listing L] (m : L) : Parts :=
  let items := Listing.items m
  let rest := Listing.setItems [] m
  { items := items.map Message.encode
    rest := Message.encode rest
    reversed := Message.encode (Listing.setItems items.reverse rest) }

/-- A list taken apart, if the messages are lists. -/
def parts? (t : MessageType) (m : t.Carrier) : Option Parts :=
  t.listing?.map fun listing => @Parts.ofList _ _ listing m

end MessageType

/-- The types of messages of the current schema. -/
def currentTypes : List MessageType :=
  [.of VersionRequest, .of VersionResponse, .of StatusRequest, .of RuntimeCondition,
   .of RuntimeStatus, .of StatusResponse, .of NetworkConfig, .of RuntimeConfig,
   .of UpdateRuntimeConfigRequest, .of UpdateRuntimeConfigResponse, .of DnsConfig, .of PortMapping,
   .of Mount, .of NamespaceOption, .of Int64Value, .of UInt64Value, .of SeLinuxOption,
   .of Capability, .of KeyValue, .of ImageSpec, .of LinuxSandboxSecurityContext,
   .of LinuxPodSandboxConfig, .of PodSandboxMetadata, .of PodSandboxConfig,
   .of RunPodSandboxRequest, .of RunPodSandboxResponse, .of StopPodSandboxRequest,
   .of StopPodSandboxResponse, .of RemovePodSandboxRequest, .of RemovePodSandboxResponse,
   .of PodSandboxStatusRequest, .of PodSandboxNetworkStatus, .of Namespace,
   .of LinuxPodSandboxStatus, .of PodSandboxStatus, .of PodSandboxStatusResponse,
   .of PodSandboxStateValue, .of PodSandboxFilter, .of ListPodSandboxRequest, .of PodSandbox,
   .ofList ListPodSandboxResponse, .of PortForwardRequest, .of PortForwardResponse,
   .of LinuxContainerResources, .of LinuxContainerSecurityContext, .of LinuxContainerConfig,
   .of ContainerMetadata, .of Device, .of ContainerConfig, .of CreateContainerRequest,
   .of CreateContainerResponse, .of StartContainerRequest, .of StartContainerResponse,
   .of StopContainerRequest, .of StopContainerResponse, .of RemoveContainerRequest,
   .of RemoveContainerResponse, .of ContainerStateValue, .of ContainerFilter,
   .of ListContainersRequest, .of Container, .ofList ListContainersResponse,
   .of ContainerStatusRequest, .of ContainerStatus, .of ContainerStatusResponse,
   .of UpdateContainerResourcesRequest, .of UpdateContainerResourcesResponse,
   .of ReopenContainerLogRequest, .of ReopenContainerLogResponse, .of ExecSyncRequest,
   .of ExecSyncResponse, .of ExecRequest, .of ExecResponse, .of AttachRequest, .of AttachResponse,
   .of FilesystemIdentifier, .of FilesystemUsage, .of ContainerAttributes, .of CpuUsage,
   .of MemoryUsage, .of ContainerStats, .of ContainerStatsRequest, .of ContainerStatsResponse,
   .of ContainerStatsFilter, .of ListContainerStatsRequest, .ofList ListContainerStatsResponse,
   .of ImageFilter, .of ListImagesRequest, .of Image, .ofList ListImagesResponse,
   .of ImageStatusRequest, .of ImageStatusResponse, .of AuthConfig, .of PullImageRequest,
   .of PullImageResponse, .of RemoveImageRequest, .of RemoveImageResponse, .of ImageFsInfoRequest,
   .ofList ImageFsInfoResponse]

/-- The types of messages that have a layout of their own in the legacy schema. -/
def legacyTypes : List MessageType :=
  [.of Legacy.NamespaceOption, .of Legacy.LinuxSandboxSecurityContext,
   .of Legacy.LinuxPodSandboxConfig, .of Legacy.PodSandboxConfig, .of Legacy.RunPodSandboxRequest,
   .of Legacy.LinuxContainerSecurityContext, .of Legacy.LinuxContainerConfig,
   .of Legacy.ContainerConfig, .of Legacy.CreateContainerRequest, .of Legacy.PullImageRequest,
   .of Legacy.Namespace, .of Legacy.LinuxPodSandboxStatus, .of Legacy.PodSandboxStatus,
   .of Legacy.PodSandboxStatusResponse, .of Legacy.StorageIdentifier, .of Legacy.FilesystemUsage,
   .of Legacy.ContainerStats, .of Legacy.ContainerStatsResponse,
   .ofList Legacy.ListContainerStatsResponse, .ofList Legacy.ImageFsInfoResponse]

/-- The type of messages with the given name. -/
def messageType? (schema : Schema) (name : String) : Option MessageType :=
  let types := match schema with
    | .legacy => legacyTypes
    | .current => currentTypes
  types.find? fun t => t.name == name

end RuntimeMux.Cri
