import RuntimeMux.Cri.RuntimeInfo
import RuntimeMux.Routing.Lists

/-!
# Exchanges

For every method and schema, the types of the request and the response, and how the request finds
its runtimes.
-/

namespace RuntimeMux

open Cri Wire

/-- What a method takes and gives, and which way it goes. -/
inductive Exchange where
  /-- The request goes along a route. -/
  | routed (Req Resp : Type) [Message Req] [Views Req] [Convertible Req] [Message Resp] [Views Resp]
      [Scoped Resp] [Convertible Resp] (route : Route)
  /-- The request asks for a list of all runtimes. -/
  | listed (Req Resp : Type) [Message Req] [Views Req] [Convertible Req] [Message Resp]
      [Convertible Resp] [Listing Resp]

/-- Reads a request. -/
def readRequest (Req : Type) [Message Req] (body : Bytes) : Except Fault Req :=
  (Message.decode body).mapError .decode

namespace Exchange

/-- The route of an exchange, unless it is about a list. -/
def route? : Exchange → Option Route
  | @routed _ _ _ _ _ _ _ _ _ way => some way
  | @listed .. => none

/-- Handles a call: reads the request, makes the exchange, and writes the response. -/
def handle (e : Exchange) (r : Router) (c : Call) (body : Bytes) : Handling Bytes :=
  match e with
  | @routed Req Resp _ _ _ _ _ _ _ way => do
    let request ← liftExcept (readRequest Req body)
    let response : Resp ← r.follow way c request
    return Message.encode response
  | @listed Req Resp _ _ _ _ _ _ => do
    let request ← liftExcept (readRequest Req body)
    let response : Resp ← r.list c request
    return Message.encode response

end Exchange

namespace Method

/-- The exchange of a method in a schema. -/
def exchange (s : Schema) : Method → Exchange
  | .version => .routed VersionRequest VersionResponse .primary
  | .status => .routed StatusRequest StatusResponse .primary
  | .updateRuntimeConfig =>
    .routed UpdateRuntimeConfigRequest UpdateRuntimeConfigResponse .everyone
  | .runPodSandbox =>
    match s with
    | .legacy => .routed Legacy.RunPodSandboxRequest RunPodSandboxResponse .annotations
    | .current => .routed RunPodSandboxRequest RunPodSandboxResponse .annotations
  | .stopPodSandbox => .routed StopPodSandboxRequest StopPodSandboxResponse .podSandbox
  | .removePodSandbox => .routed RemovePodSandboxRequest RemovePodSandboxResponse .podSandbox
  | .podSandboxStatus =>
    match s with
    | .legacy => .routed PodSandboxStatusRequest Legacy.PodSandboxStatusResponse .podSandbox
    | .current => .routed PodSandboxStatusRequest PodSandboxStatusResponse .podSandbox
  | .listPodSandbox => .listed ListPodSandboxRequest ListPodSandboxResponse
  | .createContainer =>
    match s with
    | .legacy => .routed Legacy.CreateContainerRequest CreateContainerResponse .newContainer
    | .current => .routed CreateContainerRequest CreateContainerResponse .newContainer
  | .startContainer => .routed StartContainerRequest StartContainerResponse .container
  | .stopContainer => .routed StopContainerRequest StopContainerResponse .container
  | .removeContainer => .routed RemoveContainerRequest RemoveContainerResponse .container
  | .listContainers => .listed ListContainersRequest ListContainersResponse
  | .containerStatus => .routed ContainerStatusRequest ContainerStatusResponse .container
  | .containerStats =>
    match s with
    | .legacy => .routed ContainerStatsRequest Legacy.ContainerStatsResponse .container
    | .current => .routed ContainerStatsRequest ContainerStatsResponse .container
  | .listContainerStats =>
    match s with
    | .legacy => .listed ListContainerStatsRequest Legacy.ListContainerStatsResponse
    | .current => .listed ListContainerStatsRequest ListContainerStatsResponse
  | .updateContainerResources =>
    .routed UpdateContainerResourcesRequest UpdateContainerResourcesResponse .container
  | .reopenContainerLog => .routed ReopenContainerLogRequest ReopenContainerLogResponse .container
  | .execSync => .routed ExecSyncRequest ExecSyncResponse .container
  | .exec => .routed ExecRequest ExecResponse .container
  | .attach => .routed AttachRequest AttachResponse .container
  | .portForward => .routed PortForwardRequest PortForwardResponse .podSandbox
  | .listImages => .listed ListImagesRequest ListImagesResponse
  | .imageStatus => .routed ImageStatusRequest ImageStatusResponse .imageStatus
  | .pullImage =>
    match s with
    | .legacy => .routed Legacy.PullImageRequest PullImageResponse .pullImage
    | .current => .routed PullImageRequest PullImageResponse .pullImage
  | .removeImage => .routed RemoveImageRequest RemoveImageResponse .removeImage
  | .imageFsInfo =>
    match s with
    | .legacy => .listed ImageFsInfoRequest Legacy.ImageFsInfoResponse
    | .current => .listed ImageFsInfoRequest ImageFsInfoResponse

end Method

end RuntimeMux
