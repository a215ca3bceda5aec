import RuntimeMux.Revision

/-!
# Methods

The methods of the runtime interface, the services that they belong to, and how closely their calls
are worth watching. A method has a path in every revision that knows it.
-/

namespace RuntimeMux

/-- A service of the runtime interface. -/
inductive Service where
  | runtime
  | image
  deriving DecidableEq, Repr

/-- The name of a service. -/
def Service.name : Service → String
  | .runtime => "RuntimeService"
  | .image => "ImageService"

/-- How closely the calls of a method are worth watching. -/
inductive Level where
  /-- They change something. -/
  | request
  /-- They ask for the state of something, again and again. -/
  | noisy
  /-- They ask for the state of everything, again and again. -/
  | list
  deriving DecidableEq, Repr

/-- A method of the runtime interface. -/
inductive Method where
  | version
  | status
  | updateRuntimeConfig
  | runPodSandbox
  | stopPodSandbox
  | removePodSandbox
  | podSandboxStatus
  | listPodSandbox
  | createContainer
  | startContainer
  | stopContainer
  | removeContainer
  | listContainers
  | containerStatus
  | containerStats
  | listContainerStats
  | updateContainerResources
  | reopenContainerLog
  | execSync
  | exec
  | attach
  | portForward
  | listImages
  | imageStatus
  | pullImage
  | removeImage
  | imageFsInfo
  deriving DecidableEq, Repr

namespace Method

/-- Every method. -/
def all : List Method :=
  [.version, .status, .updateRuntimeConfig, .runPodSandbox, .stopPodSandbox, .removePodSandbox,
   .podSandboxStatus, .listPodSandbox, .createContainer, .startContainer, .stopContainer,
   .removeContainer, .listContainers, .containerStatus, .containerStats, .listContainerStats,
   .updateContainerResources, .reopenContainerLog, .execSync, .exec, .attach, .portForward,
   .listImages, .imageStatus, .pullImage, .removeImage, .imageFsInfo]

/-- The name of a method. -/
def name : Method → String
  | .version => "Version"
  | .status => "Status"
  | .updateRuntimeConfig => "UpdateRuntimeConfig"
  | .runPodSandbox => "RunPodSandbox"
  | .stopPodSandbox => "StopPodSandbox"
  | .removePodSandbox => "RemovePodSandbox"
  | .podSandboxStatus => "PodSandboxStatus"
  | .listPodSandbox => "ListPodSandbox"
  | .createContainer => "CreateContainer"
  | .startContainer => "StartContainer"
  | .stopContainer => "StopContainer"
  | .removeContainer => "RemoveContainer"
  | .listContainers => "ListContainers"
  | .containerStatus => "ContainerStatus"
  | .containerStats => "ContainerStats"
  | .listContainerStats => "ListContainerStats"
  | .updateContainerResources => "UpdateContainerResources"
  | .reopenContainerLog => "ReopenContainerLog"
  | .execSync => "ExecSync"
  | .exec => "Exec"
  | .attach => "Attach"
  | .portForward => "PortForward"
  | .listImages => "ListImages"
  | .imageStatus => "ImageStatus"
  | .pullImage => "PullImage"
  | .removeImage => "RemoveImage"
  | .imageFsInfo => "ImageFsInfo"

/-- The service of a method. -/
def service : Method → Service
  | .listImages | .imageStatus | .pullImage | .removeImage | .imageFsInfo => .image
  | _ => .runtime

/-- How closely the calls of a method are worth watching. -/
def level : Method → Level
  | .version | .status | .podSandboxStatus | .containerStatus | .containerStats | .imageStatus =>
    .noisy
  | .listPodSandbox | .listContainers | .listContainerStats | .listImages => .list
  | _ => .request

/-- Whether a revision knows a method. -/
def isKnownIn (m : Method) (r : Revision) : Bool :=
  match m, r.schema with
  | .reopenContainerLog, .legacy => false
  | _, _ => true

/-- The path of a method in a revision. -/
def path (m : Method) (r : Revision) : String :=
  r.methodPath m.service.name m.name

/-- The method that a path names, and the revision. -/
def find? (path : String) : Option (Revision × Method) := do
  let (revision, service, name) ← splitPath? path
  let method ← all.find? fun m => m.service.name == service && m.name == name
  if method.isKnownIn revision then some (revision, method) else none

theorem mem_all (m : Method) : m ∈ all := by
  cases m <;> decide

theorem name_injective {m n : Method} (h : m.name = n.name) : m = n := by
  revert h
  cases m <;> cases n <;> decide

end Method

end RuntimeMux
