import RuntimeMux.Cri.Codes
import RuntimeMux.Cri.Legacy

/-!
# Conversion between the schemas

Upgrading turns the flags for host namespaces into modes, and leaves the fields that the legacy
schema lacks at their defaults. Downgrading drops those fields. The filesystem of a usage has no
counterpart in the other schema and is lost either way; everything else is kept.
-/

namespace RuntimeMux.Cri

/-! ### Parts -/

/-- The mode of a flag: the namespace of the host, or that of the pod. -/
def modeOfFlag (host : Bool) : Int32 :=
  if host then NamespaceMode.node else NamespaceMode.pod

/-- The flag of a mode. Every mode but that of the host counts as that of the pod. -/
def flagOfMode (mode : Int32) : Bool :=
  mode == NamespaceMode.node

namespace Legacy.NamespaceOption

def upgrade (m : Legacy.NamespaceOption) : Cri.NamespaceOption where
  network := modeOfFlag m.hostNetwork
  pid := modeOfFlag m.hostPid
  ipc := modeOfFlag m.hostIpc

def downgrade (m : Cri.NamespaceOption) : Legacy.NamespaceOption where
  hostNetwork := flagOfMode m.network
  hostPid := flagOfMode m.pid
  hostIpc := flagOfMode m.ipc

end Legacy.NamespaceOption

namespace Legacy.LinuxSandboxSecurityContext

def upgrade (m : Legacy.LinuxSandboxSecurityContext) : Cri.LinuxSandboxSecurityContext where
  namespaceOptions := m.namespaceOptions.map NamespaceOption.upgrade
  selinuxOptions := m.selinuxOptions
  runAsUser := m.runAsUser
  readonlyRootfs := m.readonlyRootfs
  supplementalGroups := m.supplementalGroups
  privileged := m.privileged
  seccompProfilePath := m.seccompProfilePath

def downgrade (m : Cri.LinuxSandboxSecurityContext) : Legacy.LinuxSandboxSecurityContext where
  namespaceOptions := m.namespaceOptions.map NamespaceOption.downgrade
  selinuxOptions := m.selinuxOptions
  runAsUser := m.runAsUser
  readonlyRootfs := m.readonlyRootfs
  supplementalGroups := m.supplementalGroups
  privileged := m.privileged
  seccompProfilePath := m.seccompProfilePath

end Legacy.LinuxSandboxSecurityContext

namespace Legacy.LinuxPodSandboxConfig

def upgrade (m : Legacy.LinuxPodSandboxConfig) : Cri.LinuxPodSandboxConfig where
  cgroupParent := m.cgroupParent
  securityContext := m.securityContext.map LinuxSandboxSecurityContext.upgrade
  sysctls := m.sysctls

def downgrade (m : Cri.LinuxPodSandboxConfig) : Legacy.LinuxPodSandboxConfig where
  cgroupParent := m.cgroupParent
  securityContext := m.securityContext.map LinuxSandboxSecurityContext.downgrade
  sysctls := m.sysctls

end Legacy.LinuxPodSandboxConfig

namespace Legacy.PodSandboxConfig

def upgrade (m : Legacy.PodSandboxConfig) : Cri.PodSandboxConfig where
  metadata := m.metadata
  hostname := m.hostname
  logDirectory := m.logDirectory
  dnsConfig := m.dnsConfig
  portMappings := m.portMappings
  labels := m.labels
  annotations := m.annotations
  linux := m.linux.map LinuxPodSandboxConfig.upgrade

def downgrade (m : Cri.PodSandboxConfig) : Legacy.PodSandboxConfig where
  metadata := m.metadata
  hostname := m.hostname
  logDirectory := m.logDirectory
  dnsConfig := m.dnsConfig
  portMappings := m.portMappings
  labels := m.labels
  annotations := m.annotations
  linux := m.linux.map LinuxPodSandboxConfig.downgrade

end Legacy.PodSandboxConfig

namespace Legacy.RunPodSandboxRequest

def upgrade (m : Legacy.RunPodSandboxRequest) : Cri.RunPodSandboxRequest where
  config := m.config.map PodSandboxConfig.upgrade

def downgrade (m : Cri.RunPodSandboxRequest) : Legacy.RunPodSandboxRequest where
  config := m.config.map PodSandboxConfig.downgrade

end Legacy.RunPodSandboxRequest

namespace Legacy.LinuxContainerSecurityContext

def upgrade (m : Legacy.LinuxContainerSecurityContext) : Cri.LinuxContainerSecurityContext where
  capabilities := m.capabilities
  privileged := m.privileged
  namespaceOptions := m.namespaceOptions.map NamespaceOption.upgrade
  selinuxOptions := m.selinuxOptions
  runAsUser := m.runAsUser
  runAsUsername := m.runAsUsername
  readonlyRootfs := m.readonlyRootfs
  supplementalGroups := m.supplementalGroups
  apparmorProfile := m.apparmorProfile
  seccompProfilePath := m.seccompProfilePath
  noNewPrivs := m.noNewPrivs

def downgrade (m : Cri.LinuxContainerSecurityContext) : Legacy.LinuxContainerSecurityContext where
  capabilities := m.capabilities
  privileged := m.privileged
  namespaceOptions := m.namespaceOptions.map NamespaceOption.downgrade
  selinuxOptions := m.selinuxOptions
  runAsUser := m.runAsUser
  runAsUsername := m.runAsUsername
  readonlyRootfs := m.readonlyRootfs
  supplementalGroups := m.supplementalGroups
  apparmorProfile := m.apparmorProfile
  seccompProfilePath := m.seccompProfilePath
  noNewPrivs := m.noNewPrivs

end Legacy.LinuxContainerSecurityContext

namespace Legacy.LinuxContainerConfig

def upgrade (m : Legacy.LinuxContainerConfig) : Cri.LinuxContainerConfig where
  resources := m.resources
  securityContext := m.securityContext.map LinuxContainerSecurityContext.upgrade

def downgrade (m : Cri.LinuxContainerConfig) : Legacy.LinuxContainerConfig where
  resources := m.resources
  securityContext := m.securityContext.map LinuxContainerSecurityContext.downgrade

end Legacy.LinuxContainerConfig

namespace Legacy.ContainerConfig

def upgrade (m : Legacy.ContainerConfig) : Cri.ContainerConfig where
  metadata := m.metadata
  image := m.image
  command := m.command
  args := m.args
  workingDir := m.workingDir
  envs := m.envs
  mounts := m.mounts
  devices := m.devices
  labels := m.labels
  annotations := m.annotations
  logPath := m.logPath
  stdin := m.stdin
  stdinOnce := m.stdinOnce
  tty := m.tty
  linux := m.linux.map LinuxContainerConfig.upgrade

def downgrade (m : Cri.ContainerConfig) : Legacy.ContainerConfig where
  metadata := m.metadata
  image := m.image
  command := m.command
  args := m.args
  workingDir := m.workingDir
  envs := m.envs
  mounts := m.mounts
  devices := m.devices
  labels := m.labels
  annotations := m.annotations
  logPath := m.logPath
  stdin := m.stdin
  stdinOnce := m.stdinOnce
  tty := m.tty
  linux := m.linux.map LinuxContainerConfig.downgrade

end Legacy.ContainerConfig

namespace Legacy.CreateContainerRequest

def upgrade (m : Legacy.CreateContainerRequest) : Cri.CreateContainerRequest where
  podSandboxId := m.podSandboxId
  config := m.config.map ContainerConfig.upgrade
  sandboxConfig := m.sandboxConfig.map PodSandboxConfig.upgrade

def downgrade (m : Cri.CreateContainerRequest) : Legacy.CreateContainerRequest where
  podSandboxId := m.podSandboxId
  config := m.config.map ContainerConfig.downgrade
  sandboxConfig := m.sandboxConfig.map PodSandboxConfig.downgrade

end Legacy.CreateContainerRequest

namespace Legacy.PullImageRequest

def upgrade (m : Legacy.PullImageRequest) : Cri.PullImageRequest where
  image := m.image
  auth := m.auth
  sandboxConfig := m.sandboxConfig.map PodSandboxConfig.upgrade

def downgrade (m : Cri.PullImageRequest) : Legacy.PullImageRequest where
  image := m.image
  auth := m.auth
  sandboxConfig := m.sandboxConfig.map PodSandboxConfig.downgrade

end Legacy.PullImageRequest

namespace Legacy.Namespace

def upgrade (m : Legacy.Namespace) : Cri.Namespace where
  options := m.options.map NamespaceOption.upgrade

def downgrade (m : Cri.Namespace) : Legacy.Namespace where
  options := m.options.map NamespaceOption.downgrade

end Legacy.Namespace

namespace Legacy.LinuxPodSandboxStatus

def upgrade (m : Legacy.LinuxPodSandboxStatus) : Cri.LinuxPodSandboxStatus where
  namespaces := m.namespaces.map Namespace.upgrade

def downgrade (m : Cri.LinuxPodSandboxStatus) : Legacy.LinuxPodSandboxStatus where
  namespaces := m.namespaces.map Namespace.downgrade

end Legacy.LinuxPodSandboxStatus

namespace Legacy.PodSandboxStatus

def upgrade (m : Legacy.PodSandboxStatus) : Cri.PodSandboxStatus where
  id := m.id
  metadata := m.metadata
  state := m.state
  createdAt := m.createdAt
  network := m.network
  linux := m.linux.map LinuxPodSandboxStatus.upgrade
  labels := m.labels
  annotations := m.annotations

def downgrade (m : Cri.PodSandboxStatus) : Legacy.PodSandboxStatus where
  id := m.id
  metadata := m.metadata
  state := m.state
  createdAt := m.createdAt
  network := m.network
  linux := m.linux.map LinuxPodSandboxStatus.downgrade
  labels := m.labels
  annotations := m.annotations

end Legacy.PodSandboxStatus

namespace Legacy.PodSandboxStatusResponse

def upgrade (m : Legacy.PodSandboxStatusResponse) : Cri.PodSandboxStatusResponse where
  status := m.status.map PodSandboxStatus.upgrade
  info := m.info

def downgrade (m : Cri.PodSandboxStatusResponse) : Legacy.PodSandboxStatusResponse where
  status := m.status.map PodSandboxStatus.downgrade
  info := m.info

end Legacy.PodSandboxStatusResponse

namespace Legacy.FilesystemUsage

def upgrade (m : Legacy.FilesystemUsage) : Cri.FilesystemUsage where
  timestamp := m.timestamp
  usedBytes := m.usedBytes
  inodesUsed := m.inodesUsed

def downgrade (m : Cri.FilesystemUsage) : Legacy.FilesystemUsage where
  timestamp := m.timestamp
  usedBytes := m.usedBytes
  inodesUsed := m.inodesUsed

end Legacy.FilesystemUsage

namespace Legacy.ContainerStats

def upgrade (m : Legacy.ContainerStats) : Cri.ContainerStats where
  attributes := m.attributes
  cpu := m.cpu
  memory := m.memory
  writableLayer := m.writableLayer.map FilesystemUsage.upgrade

def downgrade (m : Cri.ContainerStats) : Legacy.ContainerStats where
  attributes := m.attributes
  cpu := m.cpu
  memory := m.memory
  writableLayer := m.writableLayer.map FilesystemUsage.downgrade

end Legacy.ContainerStats

namespace Legacy.ContainerStatsResponse

def upgrade (m : Legacy.ContainerStatsResponse) : Cri.ContainerStatsResponse where
  stats := m.stats.map ContainerStats.upgrade

def downgrade (m : Cri.ContainerStatsResponse) : Legacy.ContainerStatsResponse where
  stats := m.stats.map ContainerStats.downgrade

end Legacy.ContainerStatsResponse

namespace Legacy.ListContainerStatsResponse

def upgrade (m : Legacy.ListContainerStatsResponse) : Cri.ListContainerStatsResponse where
  stats := m.stats.map ContainerStats.upgrade

def downgrade (m : Cri.ListContainerStatsResponse) : Legacy.ListContainerStatsResponse where
  stats := m.stats.map ContainerStats.downgrade

end Legacy.ListContainerStatsResponse

namespace Legacy.ImageFsInfoResponse

def upgrade (m : Legacy.ImageFsInfoResponse) : Cri.ImageFsInfoResponse where
  imageFilesystems := m.imageFilesystems.map FilesystemUsage.upgrade

def downgrade (m : Cri.ImageFsInfoResponse) : Legacy.ImageFsInfoResponse where
  imageFilesystems := m.imageFilesystems.map FilesystemUsage.downgrade

end Legacy.ImageFsInfoResponse

/-! ### Convertible messages -/

/-- A type of messages with a counterpart in the current schema. -/
class Convertible (M : Type) where
  /-- The counterpart. -/
  Current : Type
  [message : Wire.Message Current]
  upgrade : M → Current
  downgrade : Current → M

instance {M : Type} [t : Convertible M] : Wire.Message t.Current := t.message

/-- A message of the current schema is its own counterpart. -/
instance (priority := low) unconverted {M : Type} [Wire.Message M] : Convertible M where
  Current := M
  upgrade m := m
  downgrade m := m

instance : Convertible Legacy.RunPodSandboxRequest where
  Current := Cri.RunPodSandboxRequest
  upgrade := Legacy.RunPodSandboxRequest.upgrade
  downgrade := Legacy.RunPodSandboxRequest.downgrade

instance : Convertible Legacy.CreateContainerRequest where
  Current := Cri.CreateContainerRequest
  upgrade := Legacy.CreateContainerRequest.upgrade
  downgrade := Legacy.CreateContainerRequest.downgrade

instance : Convertible Legacy.PullImageRequest where
  Current := Cri.PullImageRequest
  upgrade := Legacy.PullImageRequest.upgrade
  downgrade := Legacy.PullImageRequest.downgrade

instance : Convertible Legacy.PodSandboxStatusResponse where
  Current := Cri.PodSandboxStatusResponse
  upgrade := Legacy.PodSandboxStatusResponse.upgrade
  downgrade := Legacy.PodSandboxStatusResponse.downgrade

instance : Convertible Legacy.ContainerStatsResponse where
  Current := Cri.ContainerStatsResponse
  upgrade := Legacy.ContainerStatsResponse.upgrade
  downgrade := Legacy.ContainerStatsResponse.downgrade

instance : Convertible Legacy.ListContainerStatsResponse where
  Current := Cri.ListContainerStatsResponse
  upgrade := Legacy.ListContainerStatsResponse.upgrade
  downgrade := Legacy.ListContainerStatsResponse.downgrade

instance : Convertible Legacy.ImageFsInfoResponse where
  Current := Cri.ImageFsInfoResponse
  upgrade := Legacy.ImageFsInfoResponse.upgrade
  downgrade := Legacy.ImageFsInfoResponse.downgrade

end RuntimeMux.Cri
