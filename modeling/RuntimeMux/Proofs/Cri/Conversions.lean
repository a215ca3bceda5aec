import Mathlib.Data.Option.Basic
import RuntimeMux.Cri.Catalog

/-!
# What conversion keeps

A legacy message that is upgraded and downgraded again has lost the storage devices of its
filesystem usages and nothing else. A current message that is downgraded and upgraded again has lost
what legacy messages cannot say, and nothing else: the fields that they lack are at their defaults,
and every mode of a namespace but that of the host has become that of the pod. What a conversion
loses makes no difference to it, so that converting forth and back once more changes nothing.
-/

namespace RuntimeMux.Cri

/-! ### Conversions forth and back -/

/-- Conversions in both directions, with what each of them keeps of a message that is converted back
afterwards. -/
structure RoundTrip {Old New : Type} (upgrade : Old → New) (downgrade : New → Old)
    (keptOld : Old → Old) (keptNew : New → New) : Prop where
  downgrade_upgrade : ∀ m, downgrade (upgrade m) = keptOld m
  upgrade_downgrade : ∀ c, upgrade (downgrade c) = keptNew c
  /-- What is lost makes no difference to the counterpart. -/
  upgrade_kept : ∀ m, upgrade (keptOld m) = upgrade m
  downgrade_kept : ∀ c, downgrade (keptNew c) = downgrade c

namespace RoundTrip

variable {Old New : Type} {upgrade : Old → New} {downgrade : New → Old} {keptOld : Old → Old}
  {keptNew : New → New}

/-- A message that may be absent. -/
theorem option (trip : RoundTrip upgrade downgrade keptOld keptNew) :
    RoundTrip (Option.map upgrade) (Option.map downgrade) (Option.map keptOld)
      (Option.map keptNew) where
  downgrade_upgrade m := by cases m <;> simp [trip.downgrade_upgrade]
  upgrade_downgrade c := by cases c <;> simp [trip.upgrade_downgrade]
  upgrade_kept m := by cases m <;> simp [trip.upgrade_kept]
  downgrade_kept c := by cases c <;> simp [trip.downgrade_kept]

/-- A message that may be absent, and of which nothing is lost when it is upgraded. -/
theorem optionKept (trip : RoundTrip upgrade downgrade (fun m => m) keptNew) :
    RoundTrip (Option.map upgrade) (Option.map downgrade) (fun m => m) (Option.map keptNew) := by
  have all := trip.option
  rwa [show Option.map (fun m : Old => m) = fun m => m from Option.map_id] at all

/-- Any number of messages. -/
theorem list (trip : RoundTrip upgrade downgrade keptOld keptNew) :
    RoundTrip (List.map upgrade) (List.map downgrade) (List.map keptOld) (List.map keptNew) where
  downgrade_upgrade m := by simp [trip.downgrade_upgrade]
  upgrade_downgrade c := by simp [trip.upgrade_downgrade]
  upgrade_kept m := by simp [trip.upgrade_kept]
  downgrade_kept c := by simp [trip.downgrade_kept]

/-- A message is converted together with a part of it: the other fields are kept, or they are
cleared when the part is put in its place. -/
structure Around {PartOld PartNew : Type} (partUp : PartOld → PartNew) (partDown : PartNew → PartOld)
    (partOld : PartOld → PartOld) (partNew : PartNew → PartNew) (upgrade : Old → New)
    (downgrade : New → Old) (keptOld : Old → Old) (keptNew : New → New) (getOld : Old → PartOld)
    (setOld : PartOld → Old → Old) (getNew : New → PartNew) (setNew : PartNew → New → New) :
    Prop where
  back : ∀ m, downgrade (upgrade m) = setOld (partDown (partUp (getOld m))) m
  forth : ∀ c, upgrade (downgrade c) = setNew (partUp (partDown (getNew c))) c
  upgraded : ∀ x m, upgrade (setOld x m) = setNew (partUp x) (upgrade m)
  downgraded : ∀ x c, downgrade (setNew x c) = setOld (partDown x) (downgrade c)
  same : ∀ m, upgrade (setOld (getOld m) m) = upgrade m
  cleared : ∀ c, downgrade (setNew (getNew c) c) = downgrade c
  old : ∀ m, keptOld m = setOld (partOld (getOld m)) m
  new : ∀ c, keptNew c = setNew (partNew (getNew c)) c

theorem within {PartOld PartNew : Type} {partUp : PartOld → PartNew} {partDown : PartNew → PartOld}
    {partOld : PartOld → PartOld} {partNew : PartNew → PartNew}
    (trip : RoundTrip partUp partDown partOld partNew)
    (getOld : Old → PartOld) (setOld : PartOld → Old → Old)
    (getNew : New → PartNew) (setNew : PartNew → New → New)
    (around : Around partUp partDown partOld partNew upgrade downgrade keptOld keptNew getOld
      setOld getNew setNew) : RoundTrip upgrade downgrade keptOld keptNew where
  downgrade_upgrade m := by rw [around.back, trip.downgrade_upgrade, around.old]
  upgrade_downgrade c := by rw [around.forth, trip.upgrade_downgrade, around.new]
  upgrade_kept m := by
    rw [around.old, around.upgraded, trip.upgrade_kept, ← around.upgraded, around.same]
  downgrade_kept c := by
    rw [around.new, around.downgraded, trip.downgrade_kept, ← around.downgraded, around.cleared]

/-- Two parts that are converted each for itself. -/
theorem both {Old₂ New₂ : Type} {upgrade₂ : Old₂ → New₂} {downgrade₂ : New₂ → Old₂}
    {keptNew₂ : New₂ → New₂} (trip : RoundTrip upgrade downgrade (fun m => m) keptNew)
    (trip₂ : RoundTrip upgrade₂ downgrade₂ (fun m => m) keptNew₂) :
    RoundTrip (Prod.map upgrade upgrade₂) (Prod.map downgrade downgrade₂) (fun m => m)
      (Prod.map keptNew keptNew₂) where
  downgrade_upgrade m := Prod.ext (trip.downgrade_upgrade m.1) (trip₂.downgrade_upgrade m.2)
  upgrade_downgrade c := Prod.ext (trip.upgrade_downgrade c.1) (trip₂.upgrade_downgrade c.2)
  upgrade_kept _ := rfl
  downgrade_kept c := Prod.ext (trip.downgrade_kept c.1) (trip₂.downgrade_kept c.2)

/-- Converting forth and back once more changes nothing. -/
theorem idempotent (trip : RoundTrip upgrade downgrade keptOld keptNew) :
    (∀ m, downgrade (upgrade (downgrade (upgrade m))) = downgrade (upgrade m)) ∧
      ∀ c, upgrade (downgrade (upgrade (downgrade c))) = upgrade (downgrade c) :=
  ⟨fun m => by rw [trip.downgrade_upgrade m, trip.upgrade_kept, trip.downgrade_upgrade],
    fun c => by rw [trip.upgrade_downgrade c, trip.downgrade_kept, trip.upgrade_downgrade]⟩

end RoundTrip

/-! ### What current messages keep -/

/-- A mode that is that of the host or of the pod. -/
def hostOrPod (mode : Int32) : Int32 :=
  if mode = NamespaceMode.node then mode else NamespaceMode.pod

/-- What a legacy message can say of which namespaces are joined. -/
def NamespaceOption.asLegacy (c : NamespaceOption) : NamespaceOption :=
  { c with
    network := hostOrPod c.network
    pid := hostOrPod c.pid
    ipc := hostOrPod c.ipc
    targetId := "" }

def LinuxSandboxSecurityContext.asLegacy (c : LinuxSandboxSecurityContext) :
    LinuxSandboxSecurityContext :=
  { c with namespaceOptions := c.namespaceOptions.map NamespaceOption.asLegacy, runAsGroup := none }

def LinuxPodSandboxConfig.asLegacy (c : LinuxPodSandboxConfig) : LinuxPodSandboxConfig :=
  { c with securityContext := c.securityContext.map LinuxSandboxSecurityContext.asLegacy }

def PodSandboxConfig.asLegacy (c : PodSandboxConfig) : PodSandboxConfig :=
  { c with linux := c.linux.map LinuxPodSandboxConfig.asLegacy }

def RunPodSandboxRequest.asLegacy (c : RunPodSandboxRequest) : RunPodSandboxRequest :=
  { c with config := c.config.map PodSandboxConfig.asLegacy, runtimeHandler := "" }

def LinuxContainerSecurityContext.asLegacy (c : LinuxContainerSecurityContext) :
    LinuxContainerSecurityContext :=
  { c with
    namespaceOptions := c.namespaceOptions.map NamespaceOption.asLegacy
    runAsGroup := none
    maskedPaths := []
    readonlyPaths := [] }

def LinuxContainerConfig.asLegacy (c : LinuxContainerConfig) : LinuxContainerConfig :=
  { c with securityContext := c.securityContext.map LinuxContainerSecurityContext.asLegacy }

def ContainerConfig.asLegacy (c : ContainerConfig) : ContainerConfig :=
  { c with linux := c.linux.map LinuxContainerConfig.asLegacy }

def CreateContainerRequest.asLegacy (c : CreateContainerRequest) : CreateContainerRequest :=
  { c with
    config := c.config.map ContainerConfig.asLegacy
    sandboxConfig := c.sandboxConfig.map PodSandboxConfig.asLegacy }

def PullImageRequest.asLegacy (c : PullImageRequest) : PullImageRequest :=
  { c with sandboxConfig := c.sandboxConfig.map PodSandboxConfig.asLegacy }

def Namespace.asLegacy (c : Namespace) : Namespace :=
  { c with options := c.options.map NamespaceOption.asLegacy }

def LinuxPodSandboxStatus.asLegacy (c : LinuxPodSandboxStatus) : LinuxPodSandboxStatus :=
  { c with namespaces := c.namespaces.map Namespace.asLegacy }

def PodSandboxStatus.asLegacy (c : PodSandboxStatus) : PodSandboxStatus :=
  { c with linux := c.linux.map LinuxPodSandboxStatus.asLegacy, runtimeHandler := "" }

def PodSandboxStatusResponse.asLegacy (c : PodSandboxStatusResponse) : PodSandboxStatusResponse :=
  { c with status := c.status.map PodSandboxStatus.asLegacy }

def FilesystemUsage.asLegacy (c : FilesystemUsage) : FilesystemUsage :=
  { c with fsId := none }

def ContainerStats.asLegacy (c : ContainerStats) : ContainerStats :=
  { c with writableLayer := c.writableLayer.map FilesystemUsage.asLegacy }

def ContainerStatsResponse.asLegacy (c : ContainerStatsResponse) : ContainerStatsResponse :=
  { c with stats := c.stats.map ContainerStats.asLegacy }

def ListContainerStatsResponse.asLegacy (c : ListContainerStatsResponse) :
    ListContainerStatsResponse :=
  { c with stats := c.stats.map ContainerStats.asLegacy }

def ImageFsInfoResponse.asLegacy (c : ImageFsInfoResponse) : ImageFsInfoResponse :=
  { c with imageFilesystems := c.imageFilesystems.map FilesystemUsage.asLegacy }

/-! ### What legacy messages keep -/

namespace Legacy

/-- A usage without the storage device it is about. -/
def FilesystemUsage.withoutStorage (m : FilesystemUsage) : FilesystemUsage :=
  { m with storageId := none }

def ContainerStats.withoutStorage (m : ContainerStats) : ContainerStats :=
  { m with writableLayer := m.writableLayer.map FilesystemUsage.withoutStorage }

def ContainerStatsResponse.withoutStorage (m : ContainerStatsResponse) : ContainerStatsResponse :=
  { m with stats := m.stats.map ContainerStats.withoutStorage }

def ListContainerStatsResponse.withoutStorage (m : ListContainerStatsResponse) :
    ListContainerStatsResponse :=
  { m with stats := m.stats.map ContainerStats.withoutStorage }

def ImageFsInfoResponse.withoutStorage (m : ImageFsInfoResponse) : ImageFsInfoResponse :=
  { m with imageFilesystems := m.imageFilesystems.map FilesystemUsage.withoutStorage }

end Legacy

/-! ### The conversions -/

theorem flagOfMode_modeOfFlag (host : Bool) : flagOfMode (modeOfFlag host) = host := by
  cases host <;> rfl

theorem modeOfFlag_flagOfMode (mode : Int32) : modeOfFlag (flagOfMode mode) = hostOrPod mode := by
  by_cases host : mode = NamespaceMode.node <;> simp [modeOfFlag, flagOfMode, hostOrPod, host]

theorem flagOfMode_hostOrPod (mode : Int32) : flagOfMode (hostOrPod mode) = flagOfMode mode := by
  rw [← modeOfFlag_flagOfMode, flagOfMode_modeOfFlag]

namespace Legacy

theorem NamespaceOption.roundTrip :
    RoundTrip upgrade downgrade (fun m => m) Cri.NamespaceOption.asLegacy where
  downgrade_upgrade m := by simp only [upgrade, downgrade, flagOfMode_modeOfFlag]
  upgrade_downgrade c := by
    simp only [upgrade, downgrade, modeOfFlag_flagOfMode, Cri.NamespaceOption.asLegacy]
  upgrade_kept _ := rfl
  downgrade_kept c := by simp only [downgrade, flagOfMode_hostOrPod, Cri.NamespaceOption.asLegacy]

theorem LinuxSandboxSecurityContext.roundTrip :
    RoundTrip upgrade downgrade (fun m => m) Cri.LinuxSandboxSecurityContext.asLegacy :=
  .within (.optionKept NamespaceOption.roundTrip)
    (·.namespaceOptions) (fun x m => { m with namespaceOptions := x })
    (·.namespaceOptions) (fun x c => { c with namespaceOptions := x, runAsGroup := none })
    (by constructor <;> intros <;> rfl)

theorem LinuxPodSandboxConfig.roundTrip :
    RoundTrip upgrade downgrade (fun m => m) Cri.LinuxPodSandboxConfig.asLegacy :=
  .within (.optionKept LinuxSandboxSecurityContext.roundTrip)
    (·.securityContext) (fun x m => { m with securityContext := x })
    (·.securityContext) (fun x c => { c with securityContext := x })
    (by constructor <;> intros <;> rfl)

theorem PodSandboxConfig.roundTrip :
    RoundTrip upgrade downgrade (fun m => m) Cri.PodSandboxConfig.asLegacy :=
  .within (.optionKept LinuxPodSandboxConfig.roundTrip)
    (·.linux) (fun x m => { m with linux := x })
    (·.linux) (fun x c => { c with linux := x })
    (by constructor <;> intros <;> rfl)

theorem RunPodSandboxRequest.roundTrip :
    RoundTrip upgrade downgrade (fun m => m) Cri.RunPodSandboxRequest.asLegacy :=
  .within (.optionKept PodSandboxConfig.roundTrip)
    (·.config) (fun x m => { m with config := x })
    (·.config) (fun x c => { c with config := x, runtimeHandler := "" })
    (by constructor <;> intros <;> rfl)

theorem LinuxContainerSecurityContext.roundTrip :
    RoundTrip upgrade downgrade (fun m => m) Cri.LinuxContainerSecurityContext.asLegacy :=
  .within (.optionKept NamespaceOption.roundTrip)
    (·.namespaceOptions) (fun x m => { m with namespaceOptions := x })
    (·.namespaceOptions) (fun x c =>
      { c with namespaceOptions := x, runAsGroup := none, maskedPaths := [], readonlyPaths := [] })
    (by constructor <;> intros <;> rfl)

theorem LinuxContainerConfig.roundTrip :
    RoundTrip upgrade downgrade (fun m => m) Cri.LinuxContainerConfig.asLegacy :=
  .within (.optionKept LinuxContainerSecurityContext.roundTrip)
    (·.securityContext) (fun x m => { m with securityContext := x })
    (·.securityContext) (fun x c => { c with securityContext := x })
    (by constructor <;> intros <;> rfl)

theorem ContainerConfig.roundTrip :
    RoundTrip upgrade downgrade (fun m => m) Cri.ContainerConfig.asLegacy :=
  .within (.optionKept LinuxContainerConfig.roundTrip)
    (·.linux) (fun x m => { m with linux := x })
    (·.linux) (fun x c => { c with linux := x })
    (by constructor <;> intros <;> rfl)

theorem CreateContainerRequest.roundTrip :
    RoundTrip upgrade downgrade (fun m => m) Cri.CreateContainerRequest.asLegacy :=
  .within (.both (.optionKept ContainerConfig.roundTrip) (.optionKept PodSandboxConfig.roundTrip))
    (fun m => (m.config, m.sandboxConfig)) (fun x m => { m with config := x.1, sandboxConfig := x.2 })
    (fun c => (c.config, c.sandboxConfig)) (fun x c => { c with config := x.1, sandboxConfig := x.2 })
    (by constructor <;> intros <;> rfl)

theorem PullImageRequest.roundTrip :
    RoundTrip upgrade downgrade (fun m => m) Cri.PullImageRequest.asLegacy :=
  .within (.optionKept PodSandboxConfig.roundTrip)
    (·.sandboxConfig) (fun x m => { m with sandboxConfig := x })
    (·.sandboxConfig) (fun x c => { c with sandboxConfig := x })
    (by constructor <;> intros <;> rfl)

theorem Namespace.roundTrip :
    RoundTrip upgrade downgrade (fun m => m) Cri.Namespace.asLegacy :=
  .within (.optionKept NamespaceOption.roundTrip)
    (·.options) (fun x m => { m with options := x })
    (·.options) (fun x c => { c with options := x })
    (by constructor <;> intros <;> rfl)

theorem LinuxPodSandboxStatus.roundTrip :
    RoundTrip upgrade downgrade (fun m => m) Cri.LinuxPodSandboxStatus.asLegacy :=
  .within (.optionKept Namespace.roundTrip)
    (·.namespaces) (fun x m => { m with namespaces := x })
    (·.namespaces) (fun x c => { c with namespaces := x })
    (by constructor <;> intros <;> rfl)

theorem PodSandboxStatus.roundTrip :
    RoundTrip upgrade downgrade (fun m => m) Cri.PodSandboxStatus.asLegacy :=
  .within (.optionKept LinuxPodSandboxStatus.roundTrip)
    (·.linux) (fun x m => { m with linux := x })
    (·.linux) (fun x c => { c with linux := x, runtimeHandler := "" })
    (by constructor <;> intros <;> rfl)

theorem PodSandboxStatusResponse.roundTrip :
    RoundTrip upgrade downgrade (fun m => m) Cri.PodSandboxStatusResponse.asLegacy :=
  .within (.optionKept PodSandboxStatus.roundTrip)
    (·.status) (fun x m => { m with status := x })
    (·.status) (fun x c => { c with status := x })
    (by constructor <;> intros <;> rfl)

theorem FilesystemUsage.roundTrip :
    RoundTrip upgrade downgrade withoutStorage Cri.FilesystemUsage.asLegacy where
  downgrade_upgrade _ := rfl
  upgrade_downgrade _ := rfl
  upgrade_kept _ := rfl
  downgrade_kept _ := rfl

theorem ContainerStats.roundTrip :
    RoundTrip upgrade downgrade withoutStorage Cri.ContainerStats.asLegacy :=
  .within (.option FilesystemUsage.roundTrip)
    (·.writableLayer) (fun x m => { m with writableLayer := x })
    (·.writableLayer) (fun x c => { c with writableLayer := x })
    (by constructor <;> intros <;> rfl)

theorem ContainerStatsResponse.roundTrip :
    RoundTrip upgrade downgrade withoutStorage Cri.ContainerStatsResponse.asLegacy :=
  .within (.option ContainerStats.roundTrip)
    (·.stats) (fun x m => { m with stats := x })
    (·.stats) (fun x c => { c with stats := x })
    (by constructor <;> intros <;> rfl)

theorem ListContainerStatsResponse.roundTrip :
    RoundTrip upgrade downgrade withoutStorage Cri.ListContainerStatsResponse.asLegacy :=
  .within (.list ContainerStats.roundTrip)
    (·.stats) (fun x m => { m with stats := x })
    (·.stats) (fun x c => { c with stats := x })
    (by constructor <;> intros <;> rfl)

theorem ImageFsInfoResponse.roundTrip :
    RoundTrip upgrade downgrade withoutStorage Cri.ImageFsInfoResponse.asLegacy :=
  .within (.list FilesystemUsage.roundTrip)
    (·.imageFilesystems) (fun x m => { m with imageFilesystems := x })
    (·.imageFilesystems) (fun x c => { c with imageFilesystems := x })
    (by constructor <;> intros <;> rfl)

end Legacy

/-! ### All conversions -/

/-- A type of legacy messages with its counterpart, and what either keeps. -/
structure Conversion where
  Old : Type
  New : Type
  upgrade : Old → New
  downgrade : New → Old
  keptOld : Old → Old
  keptNew : New → New

/-- The conversion of messages that are sent on their own. -/
def Conversion.of (M : Type) [Convertible M] (keptOld : M → M)
    (keptNew : Convertible.Current M → Convertible.Current M) : Conversion :=
  ⟨M, Convertible.Current M, Convertible.upgrade, Convertible.downgrade, keptOld, keptNew⟩

/-- The legacy types with a layout of their own and a counterpart in the current schema, which are
all but that of storage devices. -/
def conversions : List Conversion :=
  [⟨Legacy.NamespaceOption, NamespaceOption, Legacy.NamespaceOption.upgrade,
     Legacy.NamespaceOption.downgrade, fun m => m, NamespaceOption.asLegacy⟩,
   ⟨Legacy.LinuxSandboxSecurityContext, LinuxSandboxSecurityContext,
     Legacy.LinuxSandboxSecurityContext.upgrade, Legacy.LinuxSandboxSecurityContext.downgrade,
     fun m => m, LinuxSandboxSecurityContext.asLegacy⟩,
   ⟨Legacy.LinuxPodSandboxConfig, LinuxPodSandboxConfig, Legacy.LinuxPodSandboxConfig.upgrade,
     Legacy.LinuxPodSandboxConfig.downgrade, fun m => m, LinuxPodSandboxConfig.asLegacy⟩,
   ⟨Legacy.PodSandboxConfig, PodSandboxConfig, Legacy.PodSandboxConfig.upgrade,
     Legacy.PodSandboxConfig.downgrade, fun m => m, PodSandboxConfig.asLegacy⟩,
   .of Legacy.RunPodSandboxRequest (fun m => m) RunPodSandboxRequest.asLegacy,
   ⟨Legacy.LinuxContainerSecurityContext, LinuxContainerSecurityContext,
     Legacy.LinuxContainerSecurityContext.upgrade,
     Legacy.LinuxContainerSecurityContext.downgrade, fun m => m,
     LinuxContainerSecurityContext.asLegacy⟩,
   ⟨Legacy.LinuxContainerConfig, LinuxContainerConfig, Legacy.LinuxContainerConfig.upgrade,
     Legacy.LinuxContainerConfig.downgrade, fun m => m, LinuxContainerConfig.asLegacy⟩,
   ⟨Legacy.ContainerConfig, ContainerConfig, Legacy.ContainerConfig.upgrade,
     Legacy.ContainerConfig.downgrade, fun m => m, ContainerConfig.asLegacy⟩,
   .of Legacy.CreateContainerRequest (fun m => m) CreateContainerRequest.asLegacy,
   .of Legacy.PullImageRequest (fun m => m) PullImageRequest.asLegacy,
   ⟨Legacy.Namespace, Namespace, Legacy.Namespace.upgrade, Legacy.Namespace.downgrade,
     fun m => m, Namespace.asLegacy⟩,
   ⟨Legacy.LinuxPodSandboxStatus, LinuxPodSandboxStatus, Legacy.LinuxPodSandboxStatus.upgrade,
     Legacy.LinuxPodSandboxStatus.downgrade, fun m => m, LinuxPodSandboxStatus.asLegacy⟩,
   ⟨Legacy.PodSandboxStatus, PodSandboxStatus, Legacy.PodSandboxStatus.upgrade,
     Legacy.PodSandboxStatus.downgrade, fun m => m, PodSandboxStatus.asLegacy⟩,
   .of Legacy.PodSandboxStatusResponse (fun m => m) PodSandboxStatusResponse.asLegacy,
   ⟨Legacy.FilesystemUsage, FilesystemUsage, Legacy.FilesystemUsage.upgrade,
     Legacy.FilesystemUsage.downgrade, Legacy.FilesystemUsage.withoutStorage,
     FilesystemUsage.asLegacy⟩,
   ⟨Legacy.ContainerStats, ContainerStats, Legacy.ContainerStats.upgrade,
     Legacy.ContainerStats.downgrade, Legacy.ContainerStats.withoutStorage,
     ContainerStats.asLegacy⟩,
   .of Legacy.ContainerStatsResponse Legacy.ContainerStatsResponse.withoutStorage
     ContainerStatsResponse.asLegacy,
   .of Legacy.ListContainerStatsResponse Legacy.ListContainerStatsResponse.withoutStorage
     ListContainerStatsResponse.asLegacy,
   .of Legacy.ImageFsInfoResponse Legacy.ImageFsInfoResponse.withoutStorage
     ImageFsInfoResponse.asLegacy]

theorem roundTrip_conversions : ∀ p ∈ conversions,
    RoundTrip p.upgrade p.downgrade p.keptOld p.keptNew := by
  simp only [conversions, List.forall_mem_cons]
  exact ⟨Legacy.NamespaceOption.roundTrip, Legacy.LinuxSandboxSecurityContext.roundTrip,
    Legacy.LinuxPodSandboxConfig.roundTrip, Legacy.PodSandboxConfig.roundTrip,
    Legacy.RunPodSandboxRequest.roundTrip, Legacy.LinuxContainerSecurityContext.roundTrip,
    Legacy.LinuxContainerConfig.roundTrip, Legacy.ContainerConfig.roundTrip,
    Legacy.CreateContainerRequest.roundTrip, Legacy.PullImageRequest.roundTrip,
    Legacy.Namespace.roundTrip, Legacy.LinuxPodSandboxStatus.roundTrip,
    Legacy.PodSandboxStatus.roundTrip, Legacy.PodSandboxStatusResponse.roundTrip,
    Legacy.FilesystemUsage.roundTrip, Legacy.ContainerStats.roundTrip,
    Legacy.ContainerStatsResponse.roundTrip, Legacy.ListContainerStatsResponse.roundTrip,
    Legacy.ImageFsInfoResponse.roundTrip, nofun⟩

/-- No other type of legacy messages is left out. -/
theorem carriers_legacyTypes : legacyTypes.map MessageType.Carrier =
    (conversions.map Conversion.Old).insertIdx 14 Legacy.StorageIdentifier :=
  rfl

/-- Converting a message forth and back keeps of a legacy message all but the storage devices of its
filesystem usages, and of a current message what a legacy message can say. Doing so once more
changes nothing. -/
theorem Conversion.forth_and_back : ∀ p ∈ conversions,
    (∀ m : p.Old, p.downgrade (p.upgrade m) = p.keptOld m) ∧
      (∀ c : p.New, p.upgrade (p.downgrade c) = p.keptNew c) ∧
      (∀ m : p.Old, p.downgrade (p.upgrade (p.downgrade (p.upgrade m))) =
        p.downgrade (p.upgrade m)) ∧
      ∀ c : p.New, p.upgrade (p.downgrade (p.upgrade (p.downgrade c))) =
        p.upgrade (p.downgrade c) := by
  intro p known
  have trip := roundTrip_conversions p known
  exact ⟨trip.downgrade_upgrade, trip.upgrade_downgrade, trip.idempotent.1, trip.idempotent.2⟩

/-- A storage device is lost one way, and an unknown mode and a target the other way. -/
theorem Conversion.forth_and_back_two :
    Legacy.FilesystemUsage.downgrade (Legacy.FilesystemUsage.upgrade
          ⟨5, some ⟨"disk"⟩, some ⟨1⟩, none⟩) =
        ⟨5, none, some ⟨1⟩, none⟩ ∧
      Legacy.NamespaceOption.upgrade (Legacy.NamespaceOption.downgrade
          ⟨7, NamespaceMode.node, 1, "c1"⟩) =
        ⟨NamespaceMode.pod, NamespaceMode.node, NamespaceMode.pod, ""⟩ := by
  have storage := (forth_and_back ⟨Legacy.FilesystemUsage, FilesystemUsage,
    Legacy.FilesystemUsage.upgrade, Legacy.FilesystemUsage.downgrade,
    Legacy.FilesystemUsage.withoutStorage, FilesystemUsage.asLegacy⟩
    (by simp [conversions])).1 ⟨5, some ⟨"disk"⟩, some ⟨1⟩, none⟩
  have modes := (forth_and_back ⟨Legacy.NamespaceOption, NamespaceOption,
    Legacy.NamespaceOption.upgrade, Legacy.NamespaceOption.downgrade, fun m => m,
    NamespaceOption.asLegacy⟩ (by simp [conversions])).2.1 ⟨7, NamespaceMode.node, 1, "c1"⟩
  exact ⟨storage, modes⟩

end RuntimeMux.Cri
