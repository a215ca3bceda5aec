import RuntimeMux.Cri.Scoped
import RuntimeMux.Routing.Single

/-!
# What leaves messages as they are

The scope of the primary runtime qualifies nothing, so what it answers reaches callers under its own
ids and names. And a text that is replaced by itself leaves the message as it was, even if the part
that would hold the text is missing.
-/

namespace RuntimeMux

namespace Scope

@[simp] theorem qualifyId_primary : qualifyId .primary = fun object => object := rfl

@[simp] theorem qualifyImage_primary : qualifyImage .primary = fun image => image := rfl

end Scope

namespace Cri

open Wire

/-! ### The primary scope -/

/-- A type of messages that the primary scope leaves as they are. -/
class LawfulScoped (M : Type) [Scoped M] : Prop where
  qualify_primary : (Scoped.qualify .primary : M → M) = fun m => m

/-- What has nothing to qualify is left as it is in every scope. -/
instance {M : Type} : @LawfulScoped M unscoped :=
  @LawfulScoped.mk M unscoped rfl

attribute [simp] LawfulScoped.qualify_primary

@[simp] theorem ImageSpec.qualify_primary : qualify .primary = fun m => m := rfl

@[simp] theorem ContainerAttributes.qualify_primary : qualify .primary = fun m => m := rfl

@[simp] theorem PodSandboxStatus.qualify_primary : qualify .primary = fun m => m := rfl

@[simp] theorem Legacy.PodSandboxStatus.qualify_primary : qualify .primary = fun m => m := rfl

@[simp] theorem ContainerStatus.qualify_primary : qualify .primary = fun m => m := by
  funext m
  simp [qualify]

@[simp] theorem qualifyRepoDigest_primary :
    qualifyRepoDigest .primary = fun digest => digest := by
  funext digest
  rw [qualifyRepoDigest]
  split
  · split <;> rfl
  · rfl

instance : LawfulScoped PodSandbox := ⟨rfl⟩
instance : LawfulScoped Container := ⟨by simp [Scoped.qualify]⟩
instance : LawfulScoped ContainerStats := ⟨by simp [Scoped.qualify]⟩
instance : LawfulScoped Legacy.ContainerStats := ⟨by simp [Scoped.qualify]⟩
instance : LawfulScoped Image := ⟨by simp [Scoped.qualify]⟩
instance : LawfulScoped RunPodSandboxResponse := ⟨rfl⟩
instance : LawfulScoped PodSandboxStatusResponse := ⟨by simp [Scoped.qualify]⟩
instance : LawfulScoped Legacy.PodSandboxStatusResponse := ⟨by simp [Scoped.qualify]⟩
instance : LawfulScoped CreateContainerResponse := ⟨rfl⟩
instance : LawfulScoped ContainerStatusResponse := ⟨by simp [Scoped.qualify]⟩
instance : LawfulScoped ContainerStatsResponse := ⟨by simp [Scoped.qualify]⟩
instance : LawfulScoped Legacy.ContainerStatsResponse := ⟨by simp [Scoped.qualify]⟩
instance : LawfulScoped ImageStatusResponse := ⟨by simp [Scoped.qualify]⟩
instance : LawfulScoped PullImageResponse := ⟨rfl⟩

/-! ### Texts that are replaced by themselves -/

namespace Slot

variable {M N : Type}

/-- A place keeps a message as it is if its text is replaced by itself. -/
def Restores (slot : Slot M) : Prop := ∀ m : M, slot.set (slot.value m) m = m

theorem restores_absent : (absent : Slot M).Restores := fun _ => rfl

theorem restores_field {get : M → String} {set : String → M → M}
    (restores : ∀ m, set (get m) m = m := by exact fun _ => rfl) : (field get set).Restores :=
  restores

/-- A part that is missing stays missing. -/
theorem restores_inside {get : M → Option N} {set : Option N → M → M} {slot : Slot N}
    (inner : slot.Restores) (outer : ∀ m, set (get m) m = m := by exact fun _ => rfl) :
    (inside get set slot).Restores := by
  intro m
  have same : (get m).map (slot.set ((inside get set slot).value m)) = get m := by
    cases hm : get m with
    | none => rfl
    | some part =>
      have text : (inside get set slot).value m = slot.value part := by
        simp [value, inside, hm]
      rw [text, Option.map_some, inner part]
  exact (congrArg (set · m) same).trans (outer m)

end Slot

/-- A type of messages in which every view can be replaced by itself. -/
class LawfulViews (M : Type) [Views M] : Prop where
  restores : ∀ view, (Views.slot view : Slot M).Restores

theorem LawfulViews.withText_textOf {M : Type} [Views M] [LawfulViews M] (view : View) (m : M) :
    Router.withText view (Router.textOf view m) m = m :=
  restores view m

/-- A type of messages with one view. -/
theorem LawfulViews.of_one {M : Type} [Views M] (view : View)
    (here : (Views.slot view : Slot M).Restores)
    (elsewhere : ∀ other ≠ view, (Views.slot other : Slot M) = .absent := by
      intro other hne; cases other <;> first | rfl | exact absurd rfl hne) : LawfulViews M where
  restores other := by
    by_cases he : other = view
    · exact he ▸ here
    · exact elsewhere other he ▸ Slot.restores_absent

/-- Without views there is nothing to replace. -/
instance {M : Type} : @LawfulViews M noViews :=
  @LawfulViews.mk M noViews fun _ => Slot.restores_absent

instance : LawfulViews RunPodSandboxRequest := ⟨fun _ => Slot.restores_absent⟩
instance : LawfulViews Legacy.RunPodSandboxRequest := ⟨fun _ => Slot.restores_absent⟩

open Slot

instance : LawfulViews StopPodSandboxRequest := .of_one .podSandboxId restores_field
instance : LawfulViews RemovePodSandboxRequest := .of_one .podSandboxId restores_field
instance : LawfulViews PodSandboxStatusRequest := .of_one .podSandboxId restores_field
instance : LawfulViews PortForwardRequest := .of_one .podSandboxId restores_field
instance : LawfulViews StartContainerRequest := .of_one .containerId restores_field
instance : LawfulViews StopContainerRequest := .of_one .containerId restores_field
instance : LawfulViews RemoveContainerRequest := .of_one .containerId restores_field
instance : LawfulViews ContainerStatusRequest := .of_one .containerId restores_field
instance : LawfulViews ContainerStatsRequest := .of_one .containerId restores_field
instance : LawfulViews UpdateContainerResourcesRequest := .of_one .containerId restores_field
instance : LawfulViews ReopenContainerLogRequest := .of_one .containerId restores_field
instance : LawfulViews ExecSyncRequest := .of_one .containerId restores_field
instance : LawfulViews ExecRequest := .of_one .containerId restores_field
instance : LawfulViews AttachRequest := .of_one .containerId restores_field
instance : LawfulViews ImageStatusRequest := .of_one .image (restores_inside restores_field)
instance : LawfulViews PullImageRequest := .of_one .image (restores_inside restores_field)
instance : LawfulViews Legacy.PullImageRequest := .of_one .image (restores_inside restores_field)
instance : LawfulViews RemoveImageRequest := .of_one .image (restores_inside restores_field)
instance : LawfulViews ListPodSandboxRequest := .of_one .idFilter (restores_inside restores_field)
instance : LawfulViews ListImagesRequest :=
  .of_one .imageFilter (restores_inside (restores_inside restores_field))

instance : LawfulViews ListContainersRequest where
  restores
    | .idFilter | .podSandboxIdFilter => restores_inside restores_field
    | .podSandboxId | .containerId | .image | .imageFilter | .url => restores_absent

instance : LawfulViews ListContainerStatsRequest where
  restores
    | .idFilter | .podSandboxIdFilter => restores_inside restores_field
    | .podSandboxId | .containerId | .image | .imageFilter | .url => restores_absent

instance : LawfulViews CreateContainerRequest where
  restores
    | .podSandboxId => restores_field
    | .image => restores_inside (restores_inside restores_field)
    | .containerId | .idFilter | .podSandboxIdFilter | .imageFilter | .url => restores_absent

instance : LawfulViews Legacy.CreateContainerRequest where
  restores
    | .podSandboxId => restores_field
    | .image => restores_inside (restores_inside restores_field)
    | .containerId | .idFilter | .podSandboxIdFilter | .imageFilter | .url => restores_absent

/-! ### Lists -/

/-- A type of lists that hold nothing but items, which the primary scope leaves as they are. -/
class LawfulListing (L : Type) [Message L] [Listing L] : Prop where
  setItems_items : ∀ m : L, Listing.setItems (Listing.items m) Message.blank = m
  item : LawfulScoped (Listing.Item L)

instance : LawfulListing ListPodSandboxResponse :=
  ⟨fun _ => rfl, inferInstanceAs (LawfulScoped PodSandbox)⟩

instance : LawfulListing ListContainersResponse :=
  ⟨fun _ => rfl, inferInstanceAs (LawfulScoped Container)⟩

instance : LawfulListing ListContainerStatsResponse :=
  ⟨fun _ => rfl, inferInstanceAs (LawfulScoped ContainerStats)⟩

instance : LawfulListing Legacy.ListContainerStatsResponse :=
  ⟨fun _ => rfl, inferInstanceAs (LawfulScoped Legacy.ContainerStats)⟩

instance : LawfulListing ListImagesResponse :=
  ⟨fun _ => rfl, inferInstanceAs (LawfulScoped Image)⟩

instance : LawfulListing ImageFsInfoResponse :=
  ⟨fun _ => rfl, inferInstanceAs (LawfulScoped FilesystemUsage)⟩

instance : LawfulListing Legacy.ImageFsInfoResponse :=
  ⟨fun _ => rfl, inferInstanceAs (LawfulScoped Legacy.FilesystemUsage)⟩

/-- The items of a list reach callers as they are in the primary scope. -/
theorem LawfulListing.setItems_qualify {L : Type} [Message L] [Listing L] [LawfulListing L]
    (m : L) :
    Listing.setItems ((Listing.items m).map (Scoped.qualify .primary)) Message.blank = m := by
  have := LawfulListing.item (L := L)
  rw [LawfulScoped.qualify_primary, List.map_id', setItems_items]

end Cri

end RuntimeMux
