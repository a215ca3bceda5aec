import RuntimeMux.Cri.Exec
import RuntimeMux.Cri.Image
import RuntimeMux.Cri.Legacy
import RuntimeMux.Cri.Stats

/-!
# Views of messages

The proxy routes a message by a few of its fields. A view is such a field, whatever the type of the
message and however deep the field lies in it: a text that can be read and replaced if the message
has it. Messages have no views but the declared ones.
-/

namespace RuntimeMux.Cri

/-- The texts of messages that routing reads or replaces. -/
inductive View where
  /-- The pod sandbox that a request is about. -/
  | podSandboxId
  /-- The container that a request is about. -/
  | containerId
  /-- The image that a request is about, or creates a container of. -/
  | image
  /-- The id that a list request asks for. -/
  | idFilter
  /-- The pod sandbox that a list request asks for. -/
  | podSandboxIdFilter
  /-- The image that a list request asks for. -/
  | imageFilter
  /-- The address of a stream in a response. -/
  | url
  deriving DecidableEq, Repr

/-- Every view. -/
def View.all : List View :=
  [.podSandboxId, .containerId, .image, .idFilter, .podSandboxIdFilter, .imageFilter, .url]

/-! ### Slots -/

/-- A place in a message that may hold a text. -/
structure Slot (M : Type) where
  /-- The text, if the place exists in the message. -/
  get? : M → Option String
  /-- Replaces the text, if the place exists in the message. -/
  set : String → M → M

namespace Slot

variable {M N : Type}

/-- A place that no message has. -/
def absent : Slot M := ⟨fun _ => none, fun _ m => m⟩

/-- A field. -/
def field (get : M → String) (set : String → M → M) : Slot M :=
  ⟨fun m => some (get m), set⟩

/-- A place in a part that a message may have. -/
def inside (get : M → Option N) (set : Option N → M → M) (slot : Slot N) : Slot M :=
  ⟨fun m => (get m).bind slot.get?, fun x m => set ((get m).map (slot.set x)) m⟩

/-- The text, which is empty if the place does not exist. -/
def value (slot : Slot M) (m : M) : String :=
  (slot.get? m).getD ""

@[simp] theorem get?_absent (m : M) : (absent : Slot M).get? m = none := rfl

@[simp] theorem set_absent (x : String) (m : M) : (absent : Slot M).set x m = m := rfl

end Slot

/-- The image that an image spec refers to. -/
def ImageSpec.reference : Slot ImageSpec :=
  .field (·.image) fun x m => { m with image := x }

/-! ### Views -/

/-- The views of a type of messages. -/
class Views (M : Type) where
  /-- Where the text of a view lies. -/
  slot : View → Slot M := fun _ => .absent
  /-- The annotations of the pod sandbox that a request creates. -/
  annotations? : M → Option TextMap := fun _ => none
  /-- The id of the image that a response describes, and the first name of it. -/
  describedImage? : M → Option (String × Option String) := fun _ => none

/-- A message has no views unless some are declared. -/
instance (priority := low) noViews {M : Type} : Views M where

/-! ### Requests about pod sandboxes -/

instance : Views RunPodSandboxRequest where
  annotations? m := m.config.map (·.annotations)

instance : Views Legacy.RunPodSandboxRequest where
  annotations? m := m.config.map (·.annotations)

instance : Views StopPodSandboxRequest where
  slot
    | .podSandboxId => .field (·.podSandboxId) fun x m => { m with podSandboxId := x }
    | _ => .absent

instance : Views RemovePodSandboxRequest where
  slot
    | .podSandboxId => .field (·.podSandboxId) fun x m => { m with podSandboxId := x }
    | _ => .absent

instance : Views PodSandboxStatusRequest where
  slot
    | .podSandboxId => .field (·.podSandboxId) fun x m => { m with podSandboxId := x }
    | _ => .absent

instance : Views PortForwardRequest where
  slot
    | .podSandboxId => .field (·.podSandboxId) fun x m => { m with podSandboxId := x }
    | _ => .absent

instance : Views ListPodSandboxRequest where
  slot
    | .idFilter => .inside (·.filter) (fun x m => { m with filter := x })
        (.field (·.id) fun x m => { m with id := x })
    | _ => .absent

/-! ### Requests about containers -/

instance : Views CreateContainerRequest where
  slot
    | .podSandboxId => .field (·.podSandboxId) fun x m => { m with podSandboxId := x }
    | .image => .inside (·.config) (fun x m => { m with config := x })
        (.inside (·.image) (fun x m => { m with image := x }) ImageSpec.reference)
    | _ => .absent

instance : Views Legacy.CreateContainerRequest where
  slot
    | .podSandboxId => .field (·.podSandboxId) fun x m => { m with podSandboxId := x }
    | .image => .inside (·.config) (fun x m => { m with config := x })
        (.inside (·.image) (fun x m => { m with image := x }) ImageSpec.reference)
    | _ => .absent

instance : Views StartContainerRequest where
  slot
    | .containerId => .field (·.containerId) fun x m => { m with containerId := x }
    | _ => .absent

instance : Views StopContainerRequest where
  slot
    | .containerId => .field (·.containerId) fun x m => { m with containerId := x }
    | _ => .absent

instance : Views RemoveContainerRequest where
  slot
    | .containerId => .field (·.containerId) fun x m => { m with containerId := x }
    | _ => .absent

instance : Views ContainerStatusRequest where
  slot
    | .containerId => .field (·.containerId) fun x m => { m with containerId := x }
    | _ => .absent

instance : Views ContainerStatsRequest where
  slot
    | .containerId => .field (·.containerId) fun x m => { m with containerId := x }
    | _ => .absent

instance : Views UpdateContainerResourcesRequest where
  slot
    | .containerId => .field (·.containerId) fun x m => { m with containerId := x }
    | _ => .absent

instance : Views ReopenContainerLogRequest where
  slot
    | .containerId => .field (·.containerId) fun x m => { m with containerId := x }
    | _ => .absent

instance : Views ExecSyncRequest where
  slot
    | .containerId => .field (·.containerId) fun x m => { m with containerId := x }
    | _ => .absent

instance : Views ExecRequest where
  slot
    | .containerId => .field (·.containerId) fun x m => { m with containerId := x }
    | _ => .absent

instance : Views AttachRequest where
  slot
    | .containerId => .field (·.containerId) fun x m => { m with containerId := x }
    | _ => .absent

instance : Views ListContainersRequest where
  slot
    | .idFilter => .inside (·.filter) (fun x m => { m with filter := x })
        (.field (·.id) fun x m => { m with id := x })
    | .podSandboxIdFilter => .inside (·.filter) (fun x m => { m with filter := x })
        (.field (·.podSandboxId) fun x m => { m with podSandboxId := x })
    | _ => .absent

instance : Views ListContainerStatsRequest where
  slot
    | .idFilter => .inside (·.filter) (fun x m => { m with filter := x })
        (.field (·.id) fun x m => { m with id := x })
    | .podSandboxIdFilter => .inside (·.filter) (fun x m => { m with filter := x })
        (.field (·.podSandboxId) fun x m => { m with podSandboxId := x })
    | _ => .absent

/-! ### Requests about images -/

instance : Views ListImagesRequest where
  slot
    | .imageFilter => .inside (·.filter) (fun x m => { m with filter := x })
        (.inside (·.image) (fun x m => { m with image := x }) ImageSpec.reference)
    | _ => .absent

instance : Views ImageStatusRequest where
  slot
    | .image => .inside (·.image) (fun x m => { m with image := x }) ImageSpec.reference
    | _ => .absent

instance : Views PullImageRequest where
  slot
    | .image => .inside (·.image) (fun x m => { m with image := x }) ImageSpec.reference
    | _ => .absent

instance : Views Legacy.PullImageRequest where
  slot
    | .image => .inside (·.image) (fun x m => { m with image := x }) ImageSpec.reference
    | _ => .absent

instance : Views RemoveImageRequest where
  slot
    | .image => .inside (·.image) (fun x m => { m with image := x }) ImageSpec.reference
    | _ => .absent

/-! ### Responses -/

instance : Views ExecResponse where
  slot
    | .url => .field (·.url) fun x m => { m with url := x }
    | _ => .absent

instance : Views AttachResponse where
  slot
    | .url => .field (·.url) fun x m => { m with url := x }
    | _ => .absent

instance : Views PortForwardResponse where
  slot
    | .url => .field (·.url) fun x m => { m with url := x }
    | _ => .absent

instance : Views ImageStatusResponse where
  describedImage? m := m.image.map fun image => (image.id, image.repoTags.head?)

instance : Views PullImageResponse where
  describedImage? m := some (m.imageRef, none)

end RuntimeMux.Cri
