import RuntimeMux.Cri.Exec
import RuntimeMux.Cri.Image
import RuntimeMux.Cri.Legacy
import RuntimeMux.Cri.Stats
import RuntimeMux.Scope

/-!
# Messages in the view of callers

What a runtime answers holds its own ids and image names. Before a caller sees an answer, they are
qualified by the scope of the runtime. A list is qualified item by item, since its items come from
several runtimes.
-/

namespace RuntimeMux.Cri

/-- A type of messages in which a scope qualifies ids and image names. -/
class Scoped (M : Type) where
  qualify : Scope → M → M

/-- A message has nothing to qualify unless it is declared. -/
instance (priority := low) unscoped {M : Type} : Scoped M where
  qualify _ m := m

/-! ### Objects -/

instance : Scoped PodSandbox where
  qualify s m := { m with id := s.qualifyId m.id }

/-- The image of a container, by the name that callers see. -/
def ImageSpec.qualify (s : Scope) (m : ImageSpec) : ImageSpec :=
  { m with image := s.qualifyImage m.image }

instance : Scoped Container where
  qualify s m :=
    { m with
      id := s.qualifyId m.id
      podSandboxId := s.qualifyId m.podSandboxId
      image := m.image.map (ImageSpec.qualify s) }

/-- The container that statistics are about, by the id that callers see. -/
def ContainerAttributes.qualify (s : Scope) (m : ContainerAttributes) : ContainerAttributes :=
  { m with id := s.qualifyId m.id }

instance : Scoped ContainerStats where
  qualify s m := { m with attributes := m.attributes.map (ContainerAttributes.qualify s) }

instance : Scoped Legacy.ContainerStats where
  qualify s m := { m with attributes := m.attributes.map (ContainerAttributes.qualify s) }

/-- A repository digest that callers see. It is qualified only if there is a name in front of the
digest. -/
def qualifyRepoDigest (s : Scope) (digest : String) : String :=
  match Text.splitFirst? '@' digest with
  | some (name, _) => if name.isEmpty then digest else s.qualifyImage digest
  | none => digest

instance : Scoped Image where
  qualify s m :=
    { m with
      id := s.qualifyImage m.id
      repoTags := m.repoTags.map s.qualifyImage
      repoDigests := m.repoDigests.map (qualifyRepoDigest s) }

/-! ### Responses -/

instance : Scoped RunPodSandboxResponse where
  qualify s m := { m with podSandboxId := s.qualifyId m.podSandboxId }

/-- A pod sandbox status with the id that callers see. -/
def PodSandboxStatus.qualify (s : Scope) (m : PodSandboxStatus) : PodSandboxStatus :=
  { m with id := s.qualifyId m.id }

instance : Scoped PodSandboxStatusResponse where
  qualify s m := { m with status := m.status.map (PodSandboxStatus.qualify s) }

/-- A pod sandbox status with the id that callers see. -/
def Legacy.PodSandboxStatus.qualify (s : Scope) (m : Legacy.PodSandboxStatus) :
    Legacy.PodSandboxStatus :=
  { m with id := s.qualifyId m.id }

instance : Scoped Legacy.PodSandboxStatusResponse where
  qualify s m := { m with status := m.status.map (Legacy.PodSandboxStatus.qualify s) }

instance : Scoped CreateContainerResponse where
  qualify s m := { m with containerId := s.qualifyId m.containerId }

/-- A container status with the id and the image that callers see. -/
def ContainerStatus.qualify (s : Scope) (m : ContainerStatus) : ContainerStatus :=
  { m with
    id := s.qualifyId m.id
    image := m.image.map (ImageSpec.qualify s) }

instance : Scoped ContainerStatusResponse where
  qualify s m := { m with status := m.status.map (ContainerStatus.qualify s) }

instance : Scoped ContainerStatsResponse where
  qualify s m := { m with stats := m.stats.map (Scoped.qualify s) }

instance : Scoped Legacy.ContainerStatsResponse where
  qualify s m := { m with stats := m.stats.map (Scoped.qualify s) }

instance : Scoped ImageStatusResponse where
  qualify s m := { m with image := m.image.map (Scoped.qualify s) }

instance : Scoped PullImageResponse where
  qualify s m := { m with imageRef := s.qualifyImage m.imageRef }

/-! ### Lists -/

/-- A type of messages that hold a list of objects. -/
class Listing (L : Type) where
  {Item : Type}
  [message : Wire.Message Item]
  [scoping : Scoped Item]
  items : L → List Item
  setItems : List Item → L → L

instance {L : Type} [l : Listing L] : Wire.Message l.Item := l.message

instance {L : Type} [l : Listing L] : Scoped l.Item := l.scoping

instance : Listing ListPodSandboxResponse where
  items := (·.items)
  setItems x m := { m with items := x }

instance : Listing ListContainersResponse where
  items := (·.containers)
  setItems x m := { m with containers := x }

instance : Listing ListContainerStatsResponse where
  items := (·.stats)
  setItems x m := { m with stats := x }

instance : Listing Legacy.ListContainerStatsResponse where
  items := (·.stats)
  setItems x m := { m with stats := x }

instance : Listing ListImagesResponse where
  items := (·.images)
  setItems x m := { m with images := x }

instance : Listing ImageFsInfoResponse where
  items := (·.imageFilesystems)
  setItems x m := { m with imageFilesystems := x }

instance : Listing Legacy.ImageFsInfoResponse where
  items := (·.imageFilesystems)
  setItems x m := { m with imageFilesystems := x }

end RuntimeMux.Cri
