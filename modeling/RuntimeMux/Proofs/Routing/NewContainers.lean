import RuntimeMux.Exchange
import RuntimeMux.Proofs.Routing.Delivery

/-!
# New containers

A container is created by the runtime of its pod sandbox. The image has to belong to the same runtime,
which is then told its own name of it. A digest may be known to several runtimes and is passed on as
it is. Any other request is refused before it is sent. The names that images are known by have no part
in it.
-/

namespace RuntimeMux

open Cri Wire

/-! ### Requests -/

/-- A request to create a container in the pod sandbox `own`, of the image `image`. Everything else is
kept, and so is the lack of an image. -/
def Cri.CreateContainerRequest.under (m : CreateContainerRequest) (own image : String) :
    CreateContainerRequest :=
  { m with
    podSandboxId := own
    config := m.config.map fun config =>
      { config with image := config.image.map fun spec => { spec with image := image } } }

/-- A request to create a container in the pod sandbox `own`, of the image `image`. Everything else is
kept, and so is the lack of an image. -/
def Cri.Legacy.CreateContainerRequest.under (m : Legacy.CreateContainerRequest)
    (own image : String) : Legacy.CreateContainerRequest :=
  { m with
    podSandboxId := own
    config := m.config.map fun config =>
      { config with image := config.image.map fun spec => { spec with image := image } } }

/-- A type of requests in which the id of a pod sandbox and the image of a new container can be
replaced. -/
class ContainerRequest (Req : Type) [Views Req] where
  under : Req → String → String → Req
  under_eq : ∀ (m : Req) (own image : String), under m own image =
    Router.withText .podSandboxId own (Router.withText .image image m)
  withText_textOf_image : ∀ m : Req, Router.withText .image (Router.textOf .image m) m = m

instance : ContainerRequest CreateContainerRequest where
  under := CreateContainerRequest.under
  under_eq _ _ _ := rfl
  withText_textOf_image m := by
    obtain ⟨podSandboxId, _ | config, sandboxConfig⟩ := m
    · rfl
    · obtain ⟨metadata, _ | image⟩ := config <;> rfl

instance : ContainerRequest Legacy.CreateContainerRequest where
  under := Legacy.CreateContainerRequest.under
  under_eq _ _ _ := rfl
  withText_textOf_image m := by
    obtain ⟨podSandboxId, _ | config, sandboxConfig⟩ := m
    · rfl
    · obtain ⟨metadata, _ | image⟩ := config <;> rfl

/-- Upgrading a request and replacing its texts do not get in each other's way. -/
theorem Cri.Legacy.CreateContainerRequest.upgrade_under (m : Legacy.CreateContainerRequest)
    (own image : String) : (m.under own image).upgrade = m.upgrade.under own image := by
  obtain ⟨podSandboxId, _ | config, sandboxConfig⟩ := m <;> rfl

namespace Router

/-! ### Images of new containers -/

section

variable {r : Router} {b : Backend} {image own : String}

/-- The images that a runtime is given to create a container of, and by what name. -/
inductive Admits (r : Router) (b : Backend) (image : String) : String → Prop where
  /-- A digest, as it is. -/
  | digest (hi : image ≠ "") (hd : isDigest image = true) : Admits r b image image
  /-- An image of the runtime, by the name that the runtime has for it. -/
  | name {own : String} (hi : image ≠ "") (hd : isDigest image = false)
      (owns : r.ownerOfName image = (b, own)) : Admits r b image own

/-- What a runtime is given as the image of a new container, or why the container is refused. -/
def admitImage (r : Router) (b : Backend) (image : String) : Except Fault String :=
  if image.isEmpty then .error .noImage
  else if isDigest image then .ok image
  else if (r.ownerOfName image).1 = b then .ok (r.ownerOfName image).2
  else .error (.wrongRuntime image)

theorem admitImage_eq_ok_iff : r.admitImage b image = .ok own ↔ r.Admits b image own := by
  constructor
  · intro admitted
    unfold admitImage at admitted
    split at admitted
    · cases admitted
    next hi =>
      have hi : image ≠ "" := by simpa using hi
      split at admitted
      next hd =>
        cases admitted
        exact .digest hi hd
      next hd =>
        split at admitted
        next owns =>
          cases admitted
          exact .name hi (by simpa using hd) (Prod.ext owns rfl)
        · cases admitted
  · rintro (⟨hi, hd⟩ | ⟨hi, hd, owns⟩)
    · simp [admitImage, hi, hd]
    · simp [admitImage, hi, hd, owns]

theorem admitImage_of_ne (hi : image ≠ "") (hd : isDigest image = false)
    (other : (r.ownerOfName image).1 ≠ b) :
    r.admitImage b image = .error (.wrongRuntime image) := by
  simp [admitImage, hi, hd, other]

end

/-! ### Creation -/

variable {Req Resp : Type} [Message Req] [Message Resp] [Convertible Req] [Convertible Resp]
  [Views Req] [Views Resp] [Scoped Resp] [ContainerRequest Req]

/-- A request to create a container is delivered to the runtime of the pod sandbox, under the own
names of this runtime, unless it does not admit the image. -/
theorem toNewContainer_eq (r : Router) (c : Call) (request : Req) :
    (r.toNewContainer c request : Handling Resp) =
      let (b, own) := r.ownerOfId (textOf .podSandboxId request)
      r.deliver b c ((r.admitImage b (textOf .image request)).map
        (ContainerRequest.under request own)) := by
  simp only [toNewContainer, forId, deliver, bind_assoc, pure_bind, admitImage]
  generalize r.ownerOfId (textOf .podSandboxId request) = owner
  obtain ⟨b, own⟩ := owner
  congr
  funext ready
  split
  · rfl
  split
  · -- a digest is replaced by itself
    simp only [Except.map, ContainerRequest.under_eq, ContainerRequest.withText_textOf_image]
  by_cases owns : (r.ownerOfName (textOf .image request)).1 = b
  · simp only [owns, ne_eq, not_true, if_false, if_true, Except.map, ContainerRequest.under_eq]
  · simp only [owns, ne_eq, not_false_eq_true, if_true, if_false]
    rfl

/-- What a caller can rely on when a container is to be created of an image, in a pod sandbox of the
runtime `b`, which is given the request under its own name of the image. -/
structure Creates (r : Router) (b : Backend) (c : Call) (image : String) (given : String → Req)
    (handling : Handling Resp) (w : World) (past : Journal) : Prop where
  /-- At most one call is sent: to the runtime, and only if it admits the image. -/
  sent :
    let deeds := (handling.run.play w past).2
    Journal.sent deeds = [] ∨
      ∃ own link, r.Admits b image own ∧ Journal.sent deeds = [(b, link, c.rpc link (given own))]
  /-- An image has to be told. -/
  noImage : image = "" → ∀ readied, (ready b).run.play w past = (.ok (), readied) →
    handling.run.play w past = (.error .noImage, readied) ∧ Journal.sent readied = []
  /-- A name of an image of another runtime is refused. -/
  wrongRuntime : image ≠ "" → isDigest image = false → (r.ownerOfName image).1 ≠ b →
    ∀ readied, (ready b).run.play w past = (.ok (), readied) →
      handling.run.play w past = (.error (.wrongRuntime image), readied) ∧
        Journal.sent readied = []
  /-- The names that images are known by have no part in it. -/
  nameless : ∀ w' : World, (∀ past a, a.backend? ≠ none → w' past a = w past a) →
    handling.run.play w' past = handling.run.play w past
  /-- The request is delivered to the runtime and to no other one. -/
  delivered : r.Delivers b c ((r.admitImage b image).map given) handling w past

variable (Resp) in
theorem creates_of_containerRequest (r : Router) (c : Call) (request : Req) (w : World)
    (past : Journal) :
    let (b, own) := r.ownerOfId (textOf .podSandboxId request)
    r.Creates b c (textOf .image request) (ContainerRequest.under request own)
      (r.toNewContainer c request : Handling Resp) w past := by
  rw [toNewContainer_eq]
  generalize r.ownerOfId (textOf .podSandboxId request) = owner
  obtain ⟨b, own⟩ := owner
  generalize textOf .image request = image
  have delivers := delivers_deliver Resp r b c
    ((r.admitImage b image).map (ContainerRequest.under request own)) w past
  constructor
  case sent =>
    refine delivers.once.imp_right ?_
    rintro ⟨given, link, admitted, sent⟩
    obtain ⟨ownImage, admits, rfl⟩ := map_eq_ok_iff.1 admitted
    exact ⟨ownImage, link, admitImage_eq_ok_iff.1 admits, sent⟩
  case noImage =>
    rintro rfl readied hr
    exact delivers.refused readied _ hr rfl
  case wrongRuntime =>
    intro hi hd other readied hr
    exact delivers.refused readied _ hr (by rw [admitImage_of_ne hi hd other]; rfl)
  case nameless =>
    intro w' agree
    exact delivers.isolated w' fun past a about => agree past a (by simp [about])
  case delivered => exact delivers

/-- A container is created by the runtime of the pod sandbox, in the schema of the caller. -/
theorem follow_creates (r : Router) (revision : Revision) (deadline : Option Span) (w : World)
    (past : Journal) :
    let c : Call := ⟨.createContainer, revision, deadline⟩
    match revision.schema with
    | .current =>
      Method.createContainer.exchange .current =
          .routed CreateContainerRequest CreateContainerResponse .newContainer ∧
        ∀ request : CreateContainerRequest,
          let (b, own) := r.ownerOfId request.podSandboxId
          r.Creates b c (textOf .image request) (request.under own)
            (r.follow .newContainer c request : Handling CreateContainerResponse) w past
    | .legacy =>
      Method.createContainer.exchange .legacy =
          .routed Legacy.CreateContainerRequest CreateContainerResponse .newContainer ∧
        ∀ request : Legacy.CreateContainerRequest,
          let (b, own) := r.ownerOfId request.podSandboxId
          (∀ ownImage, Convertible.upgrade (request.under own ownImage) =
            request.upgrade.under own ownImage) ∧
          r.Creates b c (textOf .image request) (request.under own)
            (r.follow .newContainer c request : Handling CreateContainerResponse) w past := by
  intro c
  cases revision.schema with
  | current =>
    exact ⟨rfl, fun request => creates_of_containerRequest CreateContainerResponse r c request w past⟩
  | legacy =>
    exact ⟨rfl, fun request => ⟨fun ownImage => request.upgrade_under _ ownImage,
      creates_of_containerRequest CreateContainerResponse r c request w past⟩⟩

end Router

end RuntimeMux
