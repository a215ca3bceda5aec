import RuntimeMux.Proofs.Router.ImageOwner
import RuntimeMux.Proofs.Routing.NewContainers

/-!
# New containers without an image

A caller that tells no image for a new container is refused. Whether it tells one is seen from its own
reference, though, which is qualified by the scope of the runtime. A reference that consists of the
qualifier of the right runtime and nothing else is taken for an image, and when the qualifier has been
taken off, the runtime is sent a request for a container of no image. There is no other way to it.
-/

namespace RuntimeMux

open Cri Wire

/-- The qualifier of a scope without an image behind it. -/
def Scope.bareQualifier? : Scope → Option String
  | .primary => none
  | .named id => some (id.text ++ "/")

namespace Scope

variable {s : Scope} {image own : String}

/-- Of all the references that a runtime takes, only the bare qualifier of its scope is empty for it. -/
theorem own_eq_empty_iff (told : image ≠ "") (takes : s.ownImage? image = some own) :
    own = "" ↔ s.bareQualifier? = some image := by
  cases s with
  | primary =>
    cases takes
    simp [told, bareQualifier?]
  | named i =>
    rw [ownImage?_named_eq_some_iff] at takes
    subst takes
    have bare : i.text ++ "/" = i.text ++ "/" ++ own ↔ own = "" := by
      simpa [eq_comm] using qualified_image_eq_iff (i := i) (j := i) (x := "") (y := own)
    rw [bareQualifier?, Option.some_inj, bare]

/-- A digest is not qualified, not even for no image. -/
theorem bareQualifier?_ne_digest (digest : isDigest image = true) :
    s.bareQualifier? ≠ some image := by
  cases s with
  | primary => exact nofun
  | named i =>
    intro bare
    apply slash_notMem_of_isDigest digest
    rw [← Option.some_inj.1 bare]
    simp

end Scope

/-! ### Images in requests -/

namespace Cri

theorem CreateContainerRequest.textOf_under (m : CreateContainerRequest)
    (told : Router.textOf .image m ≠ "") (own image : String) :
    Router.textOf .image (m.under own image) = image := by
  obtain ⟨podSandboxId, _ | ⟨metadata, _ | spec⟩, sandboxConfig⟩ := m
  · exact absurd rfl told
  · exact absurd rfl told
  · rfl

theorem Legacy.CreateContainerRequest.textOf_under (m : Legacy.CreateContainerRequest)
    (told : Router.textOf .image m ≠ "") (own image : String) :
    Router.textOf .image (m.under own image) = image := by
  obtain ⟨podSandboxId, _ | ⟨metadata, _ | spec⟩, sandboxConfig⟩ := m
  · exact absurd rfl told
  · exact absurd rfl told
  · rfl

/-- A request is upgraded with its image. -/
theorem Legacy.CreateContainerRequest.textOf_upgrade (m : Legacy.CreateContainerRequest) :
    Router.textOf .image m.upgrade = Router.textOf .image m := by
  obtain ⟨podSandboxId, _ | ⟨metadata, _ | spec⟩, sandboxConfig⟩ := m <;> rfl

end Cri

namespace Router

variable {Req Resp : Type} [Message Req] [Message Resp] [Convertible Req] [Convertible Resp]
  [Views Req] [Views Resp] [Scoped Resp] {r : Router} {b : Backend} {image own : String}

/-- What becomes of the image when a container is to be created in a pod sandbox of the runtime `b`. -/
structure NamesImage (r : Router) (b : Backend) (c : Call) (request : Req)
    (handling : Handling Resp) (w : World) (past : Journal) : Prop where
  /-- Only the runtime is asked, and the image that it is asked for has no name exactly if the caller
  has told the bare qualifier of the runtime. -/
  sent : ∀ asked link rpc, (asked, link, rpc) ∈ Journal.sent (handling.run.play w past).2 →
    asked = b ∧ ∃ given : Req, rpc = c.rpc link given ∧
      (textOf .image given = "" ↔ b.scope.bareQualifier? = some (textOf .image request))
  /-- Any other image that has no name for its owner is refused. -/
  unnamed : (r.ownerOfName (textOf .image request)).2 = "" →
    b.scope.bareQualifier? ≠ some (textOf .image request) →
    Journal.sent (handling.run.play w past).2 = [] ∧
      ∀ readied, (ready b).run.play w past = (.ok (), readied) →
        (handling.run.play w past).1 = .error
          (if textOf .image request = "" then .noImage else .wrongRuntime (textOf .image request))

/-- An image that is admitted has no name for the runtime exactly if it is the bare qualifier. -/
theorem Admits.own_eq_empty_iff (admits : r.Admits b image own) :
    own = "" ↔ b.scope.bareQualifier? = some image := by
  cases admits with
  | digest hi hd => simp [hi, Scope.bareQualifier?_ne_digest hd]
  | name hi hd owns =>
    have takes := (r.ownImage?_ownerOfName image).2
    rw [owns] at takes
    exact Scope.own_eq_empty_iff hi takes

theorem namesImage_of_creates [ContainerRequest Req] {c : Call} {request : Req} (sandbox : String)
    {handling : Handling Resp} {w : World} {past : Journal}
    (kept : textOf .image request ≠ "" → ∀ own image,
      textOf .image (ContainerRequest.under request own image) = image)
    (creates : r.Creates b c (textOf .image request) (ContainerRequest.under request sandbox)
      handling w past) : r.NamesImage b c request handling w past := by
  constructor
  case sent =>
    intro asked link rpc mem
    rcases creates.sent with unsent | ⟨own, link', admits, sent⟩
    · rw [unsent] at mem
      cases mem
    · rw [sent] at mem
      cases List.mem_singleton.1 mem
      have told : textOf .image request ≠ "" := by
        cases admits with
        | digest hi | name hi => exact hi
      refine ⟨rfl, ContainerRequest.under request sandbox own, rfl, ?_⟩
      rw [kept told, admits.own_eq_empty_iff]
  case unnamed =>
    intro empty other
    have refused (own : String) : ¬ r.Admits b (textOf .image request) own := by
      intro admits
      have takes := (r.ownImage?_ownerOfName (textOf .image request)).2
      cases admits with
      | digest hi hd =>
        exact Scope.bareQualifier?_ne_digest hd ((Scope.own_eq_empty_iff hi takes).1 empty)
      | name hi hd owns =>
        rw [owns] at empty takes
        exact other ((Scope.own_eq_empty_iff hi takes).1 empty)
    constructor
    · rcases creates.sent with unsent | ⟨own, link, admits, -⟩
      · exact unsent
      · exact absurd admits (refused own)
    · intro readied hr
      by_cases told : textOf .image request = ""
      · rw [(creates.noImage told readied hr).1, if_pos told]
      · have undigested : isDigest (textOf .image request) = false := by
          apply Bool.eq_false_iff.2
          intro hd
          exact refused _ (.digest told hd)
        have elsewhere : (r.ownerOfName (textOf .image request)).1 ≠ b := by
          intro owns
          exact refused _ (.name told undigested (Prod.ext owns rfl))
        rw [(creates.wrongRuntime told undigested elsewhere readied hr).1, if_neg told]

/-- A container of no image is asked for exactly if the caller tells the bare qualifier of the runtime
of the pod sandbox, in either schema. Every other image that is none for its owner is refused. -/
theorem follow_namesImage (r : Router) (revision : Revision) (deadline : Option Span) (w : World)
    (past : Journal) :
    let c : Call := ⟨.createContainer, revision, deadline⟩
    match revision.schema with
    | .current =>
      Method.createContainer.exchange .current =
          .routed CreateContainerRequest CreateContainerResponse .newContainer ∧
        ∀ request : CreateContainerRequest,
          r.NamesImage (r.ownerOfId request.podSandboxId).1 c request
            (r.follow .newContainer c request : Handling CreateContainerResponse) w past
    | .legacy =>
      Method.createContainer.exchange .legacy =
          .routed Legacy.CreateContainerRequest CreateContainerResponse .newContainer ∧
        ∀ request : Legacy.CreateContainerRequest,
          textOf .image request.upgrade = textOf .image request ∧
          r.NamesImage (r.ownerOfId request.podSandboxId).1 c request
            (r.follow .newContainer c request : Handling CreateContainerResponse) w past := by
  intro c
  cases revision.schema with
  | current =>
    refine ⟨rfl, ?_⟩
    intro request
    apply namesImage_of_creates (r.ownerOfId request.podSandboxId).2 request.textOf_under
    exact creates_of_containerRequest CreateContainerResponse r c request w past
  | legacy =>
    refine ⟨rfl, ?_⟩
    intro request
    refine ⟨request.textOf_upgrade, ?_⟩
    apply namesImage_of_creates (r.ownerOfId request.podSandboxId).2 request.textOf_under
    exact creates_of_containerRequest CreateContainerResponse r c request w past

/-- A caller asks for a container of the image that has no name after the qualifier of its runtime. The
runtime is sent the request, without a name of an image, although the caller should have been refused. -/
theorem follow_namesImage_bare :
    let primary : Backend := ⟨.primary, "/run/primary.sock"⟩
    let alt : Backend := ⟨.named ⟨"alt", by decide⟩, "/run/alt.sock"⟩
    let r : Router :=
      ⟨primary, [alt], ⟨"http", none, .plain "", none, none⟩, rfl, by decide, by decide⟩
    let c : Call := ⟨.createContainer, .v1, none⟩
    let request : CreateContainerRequest := ⟨"alt__p1", some { image := some ⟨"alt/"⟩ }, none⟩
    let given : CreateContainerRequest := ⟨"p1", some { image := some ⟨""⟩ }, none⟩
    let w := World.steady (fun _ => some ⟨.v1, 1⟩) fun _ _ => .ok []
    let played := (r.follow .newContainer c request :
      Handling CreateContainerResponse).run.play w []
    r.ownerOfName (textOf .image request) = (alt, "") ∧
      Journal.sent played.2 = [(alt, ⟨.v1, 1⟩, c.rpc ⟨.v1, 1⟩ given)] ∧
      textOf .image given = "" ∧
      played.1.toOption.map CreateContainerResponse.containerId = some "alt__" ∧
      ¬ Journal.sent played.2 = [] := by
  decide +kernel

end Router

end RuntimeMux
