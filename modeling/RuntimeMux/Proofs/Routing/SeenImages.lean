import RuntimeMux.Proofs.Router.Configured
import RuntimeMux.Proofs.Router.ImageOwner
import RuntimeMux.Proofs.Routing.NewContainers

/-!
# Images that callers have seen

Callers learn the names of images from what runtimes tell of their containers and images, and create
containers of these images again. Such a name leads back to the runtime that it has come from, without
a look at the names that images are known by, and so the runtime gets it back as its own.
-/

namespace RuntimeMux.Router

open Cri Wire

/-- Whenever a container is to be created of the image `seen`, in any pod sandbox of a runtime, the
runtime is given the request and knows the image as `own`. -/
def Accepts (r : Router) (b : Backend) (seen own : String) (Req : Type) [Message Req]
    [Convertible Req] [Views Req] [ContainerRequest Req] : Prop :=
  ∀ (c : Call) (request : Req) (sandbox : String) (w : World) (past : Journal),
    textOf .image request = seen →
    r.ownerOfId (textOf .podSandboxId request) = (b, sandbox) →
    r.Delivers b c (.ok (ContainerRequest.under request sandbox own))
      (r.follow .newContainer c request : Handling CreateContainerResponse) w past

theorem accepts_of_admits {r : Router} {b : Backend} {seen own : String}
    (admits : r.Admits b seen own) {Req : Type} [Message Req] [Convertible Req] [Views Req]
    [ContainerRequest Req] : r.Accepts b seen own Req := by
  intro c request sandbox w past image owner
  have creates := creates_of_containerRequest CreateContainerResponse r c request w past
  rw [owner, image] at creates
  have delivered := creates.delivered
  rw [admitImage_eq_ok_iff.2 admits] at delivered
  exact delivered

/-- What becomes of an image that a runtime calls `name`. -/
structure Returns (r : Router) (b : Backend) (name : String) : Prop where
  /-- Callers do not see it as a digest. -/
  undigested : isDigest (b.scope.qualifyImage name) = false
  /-- What callers see belongs to the runtime, under this name. -/
  owned : r.ownerOfName (b.scope.qualifyImage name) = (b, name)
  /-- To find this out, nothing is looked up. -/
  found : ∀ w past, (r.findImage (b.scope.qualifyImage name)).play w past = ((b, name), [])
  /-- Containers of the image can be created in all pod sandboxes of the runtime, by what callers have
  seen in its place. -/
  created : ∀ seen, b.scope.Reports name seen →
    r.Accepts b seen name CreateContainerRequest ∧
      r.Accepts b seen name Legacy.CreateContainerRequest

theorem returns_of_mem {r : Router} {b : Backend} (hb : b ∈ r.named) {name : String}
    (hn : name ≠ "") (hd : isDigest name = false) : r.Returns b name := by
  obtain ⟨i, hi⟩ := Scope.exists_eq_named (r.named_scope b hb)
  have undigested : isDigest (b.scope.qualifyImage name) = false := by
    rw [hi]
    exact Scope.isDigest_qualifyImage_named hn hd
  have told : b.scope.qualifyImage name ≠ "" := by
    rw [hi, Scope.qualifyImage_named hn hd]
    simp
  have owned := ownerOfName_qualifyImage hb hn hd
  constructor
  case undigested => exact undigested
  case owned => exact owned
  case found =>
    intro w past
    simp [findImage, ownerOfImage, undigested, owned]
  case created =>
    intro seen reported
    obtain rfl := reported.eq_qualifyImage
    have admits : r.Admits b (b.scope.qualifyImage name) name := .name told undigested owned
    exact ⟨accepts_of_admits admits, accepts_of_admits admits⟩

/-- The images of named runtimes come back to them under their own names, whatever other runtimes
there are and in whatever order. -/
theorem qualifyImage_returns {stream : Url} {first : Backend} {rest : List Backend} {r : Router}
    (built : ofBackends stream (first :: rest) = .ok r) :
    (∀ b ∈ rest, ∀ name, name ≠ "" → isDigest name = false → r.Returns b name) ∧
    ∀ rest' : List Backend, rest'.Perm rest → ∃ r',
      ofBackends stream (first :: rest') = .ok r' ∧
        ∀ reference, r'.ownerOfName reference = r.ownerOfName reference := by
  obtain ⟨rfl, rfl⟩ := ofBackends_cons_eq_ok built
  refine ⟨fun b hb name => returns_of_mem hb, fun rest' perm => ?_⟩
  obtain ⟨r', built'⟩ := ofBackends_of_perm built perm
  obtain ⟨primary, rfl⟩ := ofBackends_cons_eq_ok built'
  exact ⟨r', built', ownerOfName_congr primary fun b => perm.mem_iff⟩

/-- With an id that looks like a digest, an image comes back as it is, also in the other order. -/
theorem qualifyImage_returns_digestlike :
    let primary : Backend := ⟨.primary, "/run/primary.sock"⟩
    let alt : Backend := ⟨.named ⟨"alt", by decide⟩, "/run/alt.sock"⟩
    let other : Backend := ⟨.named ⟨"sha256:0", by decide⟩, "/run/other.sock"⟩
    let stream : Url := ⟨"http", none, .plain "", none, none⟩
    ∃ r r', ofBackends stream [primary, alt, other] = .ok r ∧
      ofBackends stream [primary, other, alt] = .ok r' ∧
      r.Returns other "busybox:1.36" ∧
      ∀ reference, r'.ownerOfName reference = r.ownerOfName reference := by
  intro primary alt other stream
  obtain ⟨r, built⟩ : ∃ r, ofBackends stream [primary, alt, other] = .ok r := ⟨_, rfl⟩
  obtain ⟨returns, reordered⟩ := qualifyImage_returns built
  obtain ⟨r', built', same⟩ := reordered [other, alt] (.swap alt other [])
  exact ⟨r, r', built, built', returns other (by simp) "busybox:1.36" (by decide) (by decide), same⟩

end RuntimeMux.Router
