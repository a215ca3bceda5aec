import RuntimeMux.Proofs.Cri.OwnTexts

/-!
# References of containers to images

A runtime says of every container which image it was created of, by the id of the image or by one of
its digests in repositories. Callers look this reference up among the ids and digests of the images
that are listed, to find out which images are in use. An id or digest with a name in it is qualified
before they see it, but the reference of the container is not. So only a reference without a name is
sure to lead to its image. One with a name leads there if callers see just this text in the place of
another name of the image, and is lost otherwise.
-/

namespace RuntimeMux

open Cri

namespace Scope

variable {s : Scope} {naming : Naming} {own seen : String}

/-! ### What is recovered -/

theorem ownImage?_eq_some_iff (told : own ≠ "") (undigested : isDigest own = false) :
    s.ownImage? seen = some own ↔ seen = s.qualifyImage own := by
  cases s with
  | primary => exact Option.some_inj
  | named i => rw [ownImage?_named_eq_some_iff, qualifyImage_named told undigested]

/-- With a name in front of it, a digest is qualified like the name of an image. -/
theorem qualifyRepoDigest_of_named {name hash : String}
    (named : Text.splitFirst? '@' own = some (name, hash)) (told : name ≠ "") :
    qualifyRepoDigest s own = s.qualifyImage own := by
  simp [qualifyRepoDigest, named, told]

theorem qualifyRepoDigest_of_bare
    (bare : ∀ name hash, Text.splitFirst? '@' own = some (name, hash) → name = "") :
    qualifyRepoDigest s own = own := by
  rw [qualifyRepoDigest]
  split
  next name hash named => simp [bare name hash named]
  next => rfl

/-- A text is recovered from what callers see of it, and from nothing else. -/
theorem recovers_iff : s.Recovers naming own seen ↔ seen = s.qualify naming own := by
  constructor
  · intro recovers
    cases recovers with
    | object back =>
      cases s with
      | primary => exact Option.some_inj.1 back
      | named i => exact Text.after?_eq_some_iff.1 back
    | image told undigested back => exact (ownImage?_eq_some_iff told undigested).1 back
    | nameless kept => exact (qualifyImage_nameless kept).symm
    | named named told back =>
      have told' : own ≠ "" := by
        rintro rfl
        cases named
      rw [qualify, qualifyRepoDigest_of_named named told]
      exact (ownImage?_eq_some_iff told' (isDigest_eq_false_of_splitFirst? named)).1 back
    | bare bare => exact (qualifyRepoDigest_of_bare bare).symm
  · rintro rfl
    exact s.recovers_qualify naming own

end Scope

namespace Cri.Image

/-! ### References to images -/

/-- The texts by which a container may refer to an image: its id and its digests in repositories. -/
def references (m : Image) : List String :=
  m.id :: m.repoDigests

/-- A reference to an image without a name in it. -/
inductive Nameless (m : Image) : String → Prop where
  | id (kept : m.id = "" ∨ isDigest m.id = true) : m.Nameless m.id
  | digest {ref : String} (mem : ref ∈ m.repoDigests)
      (bare : ∀ name hash, Text.splitFirst? '@' ref = some (name, hash) → name = "") :
      m.Nameless ref

/-- A reference to an image by a name of it. -/
inductive Named (m : Image) : String → Prop where
  | id (told : m.id ≠ "") (undigested : isDigest m.id = false) : m.Named m.id
  | digest {ref name hash : String} (mem : ref ∈ m.repoDigests)
      (named : Text.splitFirst? '@' ref = some (name, hash)) (told : name ≠ "") : m.Named ref

/-- A reference is what callers see in the place of some name of the image. -/
def LooksLike (s : Scope) (m : Image) (ref : String) : Prop :=
  ∃ own, m.Named own ∧ s.ownImage? ref = some own

variable {s : Scope} {m : Image} {ref : String}

/-- The references that callers see are those without a name and the qualified ones. -/
theorem mem_references_qualify_iff :
    ref ∈ (Scoped.qualify s m).references ↔ m.Nameless ref ∨ m.LooksLike s ref := by
  have seen : ref ∈ (Scoped.qualify s m).references ↔
      s.Recovers .image m.id ref ∨ ∃ own ∈ m.repoDigests, s.Recovers .repoDigest own ref := by
    simp [references, Scoped.qualify, Scope.recovers_iff, Scope.qualify, eq_comm]
  rw [seen]
  constructor
  · rintro (recovers | ⟨own, mem, recovers⟩)
    · cases recovers with
      | image told undigested back => exact .inr ⟨m.id, .id told undigested, back⟩
      | nameless kept => exact .inl (.id kept)
    · cases recovers with
      | named named told back => exact .inr ⟨own, .digest mem named told, back⟩
      | bare bare => exact .inl (.digest mem bare)
  · rintro (nameless | ⟨own, named, back⟩)
    · cases nameless with
      | id kept => exact .inl (.nameless kept)
      | digest mem bare => exact .inr ⟨ref, mem, .bare bare⟩
    · cases named with
      | id told undigested => exact .inl (.image told undigested back)
      | digest mem named told => exact .inr ⟨own, mem, .named named told back⟩

/-- Callers see the primary runtime as it is. -/
theorem mem_references_qualify_primary :
    ref ∈ (Scoped.qualify .primary m).references ↔ ref ∈ m.references := by
  rw [LawfulScoped.qualify_primary]

/-- A container whose runtime refers to an image by its id or by one of its digests leads callers to
this image, as they see both, exactly if the runtime is the primary one, if there is no name in the
reference, or if it looks like another name of the image. -/
theorem imageRef_mem_references_iff (s : Scope) (m : Image) (ref : String)
    (refers : ref ∈ m.references) :
    (∀ c : Container, c.imageRef = ref →
      ((Scoped.qualify s c).imageRef ∈ (Scoped.qualify s m).references ↔
        s = .primary ∨ m.Nameless ref ∨ m.LooksLike s ref)) ∧
    ∀ (r : ContainerStatusResponse) (status : ContainerStatus), r.status = some status →
      status.imageRef = ref → ∃ seen, (Scoped.qualify s r).status = some seen ∧
        (seen.imageRef ∈ (Scoped.qualify s m).references ↔
          s = .primary ∨ m.Nameless ref ∨ m.LooksLike s ref) := by
  have found : ref ∈ (Scoped.qualify s m).references ↔
      s = .primary ∨ m.Nameless ref ∨ m.LooksLike s ref := by
    rw [mem_references_qualify_iff]
    refine ⟨.inr, ?_⟩
    rintro (rfl | seen)
    · exact mem_references_qualify_iff.1 (mem_references_qualify_primary.2 refers)
    · exact seen
  constructor
  · rintro c rfl
    exact found
  · rintro r status told rfl
    refine ⟨status.qualify s, ?_, found⟩
    show r.status.map _ = _
    rw [told]
    rfl

/-- A container of a runtime that is not the primary one refers to its image by the digest of the
image, and callers find the image. -/
theorem imageRef_mem_references_digest :
    let digest := "sha256:0123456789abcdef0123456789abcdef0123456789abcdef0123456789abcdef"
    let alt : Scope := .named ⟨"alt", by decide⟩
    let m : Image := { id := digest, repoDigests := ["busybox@" ++ digest] }
    let c : Container := { id := "c1", imageRef := digest }
    let r : ContainerStatusResponse := { status := some { id := "c1", imageRef := digest } }
    digest ∈ m.references ∧
      (Scoped.qualify alt c).imageRef ∈ (Scoped.qualify alt m).references ∧
      ∃ seen, (Scoped.qualify alt r).status = some seen ∧
        seen.imageRef ∈ (Scoped.qualify alt m).references := by
  intro digest alt m c r
  have refers : digest ∈ m.references := List.mem_cons_self
  have nameless : m.Nameless digest := .id (.inr (by decide +kernel))
  obtain ⟨containers, statuses⟩ := imageRef_mem_references_iff alt m digest refers
  obtain ⟨seen, told, found⟩ := statuses r _ rfl rfl
  exact ⟨refers, (containers c rfl).2 (.inr (.inl nameless)),
    seen, told, found.2 (.inr (.inl nameless))⟩

/-- A container of a runtime that is not the primary one refers to its image by a digest with a name
in front of it. Callers see the digest of the image qualified, and do not find it. -/
theorem imageRef_mem_references_named :
    let digest := "sha256:0123456789abcdef0123456789abcdef0123456789abcdef0123456789abcdef"
    let alt : Scope := .named ⟨"alt", by decide⟩
    let m : Image := { id := digest, repoDigests := ["busybox@" ++ digest] }
    let c : Container := { id := "c1", imageRef := "busybox@" ++ digest }
    let r : ContainerStatusResponse :=
      { status := some { id := "c1", imageRef := "busybox@" ++ digest } }
    c.imageRef ∈ m.references ∧
      (Scoped.qualify alt m).references = [digest, "alt/busybox@" ++ digest] ∧
      (Scoped.qualify alt c).imageRef ∉ (Scoped.qualify alt m).references ∧
      (Scoped.qualify alt r).status.map (·.imageRef) = some c.imageRef := by
  decide +kernel

end Cri.Image

end RuntimeMux
