import RuntimeMux.Cri.Scoped
import RuntimeMux.Proofs.Scope.Digests

/-!
# Qualified names of images

The qualifier of an image ends with the first `/` of the qualified name, because the ids of scopes hold
none. So a qualified name is read back in one way only, unlike the qualified id of an object. A digest
holds no `/` either, so that a qualified name is never taken for one, whatever the id of the scope.
-/

namespace RuntimeMux

/-! ### Qualifiers -/

namespace Scope

/-- Two names are qualified to one text only by the same scope, and only if they are the same. -/
theorem qualified_image_eq_iff {i j : ScopeId} {x y : String} :
    i.text ++ "/" ++ x = j.text ++ "/" ++ y ↔ i = j ∧ x = y := by
  constructor
  · intro same
    -- both texts are cut at their first `/`, which is that of the qualifier
    have cut (k : ScopeId) (z : String) :
        Text.cutFirst? '/' (k.text ++ "/" ++ z).toList = some (k.text.toList, z.toList) :=
      Text.cutFirst?_eq_some_iff.2 ⟨by simp, k.slash_notMem⟩
    have both := cut i x
    rw [same, cut j y] at both
    obtain ⟨texts, rests⟩ := Prod.mk.inj (Option.some.inj both)
    exact ⟨ScopeId.text_injective (String.toList_inj.1 texts.symm),
      String.toList_inj.1 rests.symm⟩
  · rintro ⟨rfl, rfl⟩
    rfl

variable {i j : ScopeId} {image own name : String}

theorem ownImage?_named_eq_some_iff :
    (named i).ownImage? image = some own ↔ image = i.text ++ "/" ++ own :=
  Text.after?_eq_some_iff

theorem qualifyImage_named (hn : name ≠ "") (hd : isDigest name = false) :
    (named i).qualifyImage name = i.text ++ "/" ++ name := by
  simp [qualifyImage, hn, hd]

/-- A qualified name is no digest, whatever the id of the scope. -/
theorem isDigest_qualifyImage_named (hn : name ≠ "") (hd : isDigest name = false) :
    isDigest ((named i).qualifyImage name) = false := by
  rw [qualifyImage_named hn hd, ← Bool.not_eq_true]
  intro digest
  exact slash_notMem_of_isDigest digest (by simp)

/-- A qualified name is read back by the scope that has qualified it, as the same name. -/
theorem ownImage?_qualifyImage_iff (hn : name ≠ "") (hd : isDigest name = false) :
    (named j).ownImage? ((named i).qualifyImage name) = some own ↔ i = j ∧ name = own := by
  rw [ownImage?_named_eq_some_iff, qualifyImage_named hn hd, qualified_image_eq_iff]

/-! ### Names that callers see -/

open Cri

/-- A runtime tells of a container or an image, and names an image `own`, which callers see as
`seen`. -/
inductive Reports (s : Scope) : String → String → Prop where
  /-- The image of a container in a list. -/
  | container {m : Container} {spec seen : ImageSpec} (told : m.image = some spec)
      (shown : (Scoped.qualify s m).image = some seen) : Reports s spec.image seen.image
  /-- The image of a container whose status is asked for. -/
  | status {m : ContainerStatusResponse} {status : ContainerStatus} {spec seen : ImageSpec}
      (told : m.status = some status) (image : status.image = some spec)
      (shown : ((Scoped.qualify s m).status.bind ContainerStatus.image) = some seen) :
      Reports s spec.image seen.image
  /-- A name of an image. -/
  | tag {m : Image} {i : Nat} {own seen : String} (told : m.repoTags[i]? = some own)
      (shown : (Scoped.qualify s m).repoTags[i]? = some seen) : Reports s own seen
  /-- The id of an image. -/
  | id {m : Image} : Reports s m.id (Scoped.qualify s m).id
  /-- A name of an image with its digest. -/
  | digest {m : Image} {i : Nat} {own seen front hash : String}
      (told : m.repoDigests[i]? = some own)
      (named : Text.splitFirst? '@' own = some (front, hash)) (hf : front ≠ "")
      (shown : (Scoped.qualify s m).repoDigests[i]? = some seen) : Reports s own seen
  /-- An image that has been pulled. -/
  | pulled {m : PullImageResponse} : Reports s m.imageRef (Scoped.qualify s m).imageRef

/-- Callers see qualified names. -/
theorem Reports.eq_qualifyImage {s : Scope} {own seen : String} (h : s.Reports own seen) :
    seen = s.qualifyImage own := by
  cases h with
  | @container m spec seen told shown =>
    simp [Scoped.qualify, told] at shown
    simp [← shown, ImageSpec.qualify]
  | @status m status spec seen told image shown =>
    simp [Scoped.qualify, told, ContainerStatus.qualify, image] at shown
    simp [← shown, ImageSpec.qualify]
  | tag told shown =>
    simp [Scoped.qualify, told] at shown
    exact shown.symm
  | digest told named hf shown =>
    simp [Scoped.qualify, told, qualifyRepoDigest, named, hf] at shown
    exact shown.symm
  | id | pulled => rfl

end Scope

end RuntimeMux
