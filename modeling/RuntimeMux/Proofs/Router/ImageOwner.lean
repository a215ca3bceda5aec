import Mathlib.Data.List.Nodup
import RuntimeMux.Proofs.Router.Owner
import RuntimeMux.Proofs.Scope.ImageQualifier

/-!
# Owners of qualified images

At most one named runtime takes the name of an image, so the order of the runtimes is of no account,
and a named runtime gets all its images back by the names that it has for them.
-/

namespace RuntimeMux.Router

variable {r : Router} {b : Backend} {name own : String}

/-- No two named runtimes take one name of an image. -/
theorem eq_of_ownImage? {c : Backend} {other : String} (hb : b ∈ r.named) (hc : c ∈ r.named)
    (takes : b.scope.ownImage? name = some own) (taken : c.scope.ownImage? name = some other) :
    b = c := by
  obtain ⟨i, hi⟩ := Scope.exists_eq_named (r.named_scope b hb)
  obtain ⟨j, hj⟩ := Scope.exists_eq_named (r.named_scope c hc)
  rw [hi, Scope.ownImage?_named_eq_some_iff] at takes
  rw [hj, Scope.ownImage?_named_eq_some_iff, takes, Scope.qualified_image_eq_iff] at taken
  exact List.inj_on_of_nodup_map r.nodup hb hc (by rw [hi, hj, taken.1])

/-- A named runtime that takes the name of an image owns it, wherever it stands. -/
theorem ownerOfName_of_mem (hb : b ∈ r.named) (takes : b.scope.ownImage? name = some own) :
    r.ownerOfName name = (b, own) := by
  unfold ownerOfName
  cases hf : r.named.findSome? fun b => (b.scope.ownImage? name).map fun own => (b, own) with
  | none =>
    have refuses := List.findSome?_eq_none_iff.1 hf b hb
    rw [takes] at refuses
    cases refuses
  | some owner =>
    obtain ⟨c, hc, found⟩ := List.exists_of_findSome?_eq_some hf
    obtain ⟨other, taken, rfl⟩ := Option.map_eq_some_iff.1 found
    obtain rfl := eq_of_ownImage? hb hc takes taken
    rw [takes] at taken
    cases taken
    rfl

/-- The order of the runtimes is of no account. -/
theorem ownerOfName_congr {r' : Router} (primary : r'.primary = r.primary)
    (named : ∀ b, b ∈ r'.named ↔ b ∈ r.named) (name : String) :
    r'.ownerOfName name = r.ownerOfName name := by
  -- whether some named runtime takes the name, and which one, is said without an order
  by_cases taken : ∃ b ∈ r.named, ∃ own, b.scope.ownImage? name = some own
  · obtain ⟨b, hb, own, takes⟩ := taken
    rw [ownerOfName_of_mem hb takes, ownerOfName_of_mem ((named b).2 hb) takes]
  · have unqualified : ∀ b ∈ r.named, b.scope.ownImage? name = none := fun b hb =>
      Option.eq_none_iff_forall_ne_some.2 fun own takes => taken ⟨b, hb, own, takes⟩
    rw [ownerOfName_of_unqualified unqualified,
      ownerOfName_of_unqualified fun b hb => unqualified b ((named b).1 hb), primary]

/-- A named runtime gets its images back. -/
theorem ownerOfName_qualifyImage (hb : b ∈ r.named) (hn : name ≠ "")
    (hd : isDigest name = false) : r.ownerOfName (b.scope.qualifyImage name) = (b, name) := by
  obtain ⟨i, hi⟩ := Scope.exists_eq_named (r.named_scope b hb)
  refine ownerOfName_of_mem hb ?_
  rw [hi]
  exact (Scope.ownImage?_qualifyImage_iff hn hd).2 ⟨rfl, rfl⟩

end RuntimeMux.Router
