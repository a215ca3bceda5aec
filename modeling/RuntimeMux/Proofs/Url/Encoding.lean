import Mathlib.Data.Bool.AllAny
import Mathlib.Data.List.Basic
import RuntimeMux.Url.Percent

/-!
# Percent encoding

An encoding holds no character that is to be encoded: of the text it keeps the others, and what it
puts in the place of a character are a percent sign and digits, which no part of a URL has to
encode. So what has been encoded is encoded as it is. What has no percent sign is decoded as it is.
-/

namespace RuntimeMux.Url

/-- The characters that an encoding puts in the place of others. -/
def escapes : List Char := "%0123456789ABCDEF".toList

/-- Whether what stands for an encoded character need not be encoded itself. -/
def SparesEscapes (encoded : Char → Bool) : Prop :=
  ∀ c ∈ escapes, encoded c = false

theorem sparesEscapes_isControl : SparesEscapes isControl := by
  unfold SparesEscapes
  exact List.all_iff_forall_prop.1 (by decide)

theorem sparesEscapes_inFragment : SparesEscapes encodedInFragment := by
  unfold SparesEscapes
  exact List.all_iff_forall_prop.1 (by decide)

theorem sparesEscapes_inQuery (special : Bool) : SparesEscapes (encodedInQuery special) := by
  unfold SparesEscapes
  cases special <;> exact List.all_iff_forall_prop.1 (by decide)

theorem sparesEscapes_inPath : SparesEscapes encodedInPath := by
  unfold SparesEscapes
  exact List.all_iff_forall_prop.1 (by decide)

theorem sparesEscapes_inUserInfo : SparesEscapes encodedInUserInfo := by
  unfold SparesEscapes
  exact List.all_iff_forall_prop.1 (by decide)

variable {encoded : Char → Bool} {c : Char} {cs : List Char}

theorem visible_of_plain (h : isControl c = false) (space : c ≠ ' ') : 0x20 < c.toNat := by
  have : c.toNat ≠ ' '.toNat := fun same => space (Char.toNat_inj.1 same)
  simp only [isControl, Bool.or_eq_false_iff, decide_eq_false_iff_not] at h
  simp only [Char.reduceToNat] at this
  omega

/-! ### Encoding -/

theorem mem_escapes_of_mem_percentByte {b : UInt8} (h : c ∈ percentByte b) : c ∈ escapes := by
  have digit : ∀ n < 16, upperHexDigit n ∈ escapes := by decide
  have small : b.toNat < 256 := b.toNat_lt
  simp only [percentByte, List.mem_cons, List.not_mem_nil, or_false] at h
  rcases h with rfl | rfl | rfl
  · decide
  · exact digit _ (by omega)
  · exact digit _ (by omega)

theorem mem_percentEncode (h : c ∈ percentEncode encoded cs) :
    c ∈ escapes ∨ c ∈ cs ∧ encoded c = false := by
  simp only [percentEncode, List.mem_flatMap] at h
  obtain ⟨d, mem, h⟩ := h
  split at h
  next =>
    obtain ⟨b, -, h⟩ := List.mem_flatMap.1 h
    exact .inl (mem_escapes_of_mem_percentByte h)
  next plain =>
    obtain rfl := List.mem_singleton.1 h
    exact .inr ⟨mem, by simpa using plain⟩

/-- Nothing is left to be encoded. -/
theorem encoded_eq_false_of_mem (spares : SparesEscapes encoded)
    (h : c ∈ percentEncode encoded cs) : encoded c = false :=
  (mem_percentEncode h).elim (spares c) And.right

theorem percentEncode_percentEncode (spares : SparesEscapes encoded) (cs : List Char) :
    percentEncode encoded (percentEncode encoded cs) = percentEncode encoded cs :=
  percentEncode_eq_self fun _ => encoded_eq_false_of_mem spares

theorem length_bytesOfText (text : String) : (Wire.bytesOfText text).length = text.utf8ByteSize :=
  rfl

theorem percentEncode_eq_nil_iff : percentEncode encoded cs = [] ↔ cs = [] := by
  constructor
  · intro empty
    cases cs with
    | nil => rfl
    | cons c cs =>
      have bytes : Wire.bytesOfText (String.singleton c) ≠ [] := by
        intro none
        have := length_bytesOfText (String.singleton c)
        rw [none, String.utf8ByteSize_singleton] at this
        exact absurd this.symm (Nat.ne_of_gt c.utf8Size_pos)
      simp only [percentEncode, List.flatMap_cons, List.append_eq_nil_iff] at empty
      have first := empty.1
      split at first
      · obtain ⟨b, bs, cons⟩ := List.exists_cons_of_ne_nil bytes
        simp [cons, percentByte] at first
      · simp at first
  · rintro rfl
    rfl

/-! ### Decoding -/

theorem percentDecode_cons_of_ne (h : c ≠ '%') (cs : List Char) :
    percentDecode (c :: cs) = Wire.bytesOfText (String.singleton c) ++ percentDecode cs := by
  rw [percentDecode.eq_def]
  split
  next same => cases same
  next same =>
    obtain ⟨rfl, -⟩ := List.cons.inj same
    exact absurd rfl h
  next same =>
    obtain ⟨rfl, rfl⟩ := List.cons.inj same
    rfl

theorem percentDecode_of_notMem (h : '%' ∉ cs) :
    percentDecode cs = Wire.bytesOfText (String.ofList cs) := by
  induction cs with
  | nil => rfl
  | cons c cs ih =>
    obtain ⟨hc, hcs⟩ := List.ne_and_not_mem_of_not_mem_cons h
    rw [percentDecode_cons_of_ne hc.symm, ih hcs, String.ofList_cons]
    simp [Wire.bytesOfText]

end RuntimeMux.Url
