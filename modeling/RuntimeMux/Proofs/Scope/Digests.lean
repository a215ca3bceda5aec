import Mathlib.Tactic.SplitIfs
import RuntimeMux.Proofs.Scope.Qualifier

/-!
# Digests

A digest is the name of an algorithm, a colon and a hash of so many lower-case hexadecimal digits. What
is tested of a hash is how many bytes it takes, that no letter is an upper-case one, and that it can be
read two digits at a time. All this together says the same of each character on its own, because a
character that is a digit takes one byte. So a digest holds no `/`, which separates a qualifier from a
name.
-/

namespace RuntimeMux

/-! ### Hexadecimal digits -/

namespace Text

variable {c : Char} {cs : List Char}

theorem isSome_hexValue?_iff :
    (hexValue? c).isSome ↔
      ('0' ≤ c ∧ c ≤ '9') ∨ ('a' ≤ c ∧ c ≤ 'f') ∨ ('A' ≤ c ∧ c ≤ 'F') := by
  unfold hexValue?
  split
  next decimal => simp [decimal]
  next decimal =>
    split
    next lower => simp [lower]
    next lower => simp [decimal, lower]

theorem isSome_go_cons_cons_iff {a b : Char} :
    (bytesOfHex?.go (a :: b :: cs)).isSome ↔
      (hexValue? a).isSome ∧ (hexValue? b).isSome ∧ (bytesOfHex?.go cs).isSome := by
  simp only [bytesOfHex?.go, Option.isSome_iff_exists]
  constructor
  · rintro ⟨bytes, read⟩
    simp only [Option.bind_eq_bind, Option.bind_eq_some_iff] at read
    obtain ⟨high, ha, low, hb, rest, hcs, -⟩ := read
    exact ⟨⟨high, ha⟩, ⟨low, hb⟩, ⟨rest, hcs⟩⟩
  · rintro ⟨⟨high, ha⟩, ⟨low, hb⟩, ⟨rest, hcs⟩⟩
    rw [ha, hb, hcs]
    exact ⟨_, rfl⟩

/-- Bytes are read from an even number of digits, and from nothing else. -/
theorem isSome_bytesOfHex?_iff {text : String} :
    (bytesOfHex? text).isSome ↔
      text.toList.length % 2 = 0 ∧ ∀ c ∈ text.toList, (hexValue? c).isSome := by
  unfold bytesOfHex?
  induction text.toList using bytesOfHex?.go.induct with
  | case1 => simp [bytesOfHex?.go]
  | case2 c => simp [bytesOfHex?.go]
  | case3 a b rest ih =>
    have even : (a :: b :: rest).length % 2 = 0 ↔ rest.length % 2 = 0 := by
      simp only [List.length_cons]
      omega
    rw [isSome_go_cons_cons_iff, ih, even, List.forall_mem_cons, List.forall_mem_cons]
    constructor
    · rintro ⟨ha, hb, length, digits⟩
      exact ⟨length, ha, hb, digits⟩
    · rintro ⟨length, ha, hb, digits⟩
      exact ⟨ha, hb, length, digits⟩

end Text

/-! ### Hashes -/

namespace Digest

/-- A lower-case hexadecimal digit. -/
def IsHashDigit (c : Char) : Prop :=
  ('0' ≤ c ∧ c ≤ '9') ∨ ('a' ≤ c ∧ c ≤ 'f')

variable {c : Char} {cs algorithm : List Char} {size : Nat}

/-- The digits that are not upper-case letters. -/
theorem isHashDigit_iff :
    IsHashDigit c ↔ c.isUpper = false ∧ (Text.hexValue? c).isSome := by
  have upper : c.isUpper = true ↔ 'A' ≤ c ∧ c ≤ 'Z' := decide_eq_true_iff
  rw [Text.isSome_hexValue?_iff, IsHashDigit, ← Bool.not_eq_true, upper]
  simp only [Char.le_def, UInt32.le_iff_toNat_le, Char.toNat_val, Char.reduceToNat]
  omega

theorem IsHashDigit.isAlphanum (digit : IsHashDigit c) : c.isAlphanum = true := by
  rcases digit with ⟨low, high⟩ | ⟨low, high⟩
  · have isDigit : c.isDigit = true :=
      Bool.and_eq_true_iff.2 ⟨decide_eq_true low, decide_eq_true high⟩
    exact Bool.or_eq_true_iff.2 (.inr isDigit)
  · have isLower : c.isLower = true :=
      Bool.and_eq_true_iff.2 ⟨decide_eq_true low, decide_eq_true (Char.le_trans high (by decide))⟩
    have isAlpha : c.isAlpha = true := Bool.or_eq_true_iff.2 (.inr isLower)
    exact Bool.or_eq_true_iff.2 (.inl isAlpha)

theorem IsHashDigit.toNat_lt (digit : IsHashDigit c) : c.toNat < 0x80 := by
  simp only [IsHashDigit, Char.le_def, UInt32.le_iff_toNat_le, Char.toNat_val,
    Char.reduceToNat] at digit
  omega

/-- A hash is as many lower-case hexadecimal digits. -/
theorem isHash_iff (even : size % 2 = 0) :
    isHash size cs = true ↔ cs.length = size ∧ ∀ c ∈ cs, IsHashDigit c := by
  have tested : isHash size cs = true ↔ (String.ofList cs).utf8ByteSize = size ∧
      (∀ c ∈ cs, c.isUpper = false) ∧ cs.length % 2 = 0 ∧
        ∀ c ∈ cs, (Text.hexValue? c).isSome := by
    simp only [isHash, Bool.and_eq_true, beq_iff_eq, Bool.not_eq_true', List.any_eq_false,
      Bool.not_eq_true, Text.isSome_bytesOfHex?_iff, String.toList_ofList, and_assoc]
  rw [tested]
  constructor
  · rintro ⟨bytes, lower, -, digits⟩
    have isHashDigit : ∀ c ∈ cs, IsHashDigit c :=
      fun c mem => isHashDigit_iff.2 ⟨lower c mem, digits c mem⟩
    rw [Text.utf8ByteSize_eq_length fun c mem => (isHashDigit c mem).toNat_lt] at bytes
    exact ⟨bytes, isHashDigit⟩
  · rintro ⟨rfl, isHashDigit⟩
    exact ⟨Text.utf8ByteSize_eq_length fun c mem => (isHashDigit c mem).toNat_lt,
      fun c mem => (isHashDigit_iff.1 (isHashDigit c mem)).1, even,
      fun c mem => (isHashDigit_iff.1 (isHashDigit c mem)).2⟩

/-- The algorithms, and the number of digits that their hashes have. -/
def algorithms : List (String × Nat) :=
  [("sha256", 64), ("sha384", 96), ("sha512", 128)]

theorem hashLength?_eq_some_iff :
    hashLength? algorithm = some size ↔ (String.ofList algorithm, size) ∈ algorithms := by
  have name (text : String) : String.ofList algorithm = text ↔ algorithm = text.toList := by
    rw [← String.toList_inj, String.toList_ofList]
  simp only [hashLength?, algorithms, List.mem_cons, Prod.mk.injEq, List.not_mem_nil, or_false, name]
  split_ifs with sha256 sha384 sha512
  · subst sha256
    simp [eq_comm]
  · subst sha384
    simp [eq_comm]
  · subst sha512
    simp [eq_comm]
  · simp only [sha256, sha384, sha512, false_and, or_false]

/-- The hash of any algorithm has an even number of digits. -/
theorem even_of_mem_algorithms : ∀ a ∈ algorithms, a.2 % 2 = 0 := by
  decide

theorem isAlphanum_of_mem_algorithms :
    ∀ a ∈ algorithms, ∀ c ∈ a.1.toList, c.isAlphanum = true := by
  have all : algorithms.all (fun a => a.1.toList.all Char.isAlphanum) = true := by decide
  simpa only [List.all_eq_true] using all

end Digest

/-! ### Digests -/

open Digest

variable {value : String}

/-- A digest is the name of an algorithm, a colon, and as many digits as the algorithm gives. -/
theorem isDigest_iff :
    isDigest value = true ↔ ∃ algorithm size hash, (algorithm, size) ∈ algorithms ∧
      value = algorithm ++ ":" ++ hash ∧ hash.toList.length = size ∧
        ∀ c ∈ hash.toList, IsHashDigit c := by
  constructor
  · intro digest
    unfold isDigest recognises at digest
    cases cut : Text.cutFirst? ':' value.toList with
    | none => simp [cut] at digest
    | some parts =>
      obtain ⟨algorithm, hash⟩ := parts
      obtain ⟨whole, -⟩ := Text.cutFirst?_eq_some_iff.1 cut
      cases known : hashLength? algorithm with
      | none => simp [cut, known] at digest
      | some size =>
        have mem := hashLength?_eq_some_iff.1 known
        simp only [cut, known] at digest
        obtain ⟨length, digits⟩ := (isHash_iff (even_of_mem_algorithms _ mem)).1 digest
        refine ⟨_, size, .ofList hash, mem, ?_, by simpa using length, by simpa using digits⟩
        rw [← String.toList_inj, whole]
        simp
  · rintro ⟨algorithm, size, hash, mem, rfl, length, digits⟩
    have cut : Text.cutFirst? ':' (algorithm ++ ":" ++ hash).toList =
        some (algorithm.toList, hash.toList) :=
      Text.cutFirst?_eq_some_iff.2
        ⟨by simp, fun colon => absurd (isAlphanum_of_mem_algorithms _ mem _ colon) (by decide)⟩
    have known : hashLength? algorithm.toList = some size :=
      hashLength?_eq_some_iff.2 (by simpa using mem)
    simp only [isDigest, recognises, cut, known]
    exact (isHash_iff (even_of_mem_algorithms _ mem)).2 ⟨length, digits⟩

/-- A digest holds nothing but letters, digits and a colon. -/
theorem isAlphanum_of_isDigest (digest : isDigest value = true) :
    ∀ c ∈ value.toList, c = ':' ∨ c.isAlphanum = true := by
  obtain ⟨algorithm, size, hash, mem, rfl, -, digits⟩ := isDigest_iff.1 digest
  intro c inside
  simp only [String.toList_append, List.mem_append] at inside
  rcases inside with (inside | inside) | inside
  · exact .inr (isAlphanum_of_mem_algorithms _ mem c inside)
  · exact .inl (by simpa using inside)
  · exact .inr (digits c inside).isAlphanum

/-- A digest holds no `/`, which separates a qualifier from a name. -/
theorem slash_notMem_of_isDigest (digest : isDigest value = true) : '/' ∉ value.toList :=
  fun mem => absurd (isAlphanum_of_isDigest digest _ mem) (by decide)

/-- A digest holds no `@`, which separates a name from a digest. -/
theorem at_notMem_of_isDigest (digest : isDigest value = true) : '@' ∉ value.toList :=
  fun mem => absurd (isAlphanum_of_isDigest digest _ mem) (by decide)

/-- A digest is the name of an algorithm, a colon, and as many lower-case hexadecimal digits as the
algorithm gives. It holds no separator, so no named scope takes it for the name of one of its images,
and it is the same in every scope. -/
theorem digests_shared (value : String) :
    (isDigest value = true ↔ ∃ algorithm size hash, (algorithm, size) ∈ algorithms ∧
      value = algorithm ++ ":" ++ hash ∧ hash.toList.length = size ∧
        ∀ c ∈ hash.toList, IsHashDigit c) ∧
    (isDigest value = true →
      '/' ∉ value.toList ∧
      (∀ id s, Scope.named? id = .ok s → s.ownImage? value = none) ∧
      ∀ s : Scope, s.qualifyImage value = value) := by
  refine ⟨isDigest_iff, fun digest => ⟨slash_notMem_of_isDigest digest, ?_, ?_⟩⟩
  · intro id s named
    obtain ⟨valid, rfl⟩ := Scope.named?_eq_ok_iff.1 named
    rw [Option.eq_none_iff_forall_ne_some]
    intro own taken
    obtain rfl := Text.after?_eq_some_iff.1 taken
    exact slash_notMem_of_isDigest digest (by simp)
  · intro s
    cases s with
    | primary => rfl
    | named i => simp [Scope.qualifyImage, digest]

end RuntimeMux
