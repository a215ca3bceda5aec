import Mathlib.Tactic.Ring
import RuntimeMux.Text.Number

/-!
# Numbers as text

Digits are read as the number that they are the decimal digits of, and nothing but digits is read.
What is read of so many digits is less than the power of ten to that number.
-/

namespace RuntimeMux.Text

variable {c : Char} {cs : List Char} {d n limit value : Nat}

theorem digitValue?_eq_some_iff :
    digitValue? c = some d ↔ c.isDigit = true ∧ d = c.toNat - '0'.toNat := by
  have digit : ('0' ≤ c ∧ c ≤ '9') ↔ c.isDigit = true := by
    simp [Char.isDigit, Char.le_def]
  simp only [digitValue?, digit, Option.ite_none_right_eq_some, Option.some.injEq]
  exact and_congr_right fun _ => eq_comm

theorem isSome_digitValue?_iff : (digitValue? c).isSome = true ↔ c.isDigit = true := by
  simp [Option.isSome_iff_exists, digitValue?_eq_some_iff]

theorem digitsFrom?_eq_some_iff :
    digitsFrom? value cs = some n ↔
      (∀ c ∈ cs, c.isDigit = true) ∧ n = Nat.ofDigitChars 10 cs value := by
  induction cs generalizing value with
  | nil =>
    simp only [digitsFrom?, Option.some.injEq, List.not_mem_nil, IsEmpty.forall_iff, implies_true,
      Nat.ofDigitChars_nil, true_and]
    exact eq_comm
  | cons c cs ih =>
    simp only [digitsFrom?, Option.bind_eq_bind, Option.bind_eq_some_iff, digitValue?_eq_some_iff,
      ih, List.forall_mem_cons, Nat.ofDigitChars_cons]
    constructor
    · rintro ⟨_, ⟨digit, rfl⟩, digits, rfl⟩
      exact ⟨⟨digit, digits⟩, rfl⟩
    · rintro ⟨⟨digit, digits⟩, rfl⟩
      exact ⟨_, ⟨digit, rfl⟩, digits, rfl⟩

theorem digits?_eq_some_iff :
    digits? cs = some n ↔
      cs ≠ [] ∧ (∀ c ∈ cs, c.isDigit = true) ∧ n = Nat.ofDigitChars 10 cs 0 := by
  simp [digits?, digitsFrom?_eq_some_iff]

theorem bind_le_eq_some_iff {number : Option Nat} :
    (number.bind fun value => if value ≤ limit then some value else none) = some n ↔
      number = some n ∧ n ≤ limit := by
  simp only [Option.bind_eq_some_iff, Option.ite_none_right_eq_some, Option.some.injEq]
  constructor
  · rintro ⟨_, rfl, small, rfl⟩
    exact ⟨rfl, small⟩
  · rintro ⟨rfl, small⟩
    exact ⟨n, rfl, small, rfl⟩

/-- A number that is not signed is read digit by digit. -/
theorem unsigned?_of_head?_ne (plain : cs.head? ≠ some '+') :
    unsigned? limit cs = some n ↔ digits? cs = some n ∧ n ≤ limit := by
  have unsigned : unsigned? limit cs =
      (digits? cs).bind fun value => if value ≤ limit then some value else none := by
    unfold unsigned?
    split
    next => simp at plain
    next => rfl
  rw [unsigned, bind_le_eq_some_iff]

/-- A plus sign in front of a number is passed over. -/
theorem unsigned?_plus :
    unsigned? limit ('+' :: cs) = some n ↔ digits? cs = some n ∧ n ≤ limit := by
  exact bind_le_eq_some_iff

theorem ofDigitChars_lt (digits : ∀ c ∈ cs, c.isDigit = true) :
    Nat.ofDigitChars 10 cs value < (value + 1) * 10 ^ cs.length := by
  induction cs generalizing value with
  | nil => simp
  | cons c cs ih =>
    obtain ⟨digit, digits⟩ := List.forall_mem_cons.1 digits
    have small : c.toNat - '0'.toNat < 10 := by
      have := (Char.isDigit_iff_toNat.1 digit).2
      simp only [Char.reduceToNat] at this ⊢
      omega
    calc Nat.ofDigitChars 10 (c :: cs) value
        = Nat.ofDigitChars 10 cs (10 * value + (c.toNat - '0'.toNat)) := Nat.ofDigitChars_cons
      _ < (10 * value + (c.toNat - '0'.toNat) + 1) * 10 ^ cs.length := ih digits
      _ ≤ (10 * (value + 1)) * 10 ^ cs.length := Nat.mul_le_mul_right _ (by omega)
      _ = (value + 1) * 10 ^ (c :: cs).length := by
        rw [List.length_cons, Nat.pow_succ']
        ring

end RuntimeMux.Text
