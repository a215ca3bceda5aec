import RuntimeMux.Span
import RuntimeMux.Text.Number
import RuntimeMux.Text.Split

/-!
# Deadlines of calls

A caller may say how long it is willing to wait, as a number of at most eight digits and a unit.
-/

namespace RuntimeMux.Deadline

/-- The largest number of sixty-four bits. -/
def largest : Nat := UInt64.size - 1

/-- A product, if it is a number of sixty-four bits. -/
def product? (a b : Nat) : Option Nat :=
  if a * b ≤ largest then some (a * b) else none

/-- The span of an amount of a unit. -/
def inUnit? (amount : Nat) : List Char → Option Span
  | ['H'] => (product? amount 3600).map .ofSeconds
  | ['M'] => (product? amount 60).map .ofSeconds
  | ['S'] => some (.ofSeconds amount)
  | ['m'] => some (.ofMillis amount)
  | ['u'] => some (.ofMicros amount)
  | ['n'] => some ⟨amount⟩
  | _ => none

/-- Whether a text has the size of a deadline: two to nine bytes, each of them a character. -/
def HasSize (text : String) : Prop :=
  text.toList.all (fun c => c.toNat < 0x80) = true ∧ 2 ≤ text.utf8ByteSize ∧ text.utf8ByteSize ≤ 9

instance : DecidablePred HasSize :=
  fun _ => inferInstanceAs (Decidable (_ ∧ _ ∧ _))

/-- In front of the last byte of a text of this size there is no character that it would cut apart. -/
theorem cutAt?_of_hasSize {text : String} (h : HasSize text) :
    ∃ unit, text.toList = text.toList.dropLast ++ [unit] ∧
      Text.cutAt? (text.utf8ByteSize - 1) text.toList = some (text.toList.dropLast, [unit]) := by
  obtain ⟨ascii, two, -⟩ := h
  simp only [List.all_eq_true, decide_eq_true_eq] at ascii
  have ne : text.toList ≠ [] := by
    intro empty
    rw [String.toList_eq_nil_iff.1 empty] at two
    exact absurd two (by decide)
  have whole := List.dropLast_concat_getLast ne
  have size : text.utf8ByteSize = (String.ofList text.toList.dropLast).utf8ByteSize + 1 := by
    have last := Text.utf8Size_eq_one (ascii _ (List.getLast_mem ne))
    have := congrArg (fun cs => (String.ofList cs).utf8ByteSize) whole
    simp only [String.ofList_append, String.utf8ByteSize_append, String.ofList_toList] at this
    rw [← this, ← String.singleton_eq_ofList, String.utf8ByteSize_singleton, last]
  refine ⟨text.toList.getLast ne, whole.symm, ?_⟩
  have cut := Text.cutAt?_append text.toList.dropLast [text.toList.getLast ne]
  rwa [whole, ← Nat.add_sub_cancel (n := (String.ofList text.toList.dropLast).utf8ByteSize) (m := 1),
    ← size] at cut

theorem isSome_cutAt? {text : String} (h : HasSize text) :
    (Text.cutAt? (text.utf8ByteSize - 1) text.toList).isSome := by
  obtain ⟨unit, -, cut⟩ := cutAt?_of_hasSize h
  rw [cut]
  rfl

/-- Reads a deadline: a number, and a unit in the last byte. -/
def parse? (text : String) : Option Span :=
  if h : HasSize text then do
    let (digits, unit) := (Text.cutAt? (text.utf8ByteSize - 1) text.toList).get (isSome_cutAt? h)
    let amount ← Text.unsigned? largest digits
    inUnit? amount unit
  else none

/-- The largest number that a deadline has room for. -/
def roomiest : Nat := 99999999

/-- What is left of a span when it is written as a deadline: whole units of the smallest kind that
there is room for. -/
def carried (s : Span) : Span :=
  let units := [1, 1000, 1000000, 1000000000, 60 * 1000000000, 3600 * 1000000000]
  match units.find? fun unit => s.nanos / unit ≤ roomiest with
  | some unit => ⟨s.nanos / unit * unit⟩
  | none => s

end RuntimeMux.Deadline
