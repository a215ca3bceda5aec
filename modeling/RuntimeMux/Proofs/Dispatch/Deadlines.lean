import RuntimeMux.Deadline
import RuntimeMux.Proofs.Text.Numbers

/-!
# Deadlines as text

A deadline is written as one to eight digits and the letter of a unit. All that is written like this
is read, as so many units, and no number of units is too large. The one thing else that is read is
such a text behind a plus sign, if it has room for the sign: the number in front of the unit is read
as a number in its own right, which may have a sign.
-/

namespace RuntimeMux.Deadline

/-- The units, and the number of nanoseconds that each of them has. -/
def units : List (Char × Nat) :=
  [('H', 3600000000000), ('M', 60000000000), ('S', 1000000000), ('m', 1000000), ('u', 1000),
   ('n', 1)]

/-- Whether a text is how a span is written: so many digits, at most `room`, and the letter of the
unit that they count. -/
def Spells (room : Nat) (text : List Char) (d : Span) : Prop :=
  ∃ digits unit nanos, text = digits ++ [unit] ∧ units.lookup unit = some nanos ∧
    (digits ≠ [] ∧ digits.length ≤ room) ∧ (∀ c ∈ digits, c.isDigit = true) ∧
    d.nanos = Nat.ofDigitChars 10 digits 0 * nanos

variable {text : String} {cs digits : List Char} {unit : Char} {amount room : Nat} {d : Span}

/-! ### The size of a deadline -/

theorem hasSize_iff :
    HasSize text ↔ (∀ c ∈ text.toList, c.toNat < 0x80) ∧
      2 ≤ text.toList.length ∧ text.toList.length ≤ 9 := by
  rw [HasSize, List.all_eq_true]
  simp only [decide_eq_true_eq]
  refine and_congr_right fun ascii => ?_
  have := Text.utf8ByteSize_eq_length ascii
  rw [String.ofList_toList] at this
  rw [this]

theorem toNat_lt_of_isDigit {c : Char} (h : c.isDigit = true) : c.toNat < 0x80 := by
  have := (Char.isDigit_iff_toNat.1 h).2
  simp only [Char.reduceToNat] at this
  omega

/-! ### Units -/

theorem lookup_units_eq_none_iff : units.lookup unit = none ↔ unit ∉ units.map Prod.fst := by
  simp [List.lookup_eq_none_iff, units]

theorem mem_units_of_lookup {nanos : Nat} (h : units.lookup unit = some nanos) :
    (unit, nanos) ∈ units := by
  obtain ⟨before, after, whole, -⟩ := List.lookup_eq_some_iff.1 h
  rw [whole]
  exact List.mem_append_right _ List.mem_cons_self

theorem toNat_lt_of_mem_units : ∀ u ∈ units, u.1.toNat < 0x80 := by
  decide

theorem nanos_le_of_mem_units : ∀ u ∈ units, u.2 ≤ 3600000000000 := by
  decide

/-- No number of units that has room in a deadline is too large for sixty-four bits. -/
theorem inUnit?_eq (small : amount < 10 ^ 8) :
    inUnit? amount [unit] = (units.lookup unit).map fun nanos => ⟨amount * nanos⟩ := by
  have hours : product? amount 3600 = some (amount * 3600) := if_pos (by
    simp only [largest, UInt64.size]
    omega)
  have minutes : product? amount 60 = some (amount * 60) := if_pos (by
    simp only [largest, UInt64.size]
    omega)
  by_cases mem : unit ∈ units.map Prod.fst
  · simp only [units, List.map_cons, List.map_nil, List.mem_cons, List.not_mem_nil,
      or_false] at mem
    rcases mem with rfl | rfl | rfl | rfl | rfl | rfl <;>
      simp [inUnit?, hours, minutes, units, List.lookup_cons, Span.ofSeconds, Span.ofMillis,
        Span.ofMicros, Nat.mul_assoc]
  · rw [lookup_units_eq_none_iff.2 mem, Option.map_none]
    unfold inUnit?
    split <;> simp_all [units]

/-! ### Reading a deadline -/

theorem parse?_of_hasSize (h : HasSize text) (cut : text.toList = cs ++ [unit]) :
    parse? text = (Text.unsigned? largest cs).bind fun amount => inUnit? amount [unit] := by
  obtain ⟨unit', whole, last⟩ := cutAt?_of_hasSize h
  rw [cut, List.dropLast_concat] at whole last
  obtain rfl : unit = unit' := by simpa using whole
  simp only [parse?, dif_pos h, cut, last, Option.get_some]
  rfl

theorem parse?_eq_none_of_not_hasSize (h : ¬HasSize text) : parse? text = none :=
  dif_neg h

theorem not_spells_plus : ¬Spells room ('+' :: cs) d := by
  rintro ⟨digits, unit, nanos, same, -, ⟨ne, -⟩, isDigit, -⟩
  obtain ⟨c, rest, rfl⟩ := List.exists_cons_of_ne_nil ne
  obtain ⟨rfl, -⟩ := List.cons.inj same
  exact absurd (isDigit '+' List.mem_cons_self) (by decide)

/-- What is in front of the unit is read as a number, and the number is small. -/
theorem amount_lt (read : Text.digits? cs = some amount) (short : cs.length ≤ 8) :
    amount < 10 ^ 8 := by
  obtain ⟨-, isDigit, rfl⟩ := Text.digits?_eq_some_iff.1 read
  calc Nat.ofDigitChars 10 cs 0 < (0 + 1) * 10 ^ cs.length := Text.ofDigitChars_lt isDigit
    _ ≤ 10 ^ 8 := by
      rw [Nat.zero_add, Nat.one_mul]
      exact Nat.pow_le_pow_right (by decide) short

theorem spells_iff :
    Spells room (cs ++ [unit]) d ↔ cs.length ≤ room ∧ ∃ amount, Text.digits? cs = some amount ∧
      ∃ nanos, units.lookup unit = some nanos ∧ d.nanos = amount * nanos := by
  simp only [Spells, Text.digits?_eq_some_iff]
  constructor
  · rintro ⟨digits, unit', nanos, same, lookup, ⟨ne, short⟩, isDigit, value⟩
    obtain ⟨rfl, rfl⟩ := List.append_inj' same rfl |>.imp_right (by simpa using ·)
    exact ⟨short, _, ⟨ne, isDigit, rfl⟩, nanos, lookup, value⟩
  · rintro ⟨short, _, ⟨ne, isDigit, rfl⟩, nanos, lookup, value⟩
    exact ⟨cs, unit, nanos, rfl, lookup, ⟨ne, short⟩, isDigit, value⟩

theorem Spells.ascii (h : Spells room cs d) : ∀ c ∈ cs, c.toNat < 0x80 := by
  obtain ⟨digits, unit, nanos, rfl, lookup, -, isDigit, -⟩ := h
  simp only [List.mem_append, List.mem_singleton]
  rintro c (mem | rfl)
  · exact toNat_lt_of_isDigit (isDigit c mem)
  · exact toNat_lt_of_mem_units _ (mem_units_of_lookup lookup)

/-- A text is read if it is written as a span is, behind a sign that the reader of numbers takes. -/
theorem parse?_eq_some_iff_spells (sign : List Char) (room : Nat)
    (cut : text.toList = sign ++ cs ++ [unit])
    (signed : ∀ n, Text.unsigned? largest (sign ++ cs) = some n ↔
      Text.digits? cs = some n ∧ n ≤ largest)
    (ascii : ∀ c ∈ sign, c.toNat < 0x80) (fits : sign.length + room = 8) :
    parse? text = some d ↔ Spells room (cs ++ [unit]) d := by
  constructor
  · intro read
    have size : HasSize text := Decidable.byContradiction fun h => by
      rw [parse?_eq_none_of_not_hasSize h] at read
      cases read
    rw [parse?_of_hasSize size cut] at read
    obtain ⟨amount, number, span⟩ := Option.bind_eq_some_iff.1 read
    have digits := ((signed amount).1 number).1
    have long := (hasSize_iff.1 size).2.2
    rw [cut] at long
    simp only [List.length_append, List.length_singleton] at long
    rw [inUnit?_eq (amount_lt digits (by omega))] at span
    obtain ⟨nanos, lookup, rfl⟩ := Option.map_eq_some_iff.1 span
    exact spells_iff.2 ⟨by omega, amount, digits, nanos, lookup, rfl⟩
  · intro spells
    obtain ⟨short, amount, digits, nanos, lookup, value⟩ := spells_iff.1 spells
    have ne : cs.length ≠ 0 := by
      simpa using (Text.digits?_eq_some_iff.1 digits).1
    have size : HasSize text := by
      rw [hasSize_iff, cut, List.append_assoc]
      refine ⟨fun c mem => ?_, ?_, ?_⟩
      · exact (List.mem_append.1 mem).elim (ascii c) (spells.ascii c)
      · simp only [List.length_append, List.length_singleton]
        omega
      · simp only [List.length_append, List.length_singleton]
        omega
    have small := amount_lt digits (by omega)
    have fits : amount ≤ largest := by
      simp only [largest, UInt64.size]
      omega
    rw [parse?_of_hasSize size cut, (signed amount).2 ⟨digits, fits⟩, Option.bind_some,
      inUnit?_eq small, lookup, Option.map_some, ← value]

theorem parse?_eq_some_iff :
    parse? text = some d ↔
      Spells 8 text.toList d ∨ ∃ rest, text.toList = '+' :: rest ∧ Spells 7 rest d := by
  rcases List.eq_nil_or_concat text.toList with empty | ⟨cs, unit, cut⟩
  · have small : ¬HasSize text := by
      rw [hasSize_iff, empty]
      simp
    simp [parse?_eq_none_of_not_hasSize small, empty, Spells]
  · rw [List.concat_eq_append] at cut
    by_cases plus : cs.head? = some '+'
    · obtain ⟨rest, rfl⟩ := List.head?_eq_some_iff.1 plus
      rw [parse?_eq_some_iff_spells ['+'] 7 cut (fun _ => Text.unsigned?_plus) (by simp) rfl, cut]
      simp [not_spells_plus]
    · rw [parse?_eq_some_iff_spells [] 8 cut (fun _ => Text.unsigned?_of_head?_ne plus) nofun rfl,
        cut]
      refine (or_iff_left ?_).symm
      rintro ⟨rest, same, spells⟩
      cases cs with
      | nil =>
        obtain ⟨-, rfl⟩ := List.cons.inj same
        obtain ⟨digits, unit, nanos, empty, -⟩ := spells
        simp at empty
      | cons c cs =>
        obtain ⟨rfl, -⟩ := List.cons.inj same
        exact plus rfl

theorem Spells.seconds_le (h : Spells room cs d) (small : room ≤ 8) : d.seconds ≤ largest := by
  obtain ⟨digits, unit, nanos, rfl, lookup, ⟨ne, short⟩, isDigit, value⟩ := h
  have number := Text.digits?_eq_some_iff.2 ⟨ne, isDigit, rfl⟩
  have bound : d.nanos ≤ 10 ^ 8 * 3600000000000 := by
    rw [value]
    exact Nat.mul_le_mul (amount_lt number (by omega)).le
      (nanos_le_of_mem_units _ (mem_units_of_lookup lookup))
  simp only [Span.seconds, largest, UInt64.size]
  omega

/-- A text is read exactly if it is written as a span is, with at most eight digits, or if it is
such a text with at most seven digits behind a plus sign, and the second case is the only one that
is not documented. The last byte can always be cut off by itself, and what is read never has more
seconds than sixty-four bits can hold. -/
theorem reads_iff (text : String) :
    (∀ d, parse? text = some d ↔
      Spells 8 text.toList d ∨ ∃ rest, text.toList = '+' :: rest ∧ Spells 7 rest d) ∧
    ((∀ d, parse? text = some d ↔ Spells 8 text.toList d) ↔
      ∀ rest d, text.toList = '+' :: rest → ¬Spells 7 rest d) ∧
    (HasSize text → ∃ digits unit,
      Text.cutAt? (text.utf8ByteSize - 1) text.toList = some (digits, [unit])) ∧
    ∀ d, parse? text = some d → d.seconds ≤ largest := by
  refine ⟨fun _ => parse?_eq_some_iff, ⟨?_, ?_⟩, ?_, ?_⟩
  · intro documented rest d plus signed
    have read : parse? text = some d := parse?_eq_some_iff.2 (.inr ⟨rest, plus, signed⟩)
    exact not_spells_plus (plus ▸ (documented d).1 read)
  · intro unsigned d
    rw [parse?_eq_some_iff]
    exact or_iff_left fun ⟨rest, plus, signed⟩ => unsigned rest d plus signed
  · intro size
    obtain ⟨unit, -, cut⟩ := cutAt?_of_hasSize size
    exact ⟨_, _, cut⟩
  · intro d read
    rcases parse?_eq_some_iff.1 read with spells | ⟨rest, -, spells⟩
    · exact spells.seconds_le le_rfl
    · exact spells.seconds_le (by decide)

/-- The longest deadline that there is. -/
theorem reads_iff_longest :
    parse? "99999999H" = some ⟨359999996400000000000⟩ ∧
      HasSize "99999999H" ∧
      (∃ digits unit, Text.cutAt? ("99999999H".utf8ByteSize - 1) "99999999H".toList =
        some (digits, [unit])) ∧
      (⟨359999996400000000000⟩ : Span).seconds ≤ largest := by
  obtain ⟨reads, -, cuts, bounded⟩ := reads_iff "99999999H"
  have size : HasSize "99999999H" := by decide +kernel
  have digits : ∀ c ∈ "99999999".toList, c.isDigit = true := List.all_eq_true.1 (by decide)
  have read : parse? "99999999H" = some ⟨359999996400000000000⟩ :=
    (reads _).2 (.inl ⟨"99999999".toList, 'H', 3600000000000, by decide, rfl, by decide, digits,
      by decide⟩)
  exact ⟨read, size, cuts size, bounded _ read⟩

/-- A number of seconds behind a plus sign is not written as spans are, but it is read. -/
theorem reads_signed :
    ¬∀ text d, parse? text = some d ↔ Spells 8 text.toList d := by
  intro documented
  have read : parse? "+5S" = some (.ofSeconds 5) := by decide +kernel
  exact not_spells_plus ((documented _ _).1 read)

end RuntimeMux.Deadline
