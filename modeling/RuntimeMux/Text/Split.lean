/-!
# Cutting text

Cutting a text at a lead, at the first or the last occurrence of a character, at every occurrence of
one, and at a position. All operations work on the list of characters, and the `String` versions only
convert. The laws say that a cut loses nothing but the character it cuts at.
-/

namespace RuntimeMux.Text

/-! ### On characters -/

/-- What follows `lead`, when the characters start with it. -/
def dropLead? : List Char → List Char → Option (List Char)
  | [], cs => some cs
  | _ :: _, [] => none
  | l :: ls, c :: cs => if l = c then dropLead? ls cs else none

/-- The characters before and after the first `mark`. -/
def cutFirst? (mark : Char) : List Char → Option (List Char × List Char)
  | [] => none
  | c :: cs =>
    if c = mark then some ([], cs)
    else (cutFirst? mark cs).map fun (before, after) => (c :: before, after)

/-- The characters before and after the last `mark`. -/
def cutLast? (mark : Char) : List Char → Option (List Char × List Char)
  | [] => none
  | c :: cs =>
    match cutLast? mark cs with
    | some (before, after) => some (c :: before, after)
    | none => if c = mark then some ([], cs) else none

/-- The pieces between the occurrences of `mark`, of which there is always at least one. -/
def pieces (mark : Char) : List Char → List (List Char)
  | [] => [[]]
  | c :: cs =>
    if c = mark then [] :: pieces mark cs
    else
      match pieces mark cs with
      | [] => [[c]]
      | p :: ps => (c :: p) :: ps

/-- The characters before and after a position that is given as a number of bytes. There are none if
the position lies inside of a character or behind the end. -/
def cutAt? : Nat → List Char → Option (List Char × List Char)
  | 0, cs => some ([], cs)
  | _ + 1, [] => none
  | n + 1, c :: cs =>
    if c.utf8Size ≤ n + 1 then
      (cutAt? (n + 1 - c.utf8Size) cs).map fun (before, after) => (c :: before, after)
    else none

@[simp] theorem dropLead?_append (lead rest : List Char) :
    dropLead? lead (lead ++ rest) = some rest := by
  induction lead with
  | nil => rfl
  | cons l ls ih => simp [dropLead?, ih]

theorem eq_append_of_dropLead? {lead cs rest : List Char} (h : dropLead? lead cs = some rest) :
    cs = lead ++ rest := by
  induction lead generalizing cs with
  | nil => simpa [dropLead?] using h
  | cons l ls ih =>
    cases cs with
    | nil => simp [dropLead?] at h
    | cons c cs =>
      by_cases hc : l = c
      · simp only [dropLead?, hc, if_true] at h
        simp [hc, ih h]
      · simp [dropLead?, hc] at h

theorem dropLead?_eq_some_iff {lead cs rest : List Char} :
    dropLead? lead cs = some rest ↔ cs = lead ++ rest :=
  ⟨eq_append_of_dropLead?, fun h => h ▸ dropLead?_append lead rest⟩

/-- A cut at the first `mark` leaves no `mark` before it. -/
theorem cutFirst?_eq_some_iff {mark : Char} {cs before after : List Char} :
    cutFirst? mark cs = some (before, after) ↔
      cs = before ++ mark :: after ∧ mark ∉ before := by
  induction cs generalizing before with
  | nil => simp [cutFirst?]
  | cons c cs ih =>
    by_cases hc : c = mark
    · subst hc
      cases before with
      | nil => simp [cutFirst?, eq_comm]
      | cons b bs =>
        simp only [cutFirst?, if_true, Option.some.injEq, Prod.mk.injEq, List.cons_append,
          List.cons.injEq, List.mem_cons, not_or]
        constructor
        · rintro ⟨h, -⟩; cases h
        · rintro ⟨⟨rfl, -⟩, h, -⟩; exact absurd rfl h
    · cases before with
      | nil =>
        simp only [cutFirst?, hc, if_false, Option.map_eq_some_iff, Prod.mk.injEq,
          List.nil_append, List.cons.injEq, List.not_mem_nil, not_false_eq_true, and_true]
        constructor
        · rintro ⟨_, _, h, _⟩; cases h
        · rintro ⟨h, -⟩; exact h.elim
      | cons b bs =>
        simp only [cutFirst?, hc, if_false, Option.map_eq_some_iff, Prod.mk.injEq,
          List.cons.injEq, List.cons_append, List.mem_cons, not_or, Prod.exists]
        constructor
        · rintro ⟨x, y, h, ⟨rfl, rfl⟩, rfl⟩
          obtain ⟨rfl, hm⟩ := ih.1 h
          exact ⟨⟨rfl, rfl⟩, fun h => hc h.symm, hm⟩
        · rintro ⟨⟨rfl, rfl⟩, -, hm⟩
          exact ⟨bs, after, ih.2 ⟨rfl, hm⟩, ⟨rfl, rfl⟩, rfl⟩

theorem cutLast?_eq_none_iff {mark : Char} {cs : List Char} :
    cutLast? mark cs = none ↔ mark ∉ cs := by
  induction cs with
  | nil => simp [cutLast?]
  | cons c cs ih =>
    cases h : cutLast? mark cs with
    | none => simp [cutLast?, h, ih.1 h, eq_comm]
    | some cut =>
      have : mark ∈ cs := Decidable.byContradiction fun hm => by simp [ih.2 hm] at h
      simp [cutLast?, h, this]

/-- A cut at the last `mark` leaves no `mark` behind it. -/
theorem cutLast?_eq_some_iff {mark : Char} {cs before after : List Char} :
    cutLast? mark cs = some (before, after) ↔
      cs = before ++ mark :: after ∧ mark ∉ after := by
  induction cs generalizing before after with
  | nil => simp [cutLast?]
  | cons c cs ih =>
    cases h : cutLast? mark cs with
    | none =>
      have hm : mark ∉ cs := cutLast?_eq_none_iff.1 h
      cases before with
      | nil =>
        simp only [cutLast?, h, Option.ite_none_right_eq_some, Option.some.injEq, Prod.mk.injEq,
          true_and, List.nil_append, List.cons.injEq]
        constructor
        · rintro ⟨rfl, rfl⟩
          exact ⟨⟨rfl, rfl⟩, hm⟩
        · rintro ⟨⟨rfl, rfl⟩, -⟩
          exact ⟨rfl, rfl⟩
      | cons b bs =>
        simp only [cutLast?, h, Option.ite_none_right_eq_some, Option.some.injEq, Prod.mk.injEq,
          List.cons_append, List.cons.injEq]
        constructor
        · rintro ⟨-, h, -⟩
          cases h
        · rintro ⟨⟨-, rfl⟩, -⟩
          exact absurd (by simp) hm
    | some cut =>
      obtain ⟨x, y⟩ := cut
      obtain ⟨rfl, hy⟩ := ih.1 h
      cases before with
      | nil =>
        simp only [cutLast?, h, Option.some.injEq, Prod.mk.injEq, List.nil_append, List.cons.injEq]
        constructor
        · rintro ⟨h, -⟩
          cases h
        · rintro ⟨⟨-, rfl⟩, hm⟩
          exact absurd (by simp) hm
      | cons b bs =>
        have rest : cutLast? mark (x ++ mark :: y) = some (bs, after) ↔ _ := ih
        rw [h] at rest
        simp only [Option.some.injEq, Prod.mk.injEq] at rest
        simp only [cutLast?, h, Option.some.injEq, Prod.mk.injEq, List.cons.injEq,
          List.cons_append, and_assoc, rest]

theorem cutAt?_append (before after : List Char) :
    cutAt? (String.ofList before).utf8ByteSize (before ++ after) = some (before, after) := by
  induction before with
  | nil => simp [cutAt?]
  | cons c cs ih =>
    have size : (String.ofList (c :: cs)).utf8ByteSize =
        c.utf8Size + (String.ofList cs).utf8ByteSize := by
      simp [String.ofList_cons]
    obtain ⟨n, hn⟩ := Nat.exists_eq_add_one_of_ne_zero (Nat.ne_of_gt c.utf8Size_pos)
    have sum : c.utf8Size + (String.ofList cs).utf8ByteSize =
        n + (String.ofList cs).utf8ByteSize + 1 := by omega
    rw [size, sum, List.cons_append, cutAt?, if_pos (by omega), ← sum, Nat.add_sub_cancel_left, ih]
    rfl

theorem utf8Size_eq_one {c : Char} (h : c.toNat < 0x80) : c.utf8Size = 1 := by
  have : c.val ≤ 0x7f := UInt32.le_iff_toNat_le.2 (Nat.le_of_lt_succ h)
  simp [Char.utf8Size, this]

/-- Positions in plain characters are counted alike in bytes and in characters. -/
theorem utf8ByteSize_eq_length {cs : List Char} (ascii : ∀ c ∈ cs, c.toNat < 0x80) :
    (String.ofList cs).utf8ByteSize = cs.length := by
  induction cs with
  | nil => simp
  | cons c cs ih =>
    obtain ⟨hc, hcs⟩ := List.forall_mem_cons.1 ascii
    rw [String.ofList_cons, String.utf8ByteSize_append, String.utf8ByteSize_singleton,
      utf8Size_eq_one hc, ih hcs, List.length_cons, Nat.add_comm]

/-! ### On text -/

/-- What follows `lead`, when the text starts with it. -/
def after? (lead text : String) : Option String :=
  (dropLead? lead.toList text.toList).map String.ofList

/-- The text before and after the first `mark`. -/
def splitFirst? (mark : Char) (text : String) : Option (String × String) :=
  (cutFirst? mark text.toList).map fun (before, after) => (.ofList before, .ofList after)

/-- The text before and after the last `mark`. -/
def splitLast? (mark : Char) (text : String) : Option (String × String) :=
  (cutLast? mark text.toList).map fun (before, after) => (.ofList before, .ofList after)

/-- Whether `part` occurs in the characters. -/
def occursIn (part : List Char) : List Char → Bool
  | [] => part.isEmpty
  | c :: cs => (dropLead? part (c :: cs)).isSome || occursIn part cs

theorem after?_eq_some_iff {lead text rest : String} :
    after? lead text = some rest ↔ text = lead ++ rest := by
  simp only [after?, Option.map_eq_some_iff, dropLead?_eq_some_iff]
  constructor
  · rintro ⟨cs, h, rfl⟩
    exact String.toList_injective (by simp [h])
  · rintro rfl
    exact ⟨rest.toList, by simp, by simp⟩

theorem splitFirst?_eq_some_iff {mark : Char} {text before after : String} :
    splitFirst? mark text = some (before, after) ↔
      text.toList = before.toList ++ mark :: after.toList ∧ mark ∉ before.toList := by
  simp only [splitFirst?, Option.map_eq_some_iff, Prod.exists, cutFirst?_eq_some_iff,
    Prod.mk.injEq]
  constructor
  · rintro ⟨b, a, ⟨h, hm⟩, rfl, rfl⟩
    simpa using ⟨h, hm⟩
  · rintro ⟨h, hm⟩
    exact ⟨_, _, ⟨h, hm⟩, by simp, by simp⟩

theorem splitLast?_eq_some_iff {mark : Char} {text before after : String} :
    splitLast? mark text = some (before, after) ↔
      text.toList = before.toList ++ mark :: after.toList ∧ mark ∉ after.toList := by
  simp only [splitLast?, Option.map_eq_some_iff, Prod.exists, cutLast?_eq_some_iff,
    Prod.mk.injEq]
  constructor
  · rintro ⟨b, a, ⟨h, hm⟩, rfl, rfl⟩
    simpa using ⟨h, hm⟩
  · rintro ⟨h, hm⟩
    exact ⟨_, _, ⟨h, hm⟩, by simp, by simp⟩

@[simp] theorem after?_append (lead rest : String) : after? lead (lead ++ rest) = some rest :=
  after?_eq_some_iff.2 rfl

end RuntimeMux.Text
