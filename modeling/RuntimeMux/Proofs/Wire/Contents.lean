import RuntimeMux.Proofs.Wire.Layout

/-!
# Contents that are read in steps

The contents of a message are read in steps, each of which takes a field or an entry off the bytes.
Steps that take certain bytes off do so whatever follows these bytes, so that what is known of two
parts of the contents is known of both in a row. Where every step takes a field off, the bytes are
fields in a row, and may be cut between any two of them.
-/

namespace RuntimeMux.Wire

variable {σ : Type} {step : Bytes → σ → Except Failure (σ × Bytes)}

/-- Steps take the bytes off, whatever follows them, and turn one state into another. -/
def Reads (step : Bytes → σ → Except Failure (σ × Bytes)) (bytes : Bytes) (s t : σ) : Prop :=
  ∀ limit rest fuel, limit ≤ rest.length → bytes.length + rest.length ≤ fuel →
    ∃ left, rest.length ≤ left ∧
      readUntil limit step fuel (bytes ++ rest) s = readUntil limit step left rest t

namespace Reads

variable {s t u : σ} {bytes later : Bytes}

theorem nil (s : σ) : Reads step [] s s :=
  fun _ _ fuel _ enough => ⟨fuel, by simpa using enough, rfl⟩

theorem append (first : Reads step bytes s t) (rest : Reads step later t u) :
    Reads step (bytes ++ later) s u := by
  intro limit behind fuel within enough
  simp only [List.length_append] at enough
  obtain ⟨left, more, reads⟩ :=
    first limit (later ++ behind) fuel (by rw [List.length_append]; omega)
      (by rw [List.length_append]; omega)
  obtain ⟨last, most, ends⟩ := rest limit behind left within (by rwa [List.length_append] at more)
  exact ⟨last, most, by rw [List.append_assoc, reads, ends]⟩

/-- One step takes the bytes off. -/
theorem once (some : bytes ≠ []) (reads : ∀ rest, step (bytes ++ rest) s = .ok (t, rest)) :
    Reads step bytes s t := by
  intro limit rest fuel within enough
  have longer : 0 < bytes.length := List.length_pos_iff.2 some
  cases fuel with
  | zero => omega
  | succ fuel =>
    refine ⟨fuel, by omega, ?_⟩
    rw [readUntil, if_neg (by rw [List.length_append]; omega), reads]
    rfl

/-- The bytes are read to their end. -/
theorem readUntil_eq (reads : Reads step bytes s t) (rest : Bytes) {fuel : Nat}
    (enough : bytes.length + rest.length ≤ fuel) :
    readUntil rest.length step fuel (bytes ++ rest) s = .ok (t, rest) := by
  obtain ⟨left, -, ends⟩ := reads rest.length rest fuel (Nat.le_refl _) enough
  rw [ends]
  cases left <;> simp [readUntil]

/-- The bytes are read behind their length. -/
theorem readContents_delimit (reads : Reads step bytes s t) (short : bytes.length < UInt64.size)
    (rest : Bytes) : readContents step (delimit bytes ++ rest) s = .ok (t, rest) := by
  have announced : (bytes ++ rest).length - bytes.length = rest.length := by simp
  simp only [readContents, delimit, List.append_assoc, Varint.decode_encode, bind, Except.bind,
    UInt64.toNat_ofNat_of_lt' short]
  rw [if_pos (by simp), announced]
  exact reads.readUntil_eq rest (by simp)

end Reads

/-! ### Parts in a row -/

/-- A relation of bytes and the states before and after them that holds of bytes in a row if it holds
of their parts. -/
structure Chains (R : Bytes → σ → σ → Prop) : Prop where
  nil : ∀ s, R [] s s
  append : ∀ {bytes later : Bytes} {s t u : σ}, R bytes s t → R later t u → R (bytes ++ later) s u

theorem Reads.chains : Chains (Reads step) :=
  ⟨.nil, .append⟩

/-- Parts in a row are taken off one after the other, each of which makes the state grow. -/
theorem Chains.row {R : Bytes → σ → σ → Prop} (chains : Chains R) {α τ : Type}
    {part : α → Bytes → Prop} (state : τ → σ) (grow : τ → α → τ)
    (one : ∀ (t : τ) (x : α) (bytes : Bytes), part x bytes → bytes.length < UInt64.size →
      R bytes (state t) (state (grow t x)))
    {xs : List α} {bytes : Bytes} (parts : InRow part xs bytes) (short : bytes.length < UInt64.size)
    (t : τ) : R bytes (state t) (state (xs.foldl grow t)) := by
  induction parts generalizing t with
  | nil => exact chains.nil _
  | cons first _ ih =>
    rw [List.length_append] at short
    exact chains.append (one t _ _ first (by omega)) (ih (by omega) _)

/-- Steps take fields off one by one, whatever follows them. -/
inductive ReadsFields (step : Bytes → σ → Except Failure (σ × Bytes)) : Bytes → σ → σ → Prop
  | nil (s : σ) : ReadsFields step [] s s
  | cons {key : Key} {field later : Bytes} {s t u : σ} (laid : key.Heads 1 field)
      (first : Reads step field s t) (rest : ReadsFields step later t u) :
      ReadsFields step (field ++ later) s u

namespace ReadsFields

variable {s t u : σ} {bytes later field : Bytes} {key : Key} {depth : Nat}

theorem once (laid : key.Heads 1 bytes) (reads : Reads step bytes s t) :
    ReadsFields step bytes s t := by
  simpa using cons laid reads (.nil t)

theorem append (first : ReadsFields step bytes s t) (rest : ReadsFields step later t u) :
    ReadsFields step (bytes ++ later) s u := by
  induction first with
  | nil => exact rest
  | cons laid first _ ih =>
    rw [List.append_assoc]
    exact .cons laid first (ih rest)

theorem chains : Chains (ReadsFields step) :=
  ⟨.nil, .append⟩

theorem reads (h : ReadsFields step bytes s t) : Reads step bytes s t := by
  induction h with
  | nil => exact .nil _
  | cons _ first _ ih => exact first.append ih

/-- What is read are fields in a row. -/
theorem exists_inRow (h : ReadsFields step bytes s t) :
    ∃ keys, InRow (Key.Heads 1) keys bytes := by
  induction h with
  | nil => exact ⟨[], .nil⟩
  | cons laid _ _ ih =>
    obtain ⟨keys, row⟩ := ih
    exact ⟨_ :: keys, .cons laid row⟩

theorem eq_of_nil (h : ReadsFields step [] s t) : s = t := by
  generalize none : ([] : Bytes) = bytes at h
  cases h with
  | nil => rfl
  | cons laid => exact absurd (List.append_eq_nil_iff.1 none.symm).1 laid.ne_nil

/-- Whatever field comes first is taken off first. -/
theorem cut (h : ReadsFields step (field ++ later) s u) (laid : key.Heads depth field) :
    ∃ t, Reads step field s t ∧ ReadsFields step later t u := by
  generalize whole : field ++ later = bytes at h
  cases h with
  | nil => exact absurd (List.append_eq_nil_iff.1 whole).1 laid.ne_nil
  | cons laid' first rest =>
    obtain ⟨rfl, rfl⟩ := laid.cut laid' whole
    exact ⟨_, first, rest⟩

end ReadsFields

/-! ### Delimited values -/

theorem readDelimited_delimit {bytes : Bytes} (short : bytes.length < UInt64.size) (rest : Bytes) :
    readDelimited (delimit bytes ++ rest) = .ok (bytes, rest) := by
  simp only [readDelimited, delimit, List.append_assoc, Varint.decode_encode, bind, Except.bind,
    UInt64.toNat_ofNat_of_lt' short]
  simp

/-! ### Lengths -/

theorem Varint.length_write_le {more m n : Nat} (h : m ≤ n) :
    (Varint.write more m).length ≤ (Varint.write more n).length := by
  induction more generalizing m n with
  | zero => simp [Varint.write]
  | succ more ih =>
    simp only [Varint.write]
    split
    · exact List.length_pos_iff.2 (by split <;> simp)
    · rw [if_neg (by omega), List.length_cons, List.length_cons]
      exact Nat.succ_le_succ (ih (Nat.div_le_div_right h))

theorem length_le_delimit (bytes : Bytes) : bytes.length ≤ (delimit bytes).length := by
  simp [delimit]

theorem length_delimit_le {a b : Bytes} (h : a.length ≤ b.length) (short : b.length < UInt64.size) :
    (delimit a).length ≤ (delimit b).length := by
  have prefixes : (Varint.encode (UInt64.ofNat a.length)).length ≤
      (Varint.encode (UInt64.ofNat b.length)).length := by
    refine Varint.length_write_le ?_
    rwa [UInt64.toNat_ofNat_of_lt' short, UInt64.toNat_ofNat_of_lt' (Nat.lt_of_le_of_lt h short)]
  simp only [delimit, List.length_append]
  omega

/-! ### Scalars -/

theorem Varint.encode_ne_nil (word : UInt64) : Varint.encode word ≠ [] := by
  simp [Varint.encode, Varint.write_ne_nil]

/-- A type of values that are read as they were written, unless they are too long. -/
class LawfulScalar (α : Type) [Scalar α] : Prop where
  eq_blank : ∀ x : α, Scalar.isBlank x = true → x = Scalar.blank
  write_ne_nil : ∀ x : α, Scalar.write x ≠ []
  /-- What is written is of the kind that is announced. -/
  announces : ∀ (x : α) (tag : Nat), (Scalar.write x).length < UInt64.size →
    Key.Announces 1 ⟨tag, Scalar.kind α⟩ (Scalar.write x)
  read_write : ∀ (x : α) (rest : Bytes), (Scalar.write x).length < UInt64.size →
    Scalar.read (Scalar.write x ++ rest) = .ok (x, rest)

instance : LawfulScalar String where
  eq_blank text blank := by simpa [Scalar.isBlank, Scalar.blank] using blank
  write_ne_nil text := by simp [Scalar.write, delimit, Varint.encode_ne_nil]
  announces _ tag short :=
    Key.announces_delimit tag (Nat.lt_of_le_of_lt (length_le_delimit _) short)
  read_write text rest short := by
    have fits : (bytesOfText text).length < UInt64.size :=
      Nat.lt_of_le_of_lt (length_le_delimit _) short
    simp [Scalar.read, Scalar.write, readDelimited_delimit fits, bind, Except.bind]

instance : LawfulScalar Bytes where
  eq_blank _ blank := List.isEmpty_iff.1 blank
  write_ne_nil bytes := by simp [Scalar.write, delimit, Varint.encode_ne_nil]
  announces bytes tag short :=
    Key.announces_delimit tag (Nat.lt_of_le_of_lt (length_le_delimit bytes) short)
  read_write bytes rest short :=
    readDelimited_delimit (Nat.lt_of_le_of_lt (length_le_delimit bytes) short) rest

theorem lawfulScalar_ofWord {α : Type} [DecidableEq α] {toWord : α → UInt64} {ofWord : UInt64 → α}
    {blank : α} (inverse : ∀ x, ofWord (toWord x) = x) :
    @LawfulScalar α (.ofWord toWord ofWord blank) :=
  let _ : Scalar α := .ofWord toWord ofWord blank
  { eq_blank := fun _ hx => of_decide_eq_true hx
    write_ne_nil := fun x => Varint.encode_ne_nil (toWord x)
    announces := fun x _ _ => ⟨_, Varint.spells_encode (toWord x)⟩
    read_write := fun x rest _ => by
      have decoded := Varint.decode_encode (toWord x) rest
      simp only [Scalar.read, Scalar.write, decoded, bind, Except.bind, inverse]
      rfl }

instance : LawfulScalar UInt64 :=
  lawfulScalar_ofWord fun _ => rfl

instance : LawfulScalar Int64 :=
  lawfulScalar_ofWord Int64.toInt64_toUInt64

instance : LawfulScalar UInt32 :=
  lawfulScalar_ofWord UInt32.toUInt32_toUInt64

instance : LawfulScalar Int32 :=
  @lawfulScalar_ofWord Int32 _ (fun x => x.toInt64.toUInt64) (fun w => w.toInt64.toInt32) 0
    fun x => by simp

instance : LawfulScalar Bool :=
  @lawfulScalar_ofWord Bool _ Bool.toUInt64 (fun w => w != 0) false fun x => by cases x <;> rfl

end RuntimeMux.Wire
