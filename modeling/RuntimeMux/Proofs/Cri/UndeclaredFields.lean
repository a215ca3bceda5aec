import RuntimeMux.Proofs.Cri.Legible

/-!
# Fields that are not declared

A newer peer writes fields that a type of messages does not declare. They are skipped, whatever they
hold and wherever they stand among the fields of a message: it is the same message that is decoded.
-/

namespace RuntimeMux

namespace Wire

variable {M : Type} [Message M]

namespace Message

/-- Whether a type of messages has a field with a tag. -/
def Declares (M : Type) [Message M] (tag : Nat) : Prop :=
  ∃ f ∈ fields (M := M), f.tag = tag

/-- Any number of fields that a type of messages does not declare are put in between the fields in
bytes, or at either end. -/
inductive Extends (M : Type) [Message M] : (bytes extended : Bytes) → Prop
  | nil : Extends M [] []
  /-- A field that was there. -/
  | kept {key : Key} {field bytes extended : Bytes} (laid : key.Heads budget field)
      (rest : Extends M bytes extended) : Extends M (field ++ bytes) (field ++ extended)
  /-- A field that is put in. -/
  | put {key : Key} {field bytes extended : Bytes} (laid : key.Heads budget field)
      (undeclared : ¬ Declares M key.tag) (rest : Extends M bytes extended) :
      Extends M bytes (field ++ extended)

end Message

/-- A field that is not declared leaves a message as it is. -/
theorem Reads.undeclared {key : Key} {field : Bytes} {budget : Nat}
    (laid : key.Heads budget field) (undeclared : ¬ Message.Declares M key.tag) (m : M) :
    Reads (Message.mergeField budget) field m m := by
  refine .once laid.ne_nil fun rest => ?_
  obtain ⟨head, value, spells, announces, rfl⟩ := laid
  have unknown : (Message.fields (M := M)).find? (fun f => f.tag == key.tag) = none :=
    List.find?_eq_none.2 fun f mem same => undeclared ⟨f, mem, beq_iff_eq.1 same⟩
  rw [List.append_assoc, Message.mergeField, spells.decode_append]
  simp only [bind, Except.bind, unknown, announces.skipField_append (Nat.le_refl _)]
  rfl

/-- What is read field by field is also read with more fields. -/
theorem ReadsFields.reads_of_extends {bytes extended : Bytes} {m n : M}
    (reads : ReadsFields (Message.mergeField Message.budget) bytes m n)
    (more : Message.Extends M bytes extended) :
    Reads (Message.mergeField Message.budget) extended m n := by
  induction more generalizing m with
  | nil => exact reads.eq_of_nil ▸ .nil m
  | kept laid _ ih =>
    obtain ⟨next, first, rest⟩ := reads.cut laid
    exact first.append (ih rest)
  | put laid undeclared _ ih => exact (Reads.undeclared laid undeclared m).append (ih reads)

end Wire

namespace Cri

open Wire

/-- The bytes of a message are fields in a row, and the message is decoded to from them also if fields
that its type does not declare are put in. (No bytes in memory reach the bound on their number.) -/
theorem MessageType.decode_extended : ∀ t ∈ currentTypes ++ legacyTypes, ∀ m : t.Carrier,
    Message.Spells m (Message.encode m) ∧
      ∀ bytes, Message.Spells m bytes → bytes.length < UInt64.size →
        (∃ keys, InRow (Key.Heads 1) keys bytes) ∧
          ∀ extended, Message.Extends t.Carrier bytes extended → t.decode extended = .ok m := by
  intro t known m
  refine ⟨Message.spells_encode m, fun bytes spells short => ?_⟩
  obtain ⟨legible⟩ : t.IsLegible := (List.mem_append.1 known).elim
    (isLegible_currentTypes t) (isLegible_legacyTypes t)
  have reads := legible.readsFields legible.shallow spells short
  exact ⟨reads.exists_inRow, fun extended more =>
    Message.decode_of_reads (reads.reads_of_extends more)⟩

/-- A filter with two labels, in between which stands a group that holds an empty group and a number
with more bytes than it needs. -/
theorem MessageType.decode_extended_filter :
    let m : PodSandboxFilter := { labelSelector := .ofList [("a", ""), ("b", "")] }
    let first : Bytes := [0x1a, 0x03, 0x0a, 0x01, 0x61]
    let second : Bytes := [0x1a, 0x03, 0x0a, 0x01, 0x62]
    let group : Bytes := [0x4b, 0x53, 0x54, 0x08, 0x85, 0x80, 0x00, 0x4c]
    MessageType.of PodSandboxFilter ∈ currentTypes ++ legacyTypes ∧
      Message.Spells m (first ++ second) ∧ (first ++ second).length < UInt64.size ∧
      Message.Extends PodSandboxFilter (first ++ second) (first ++ group ++ second) ∧
      (MessageType.of PodSandboxFilter).decode (first ++ group ++ second) = .ok m := by
  intro m first second group
  have declared : MessageType.of PodSandboxFilter ∈ currentTypes ++ legacyTypes := by
    simp [currentTypes]
  have encoded : Message.encode m = first ++ second := by decide +kernel
  have spells : Message.Spells m (first ++ second) := encoded ▸ Message.spells_encode m
  have short : (first ++ second).length < UInt64.size := by decide
  -- every key here, and every length, takes one byte
  have number (b : UInt8) (low : b.toNat < 128) : Varint.Spells b.toNat [b] :=
    ⟨.last low, Nat.lt_trans low (by decide)⟩
  have label (c : UInt8) :
      Key.Heads Message.budget ⟨3, .delimited⟩ [0x1a, 0x03, 0x0a, 0x01, c] :=
    ⟨[0x1a], _, ⟨by decide, by decide, number 0x1a (by decide)⟩,
      ⟨[0x03], [0x0a, 0x01, c], number 0x03 (by decide), rfl⟩, rfl⟩
  have empty : Key.Heads 99 ⟨10, .startGroup⟩ [0x53, 0x54] :=
    ⟨[0x53], [0x54], ⟨by decide, by decide, number 0x53 (by decide)⟩,
      ⟨[], [], [0x54], .nil, ⟨by decide, by decide, number 0x54 (by decide)⟩, rfl⟩, rfl⟩
  have five : Varint.Spells 5 [0x85, 0x80, 0x00] :=
    ⟨.more (b := 0x85) (by decide) (.more (b := 0x80) (by decide) (.last (b := 0) (by decide))),
      by decide⟩
  have long : Key.Heads 99 ⟨1, .varint⟩ [0x08, 0x85, 0x80, 0x00] :=
    ⟨[0x08], _, ⟨by decide, by decide, number 0x08 (by decide)⟩, ⟨5, five⟩, rfl⟩
  have laid : Key.Heads Message.budget ⟨9, .startGroup⟩ group :=
    ⟨[0x4b], _, ⟨by decide, by decide, number 0x4b (by decide)⟩,
      ⟨_, _, [0x4c], .cons empty (.cons long .nil),
        ⟨by decide, by decide, number 0x4c (by decide)⟩, rfl⟩, rfl⟩
  have undeclared : ¬ Message.Declares PodSandboxFilter 9 := by
    simp [Message.Declares, Message.fields, Field.one, Field.message, Field.map]
  have more : Message.Extends PodSandboxFilter (first ++ second) (first ++ group ++ second) :=
    .kept (label 0x61) (.put laid undeclared (.kept (label 0x62) .nil))
  have decoded := (MessageType.decode_extended _ declared m).2 _ spells short
  exact ⟨declared, spells, short, more, decoded.2 _ more⟩

end Cri

end RuntimeMux
