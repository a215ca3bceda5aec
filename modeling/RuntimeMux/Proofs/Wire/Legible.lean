import RuntimeMux.Proofs.Wire.Fields

/-!
# Legible messages

A type of messages is legible if its fields are told apart by their tags and put every message
together again, starting from the blank one: each field fills its part, in the order in which the
fields are written. What spells such a message is decoded to it.
-/

namespace RuntimeMux.Wire

variable {M : Type} [Message M]

/-- A message with a part of another one in the place of its own. -/
def copy {α : Type} (get : M → α) (set : α → M → M) (m acc : M) : M :=
  set (get m) acc

/-- What spells the fields of `m` turns `acc` into `m`, field by field, if as many levels of nesting are
allowed. -/
def Fills (depth : Nat) (fs : List (Field M)) (m acc : M) : Prop :=
  ∀ (budget : Nat) (bytes : Bytes), depth ≤ budget → (∀ f ∈ fs, f.Declared) →
    bytes.length < UInt64.size → InRow (fun f => f.spells m) fs bytes →
    ReadsFields (Message.mergeField budget) bytes acc m

/-- A type of messages whose fields put every message together. -/
class Legible (M : Type) [Message M] where
  /-- How many levels of messages and maps there are within the messages. -/
  depth : Nat := 0
  shallow : depth ≤ Message.budget := by decide
  /-- No two fields have the same tag. -/
  distinct : ((Message.fields (M := M)).map Field.tag).Nodup := by decide
  /-- Tags fit into the keys. -/
  tagged : ∀ tag ∈ (Message.fields (M := M)).map Field.tag, 0 < tag ∧ tag < 536870912 := by decide
  fills : ∀ m : M, Fills depth Message.fields m Message.blank

namespace Legible

variable [Legible M]

theorem declared {f : Field M} (mem : f ∈ Message.fields) : f.Declared where
  low := (tagged f.tag (List.mem_map_of_mem mem)).1
  high := (tagged f.tag (List.mem_map_of_mem mem)).2
  found := Field.find?_eq distinct mem

/-- What spells a message is read field by field. -/
theorem readsFields {budget : Nat} (deep : depth M ≤ budget) {m : M} {bytes : Bytes}
    (spells : Message.Spells m bytes) (short : bytes.length < UInt64.size) :
    ReadsFields (Message.mergeField budget) bytes Message.blank m :=
  fills m budget bytes deep (fun _ mem => declared mem) short spells

theorem readable {budget : Nat} (deep : depth M ≤ budget) : Message.Readable M budget :=
  fun _ _ short spells => (readsFields deep spells short).reads

/-- What spells a message is decoded to it. -/
theorem decode_eq_ok {m : M} {bytes : Bytes} (spells : Message.Spells m bytes)
    (short : bytes.length < UInt64.size) : Message.decode bytes = .ok m :=
  Message.decode_of_reads (readable shallow m bytes short spells)

end Legible

namespace Fills

variable {depth tag : Nat} {name : String} {fs : List (Field M)} {m acc : M}

/-- Once all fields are filled, the messages agree part by part. -/
theorem nil (whole : acc = m := by rename_i m; cases m; rfl) : Fills depth [] m acc := by
  rintro budget _ - - - ⟨⟩
  exact whole ▸ ReadsFields.nil acc

/-- A field fills a part, and the others the rest. -/
theorem cons {f : Field M} {next : M}
    (first : ∀ (budget : Nat) (bytes : Bytes), depth ≤ budget → f.Declared →
      bytes.length < UInt64.size → f.spells m bytes →
      ReadsFields (Message.mergeField budget) bytes acc next)
    (rest : Fills depth fs m next) : Fills depth (f :: fs) m acc := by
  rintro budget _ deep declared short (⟨⟩ | ⟨spells, others⟩)
  obtain ⟨known, declared⟩ := List.forall_mem_cons.1 declared
  rw [List.length_append] at short
  exact (first budget _ deep known (by omega) spells).append
    (rest budget _ deep declared (by omega) others)

theorem one {α : Type} [Scalar α] [LawfulScalar α] {get : M → α} {set : α → M → M}
    (rest : Fills depth fs m (copy get set m acc))
    (lens : Lens get set := by exact {})
    (vacant : get acc = Scalar.blank := by rfl) :
    Fills depth (Field.one tag name get set :: fs) m acc :=
  rest.cons fun _ _ _ declared => .one declared lens vacant

theorem texts {get : M → List String} {set : List String → M → M}
    (rest : Fills depth fs m (copy get set m acc))
    (lens : Lens get set := by exact {})
    (vacant : get acc = [] := by rfl) :
    Fills depth (Field.texts tag name get set :: fs) m acc :=
  rest.cons fun _ _ _ declared => .texts declared lens vacant

theorem packed {α : Type} [Scalar α] [LawfulScalar α] {get : M → List α} {set : List α → M → M}
    (rest : Fills depth fs m (copy get set m acc))
    (lens : Lens get set := by exact {})
    (vacant : get acc = [] := by rfl) :
    Fills depth (Field.packed tag name get set :: fs) m acc :=
  rest.cons fun _ _ _ declared => .packed declared lens vacant

theorem message {N : Type} [Message N] [Legible N] {get : M → Option N} {set : Option N → M → M}
    (rest : Fills depth fs m (copy get set m acc)) (deep : Legible.depth N < depth := by decide)
    (lens : Lens get set := by exact {})
    (vacant : get acc = none := by rfl) :
    Fills depth (Field.message tag name get set :: fs) m acc := by
  refine rest.cons fun budget bytes enough declared => ?_
  obtain ⟨budget, rfl⟩ : ∃ b, budget = b + 1 := ⟨budget - 1, by omega⟩
  exact .message declared lens vacant (Legible.readable (by omega))

theorem messages {N : Type} [Message N] [Legible N] {get : M → List N} {set : List N → M → M}
    (rest : Fills depth fs m (copy get set m acc)) (deep : Legible.depth N < depth := by decide)
    (lens : Lens get set := by exact {})
    (vacant : get acc = [] := by rfl) :
    Fills depth (Field.messages tag name get set :: fs) m acc := by
  refine rest.cons fun budget bytes enough declared => ?_
  obtain ⟨budget, rfl⟩ : ∃ b, budget = b + 1 := ⟨budget - 1, by omega⟩
  exact .messages declared lens vacant (Legible.readable (by omega))

theorem map {get : M → TextMap} {set : TextMap → M → M}
    (rest : Fills depth fs m (copy get set m acc)) (deep : 0 < depth := by decide)
    (lens : Lens get set := by exact {})
    (vacant : get acc = .empty := by rfl) :
    Fills depth (Field.map tag name get set :: fs) m acc := by
  refine rest.cons fun budget bytes enough declared => ?_
  obtain ⟨budget, rfl⟩ : ∃ b, budget = b + 1 := ⟨budget - 1, by omega⟩
  exact .map declared lens vacant

end Fills

end RuntimeMux.Wire
