import RuntimeMux.TextMap
import RuntimeMux.Wire.Scalar

/-!
# Messages

A message is a structure together with its fields: for each of them the tag, the name, how it is
written, and how a value read from the wire is merged into a message that has already been read in
part. A scalar field replaces its value, a repeated one appends to it, a sub-message is merged into
the one that is there, and a map entry replaces the one with its key. Fields that a message does not
declare are skipped.

Lengths count to the end of all bytes, not of the enclosing message, and contents that run past
their announced end are an overrun. Nesting is bounded by a budget.

The entries of a map may be written in any order. So a message has several spellings, and the bytes
that are written for it are the one with ascending keys.
-/

namespace RuntimeMux.Wire

/-- A field of the messages `M`. -/
structure Field (M : Type) where
  tag : Nat
  name : String
  /-- The bytes of the field, key included; none if the field has its default value. -/
  write : M → Bytes
  /-- Whether bytes are those of the field, with the entries of maps in any order. -/
  spells : M → Bytes → Prop := fun m bytes => bytes = write m
  /-- The bytes that are written are among them. -/
  spells_write : ∀ m, spells m (write m) := by exact fun _ => rfl
  /-- Reads a value of the announced kind and merges it into a message. -/
  merge : (budget : Nat) → Kind → Bytes → M → Except Failure (M × Bytes)

/-- A type of messages. -/
class Message (M : Type) where
  /-- The name of the type in failures. -/
  name : String
  /-- The message without any field. -/
  blank : M
  /-- The fields, in the order in which they are written. -/
  fields : List (Field M)

/-! ### Parts in a row -/

/-- Bytes that have a part for each element of a list, in the order of the list. -/
inductive InRow {α : Type} (part : α → Bytes → Prop) : List α → Bytes → Prop
  | nil : InRow part [] []
  | cons {x : α} {xs : List α} {bytes later : Bytes} :
    part x bytes → InRow part xs later → InRow part (x :: xs) (bytes ++ later)

theorem InRow.flatMap {α : Type} {part : α → Bytes → Prop} {write : α → Bytes}
    (written : ∀ x, part x (write x)) (xs : List α) : InRow part xs (xs.flatMap write) := by
  induction xs with
  | nil => exact .nil
  | cons x xs ih => exact .cons (written x) ih

/-! ### Contents -/

/-- Takes steps until at most `limit` bytes are left, which must then be all that is left. Every
step takes a byte at least, so that as much `fuel` as there are bytes is enough. -/
def readUntil {σ : Type} (limit : Nat) (step : Bytes → σ → Except Failure (σ × Bytes)) :
    (fuel : Nat) → Bytes → σ → Except Failure (σ × Bytes)
  | 0, bytes, s => if bytes.length = limit then .ok (s, bytes) else .error (.of .overrun)
  | fuel + 1, bytes, s =>
    if bytes.length ≤ limit then
      if bytes.length = limit then .ok (s, bytes) else .error (.of .overrun)
    else do
      let (s, rest) ← step bytes s
      readUntil limit step fuel rest s

/-- Reads a length and takes steps to the end that it announces. -/
def readContents {σ : Type} (step : Bytes → σ → Except Failure (σ × Bytes)) (bytes : Bytes) (s : σ) :
    Except Failure (σ × Bytes) := do
  let (n, rest) ← Varint.decode bytes
  if n.toNat ≤ rest.length then readUntil (rest.length - n.toNat) step rest.length rest s
  else .error (.of .underflow)

/-- Fails unless the announced kind is the expected one. -/
def expectKind (actual expected : Kind) : Except Failure Unit :=
  if actual = expected then .ok () else .error (.of (.wrongKind actual expected))

namespace Message

/-- Reads one field, key included, and merges it into a message. -/
def mergeField {M : Type} [Message M] (budget : Nat) (bytes : Bytes) (m : M) :
    Except Failure (M × Bytes) := do
  let (key, rest) ← Key.decode bytes
  match (fields (M := M)).find? fun f => f.tag == key.tag with
  | some f => (f.merge budget key.kind rest m).mapError (Failure.within (name M) f.name)
  | none =>
    let rest ← skipField budget key rest
    return (m, rest)

/-- The bytes of a message: its fields one after the other. -/
def encode {M : Type} [Message M] (m : M) : Bytes :=
  (fields (M := M)).flatMap fun f => f.write m

/-- Whether bytes are those of a message, with the entries of maps in any order. -/
def Spells {M : Type} [Message M] (m : M) (bytes : Bytes) : Prop :=
  InRow (fun f => f.spells m) (fields (M := M)) bytes

theorem spells_encode {M : Type} [Message M] (m : M) : Spells m (encode m) :=
  .flatMap (fun f => f.spells_write m) fields

/-- How deeply messages and groups may be nested. -/
def budget : Nat := 100

/-- Reads a message that takes all the bytes. -/
def decode {M : Type} [Message M] (bytes : Bytes) : Except Failure M :=
  (readUntil 0 (mergeField budget) bytes.length bytes (blank : M)).map Prod.fst

end Message

/-! ### Fields -/

namespace Field

variable {M : Type}

/-- A field that holds one value. -/
def one {α : Type} [Scalar α] (tag : Nat) (name : String) (get : M → α) (set : α → M → M) :
    Field M where
  tag := tag
  name := name
  write m :=
    if Scalar.isBlank (get m) then []
    else Key.encode ⟨tag, Scalar.kind α⟩ ++ Scalar.write (get m)
  merge _ kind bytes m := do
    expectKind kind (Scalar.kind α)
    let (x, rest) ← Scalar.read bytes
    return (set x m, rest)

/-- A field that holds any number of texts. -/
def texts (tag : Nat) (name : String) (get : M → List String) (set : List String → M → M) :
    Field M where
  tag := tag
  name := name
  write m := (get m).flatMap fun x => Key.encode ⟨tag, .delimited⟩ ++ Scalar.write x
  merge _ kind bytes m := do
    expectKind kind .delimited
    let (x, rest) ← Scalar.read bytes
    return (set (get m ++ [x]) m, rest)

/-- A field that holds any number of integers. They are written together, and read together or one
by one. -/
def packed {α : Type} [Scalar α] (tag : Nat) (name : String) (get : M → List α)
    (set : List α → M → M) : Field M where
  tag := tag
  name := name
  write m :=
    if (get m).isEmpty then []
    else Key.encode ⟨tag, .delimited⟩ ++ delimit ((get m).flatMap Scalar.write)
  merge _ kind bytes m :=
    let readOne (bytes : Bytes) (m : M) : Except Failure (M × Bytes) := do
      let (x, rest) ← Scalar.read bytes
      return (set (get m ++ [x]) m, rest)
    if kind = .delimited then readContents readOne bytes m
    else do
      expectKind kind (Scalar.kind α)
      readOne bytes m

/-- Whether bytes are those of a message within another one. -/
def spellsPart {N : Type} [Message N] (tag : Nat) (x : N) (bytes : Bytes) : Prop :=
  ∃ contents, Message.Spells x contents ∧ bytes = Key.encode ⟨tag, .delimited⟩ ++ delimit contents

theorem spellsPart_encode {N : Type} [Message N] (tag : Nat) (x : N) :
    spellsPart tag x (Key.encode ⟨tag, .delimited⟩ ++ delimit (Message.encode x)) :=
  ⟨Message.encode x, Message.spells_encode x, rfl⟩

/-- A field that may hold a message. -/
def message {N : Type} [Message N] (tag : Nat) (name : String) (get : M → Option N)
    (set : Option N → M → M) : Field M where
  tag := tag
  name := name
  write m :=
    match get m with
    | none => []
    | some x => Key.encode ⟨tag, .delimited⟩ ++ delimit (Message.encode x)
  spells m bytes :=
    match get m with
    | none => bytes = []
    | some x => spellsPart tag x bytes
  spells_write m := by
    cases get m with
    | none => rfl
    | some x => exact spellsPart_encode tag x
  merge budget kind bytes m := do
    expectKind kind .delimited
    match budget with
    | 0 => .error (.of .tooDeep)
    | inner + 1 =>
      let start := (get m).getD Message.blank
      let (x, rest) ← readContents (Message.mergeField inner) bytes start
      return (set (some x) m, rest)

/-- A field that holds any number of messages. -/
def messages {N : Type} [Message N] (tag : Nat) (name : String) (get : M → List N)
    (set : List N → M → M) : Field M where
  tag := tag
  name := name
  write m := (get m).flatMap fun x => Key.encode ⟨tag, .delimited⟩ ++ delimit (Message.encode x)
  spells m := InRow (spellsPart tag) (get m)
  spells_write m := .flatMap (spellsPart_encode tag) (get m)
  merge budget kind bytes m := do
    expectKind kind .delimited
    match budget with
    | 0 => .error (.of .tooDeep)
    | inner + 1 =>
      let (x, rest) ← readContents (Message.mergeField inner) bytes (Message.blank : N)
      return (set (get m ++ [x]) m, rest)

/-- The bytes of a map entry, in which an empty key or value is left out. -/
def writeEntry (entry : String × String) : Bytes :=
  let part (tag : Nat) (text : String) : Bytes :=
    if text.isEmpty then [] else Key.encode ⟨tag, .delimited⟩ ++ Scalar.write text
  part 1 entry.1 ++ part 2 entry.2

/-- Reads one field of a map entry: the key, the value, or one to skip. -/
def mergeEntry (budget : Nat) (bytes : Bytes) (entry : String × String) :
    Except Failure ((String × String) × Bytes) := do
  let (key, rest) ← Key.decode bytes
  if key.tag = 1 then
    expectKind key.kind .delimited
    let (text, rest) ← Scalar.read rest
    return ((text, entry.2), rest)
  else if key.tag = 2 then
    expectKind key.kind .delimited
    let (text, rest) ← Scalar.read rest
    return ((entry.1, text), rest)
  else
    let rest ← skipField budget key rest
    return (entry, rest)

/-- A field that holds a map. Its entries are read as delimited ones, whatever kind is announced. -/
def map (tag : Nat) (name : String) (get : M → TextMap) (set : TextMap → M → M) : Field M where
  tag := tag
  name := name
  write m :=
    (get m).entries.flatMap fun e => Key.encode ⟨tag, .delimited⟩ ++ delimit (writeEntry e)
  spells m bytes :=
    ∃ entries, entries.Perm (get m).entries ∧
      bytes = entries.flatMap fun e => Key.encode ⟨tag, .delimited⟩ ++ delimit (writeEntry e)
  spells_write m := ⟨(get m).entries, .refl _, rfl⟩
  merge budget _ bytes m :=
    match budget with
    | 0 => .error (.of .tooDeep)
    | inner + 1 => do
      let (entry, rest) ← readContents (mergeEntry inner) bytes ("", "")
      return (set ((get m).insert entry.1 entry.2) m, rest)

end Field

end RuntimeMux.Wire
