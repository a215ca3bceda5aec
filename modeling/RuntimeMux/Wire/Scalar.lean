import RuntimeMux.Wire.Key

/-!
# Scalar values

The values that fields hold without being messages themselves. Each type of them has one layout: the
kind announced by the key, a way to write a value, and a way to read one. Integers are words of
sixty-four bits on the wire; a narrower type keeps the low bits of what it reads, and a negative
number is extended by its sign when written.
-/

namespace RuntimeMux.Wire

/-- A type of values that a field can hold. -/
class Scalar (α : Type) where
  /-- The kind that announces a value. -/
  kind : Kind
  /-- The value of a field that is left out. -/
  blank : α
  /-- Whether a value is the one that is left out. -/
  isBlank : α → Bool
  write : α → Bytes
  read : Bytes → Except Failure (α × Bytes)

/-! ### Integers -/

/-- The layout of integers that are converted to and from words. -/
@[reducible] def Scalar.ofWord {α : Type} [DecidableEq α] (toWord : α → UInt64) (ofWord : UInt64 → α)
    (blank : α) : Scalar α where
  kind := .varint
  blank := blank
  isBlank x := decide (x = blank)
  write x := Varint.encode (toWord x)
  read bytes := do
    let (word, rest) ← Varint.decode bytes
    return (ofWord word, rest)

instance : Scalar UInt64 := .ofWord id id 0

instance : Scalar Int64 := .ofWord Int64.toUInt64 UInt64.toInt64 0

instance : Scalar UInt32 := .ofWord UInt32.toUInt64 UInt64.toUInt32 0

instance : Scalar Int32 :=
  .ofWord (fun x => x.toInt64.toUInt64) (fun w => w.toInt64.toInt32) 0

instance : Scalar Bool := .ofWord Bool.toUInt64 (fun w => w != 0) false

/-! ### Delimited values -/

/-- A length and as many bytes. -/
def delimit (contents : Bytes) : Bytes :=
  Varint.encode (UInt64.ofNat contents.length) ++ contents

/-- Reads a length and as many bytes. -/
def readDelimited (bytes : Bytes) : Except Failure (Bytes × Bytes) := do
  let (n, rest) ← Varint.decode bytes
  if n.toNat ≤ rest.length then .ok (rest.take n.toNat, rest.drop n.toNat)
  else .error (.of .underflow)

instance : Scalar Bytes where
  kind := .delimited
  blank := []
  isBlank := List.isEmpty
  write := delimit
  read := readDelimited

/-- The UTF-8 bytes of a text. -/
def bytesOfText (text : String) : Bytes :=
  text.toUTF8.data.toList

/-- The text of well-formed UTF-8 bytes. -/
def textOfBytes? (bytes : Bytes) : Option String :=
  String.fromUTF8? ⟨bytes.toArray⟩

@[simp] theorem textOfBytes?_bytesOfText (text : String) :
    textOfBytes? (bytesOfText text) = some text := by
  simp only [textOfBytes?, bytesOfText, Array.toArray_toList, String.fromUTF8?]
  exact (dif_pos text.isValidUTF8).trans rfl

instance : Scalar String where
  kind := .delimited
  blank := ""
  isBlank := String.isEmpty
  write text := delimit (bytesOfText text)
  read bytes := do
    let (contents, rest) ← readDelimited bytes
    match textOfBytes? contents with
    | some text => .ok (text, rest)
    | none => .error (.of .notText)

end RuntimeMux.Wire
