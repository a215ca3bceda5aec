/-!
# Failures to decode

A failure has a cause and the fields that were being read when it arose. The fields are kept from
the innermost to the outermost, which is also the order in which they are written.
-/

namespace RuntimeMux.Wire

/-- The bytes of a message, or of a part of one. -/
abbrev Bytes := List UInt8

/-- How the value of a field is laid out. -/
inductive Kind where
  | varint
  | fixed64
  | delimited
  | startGroup
  | endGroup
  | fixed32
  deriving DecidableEq, Repr

namespace Kind

/-- The number of a kind in a key. -/
def number : Kind → Nat
  | .varint => 0
  | .fixed64 => 1
  | .delimited => 2
  | .startGroup => 3
  | .endGroup => 4
  | .fixed32 => 5

/-- The kind of a number. -/
def ofNumber? : Nat → Option Kind
  | 0 => some .varint
  | 1 => some .fixed64
  | 2 => some .delimited
  | 3 => some .startGroup
  | 4 => some .endGroup
  | 5 => some .fixed32
  | _ => none

/-- The name of a kind in messages. -/
def name : Kind → String
  | .varint => "Varint"
  | .fixed64 => "SixtyFourBit"
  | .delimited => "LengthDelimited"
  | .startGroup => "StartGroup"
  | .endGroup => "EndGroup"
  | .fixed32 => "ThirtyTwoBit"

@[simp] theorem ofNumber?_number (k : Kind) : ofNumber? k.number = some k := by
  cases k <;> rfl

theorem number_lt (k : Kind) : k.number < 8 := by
  cases k <;> decide

end Kind

/-- Why bytes cannot be read. -/
inductive Cause where
  /-- The bytes end within a varint, or it has more than sixty-four bits. -/
  | badVarint
  /-- A key has more than thirty-two bits. -/
  | keyTooLarge (key : Nat)
  /-- A key names no kind. -/
  | noSuchKind (number : Nat)
  /-- A key has the tag zero. -/
  | zeroTag
  /-- A field has another kind than it is declared with. -/
  | wrongKind (actual expected : Kind)
  /-- Fewer bytes are left than announced. -/
  | underflow
  /-- The contents ran past the end that was announced for them. -/
  | overrun
  /-- A text is not well-formed UTF-8. -/
  | notText
  /-- Messages are nested too deeply. -/
  | tooDeep
  /-- A group ends that has not begun, or another one than has begun. -/
  | strayGroupEnd
  deriving DecidableEq, Repr

/-- The description of a cause. -/
def Cause.text : Cause → String
  | .badVarint => "invalid varint"
  | .keyTooLarge key => "invalid key value: " ++ toString key
  | .noSuchKind number => "invalid wire type value: " ++ toString number
  | .zeroTag => "invalid tag value: 0"
  | .wrongKind actual expected =>
    "invalid wire type: " ++ actual.name ++ " (expected " ++ expected.name ++ ")"
  | .underflow => "buffer underflow"
  | .overrun => "delimited length exceeded"
  | .notText => "invalid string value: data is not UTF-8 encoded"
  | .tooDeep => "recursion limit reached"
  | .strayGroupEnd => "unexpected end group tag"

/-- A field of a message, by the names of both. -/
structure FieldName where
  message : String
  field : String
  deriving DecidableEq, Repr

/-- A failure to decode. -/
structure Failure where
  cause : Cause
  /-- The fields that were being read, the innermost first. -/
  trail : List FieldName
  deriving DecidableEq, Repr

namespace Failure

/-- A failure outside any field. -/
def of (cause : Cause) : Failure := ⟨cause, []⟩

/-- The failure as seen from outside the given field. -/
def within (message field : String) (f : Failure) : Failure :=
  { f with trail := f.trail ++ [⟨message, field⟩] }

/-- The message of a failure: the fields, then the cause. -/
def text (f : Failure) : String :=
  "failed to decode Protobuf message: "
    ++ String.join (f.trail.map fun n => n.message ++ "." ++ n.field ++ ": ") ++ f.cause.text

end Failure

end RuntimeMux.Wire
