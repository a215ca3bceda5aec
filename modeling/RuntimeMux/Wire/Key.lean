import RuntimeMux.Wire.Varint

/-!
# Field keys

In front of every field stands a key, a varint that holds the tag of the field and the kind of its
value. A field whose tag a message does not declare is skipped by its kind alone.
-/

namespace RuntimeMux.Wire

/-- The tag of a field and the kind of its value. -/
structure Key where
  tag : Nat
  kind : Kind
  deriving DecidableEq, Repr

namespace Key

/-- The bytes of a key. -/
def encode (key : Key) : Bytes :=
  Varint.encode (UInt64.ofNat (key.tag * 8 + key.kind.number))

/-- Reads a key. It must fit thirty-two bits, name a kind, and have a tag other than zero. -/
def decode (bytes : Bytes) : Except Failure (Key × Bytes) := do
  let (word, rest) ← Varint.decode bytes
  let n := word.toNat
  if n ≥ 4294967296 then
    .error (.of (.keyTooLarge n))
  else
    match Kind.ofNumber? (n % 8) with
    | none => .error (.of (.noSuchKind (n % 8)))
    | some kind =>
      if n / 8 = 0 then .error (.of .zeroTag) else .ok (⟨n / 8, kind⟩, rest)

@[simp] theorem decode_encode (key : Key) (rest : Bytes) (low : 0 < key.tag)
    (high : key.tag < 536870912) : decode (key.encode ++ rest) = .ok (key, rest) := by
  have hk := key.kind.number_lt
  have hn : (UInt64.ofNat (key.tag * 8 + key.kind.number)).toNat = key.tag * 8 + key.kind.number :=
    UInt64.toNat_ofNat_of_lt (by simp only [UInt64.size]; omega)
  have hmod : (key.tag * 8 + key.kind.number) % 8 = key.kind.number := by omega
  have hdiv : (key.tag * 8 + key.kind.number) / 8 = key.tag := by omega
  simp only [decode, encode, Varint.decode_encode, bind, Except.bind, hn, hmod, hdiv,
    Kind.ofNumber?_number]
  rw [if_neg (by omega), if_neg (by omega)]

end Key

/-! ### Skipping -/

/-- What follows the first `n` bytes. -/
def dropBytes (n : Nat) (bytes : Bytes) : Except Failure Bytes :=
  if n ≤ bytes.length then .ok (bytes.drop n) else .error (.of .underflow)

/-- Skips the fields of a group up to and including its end, each of them with `skip`. Every field
takes a byte at least, so that as much `fuel` as there are bytes is enough. -/
def skipGroup (skip : Key → Bytes → Except Failure Bytes) (tag : Nat) :
    (fuel : Nat) → Bytes → Except Failure Bytes
  | 0, _ => .error (.of .badVarint)
  | fuel + 1, bytes => do
    let (key, rest) ← Key.decode bytes
    if key.kind = .endGroup then
      if key.tag = tag then .ok rest else .error (.of .strayGroupEnd)
    else
      let rest ← skip key rest
      skipGroup skip tag fuel rest

/-- Skips the value of a field that has the given key. `budget` bounds the nesting of groups. -/
def skipField : (budget : Nat) → Key → Bytes → Except Failure Bytes
  | 0, _, _ => .error (.of .tooDeep)
  | budget + 1, key, bytes =>
    match key.kind with
    | .varint => do
      let (_, rest) ← Varint.decode bytes
      return rest
    | .fixed32 => dropBytes 4 bytes
    | .fixed64 => dropBytes 8 bytes
    | .delimited => do
      let (n, rest) ← Varint.decode bytes
      dropBytes n.toNat rest
    | .startGroup => skipGroup (skipField budget) key.tag bytes.length bytes
    | .endGroup => .error (.of .strayGroupEnd)

end RuntimeMux.Wire
