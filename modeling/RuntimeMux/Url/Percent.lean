import RuntimeMux.Text.Hex
import RuntimeMux.Wire.Scalar

/-!
# Percent encoding

A character that a part of a URL must not hold is written as its UTF-8 bytes, each as a percent sign
and two upper-case hexadecimal digits. Which characters these are depends on the part.
-/

namespace RuntimeMux.Url

/-! ### What is encoded -/

/-- Controls, and everything beyond ASCII. They are encoded everywhere. -/
def isControl (c : Char) : Bool :=
  c.toNat < 0x20 || 0x7e < c.toNat

/-- What a fragment must not hold. -/
def encodedInFragment (c : Char) : Bool :=
  isControl c || [' ', '"', '<', '>', '\x60'].contains c

/-- What a query must not hold. Special schemes also refuse the apostrophe. -/
def encodedInQuery (special : Bool) (c : Char) : Bool :=
  isControl c || [' ', '"', '#', '<', '>'].contains c || (special && c == '\x27')

/-- What a path must not hold. -/
def encodedInPath (c : Char) : Bool :=
  encodedInFragment c || ['#', '?', '\x7b', '\x7d'].contains c

/-- What a user name or password must not hold. -/
def encodedInUserInfo (c : Char) : Bool :=
  encodedInPath c || ['/', ':', ';', '=', '@', '[', '\\', ']', '^', '|'].contains c

/-! ### Encoding -/

/-- The upper-case digit of a number below sixteen. -/
def upperHexDigit (n : Nat) : Char :=
  if n < 10 then Char.ofNat (48 + n) else Char.ofNat (55 + n)

/-- A byte as a percent sign and two digits. -/
def percentByte (b : UInt8) : List Char :=
  ['%', upperHexDigit (b.toNat / 16), upperHexDigit (b.toNat % 16)]

/-- Encodes the characters that the predicate selects. -/
def percentEncode (encoded : Char → Bool) (cs : List Char) : List Char :=
  cs.flatMap fun c =>
    if encoded c then (Wire.bytesOfText (String.singleton c)).flatMap percentByte else [c]

/-! ### Decoding -/

/-- The bytes of the characters, with every percent sign and two digits taken for a byte. -/
def percentDecode : List Char → Wire.Bytes
  | [] => []
  | '%' :: a :: b :: rest =>
    match Text.hexValue? a, Text.hexValue? b with
    | some high, some low => UInt8.ofNat (16 * high + low) :: percentDecode rest
    | _, _ => 0x25 :: percentDecode (a :: b :: rest)
  | c :: rest => Wire.bytesOfText (String.singleton c) ++ percentDecode rest

theorem percentEncode_append (encoded : Char → Bool) (as bs : List Char) :
    percentEncode encoded (as ++ bs) = percentEncode encoded as ++ percentEncode encoded bs := by
  simp [percentEncode]

/-- Characters that are not selected stay as they are. -/
theorem percentEncode_eq_self {encoded : Char → Bool} {cs : List Char}
    (h : ∀ c ∈ cs, encoded c = false) : percentEncode encoded cs = cs := by
  induction cs with
  | nil => rfl
  | cons c cs ih =>
    have hc : encoded c = false := h c (by simp)
    have hcs : percentEncode encoded cs = cs := ih fun d hd => h d (by simp [hd])
    simp only [percentEncode, List.flatMap_cons, hc] at hcs ⊢
    simp [hcs]

end RuntimeMux.Url
