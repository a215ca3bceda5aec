/-!
# Hexadecimal text

Numbers and bytes in base sixteen, always with lower-case digits when written. Reading bytes takes
two digits for each byte, of either case.
-/

namespace RuntimeMux.Text

/-- The digit of a number below sixteen. -/
def hexDigit (n : Nat) : Char :=
  if n < 10 then Char.ofNat (48 + n) else Char.ofNat (87 + n)

/-- The value of a hexadecimal digit. -/
def hexValue? (c : Char) : Option Nat :=
  if '0' ≤ c ∧ c ≤ '9' then some (c.toNat - 48)
  else if 'a' ≤ c ∧ c ≤ 'f' then some (c.toNat - 87)
  else if 'A' ≤ c ∧ c ≤ 'F' then some (c.toNat - 55)
  else none

/-- The digits of `n`, without leading zeros. Six digits suffice for a code point. -/
def hexNumber (n : Nat) : List Char :=
  (go n n).reverse
where
  /-- The digits of `n`, least first; `fuel` bounds their number. -/
  go : Nat → Nat → List Char
    | 0, n => [hexDigit (n % 16)]
    | fuel + 1, n => if n < 16 then [hexDigit n] else hexDigit (n % 16) :: go fuel (n / 16)

/-- Two digits for each byte. -/
def hexOfBytes (bytes : List UInt8) : String :=
  .ofList (bytes.flatMap fun b => [hexDigit (b.toNat / 16), hexDigit (b.toNat % 16)])

/-- The bytes that a text of digit pairs stands for. -/
def bytesOfHex? (text : String) : Option (List UInt8) :=
  go text.toList
where
  /-- Reads digit pairs to the end. -/
  go : List Char → Option (List UInt8)
    | [] => some []
    | [_] => none
    | a :: b :: rest => do
      let high ← hexValue? a
      let low ← hexValue? b
      let bytes ← go rest
      return UInt8.ofNat (16 * high + low) :: bytes

end RuntimeMux.Text
