/-!
# Numbers of sixty-four bits

Decimal numbers are kept in a binary format with fifty-three significant bits. A number is rounded
to the nearest one in the format, and of two equally near ones to the one with an even mantissa.
Everything is computed exactly.
-/

namespace RuntimeMux.Decimal

/-- A number in the format. -/
inductive Binary64 where
  /-- `mantissa * 2 ^ exponent`, with a sign. -/
  | finite (negative : Bool) (mantissa : Nat) (exponent : Int)
  | infinite (negative : Bool)
  | undefined
  deriving DecidableEq, Repr

/-- The least exponent in the format. -/
def leastExponent : Int := -1074

/-- The greatest exponent in the format. -/
def greatestExponent : Int := 971

/-- The least mantissa of a number whose exponent is not the least one. -/
def leastMantissa : Nat := 4503599627370496

/-- The quotient rounded to the nearest number, of two equally near ones to the even one. -/
def divideToEven (n d : Nat) : Nat :=
  let q := n / d
  let twice := 2 * (n % d)
  if d < twice ∨ (twice = d ∧ q % 2 = 1) then q + 1 else q

/-- The numerator and denominator of `n / d * 2 ^ -e`. -/
def scaled (n d : Nat) (e : Int) : Nat × Nat :=
  if 0 ≤ e then (n, d * Nat.pow 2 e.toNat) else (n * Nat.pow 2 (-e).toNat, d)

namespace Binary64

/-- The number nearest to `n / d`, unless it is too large. -/
def ofRatio? (negative : Bool) (n d : Nat) : Option Binary64 :=
  if n = 0 then some (.finite negative 0 leastExponent)
  else
    let guess := max ((n.log2 : Int) - d.log2 - 52) leastExponent
    let (a, b) := scaled n d guess
    let e := if a < leastMantissa * b then max (guess - 1) leastExponent else guess
    let (a, b) := scaled n d e
    let m := divideToEven a b
    let (m, e) := if m = 2 * leastMantissa then (leastMantissa, e + 1) else (m, e)
    if greatestExponent < e then none else some (.finite negative m e)

/-- The number nearest to `digits * 10 ^ exponent`, unless it is too large. Exponents beyond what any
number in the format has are not computed with. -/
def ofDecimal? (negative : Bool) (digits : Nat) (exponent : Int) : Option Binary64 :=
  let places : Int := (Nat.toDigits 10 digits).length
  if digits = 0 ∨ places + exponent < -400 then some (.finite negative 0 leastExponent)
  else if 400 < places + exponent then none
  else if 0 ≤ exponent then ofRatio? negative (digits * Nat.pow 10 exponent.toNat) 1
  else ofRatio? negative digits (Nat.pow 10 (-exponent).toNat)

/-- The natural number nearest to a number, of two equally near ones the greater, within a limit. -/
def toNat (limit : Nat) : Binary64 → Nat
  | .finite true _ _ | .infinite true | .undefined => 0
  | .infinite false => limit
  | .finite false m e =>
    let n := if 0 ≤ e then m * Nat.pow 2 e.toNat
      else (2 * m + Nat.pow 2 (-e).toNat) / (2 * Nat.pow 2 (-e).toNat)
    min n limit

end Binary64

end RuntimeMux.Decimal
