import RuntimeMux.Decimal.Binary64

/-!
# The shortest text of a number

A number is written with the fewest digits that are nearer to it than to any other number in the
format, without an exponent.
-/

namespace RuntimeMux.Decimal

/-- The decimals that stand for a number: those between two bounds, in quarters of the last binary
place, with a common denominator. -/
structure Interval where
  low : Nat
  value : Nat
  high : Nat
  denominator : Nat
  /-- Whether the bounds belong to it. -/
  closed : Bool

/-- The decimals that stand for `m * 2 ^ e`. -/
def Interval.of (m : Nat) (e : Int) : Interval :=
  let low := if m = leastMantissa ∧ e ≠ leastExponent then 4 * m - 1 else 4 * m - 2
  let up := Nat.pow 2 (e - 2).toNat
  { low := low * up
    value := 4 * m * up
    high := (4 * m + 2) * up
    denominator := Nat.pow 2 (2 - e).toNat
    closed := m % 2 == 0 }

/-- Whether `n / d` stands for the number. -/
def Interval.contains (i : Interval) (n d : Nat) : Bool :=
  if i.closed then decide (i.low * d ≤ n * i.denominator ∧ n * i.denominator ≤ i.high * d)
  else decide (i.low * d < n * i.denominator ∧ n * i.denominator < i.high * d)

/-- How many digits `n / d` has in front of the point; less than zero if zeros follow the point. -/
def magnitude (n d : Nat) : Int :=
  if d ≤ n then (Nat.toDigits 10 (n / d)).length
  else -(((List.range 400).find? fun j => decide (d ≤ n * Nat.pow 10 (j + 1))).getD 400 : Nat)

/-- The multiple of `10 ^ k` that stands for the number, if there is one; of two the nearer one, and
of two equally near ones the greater. -/
def Interval.onGrid? (i : Interval) (k : Int) : Option Nat :=
  let up := Nat.pow 10 k.toNat
  let down := Nat.pow 10 (-k).toNat
  let c := i.value * down / (i.denominator * up)
  let fits (c : Nat) : Bool := i.contains (c * up) down
  let nearer := if 2 * i.value * down < (2 * c + 1) * up * i.denominator then c else c + 1
  match fits c, fits (c + 1) with
  | true, true => some nearer
  | true, false => some c
  | false, true => some (c + 1)
  | false, false => none

/-- The shortest decimal that stands for the number, as `c * 10 ^ k`. Seventeen digits always do. -/
def Interval.shortest (i : Interval) : Nat × Int :=
  let places := magnitude i.value i.denominator
  ((List.range 17).findSome? fun (n : Nat) =>
    let k := places - (n + 1 : Nat)
    (i.onGrid? k).map fun c => (c, k)).getD (0, 0)

/-- The digits behind the point: those of `part / 10 ^ places`, without zeros at the end. -/
def fractionDigits : (places part : Nat) → List Char
  | 0, _ => []
  | places + 1, part =>
    if part = 0 then []
    else Char.ofNat (48 + part / Nat.pow 10 places) :: fractionDigits places (part % Nat.pow 10 places)

/-- The text of `c * 10 ^ k`. -/
def positional (c : Nat) (k : Int) : String :=
  if 0 ≤ k then toString (c * Nat.pow 10 k.toNat)
  else
    let places := (-k).toNat
    let fraction := fractionDigits places (c % Nat.pow 10 places)
    toString (c / Nat.pow 10 places)
      ++ (if fraction.isEmpty then "" else "." ++ String.ofList fraction)

/-- The text of a number. -/
def Binary64.text : Binary64 → String
  | .undefined => "NaN"
  | .infinite negative => if negative then "-inf" else "inf"
  | .finite negative m e =>
    let digits := if m = 0 then "0" else
      let (c, k) := (Interval.of m e).shortest
      positional c k
    if negative then "-" ++ digits else digits

end RuntimeMux.Decimal
