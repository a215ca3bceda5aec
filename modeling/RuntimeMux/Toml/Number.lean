import RuntimeMux.Decimal.Binary64
import RuntimeMux.Text.Hex

/-!
# Numbers in settings files

Digits may have single underscores between them. An integer has sixty-four bits, and may be in base
sixteen, eight or two if it has no sign; a decimal number does not start with superfluous zeros.
-/

namespace RuntimeMux.Toml

/-- The value of a digit in a base. -/
def digitIn? (base : Nat) (c : Char) : Option Nat :=
  (Text.hexValue? c).filter (· < base)

/-- What has been seen of a run of digits. -/
inductive Run where
  /-- Nothing. -/
  | start
  /-- A zero that no digit may follow. -/
  | zero
  /-- A zero that no digit may follow, and an underscore. -/
  | zeroUnderscore
  /-- A digit. -/
  | digit
  /-- An underscore behind a digit. -/
  | underscore
  deriving DecidableEq

/-- Reads a run of digits: their values, and what follows. -/
def readDigits? (base : Nat) (leadingZeros : Bool) (run : Run) :
    List Char → Option (List Nat × List Char)
  | [] => if run = .zero ∨ run = .digit then some ([], []) else none
  | c :: cs =>
    match digitIn? base c with
    | some d =>
      let next := match run with
        | .start => if d = 0 ∧ !leadingZeros then some Run.zero else some .digit
        | .zero | .zeroUnderscore => none
        | .digit | .underscore => some .digit
      match next with
      | some run => (readDigits? base leadingZeros run cs).map fun (ds, rest) => (d :: ds, rest)
      | none => none
    | none =>
      if c = '_' ∧ run = .digit then readDigits? base leadingZeros .underscore cs
      else if c = '_' ∧ run = .zero then readDigits? base leadingZeros .zeroUnderscore cs
      else if run = .zero ∨ run = .digit then some ([], c :: cs)
      else none

/-- The number of a list of digits. -/
def valueOf (base : Nat) (digits : List Nat) : Nat :=
  digits.foldl (fun n d => base * n + d) 0

/-- Whether characters start with a sign, which is a minus. -/
def readSign : List Char → Bool × List Char
  | '-' :: cs => (true, cs)
  | '+' :: cs => (false, cs)
  | cs => (false, cs)

/-- The integer with a sign and a magnitude, if sixty-four bits are enough for it. -/
def integerOf? (negative : Bool) (n : Nat) : Option Int :=
  if negative then (if n ≤ 9223372036854775808 then some (-n) else none)
  else if n < 9223372036854775808 then some n else none

/-- Reads an integer without a sign in a base. -/
def readUnsigned? (base : Nat) (cs : List Char) : Option Int :=
  match readDigits? base true .start cs with
  | some (digits, []) => integerOf? false (valueOf base digits)
  | _ => none

/-- Reads a decimal integer. -/
def readInteger? (cs : List Char) : Option Int :=
  let (negative, cs) := readSign cs
  match readDigits? 10 false .start cs with
  | some (digits, []) => integerOf? negative (valueOf 10 digits)
  | _ => none

/-- A decimal number: sign, digits in front of and behind the point, and exponent. -/
def decimalOf? (negative : Bool) (whole fraction : List Nat) (exponent : Int) :
    Option Decimal.Binary64 :=
  Decimal.Binary64.ofDecimal? negative (valueOf 10 (whole ++ fraction))
    (exponent - fraction.length)

/-- Reads an exponent. -/
def readExponent? (cs : List Char) : Option Int :=
  let (negative, cs) := readSign cs
  match readDigits? 10 true .start cs with
  | some (digits, []) =>
    let n : Int := valueOf 10 digits
    some (if negative then -n else n)
  | _ => none

/-- Reads the exponent of a number at the end of a word, if there is one. `plus` is the word behind a
plus sign that follows. -/
def readTail? (plus : Option (List Char)) : List Char → Option Int
  | [] => some 0
  | c :: cs =>
    if c = 'e' ∨ c = 'E' then
      match cs, plus with
      | [], some word =>
        match readDigits? 10 true .start word with
        | some (digits, []) => some (valueOf 10 digits)
        | _ => none
      | [], none => none
      | _ :: _, _ => readExponent? cs
    else none

/-- Reads a number with a fraction or an exponent: the word in front of the point, the one behind it,
and the one behind a plus sign in the exponent. -/
def readFloat? (front : List Char) (behind plus : Option (List Char)) :
    Option Decimal.Binary64 := do
  let (negative, front) := readSign front
  let (whole, rest) ← readDigits? 10 false .start front
  match behind with
  | none => decimalOf? negative whole [] (← readTail? plus rest)
  | some behind =>
    if rest.isEmpty then
      let (fraction, rest) ← readDigits? 10 true .start behind
      decimalOf? negative whole fraction (← readTail? plus rest)
    else none

end RuntimeMux.Toml
