/-!
# Numbers as text

Reading an unsigned number: decimal digits, at least one, with at most one plus sign in front, and
a value that does not exceed the given limit.
-/

namespace RuntimeMux.Text

/-- The value of a decimal digit. -/
def digitValue? (c : Char) : Option Nat :=
  if '0' ≤ c ∧ c ≤ '9' then some (c.toNat - 48) else none

/-- The value of a list of decimal digits, added behind the digits already read. -/
def digitsFrom? (value : Nat) : List Char → Option Nat
  | [] => some value
  | c :: cs => do
    let d ← digitValue? c
    digitsFrom? (10 * value + d) cs

/-- The value of a non-empty list of decimal digits. -/
def digits? (cs : List Char) : Option Nat :=
  if cs.isEmpty then none else digitsFrom? 0 cs

/-- An unsigned number of at most `limit`, with an optional plus sign. -/
def unsigned? (limit : Nat) (cs : List Char) : Option Nat := do
  let value ← match cs with
    | '+' :: rest => digits? rest
    | _ => digits? cs
  if value ≤ limit then some value else none

end RuntimeMux.Text
