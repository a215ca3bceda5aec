import RuntimeMux.Text.Combining
import RuntimeMux.Text.Hex
import RuntimeMux.Text.Unprintable

/-!
# Quoted text

Messages quote a text between double quotes so that it stands out and stays on one line: quotes and
backslashes are escaped, and every character that has no printed form of its own, or would join its
neighbour, is written by its number.
-/

namespace RuntimeMux.Text

/-- Whether a code point lies in one of the ranges. -/
def inRanges (ranges : List (Nat × Nat)) (code : Nat) : Bool :=
  ranges.any fun (low, high) => decide (low ≤ code ∧ code ≤ high)

/-- Whether quoted text shows the character as it is. -/
def isPrinted (c : Char) : Bool :=
  if c.toNat < 127 then decide (32 ≤ c.toNat)
  else !inRanges combiningRanges c.toNat && !inRanges unprintableRanges c.toNat

/-- A character as it stands in quoted text. -/
def escaped (c : Char) : List Char :=
  if c = '"' then ['\\', '"']
  else if c = '\\' then ['\\', '\\']
  else if c = '\n' then ['\\', 'n']
  else if c = '\r' then ['\\', 'r']
  else if c = '\t' then ['\\', 't']
  else if c.toNat = 0 then ['\\', '0']
  else if isPrinted c then [c]
  else ['\\', 'u', '\x7b'] ++ hexNumber c.toNat ++ ['\x7d']

/-- The text between double quotes. -/
def quoted (text : String) : String :=
  .ofList ('"' :: text.toList.flatMap escaped ++ ['"'])

end RuntimeMux.Text
