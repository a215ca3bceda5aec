/-!
# Malformed UTF-8

A character is one to four bytes in UTF-8: the first byte tells how many follow and limits the second
one. Bytes that are no text are described by where the first malformed sequence starts and how long
it is.
-/

namespace RuntimeMux.Text.Utf8

/-- Where bytes stop being text. -/
structure Malformed where
  /-- The number of bytes before, which are text. -/
  index : Nat
  /-- The length of the malformed sequence; none if it would be well-formed with more bytes. -/
  length : Option Nat
  deriving DecidableEq, Repr

/-- How many bytes follow the first one of a character, and the least and greatest for the next. -/
def lead? (b : UInt8) : Option (Nat × UInt8 × UInt8) :=
  if b < 0x80 then some (0, 0x80, 0xbf)
  else if b < 0xc2 then none
  else if b < 0xe0 then some (1, 0x80, 0xbf)
  else if b = 0xe0 then some (2, 0xa0, 0xbf)
  else if b = 0xed then some (2, 0x80, 0x9f)
  else if b < 0xf0 then some (2, 0x80, 0xbf)
  else if b = 0xf0 then some (3, 0x90, 0xbf)
  else if b < 0xf4 then some (3, 0x80, 0xbf)
  else if b = 0xf4 then some (3, 0x80, 0x8f)
  else none

/-- Looks for a malformed sequence. `start` bytes are text; `taken` bytes of the next character have
been read, and `owed` ones are still to come, the next of them from `low` to `high`. -/
def scan (start taken owed : Nat) (low high : UInt8) : List UInt8 → Option Malformed
  | [] => if owed = 0 then none else some ⟨start, none⟩
  | b :: rest =>
    match owed with
    | 0 =>
      match lead? b with
      | none => some ⟨start, some 1⟩
      | some (0, _, _) => scan (start + 1) 0 0 low high rest
      | some (n, low, high) => scan start 1 n low high rest
    | owed + 1 =>
      if low ≤ b ∧ b ≤ high then
        if owed = 0 then scan (start + taken + 1) 0 0 low high rest
        else scan start (taken + 1) owed 0x80 0xbf rest
      else some ⟨start, some taken⟩

/-- The first malformed sequence of bytes. -/
def malformed? (bytes : List UInt8) : Option Malformed :=
  scan 0 0 0 0x80 0xbf bytes

/-- The description of a malformed sequence. -/
def Malformed.text (m : Malformed) : String :=
  match m.length with
  | some n => "invalid utf-8 sequence of " ++ toString n ++ " bytes from index " ++ toString m.index
  | none => "incomplete utf-8 byte sequence from index " ++ toString m.index

end RuntimeMux.Text.Utf8
