import RuntimeMux.Text.Split
import RuntimeMux.Toml.Moment
import RuntimeMux.Toml.Number
import RuntimeMux.Toml.Token
import RuntimeMux.Toml.Tree

/-!
# Settings files

A settings file is made of lines: a key and its value, or the header of a table that the following
lines belong to. Keys may be dotted, and values may be lists and tables themselves. A file that
breaks a rule gives no data at all.
-/

namespace RuntimeMux.Toml

open Settings (Datum)

/-- Takes tokens from the front, or fails. -/
abbrev Reader := StateT (List Token) Option

namespace Reader

/-- Takes a token. -/
def next : Reader Token
  | [] => none
  | token :: rest => some (token, rest)

/-- Takes a token if it is the given one, and tells whether it was. -/
def eat (token : Token) : Reader Bool
  | [] => some (false, [])
  | t :: rest => if t = token then some (true, rest) else some (false, t :: rest)

/-- Takes the given token. -/
def expect (token : Token) : Reader Unit := do
  if ← eat token then return () else failure

/-- Takes blanks, if there are any. -/
def skipBlanks : Reader Unit
  | .blank _ :: rest => some ((), rest)
  | tokens => some ((), tokens)

/-- Takes the end of a line, or notices the end of the file. -/
def endLine : Reader Unit
  | [] => some ((), [])
  | .newline :: rest => some ((), rest)
  | _ => none

/-- Takes a comment and the end of its line, and tells whether there was one. -/
def skipComment : Reader Bool
  | .comment :: rest => do
    let (_, rest) ← endLine rest
    return (true, rest)
  | tokens => some (false, tokens)

/-- Takes blanks, a comment, and the end of the line. -/
def finishLine : Reader Unit := do
  skipBlanks
  unless ← skipComment do endLine

/-- Takes a word. -/
def word : Reader (List Char) := do
  match ← next with
  | .word cs => return cs
  | _ => failure

/-! ### Keys -/

/-- Takes a key: a word, or a string on one line. -/
def key : Reader String := do
  match ← next with
  | .word cs => return .ofList cs
  | .text t false => return t
  | _ => failure

/-- Takes the keys behind dots. Every one takes a token at least, so that as much `fuel` as there are
tokens is enough. -/
def moreKeys : (fuel : Nat) → Reader (List String)
  | 0 => failure
  | fuel + 1 => do
    skipBlanks
    if ← eat (.mark '.') then
      skipBlanks
      let k ← key
      return k :: (← moreKeys fuel)
    else return []

/-- Takes a dotted key, and blanks behind it. -/
def dottedKey : Reader (List String) := do
  let first ← key
  return first :: (← moreKeys ((← get).length + 1))

/-! ### Numbers and times -/

/-- Whether a word ends with the mark of an exponent. -/
def endsWithExponent (cs : List Char) : Bool :=
  cs.getLast?.any fun c => c == 'e' || c == 'E'

/-- Takes the word behind a plus sign, if the word before ends with the mark of an exponent. -/
def plusWord (before : List Char) : Reader (Option (List Char)) := do
  if endsWithExponent before then
    if ← eat (.mark '+') then return some (← word)
  return none

/-- Takes the rest of a number that starts with a word. -/
def number (cs : List Char) : Reader Datum := do
  match cs with
  | '0' :: 'x' :: digits => liftOption ((readUnsigned? 16 digits).map .integer)
  | '0' :: 'o' :: digits => liftOption ((readUnsigned? 8 digits).map .integer)
  | '0' :: 'b' :: digits => liftOption ((readUnsigned? 2 digits).map .integer)
  | _ =>
    if cs.contains 'e' ∨ cs.contains 'E' then
      let plus ← plusWord cs
      liftOption ((readFloat? cs none plus).map .float)
    else if ← eat (.mark '.') then
      let behind ← word
      let plus ← plusWord behind
      liftOption ((readFloat? cs (some behind) plus).map .float)
    else if cs = "inf".toList then return .float (.infinite false)
    else if cs = "-inf".toList then return .float (.infinite true)
    else if cs = "nan".toList ∨ cs = "-nan".toList then return .float .undefined
    else liftOption ((readInteger? cs).map .integer)
where
  /-- Fails if there is no value. -/
  liftOption (value : Option Datum) : Reader Datum := fun tokens => value.map fun v => (v, tokens)

/-- Takes a word with a mark in front of it, if the mark is there. -/
def marked (mark : Char) : Reader (List Char) := do
  if ← eat (.mark mark) then return mark :: (← word) else return []

/-- Takes the hour behind a single space, if a word follows the space. -/
def hourBehindSpace : Reader (List Char)
  | .blank [' '] :: .word cs :: rest => some (' ' :: cs, rest)
  | tokens => some ([], tokens)

/-- Takes the rest of a moment that starts with a word. -/
def moment (cs : List Char) : Reader Datum := do
  let hour ← hourBehindSpace
  let rest ←
    if ← eat (.mark ':') then
      let minute ← word
      expect (.mark ':')
      let second ← word
      let subsecond ← marked '.'
      let offset ← marked '+'
      let offsetMinute ← marked ':'
      pure (':' :: minute ++ ':' :: second ++ subsecond ++ offset ++ offsetMinute)
    else pure []
  match readMoment? (cs ++ hour ++ rest) with
  | some m => return .text m.text
  | none => failure

/-- Whether a word starts a date. -/
def startsDate (cs : List Char) : Bool :=
  let has (part : List Char) : Bool := Text.occursIn part cs
  cs.contains 'T' || cs.contains 't' ||
    (cs.tail.contains '-' && !has ['e', '-'] && !has ['E', '-'])

/-- Takes the rest of a number, a date or a time that starts with a word. -/
def numberOrMoment (cs : List Char) : Reader Datum := do
  if startsDate cs then moment cs
  else if (← get).head? = some (.mark ':') then moment cs
  else number cs

/-- Takes the rest of a value that starts with a word. -/
def wordValue (cs : List Char) : Reader Datum :=
  if cs = "true".toList then return .flag true
  else if cs = "false".toList then return .flag false
  else if cs = "inf".toList ∨ cs = "nan".toList then numberOrMoment cs
  else if cs.head?.any fun c => c == '-' || (Text.digitValue? c).isSome then numberOrMoment cs
  else failure

/-! ### Values -/

/-- Takes line ends, comments and blanks. -/
def skipLines : (fuel : Nat) → Reader Unit
  | 0 => return ()
  | fuel + 1 => do
    skipBlanks
    if (← eat .newline) then skipLines fuel
    else if (← skipComment) then skipLines fuel

/-- Takes line ends, comments and blanks, as many as there are. -/
def skipAllLines : Reader Unit := do
  skipLines (← get).length

mutual

/-- Takes a value. Every step into a value takes a token, and so does every item of it, so that as
much `fuel` as there are tokens is enough. -/
def value : (fuel : Nat) → Reader Datum
  | 0 => failure
  | fuel + 1 => do
    match ← next with
    | .text t _ => return .text t
    | .word cs => wordValue cs
    | .mark '+' => number (← word)
    | .mark '\x7b' =>
      skipBlanks
      if ← eat (.mark '\x7d') then return .empty
      else return .table (dataOf (← inlineFields fuel []))
    | .mark '[' => return .list (← listItems fuel)
    | _ => failure

/-- Takes the items of a list up to the closing bracket. -/
def listItems : (fuel : Nat) → Reader (List Datum)
  | 0 => failure
  | fuel + 1 => do
    skipAllLines
    if ← eat (.mark ']') then return []
    else
      let item ← value fuel
      skipAllLines
      if ← eat (.mark ',') then return item :: (← listItems fuel)
      else
        expect (.mark ']')
        return [item]

/-- Takes the fields of a table on one line up to the closing brace. -/
def inlineFields (fuel : Nat) (fields : Fields) : Reader Fields :=
  match fuel with
  | 0 => failure
  | fuel + 1 => do
    let path ← dottedKey
    expect (.mark '=')
    skipBlanks
    let v ← value fuel
    match fields.addValue? v path with
    | none => failure
    | some fields =>
      skipBlanks
      if ← eat (.mark '\x7d') then return fields
      else
        expect (.mark ',')
        skipBlanks
        inlineFields fuel fields

end

/-! ### Lines -/

/-- What has been read of a file: everything, and the path of the table that lines belong to. -/
structure Progress where
  fields : Fields
  path : List String

/-- Takes a header behind its first bracket. -/
def header (p : Progress) : Reader Progress := do
  let several ← eat (.mark '[')
  skipBlanks
  let path ← dottedKey
  expect (.mark ']')
  if several then expect (.mark ']')
  finishLine
  match p.fields.openTable? several path with
  | some fields => return ⟨fields, path⟩
  | none => failure

/-- Takes a key and its value. -/
def entry (p : Progress) : Reader Progress := do
  let path ← dottedKey
  expect (.mark '=')
  skipBlanks
  let v ← value ((← get).length + 1)
  finishLine
  match p.fields.changeAt? (Fields.addValue? v path) p.path with
  | some fields => return { p with fields := fields }
  | none => failure

/-- Takes lines to the end of the file. Every one takes a token at least, so that as much `fuel` as
there are tokens is enough. -/
def lines (p : Progress) : (fuel : Nat) → Reader Progress
  | 0 => return p
  | fuel + 1 => do
    skipAllLines
    match ← get with
    | [] => return p
    | .mark '[' :: rest =>
      set rest
      lines (← header p) fuel
    | _ => lines (← entry p) fuel

end Reader

/-- The data in a settings file. -/
def read? (text : String) : Option (List (String × Datum)) := do
  let tokens ← tokens? text
  let (p, _) ← Reader.lines ⟨[], []⟩ (tokens.length + 1) tokens
  return dataOf p.fields

end RuntimeMux.Toml
