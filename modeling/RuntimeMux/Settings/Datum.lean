import RuntimeMux.Decimal.Shortest
import RuntimeMux.Text.Number

/-!
# Data of settings

Settings come from several sources as trees of data and are laid over each other: a table is merged
into what is there, key by key, and anything else replaces it. A setting is read with goodwill, so
that a number may be given as text and the other way round.
-/

namespace RuntimeMux.Settings

/-- A piece of data. -/
inductive Datum where
  /-- A place in a list that nothing was put into. -/
  | nothing
  | text (value : String)
  | integer (value : Int)
  | float (value : Decimal.Binary64)
  | flag (value : Bool)
  | list (items : List Datum)
  | table (fields : List (String × Datum))

namespace Datum

/-- The table without fields. -/
def empty : Datum := .table []

/-- The fields of a table. -/
def fields : Datum → List (String × Datum)
  | .table fields => fields
  | _ => []

/-- The items of a list. -/
def items : Datum → List Datum
  | .list items => items
  | _ => []

/-- The field of a table. -/
def field? (d : Datum) (key : String) : Option Datum :=
  d.fields.lookup key

/-! ### Merging -/

/-- The fields with one of them set. -/
def setField (key : String) (value : Datum) : List (String × Datum) → List (String × Datum)
  | [] => [(key, value)]
  | (k, v) :: rest => if k == key then (k, value) :: rest else (k, v) :: setField key value rest

mutual

/-- Puts a value under a key. What was no table becomes one. A table is merged into the value that
is there. -/
def put (key : String) (value : Datum) (into : Datum) : Datum :=
  match value with
  | .table incoming =>
    let target := (into.field? key).getD .empty
    .table (setField key (putAll incoming target) into.fields)
  | value => .table (setField key value into.fields)

/-- Puts all fields into a value. -/
def putAll (incoming : List (String × Datum)) (into : Datum) : Datum :=
  match incoming with
  | [] => into
  | (key, value) :: rest => putAll rest (put key value into)

end

/-! ### Reading -/

/-- The largest number of sixty-four bits. -/
def largest : Nat := UInt64.size - 1

/-- The number that a word of consent or refusal stands for. -/
def wordValue? (word : String) : Option Nat :=
  let w := String.ofList (word.toList.map Char.toLower)
  if ["true", "on", "yes"].contains w then some 1
  else if ["false", "off", "no"].contains w then some 0
  else none

/-- A datum as a number of sixty-four bits. -/
def asNumber? : Datum → Option Nat
  | .integer n => if 0 ≤ n then some n.toNat else none
  | .float x => some (x.toNat largest)
  | .flag b => some b.toNat
  | .text t => (wordValue? t).orElse fun () => Text.unsigned? largest t.toList
  | .nothing | .list _ | .table _ => none

/-- A datum as a text. -/
def asText? : Datum → Option String
  | .text t => some t
  | .integer n => some (toString n)
  | .float x => some x.text
  | .flag b => some (if b then "true" else "false")
  | .nothing | .list _ | .table _ => none

end Datum

/-! ### Paths -/

/-- A step on the way to a place in a tree. -/
inductive PathStep where
  | key (key : String)
  /-- An item of a list, counted from the end if negative. -/
  | item (index : Int)
  deriving DecidableEq, Repr

/-- Whether a character can stand in a key on a path. -/
def isKeyChar (c : Char) : Bool :=
  c.isAlphanum || c == ' ' || c == '_' || c == '-'

/-- Reads the index of an item, with blanks around it, up to the bracket behind it. -/
def readIndex? (cs : List Char) : Option (Int × List Char) := do
  let isBlank (c : Char) : Bool := c == ' ' || c == '\t'
  let cs := cs.dropWhile isBlank
  let (negative, cs) := match cs with
    | '-' :: rest => (true, rest)
    | _ => (false, cs)
  let digits := cs.takeWhile fun c => (Text.digitValue? c).isSome
  let n ← Text.digits? digits
  match (cs.drop digits.length).dropWhile isBlank with
  | ']' :: rest => if n < 9223372036854775808 then some (if negative then -n else n, rest) else none
  | _ => none

/-- Reads the steps after the first. Every step takes a character at least, so that as much `fuel` as
there are characters is enough. -/
def readSteps? : (fuel : Nat) → List Char → Option (List PathStep)
  | _, [] => some []
  | 0, _ :: _ => none
  | fuel + 1, '.' :: cs =>
    let key := cs.takeWhile isKeyChar
    if key.isEmpty then none
    else (readSteps? fuel (cs.drop key.length)).map (.key (.ofList key) :: ·)
  | fuel + 1, '[' :: cs => do
    let (index, rest) ← readIndex? cs
    let steps ← readSteps? fuel rest
    return .item index :: steps
  | _ + 1, _ :: _ => none

/-- The steps that a key stands for: keys with dots between them, and indices in brackets. A key that
cannot be read in this way is one step. -/
def pathOf (key : String) : List PathStep :=
  let cs := key.toList
  let first := cs.takeWhile isKeyChar
  match if first.isEmpty then none else readSteps? cs.length (cs.drop first.length) with
  | some steps => .key (.ofList first) :: steps
  | none => [.key key]

namespace Datum

/-- The place in a list that an index stands for. -/
def placeOf (index : Int) (size : Nat) : Nat :=
  if 0 ≤ index then index.toNat else size - (-index).toNat

/-- The items with room for a place. -/
def withRoom (place : Nat) (items : List Datum) : List Datum :=
  items ++ List.replicate (place + 1 - items.length) .nothing

/-- Puts a value at the end of a path. What is on the way and has no places of the right kind is
replaced. -/
def putAt (value : Datum) : List PathStep → Datum → Datum
  | [], _ => value
  | [.key key], into => put key value into
  | .key key :: step :: rest, into =>
    .table (setField key
      (putAt value (step :: rest) ((into.field? key).getD .nothing)) into.fields)
  | .item index :: rest, into =>
    let place := placeOf index into.items.length
    let items := withRoom place into.items
    .list (items.modify place (putAt value rest))

end Datum

end RuntimeMux.Settings
