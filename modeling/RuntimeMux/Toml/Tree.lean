import RuntimeMux.Settings.Datum

/-!
# Trees of settings files

While a settings file is read, a tree remembers how each of its tables came about, because that
decides what may still be added to it: a table with a header takes no second header, one that only
lies on the way to another takes one, and one made of dotted keys takes more dotted keys.
-/

namespace RuntimeMux.Toml

open Settings (Datum)

/-- A node of a tree. -/
inductive Node where
  | value (value : Datum)
  /-- A table made of dotted keys. -/
  | dotted (fields : List (String × Node))
  /-- A table with a header of its own, or one that lies on the way to such a table. -/
  | table (ownHeader : Bool) (fields : List (String × Node))
  /-- Tables that each have a header. -/
  | tables (tables : List (List (String × Node)))

/-- The fields of a table. -/
abbrev Fields := List (String × Node)

namespace Fields

/-- The fields with one of them replaced. -/
def replace (key : String) (node : Node) (fields : Fields) : Fields :=
  fields.map fun (k, n) => if k == key then (k, node) else (k, n)

/-- The fields with one added, if its key is new. -/
def add? (key : String) (node : Node) (fields : Fields) : Option Fields :=
  if (fields.lookup key).isSome then none else some (fields ++ [(key, node)])

/-- Adds a value under a dotted key. -/
def addValue? (value : Datum) : (path : List String) → Fields → Option Fields
  | [], _ => none
  | [key], fields => fields.add? key (.value value)
  | key :: rest, fields =>
    match fields.lookup key with
    | none => do
      let inner ← addValue? value rest []
      return fields ++ [(key, .dotted inner)]
    | some (.dotted inner) => do
      let inner ← addValue? value rest inner
      return fields.replace key (.dotted inner)
    | some _ => none

/-- Changes the last of several tables. -/
def changeLast? (f : Fields → Option Fields) : List Fields → Option (List Fields)
  | [] => none
  | [last] => (f last).map fun last => [last]
  | first :: rest => (changeLast? f rest).map (first :: ·)

/-- Opens the table that a header names. -/
def openTable? (several : Bool) : (path : List String) → Fields → Option Fields
  | [], _ => none
  | [key], fields =>
    match several, fields.lookup key with
    | false, none => some (fields ++ [(key, .table true [])])
    | false, some (.table false inner) => some (fields.replace key (.table true inner))
    | true, none => some (fields ++ [(key, .tables [[]])])
    | true, some (.tables list) => some (fields.replace key (.tables (list ++ [[]])))
    | _, some _ => none
  | key :: rest, fields =>
    match fields.lookup key with
    | none => do
      let inner ← openTable? several rest []
      return fields ++ [(key, .table false inner)]
    | some (.table own inner) => do
      let inner ← openTable? several rest inner
      return fields.replace key (.table own inner)
    | some (.tables list) => do
      let list ← changeLast? (openTable? several rest) list
      return fields.replace key (.tables list)
    | some _ => none

/-- Changes the table that a header has opened. -/
def changeAt? (f : Fields → Option Fields) : (path : List String) → Fields → Option Fields
  | [], fields => f fields
  | key :: rest, fields =>
    match fields.lookup key with
    | some (.table own inner) => do
      let inner ← changeAt? f rest inner
      return fields.replace key (.table own inner)
    | some (.tables list) => do
      let list ← changeLast? (changeAt? f rest) list
      return fields.replace key (.tables list)
    | _ => none

end Fields

/-! ### Data -/

mutual

/-- The data in a node. -/
def Node.datum : Node → Datum
  | .value value => value
  | .dotted fields => .table (dataOf fields)
  | .table _ fields => .table (dataOf fields)
  | .tables list => .list (dataOfEach list)

/-- The data in fields. -/
def dataOf : List (String × Node) → List (String × Datum)
  | [] => []
  | (key, node) :: rest => (key, node.datum) :: dataOf rest

/-- The data in several tables. -/
def dataOfEach : List (List (String × Node)) → List Datum
  | [] => []
  | fields :: rest => .table (dataOf fields) :: dataOfEach rest

end

end RuntimeMux.Toml
