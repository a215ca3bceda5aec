import RuntimeMux.Text.Number

/-!
# Dates and times

A settings file may hold a date, a time, or both, with an offset from universal time. It is kept as a
text of one form.
-/

namespace RuntimeMux.Toml

/-- A date. -/
structure Date where
  year : Nat
  month : Nat
  day : Nat
  deriving DecidableEq, Repr

/-- A time of the day. -/
structure Clock where
  hour : Nat
  minute : Nat
  second : Nat
  nanosecond : Nat
  deriving DecidableEq, Repr

/-- An offset from universal time. -/
inductive Offset where
  | universal
  /-- Hours with a sign, and minutes. -/
  | hours (hours : Int) (minutes : Nat)
  deriving DecidableEq, Repr

/-- A date, a time, or both. -/
structure Moment where
  date : Option Date
  clock : Option Clock
  offset : Option Offset
  deriving DecidableEq, Repr

/-! ### Text -/

/-- A number with zeros in front. -/
def padded (places n : Nat) : String :=
  let digits := Nat.toDigits 10 n
  String.ofList (List.replicate (places - digits.length) '0' ++ digits)

/-- The decimals of a second, without zeros at the end. -/
def subsecondText (nanosecond : Nat) : String :=
  if nanosecond = 0 then ""
  else
    let digits := (padded 9 nanosecond).toList
    "." ++ String.ofList (digits.reverse.dropWhile (· == '0')).reverse

/-- The text of a moment. -/
def Moment.text (m : Moment) : String :=
  let date := m.date.elim "" fun d =>
    padded 4 d.year ++ "-" ++ padded 2 d.month ++ "-" ++ padded 2 d.day
  let clock := m.clock.elim "" fun c =>
    padded 2 c.hour ++ ":" ++ padded 2 c.minute ++ ":" ++ padded 2 c.second
      ++ subsecondText c.nanosecond
  let offset := match m.offset with
    | none => ""
    | some .universal => "Z"
    | some (.hours h m) =>
      (if h < 0 then "-" else "+") ++ padded 2 h.natAbs ++ ":" ++ padded 2 m
  date ++ (if m.date.isSome ∧ m.clock.isSome then "T" else "") ++ clock ++ offset

/-! ### Reading -/

/-- Reads a number of so many digits. -/
def readNumber? (places : Nat) (cs : List Char) : Option (Nat × List Char) := do
  if cs.length < places then none
  else
    let n ← Text.digits? (cs.take places)
    return (n, cs.drop places)

/-- Reads a character. -/
def readMark? (c : Char) : List Char → Option (List Char)
  | d :: cs => if d = c then some cs else none
  | [] => none

/-- Reads a date. -/
def readDate? (cs : List Char) : Option (Date × List Char) := do
  let (year, cs) ← readNumber? 4 cs
  let (month, cs) ← readNumber? 2 (← readMark? '-' cs)
  let (day, cs) ← readNumber? 2 (← readMark? '-' cs)
  if 1 ≤ month ∧ month ≤ 12 ∧ 1 ≤ day ∧ day ≤ 31 then some (⟨year, month, day⟩, cs) else none

/-- The nanoseconds of the decimals of a second, of which nine count. -/
def nanosecondOf (digits : List Char) : Nat :=
  let nine := (digits ++ List.replicate 9 '0').take 9
  (Text.digits? nine).getD 0

/-- Reads a time of the day. -/
def readClock? (cs : List Char) : Option (Clock × List Char) := do
  let (hour, cs) ← readNumber? 2 cs
  let (minute, cs) ← readNumber? 2 (← readMark? ':' cs)
  let (second, cs) ← readNumber? 2 (← readMark? ':' cs)
  if 24 < hour ∨ 59 < minute ∨ 59 < second then none
  else
    match cs with
    | '.' :: cs =>
      let digits := cs.takeWhile fun c => (Text.digitValue? c).isSome
      if digits.isEmpty then none
      else some (⟨hour, minute, second, nanosecondOf digits⟩, cs.drop digits.length)
    | _ => some (⟨hour, minute, second, 0⟩, cs)

/-- Reads an offset that takes all the characters. -/
def readOffset? (cs : List Char) : Option (Option Offset) :=
  match cs with
  | [] => some none
  | ['Z'] | ['z'] => some (some .universal)
  | sign :: cs => do
    if sign ≠ '+' ∧ sign ≠ '-' then none
    else
      let (hours, cs) ← readNumber? 2 cs
      let (minutes, cs) ← readNumber? 2 (← readMark? ':' cs)
      if cs.isEmpty then some (some (.hours (if sign = '-' then -hours else hours) minutes))
      else none

/-- Reads a moment that takes all the characters. A time without a date has no offset. -/
def readMoment? (cs : List Char) : Option Moment := do
  if cs.length < 3 then none
  else if cs[2]? = some ':' then
    let (clock, rest) ← readClock? cs
    if rest.isEmpty then some ⟨none, some clock, none⟩ else none
  else
    let (date, rest) ← readDate? cs
    match rest with
    | [] => some ⟨some date, none, none⟩
    | c :: rest =>
      if c = 'T' ∨ c = 't' ∨ c = ' ' then
        let (clock, rest) ← readClock? rest
        let offset ← readOffset? rest
        some ⟨some date, some clock, offset⟩
      else none

end RuntimeMux.Toml
