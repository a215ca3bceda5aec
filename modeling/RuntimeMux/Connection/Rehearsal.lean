import RuntimeMux.Connection.Wait

/-!
# Rehearsals of a connection

A rehearsal plays a script to one connection and records what can be seen after every step. Attempts
stay pending until the script ends them, and a wait that nothing ends is ended by its timeout.
-/

namespace RuntimeMux

/-- How an attempt to connect is to end. -/
inductive Plan where
  /-- With a link to a runtime that speaks the revision. -/
  | speak (revision : Revision)
  /-- With a failure. -/
  | fail (reason : String)
  /-- Not by itself. -/
  | hang
  deriving DecidableEq, Repr

/-- The outcome of an attempt at an address, if it ends by itself. -/
def Plan.outcome? (address : String) : Plan → Option (Except ConnectFault Revision)
  | .speak revision => some (.ok revision)
  | .fail reason => some (.error ⟨address, reason⟩)
  | .hang => none

namespace Line

/-- The event that the attempt with a number, or the latest one, ends, if there is one that can. -/
def finishEvent? (l : Line) (plan : Plan) (number? : Option Nat) : Option LineEvent :=
  let pending := match number? with
    | some number => (l.pending.find? fun a => a.number == number).map (·.number)
    | none => l.latest?.map (·.number)
  match pending, plan.outcome? l.connection.address with
  | some number, some outcome => some (.finish number outcome)
  | _, _ => none

/-- Ends the attempt with a number, or the latest one. Tells whether it was pending. -/
def finishBy (l : Line) (plan : Plan) (number? : Option Nat) : Bool × Line × Resolved :=
  match l.finishEvent? plan number? with
  | some event => (true, l.step event)
  | none => (false, l, [])

end Line

namespace ConnectionScript

/-- What can happen while somebody waits. -/
inductive Interlude where
  | finish (plan : Plan) (attempt : Option Nat)
  | stop

/-- A step of a script. -/
inductive Step where
  /-- Somebody asks for the connection. -/
  | connect
  /-- An attempt ends: the one with the number, or the latest one. -/
  | finish (plan : Plan) (attempt : Option Nat)
  | stop
  /-- Nothing. -/
  | look
  /-- Somebody asks for the connection and waits, while other things happen. -/
  | wait (during : List Interlude)
  /-- A call fails. The fault may depend on the current generation. -/
  | fault (fault : Nat → Fault) (tolerant : Bool)

/-- The result of a step. -/
inductive Result where
  | none
  | flag (value : Bool)
  | verdict (verdict : Except Fault Unit)

/-- What can be seen after a step. -/
structure Scene where
  result : Result
  /-- Which of those who asked learned of an outcome, by the order in which they asked. -/
  resolved : List (Nat × Outcome)
  line : Line

/-- What a script has brought about so far. -/
structure State where
  line : Line
  /-- How many have asked for the connection, other than by waiting. -/
  asked : Nat

/-- The event that an interlude is, if it is one. -/
def Interlude.event? (l : Line) : Interlude → Option LineEvent
  | .finish plan attempt => l.finishEvent? plan attempt
  | .stop => some .stop

/-- The events that happen to a line while somebody waits. -/
def eventsOf (l : Line) : List Interlude → List LineEvent
  | [] => []
  | interlude :: rest =>
    match interlude.event? l with
    | some event => event :: eventsOf (l.step event).1 rest
    | none => eventsOf l rest

/-- The callers among those who learned of an outcome, without those numbered `limit` or above. -/
def callers (limit : Nat) (resolved : Line.Resolved) : List (Nat × Outcome) :=
  resolved.filterMap fun
    | (.caller n, outcome) => if n < limit then some (n, outcome) else none
    | (.nobody, _) => none

/-- Plays a step. Those who wait get numbers from `limit` on, which nobody who asks has; `index` is
the place of the step in the script. -/
def play (timeout : Span) (limit index : Nat) (s : State) : Step → State × Scene
  | .connect =>
    let (line, resolved) := s.line.connect (.caller s.asked)
    (⟨line, s.asked + 1⟩, ⟨.none, callers limit resolved, line⟩)
  | .finish plan attempt =>
    let (found, line, resolved) := s.line.finishBy plan attempt
    (⟨line, s.asked⟩, ⟨.flag found, callers limit resolved, line⟩)
  | .stop =>
    let (line, resolved) := s.line.stop
    (⟨line, s.asked⟩, ⟨.none, callers limit resolved, line⟩)
  | .look => (s, ⟨.none, [], s.line⟩)
  | .wait during =>
    let waiter := Waiter.caller (limit + index)
    let events := eventsOf (s.line.connect waiter).1 during
    let (verdict, line, resolved) := s.line.wait timeout waiter events
    (⟨line, s.asked⟩, ⟨.verdict verdict, callers limit resolved, line⟩)
  | .fault fault tolerant =>
    let ((line, resolved), verdict) :=
      s.line.handleFault (fault s.line.connection.generation) tolerant
    (⟨line, s.asked⟩, ⟨.verdict verdict, callers limit resolved, line⟩)

/-- Plays the steps of a script that has `limit` steps in all, from the one at `index` on. -/
def playFrom (timeout : Span) (limit index : Nat) (s : State) : List Step → List Scene
  | [] => []
  | step :: steps =>
    let (next, scene) := play timeout limit index s step
    scene :: playFrom timeout limit (index + 1) next steps

/-- Plays a script to a connection that nobody has asked for. -/
def rehearse (address : String) (timeout : Span) (steps : List Step) : List Scene :=
  playFrom timeout steps.length 0 ⟨.offline address, 0⟩ steps

end ConnectionScript

end RuntimeMux
