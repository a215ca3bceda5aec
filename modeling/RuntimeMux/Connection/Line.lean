import RuntimeMux.Connection.Basic

/-!
# Lines

A line is a connection together with the attempts that have been started for it and have not ended
yet. Attempts are numbered from one. A superseded attempt goes on until it ends by itself, but its
outcome no longer matters.
-/

namespace RuntimeMux

/-- An attempt that has not ended. -/
structure Attempt where
  number : Nat
  generation : Nat
  deriving DecidableEq, Repr

/-- A connection and its attempts. -/
structure Line where
  connection : Connection
  /-- The number of attempts started so far. -/
  dials : Nat
  /-- The attempts that have not ended, by ascending numbers. -/
  pending : List Attempt
  deriving DecidableEq, Repr

/-- What can happen to a line. -/
inductive LineEvent where
  /-- Somebody asks for the connection. -/
  | connect (waiter : Waiter)
  /-- The connection is given up. -/
  | stop
  /-- A call fails. -/
  | fault (fault : Fault) (tolerant : Bool)
  /-- A call fails that found the runtime unavailable on the link of a generation, and has dropped it if
  it was in use, but has not asked for the connection yet. -/
  | drop (generation : Nat)
  /-- An attempt that has not ended does so. -/
  | finish (attempt : Nat) (outcome : Except ConnectFault Revision)
  /-- Somebody no longer cares about the outcome that they asked for. -/
  | abandon (waiter : Waiter)

namespace Line

/-- The line of a connection that nobody has asked for. -/
def offline (address : String) : Line := ⟨.offline address, 0, []⟩

/-- Who learned of an outcome. -/
abbrev Resolved := List (Waiter × Outcome)

/-- Starts the attempt that an event of the connection asks for. -/
def absorb (l : Line) (next : Connection × Effects) : Line × Resolved :=
  match next.2.attempt with
  | none => ({ l with connection := next.1 }, next.2.resolved)
  | some generation =>
    let number := l.dials + 1
    ({ connection := next.1
       dials := number
       pending := l.pending ++ [⟨number, generation⟩] }, next.2.resolved)

/-- Somebody asks for the connection. -/
def connect (l : Line) (waiter : Waiter) : Line × Resolved :=
  l.absorb (l.connection.connect waiter)

/-- Asks for the connection in passing. -/
def kick (l : Line) : Line :=
  (l.connect .nobody).1

/-- The connection is given up. -/
def stop (l : Line) : Line × Resolved :=
  l.absorb l.connection.stop

/-- A call on the link of a generation found the runtime unavailable. -/
def reconnect (l : Line) (generation : Nat) : Line × Resolved :=
  l.absorb (l.connection.reconnect generation)

/-- Drops the link of a generation, if it is still in use. -/
def drop (l : Line) (generation : Nat) : Line × Resolved :=
  l.absorb (l.connection.dropLink generation, .none)

/-- A call fails. -/
def handleFault (l : Line) (fault : Fault) (tolerant : Bool) :
    (Line × Resolved) × Except Fault Unit :=
  let (next, result) := l.connection.handleFault fault tolerant
  (l.absorb next, result)

/-- The attempt with a number ends, if it has not ended before. -/
def finish (l : Line) (number : Nat) (outcome : Except ConnectFault Revision) : Line × Resolved :=
  match l.pending.find? fun a => a.number == number with
  | none => (l, [])
  | some attempt =>
    let l := { l with pending := l.pending.filter fun a => a.number != number }
    l.absorb (l.connection.finish attempt.generation outcome)

/-- The attempt that was started last, of those that have not ended. -/
def latest? (l : Line) : Option Attempt :=
  l.pending.getLast?

/-- What a line becomes by an event, and who learns of an outcome by it. -/
def step (l : Line) : LineEvent → Line × Resolved
  | .connect waiter => l.connect waiter
  | .stop => l.stop
  | .fault fault tolerant => (l.handleFault fault tolerant).1
  | .drop generation => l.drop generation
  | .finish attempt outcome => l.finish attempt outcome
  | .abandon _ => (l, [])

/-- What a line becomes by a run of events, and who learns of an outcome on the way. -/
def run (l : Line) : List LineEvent → Line × Resolved
  | [] => (l, [])
  | event :: events =>
    let (next, resolved) := l.step event
    let (last, later) := next.run events
    (last, resolved ++ later)

end Line

end RuntimeMux
