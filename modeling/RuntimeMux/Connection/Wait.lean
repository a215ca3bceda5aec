import RuntimeMux.Connection.Line

/-!
# Waits

Somebody who asks for a connection may wait for it, for a limited time. The wait ends with the
outcome that they learn of, or when the time is up. It would also end if those who wait were
forgotten, so that no outcome could reach them any more.
-/

namespace RuntimeMux

/-- What somebody who asked for a connection sees of it at the end of their wait. -/
inductive Receipt where
  /-- They learned of an outcome. -/
  | resolved (outcome : Outcome)
  /-- They are still among those who wait. -/
  | waiting
  /-- They have been forgotten. -/
  | forgotten

/-- What a wait ends with. -/
def Receipt.verdict (address : String) (timeout : Span) : Receipt → Except Fault Unit
  | .resolved (.ok ()) => .ok ()
  | .resolved (.error fault) => .error (.connect fault)
  | .waiting => .error (.connectTimeout address timeout)
  | .forgotten => .error (.connect ⟨address, "connection attempt abandoned"⟩)

namespace Line

/-- What somebody sees of a line who asked for the connection, after the outcomes in `resolved`. -/
def receipt (l : Line) (resolved : Resolved) (waiter : Waiter) : Receipt :=
  match resolved.lookup waiter with
  | some outcome => .resolved outcome
  | none => if waiter ∈ l.connection.waiters then .waiting else .forgotten

/-- Somebody asks for the connection and waits while events happen. Tells what the wait ends with, what
the line becomes, and who learns of an outcome on the way. -/
def wait (l : Line) (timeout : Span) (waiter : Waiter) (during : List LineEvent) :
    Except Fault Unit × Line × Resolved :=
  let (line, resolved) := l.run (.connect waiter :: during)
  ((line.receipt resolved waiter).verdict l.connection.address timeout, line, resolved)

end Line

end RuntimeMux
