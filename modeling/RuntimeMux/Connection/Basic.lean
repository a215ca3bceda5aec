import RuntimeMux.Fault

/-!
# The connection to a runtime

A connection is offline until somebody asks for it. The first one who does starts an attempt to
connect, and everybody who asks while it runs waits for the same outcome. A call that finds the
runtime unavailable drops the link it went out on and asks for the connection anew.

Every link and every attempt belongs to a generation. The generation grows whenever the link or the
attempt in use is given up, so that the outcome of a superseded attempt and the failure of a call on
a replaced link are told apart from current ones.
-/

namespace RuntimeMux

/-- Who asked for a connection. -/
inductive Waiter where
  /-- Somebody who will learn of the outcome, under a number of their own. -/
  | caller (number : Nat)
  /-- Nobody who still cares. -/
  | nobody
  deriving DecidableEq, Repr

/-- The link in use. -/
structure Link where
  /-- The revision that the runtime speaks. -/
  revision : Revision
  /-- The generation in which the link was made. -/
  generation : Nat
  deriving DecidableEq, Repr

/-- What a connection is doing. -/
inductive Phase where
  | offline
  /-- An attempt is running. -/
  | connecting
  | connected
  deriving DecidableEq, Repr

/-- How an attempt ended for those who waited for it. -/
abbrev Outcome := Except ConnectFault Unit

/-- A connection to the runtime at an address. -/
structure Connection where
  address : String
  phase : Phase
  /-- The link that has been made last and not been given up. -/
  link : Option Link
  /-- Those who wait for the outcome of an attempt, in the order in which they asked. -/
  waiters : List Waiter
  generation : Nat
  deriving DecidableEq, Repr

/-- What an event brings about besides a new state. -/
structure Effects where
  /-- The generation of the attempt that is to be started. -/
  attempt : Option Nat
  /-- Who learns of an outcome. -/
  resolved : List (Waiter × Outcome)

/-- The effects of an event without any. -/
def Effects.none : Effects := ⟨.none, []⟩

namespace Connection

/-- A connection that nobody has asked for. -/
def offline (address : String) : Connection := ⟨address, .offline, none, [], 0⟩

/-! ### State -/

/-- The link in use. -/
def link? (c : Connection) : Option Link :=
  if c.phase = .connected then c.link else none

/-- Whether there is a link in use. -/
def isConnected (c : Connection) : Bool :=
  c.link?.isSome

/-- Whether the link in use is that of a generation. -/
def uses (c : Connection) (generation : Nat) : Bool :=
  c.phase = .connected ∧ c.link.map Link.generation = some generation

/-- A failed attempt at the address of the connection. -/
def failure (c : Connection) (reason : String) : ConnectFault :=
  ⟨c.address, reason⟩

/-! ### Events -/

/-- Somebody asks for the connection. An attempt is started if none is running and there is no
link. -/
def connect (c : Connection) (waiter : Waiter) : Connection × Effects :=
  match c.phase with
  | .connected => (c, ⟨none, [(waiter, .ok ())]⟩)
  | .connecting => ({ c with waiters := c.waiters ++ [waiter] }, .none)
  | .offline =>
    let generation := c.generation + 1
    ({ c with phase := .connecting, waiters := c.waiters ++ [waiter], generation := generation },
      ⟨some generation, []⟩)

/-- Those who wait all learn of one outcome. -/
def resolve (c : Connection) (outcome : Outcome) : Connection × Effects :=
  ({ c with waiters := [] }, ⟨none, c.waiters.map fun w => (w, outcome)⟩)

/-- The attempt of a generation ends. If it has been superseded, nothing happens. -/
def finish (c : Connection) (generation : Nat) (outcome : Except ConnectFault Revision) :
    Connection × Effects :=
  if c.generation = generation then
    match outcome with
    | .ok revision =>
      { c with phase := .connected, link := some ⟨revision, generation⟩ }.resolve (.ok ())
    | .error fault => { c with phase := .offline }.resolve (.error fault)
  else (c, .none)

/-- The connection is given up. Those who wait for it learn so. -/
def stop (c : Connection) : Connection × Effects :=
  { c with phase := .offline, link := none, generation := c.generation + 1 }.resolve
    (.error (c.failure "connection stopped"))

/-- Drops the link of a generation, if it is still in use. -/
def dropLink (c : Connection) (generation : Nat) : Connection :=
  if c.uses generation then
    { c with phase := .offline, link := none, generation := c.generation + 1 }
  else c

/-- A call on the link of a generation found the runtime unavailable. The link is dropped if it is
still in use, and the connection is asked for anew. -/
def reconnect (c : Connection) (generation : Nat) : Connection × Effects :=
  (c.dropLink generation).connect .nobody

end Connection

/-! ### Failed calls -/

/-- The generation of the link that a fault calls into question. -/
def Fault.lostLink? : Fault → Option Nat
  | .rpc status generation => if status.code = .unavailable then some generation else none
  | _ => none

/-- A fault of a call to the runtime at an address, in the words for the caller: a status is reported
with the address. -/
def Fault.report (address : String) : Fault → Fault
  | .rpc status _ => .backend address status
  | fault => fault

/-- What a fault of a call to the runtime at an address means to the caller. With `tolerant`, an
unavailable runtime is no fault. -/
def Fault.classify (address : String) (tolerant : Bool) (fault : Fault) : Except Fault Unit :=
  if tolerant ∧ fault.lostLink?.isSome then .ok () else .error (fault.report address)

/-- Takes notice of a failed call, and classifies its fault. -/
def Connection.handleFault (c : Connection) (fault : Fault) (tolerant : Bool) :
    (Connection × Effects) × Except Fault Unit :=
  let next :=
    match fault.lostLink? with
    | some generation => c.reconnect generation
    | none => (c, .none)
  (next, fault.classify c.address tolerant)

/-! ### Text -/

/-- The name of what a connection is doing. -/
def Phase.name : Phase → String
  | .offline => "offline"
  | .connecting => "connecting"
  | .connected => "connected"

/-- A connection in one line, for people who look for errors. -/
def Connection.text (c : Connection) : String :=
  let state := match c.phase with
    | .offline => "Offline"
    | .connecting => "Connecting"
    | .connected => "Connected"
  "BackendConnection \x7b address: " ++ Text.quoted c.address ++ ", state: " ++ state ++ " \x7d"

end RuntimeMux
