import RuntimeMux.Connection.Rehearsal
import RuntimeMux.Dispatch
import RuntimeMux.ImageNames

/-!
# Stages

A stage holds runtimes that do what a script says: how attempts to connect to them end, and how they
respond to calls. Acts of the proxy are performed on it. An attempt that ends by itself has done so
by the next time that the proxy waits for something. While a runtime responds to a call, other steps
of the script may run.
-/

namespace RuntimeMux

namespace RouterScript

/-- A step of a script. Runtimes are named by the ids of their scopes. -/
inductive Step where
  /-- A call to a method, with its deadline. -/
  | call (path : String) (body : Wire.Bytes) (deadline : Option Span)
  /-- A call with the header of its deadline, answered by a status. -/
  | handle (path : String) (body : Wire.Bytes) (header : Option String)
  /-- A call to the server, answered by a status. -/
  | serve (path : String) (body : Wire.Bytes) (header : Option String)
  /-- Wait for a connection. -/
  | await (backend : String)
  /-- Ask for a connection. -/
  | kick (backend : String)
  /-- Ask for all connections. -/
  | connectAll
  /-- Give up all connections. -/
  | stop
  /-- How attempts to connect to a runtime end from now on. -/
  | plan (backend : String) (plan : Plan)
  /-- How a runtime responds to a method from now on. The steps run once, while the first call with
  this response is under way. -/
  | reply (backend method : String) (response : Response) (during : List Step)
  /-- An attempt ends: the one with the number, or the latest one. -/
  | finish (backend : String) (plan : Plan) (attempt : Option Nat)
  /-- Which runtime an id belongs to. -/
  | ownerOfId (id : String)
  /-- Which runtime an image belongs to. -/
  | ownerOfImage (image : String)
  /-- Which runtime is ready for a call about an id. -/
  | forId (id : String)
  /-- Which runtime is ready for a call about an image; with `tolerant`, perhaps none. -/
  | forImage (image : String) (tolerant : Bool)
  /-- Which runtime is ready for a pod sandbox with these annotations. -/
  | forAnnotations (annotations : TextMap)
  /-- What callers see of the address of a stream. -/
  | fixAddress (address : String)
  /-- Remember the name of an image. -/
  | record (image name : String)
  /-- Forget the name of an image. -/
  | forget (image : String)
  /-- Forget every image of a name. -/
  | forgetName (name : String)
  /-- Nothing. -/
  | look

/-- The result of a step. -/
inductive Result where
  | none
  | flag (value : Bool)
  | verdict (verdict : Except Fault Unit)
  | response (response : Except Fault Wire.Bytes)
  | answer (answer : Except Status Wire.Bytes)
  | owner (owner : Backend × String)
  | chosen (chosen : Except Fault (Option (Backend × String)))
  | target (target : Except Fault Backend)
  | address (address : String)

/-- A runtime on a stage. -/
structure Station where
  backend : Backend
  line : Line
  /-- How attempts end that start from now on. -/
  plan : Plan
  /-- The number of attempts that have really started, and so follow the plan of that time. -/
  started : Nat

/-- A call that a runtime responded to; `S` is what can be seen after a step. -/
structure Record (S : Type) where
  backend : Backend
  rpc : Rpc
  /-- What could be seen after each of the steps that ran meanwhile. -/
  during : List S

/-- What can be seen after a step. -/
inductive Scene where
  /-- The result, the calls that runtimes responded to during the step, the runtimes, and the names
  of images. -/
  | mk (result : Result) (calls : List (Record Scene)) (stations : List Station)
      (images : ImageNames)

/-- How a runtime responds to a method. -/
structure Reply where
  backend : String
  method : String
  response : Response
  /-- The steps that run while the next call is under way. -/
  during : List Step

/-- A stage. -/
structure Stage where
  stations : List Station
  replies : List Reply
  images : ImageNames
  /-- How long to wait for a connection. -/
  timeout : Span
  /-- The calls that runtimes have responded to during the step, in the order of the responses. -/
  calls : List (Record Scene)

/-! ### Runtimes -/

/-- The events that attempts end which have been asked for and end by themselves. -/
def Station.ends (s : Station) : List LineEvent :=
  let fresh := s.line.pending.filter fun a => s.started < a.number
  match s.plan.outcome? s.backend.address with
  | some outcome => fresh.map fun a => .finish a.number outcome
  | none => []

/-- Starts the attempts that have been asked for. Those that end by themselves do so. -/
def Station.settle (s : Station) : Station :=
  let line := (s.line.run s.ends).1
  { s with line := line, started := line.dials }

namespace Stage

/-- The stage with all attempts started. -/
def settle (s : Stage) : Stage :=
  { s with stations := s.stations.map Station.settle }

/-- The station of a runtime. -/
def station? (s : Stage) (id : String) : Option Station :=
  s.stations.find? fun station => station.backend.scope.id == id

/-- The stage with the station of a runtime changed. -/
def adjust (s : Stage) (id : String) (f : Station → Station) : Stage :=
  { s with
    stations := s.stations.map fun station =>
      if station.backend.scope.id == id then f station else station }

/-- The stage with the line of a runtime changed. -/
def adjustLine (s : Stage) (b : Backend) (f : Line → Line) : Stage :=
  s.adjust b.scope.id fun station => { station with line := f station.line }

/-- The connection of a runtime. -/
def connection (s : Stage) (b : Backend) : Connection :=
  ((s.station? b.scope.id).map fun station => station.line.connection).getD (.offline b.address)

/-- Waits for a connection. Those who wait for the same attempt all have the same number, because
they learn of the same outcome. -/
def await (s : Stage) (b : Backend) : Except Fault Unit × Stage :=
  let waiter := Waiter.caller 0
  let asked (station : Station) : Station :=
    { station with line := (station.line.connect waiter).1 }
  let verdict (station : Station) : Except Fault Unit :=
    (station.line.wait s.timeout waiter (asked station).ends).1
  let late := Receipt.waiting.verdict b.address s.timeout
  (((s.station? b.scope.id).map verdict).getD late,
    (s.adjust b.scope.id fun station => (asked station).settle).settle)

/-! ### Calls -/

/-- The reply of a runtime to a method. Without a script it is the empty message. -/
def replyOf (s : Stage) (b : Backend) (method : String) : Reply :=
  (s.replies.find? fun r => r.backend == b.scope.id && r.method == method).getD
    ⟨b.scope.id, method, .answer [], []⟩

/-- The stage with a reply set. -/
def setReply (s : Stage) (reply : Reply) : Stage :=
  { s with
    replies := reply :: s.replies.filter fun r =>
      !(r.backend == reply.backend && r.method == reply.method) }

/-- A call as its runtime receives it: the header of the deadline has room for eight digits. -/
def received (rpc : Rpc) : Rpc :=
  { rpc with deadline := rpc.deadline.map Deadline.carried }

/-- Sends a call to a runtime. `play` plays the steps that run meanwhile. -/
def send (play : List Step → Stage → List Scene × Stage) (s : Stage) (b : Backend) (rpc : Rpc) :
    Except Status Wire.Bytes × Stage :=
  let s := s.settle
  let method := ((splitPath? rpc.path).map fun (_, _, method) => method).getD ""
  let reply := s.replyOf b method
  let calls := s.calls
  let (scenes, s) := play reply.during { s.setReply { reply with during := [] } with calls := [] }
  (reply.response.received, { s.settle with calls := calls ++ [⟨b, received rpc, scenes⟩] })

/-- Performs an act. -/
def perform (play : List Step → Stage → List Scene × Stage) :
    (a : Act) → StateM Stage a.Answer
  | .await b => fun s => s.await b
  | .kick b => fun s => ((), s.adjustLine b Line.kick)
  | .connected b => fun s => ((s.connection b).isConnected, s)
  | .link b => fun s => ((s.connection b).link?, s)
  | .generation b => fun s => ((s.connection b).generation, s)
  | .reconnect b generation => fun s =>
    ((), s.adjustLine b fun line => (line.reconnect generation).1)
  | .send b _ rpc => fun s => s.send play b rpc
  | .nameOf image => fun s => (s.images.lookup image, s)
  | .record image name => fun s => ((), { s with images := s.images.record image name })
  | .forget image => fun s => ((), { s with images := s.images.forget image })
  | .forgetName name => fun s => ((), { s with images := s.images.forgetName name })

end Stage

end RouterScript

end RuntimeMux
