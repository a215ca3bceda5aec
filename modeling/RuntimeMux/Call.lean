import RuntimeMux.Activity
import RuntimeMux.Cri.Convertible
import RuntimeMux.Method
import RuntimeMux.Response

/-!
# Calls to runtimes

A call that a caller makes is made again to a runtime, in the revision that the runtime speaks. A
request of the legacy schema is upgraded for a runtime of the current one, and the response is
downgraded; the other way round is not possible. A call that finds its runtime unavailable has it
connected to anew, unless the connection has been replaced in the meantime.
-/

namespace RuntimeMux

open Cri Wire

/-- What a caller asks for, without the request itself. -/
structure Call where
  method : Method
  /-- The revision of the caller. -/
  revision : Revision
  /-- How long the caller is willing to wait. -/
  deadline : Option Span
  deriving DecidableEq, Repr

namespace Call

variable {Req Resp : Type}

/-- Sends a request on a link as it is, and reads the response. -/
def exchange [Message Req] [Message Resp] (c : Call) (b : Backend) (link : Link) (request : Req) :
    Activity (Except Status Resp) := do
  let rpc : Rpc := ⟨c.method.path link.revision, Message.encode request, c.deadline⟩
  return Response.message (← Activity.once (.send b link rpc))

/-- What a call on a link ended with. An unavailable runtime is blamed on the connection if that has
been replaced while the call was under way. -/
def settle (b : Backend) (link : Link) : Except Status Resp → Handling Resp
  | .ok response => return response
  | .error status => do
    if status.code = .unavailable then
      let generation ← Handling.once (.generation b)
      if generation ≠ link.generation then throw (.staleConnection b.address)
    throw (.rpc status link.generation)

/-- Makes a call to the runtime at the other end of a link. -/
def invokeOn [Message Req] [Message Resp] [Convertible Req] [Convertible Resp] (c : Call) (b : Backend)
    (link : Link) (request : Req) : Handling Resp :=
  match c.revision.conversionTo link.revision with
  | .native => do
    settle b link (← ExceptT.lift (c.exchange b link request))
  | .upgrade => do
    let result : Except Status (Convertible.Current Resp) ←
      ExceptT.lift (c.exchange b link (Convertible.upgrade request))
    settle b link (result.map Convertible.downgrade)
  | .incompatible => throw (.incompatibleRevision c.revision link.revision)

/-- Takes notice of a fault of a call: an unavailable runtime is connected to anew. -/
def notice (b : Backend) (fault : Fault) : Activity Unit :=
  match fault.lostLink? with
  | some generation => Activity.once (.reconnect b generation)
  | none => return ()

/-- Makes a call to a runtime, which must be connected. -/
def attempt [Message Req] [Message Resp] [Convertible Req] [Convertible Resp] (c : Call) (b : Backend)
    (request : Req) : Handling Resp := do
  match ← Handling.once (.link b) with
  | none => throw (.notConnected b.address)
  | some link => c.invokeOn b link request

/-- Makes a call to a runtime, which must be connected, and reports its faults. -/
def invoke [Message Req] [Message Resp] [Convertible Req] [Convertible Resp] (c : Call) (b : Backend)
    (request : Req) : Handling Resp :=
  tryCatch (c.attempt b request) fun fault => do
    ExceptT.lift (notice b fault)
    throw (fault.report b.address)

end Call

end RuntimeMux
