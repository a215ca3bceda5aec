import RuntimeMux.Misconfiguration
import RuntimeMux.Revision
import RuntimeMux.Span
import RuntimeMux.Status
import RuntimeMux.Wire.Failure

/-!
# Faults

Everything that can go wrong while the proxy starts or handles a call, the message that goes with
it, and the code under which a caller learns of it.
-/

namespace RuntimeMux

/-- A failed attempt to connect to a runtime. -/
structure ConnectFault where
  address : String
  reason : String
  deriving DecidableEq, Repr

/-- The message of a failed attempt. -/
def ConnectFault.message (f : ConnectFault) : String :=
  "failed to connect to " ++ Text.quoted f.address ++ ": " ++ f.reason

/-- What went wrong. -/
inductive Fault where
  /-- The configuration is wrong. -/
  | config (problem : Misconfiguration)
  /-- The transport of the server failed. -/
  | transport (reason : String)
  /-- The operating system refused something. -/
  | system (reason : String)
  /-- A runtime cannot be connected to. -/
  | connect (fault : ConnectFault)
  /-- A runtime is not connected. -/
  | notConnected (address : String)
  /-- The named runtime that a call needs is not connected. -/
  | targetUnavailable (id : String)
  /-- A runtime was not connected in time. -/
  | connectTimeout (address : String) (limit : Span)
  /-- A call broke off on a connection that has been replaced since. -/
  | staleConnection (address : String)
  /-- No runtime has the id. -/
  | unknownRuntime (id : String)
  /-- The image belongs to another runtime than the pod sandbox. -/
  | wrongRuntime (image : String)
  /-- The request names no image. -/
  | noImage
  /-- A runtime does not understand the requests of the caller's revision. -/
  | incompatibleRevision (asked spoken : Revision)
  /-- No method has the path. -/
  | unknownMethod (path : String)
  /-- A call ended with a status; `generation` is that of the connection it went out on. -/
  | rpc (status : Status) (generation : Nat)
  /-- A runtime answered with a status. -/
  | backend (address : String) (status : Status)
  /-- Some of the runtimes that were all called failed. -/
  | broadcast (lines : List String)
  /-- A request cannot be read. -/
  | decode (failure : Wire.Failure)
  deriving DecidableEq, Repr

namespace Fault

/-- The message of a fault. -/
def message : Fault → String
  | .config problem => "configuration error: " ++ problem.text
  | .transport reason => "server error: " ++ reason
  | .system reason => "I/O error: " ++ reason
  | .connect fault => fault.message
  | .notConnected address => Text.quoted address ++ ": not connected"
  | .targetUnavailable id => "criproxy: target runtime " ++ Text.quoted id ++ " is not available"
  | .connectTimeout address limit =>
    Text.quoted address ++ ": runtime did not become ready within " ++ limit.text
  | .staleConnection address =>
    Text.quoted address ++ ": connection was replaced while the call was in flight"
  | .unknownRuntime id => "criproxy: unknown runtime: " ++ Text.quoted id
  | .wrongRuntime image => "criproxy: image " ++ Text.quoted image ++ " is for a wrong runtime"
  | .noImage => "criproxy: no image specified"
  | .incompatibleRevision asked spoken =>
    "criproxy: " ++ asked.name ++ " requests cannot be served by a " ++ spoken.name ++ " runtime"
  | .unknownMethod path => "no handler for method " ++ Text.quoted path
  | .rpc status _ => status.message
  | .backend address status => Text.quoted address ++ ": " ++ status.message
  | .broadcast lines => "\n".intercalate lines
  | .decode failure => "failed to decode message: " ++ failure.text

/-- The code under which a caller learns of a fault. -/
def code : Fault → Code
  | .config _ | .incompatibleRevision _ _ => .failedPrecondition
  | .transport _ | .system _ => .internal
  | .connect _ | .notConnected _ | .targetUnavailable _ | .connectTimeout _ _
  | .staleConnection _ => .unavailable
  | .unknownRuntime _ | .wrongRuntime _ | .noImage | .decode _ => .invalidArgument
  | .unknownMethod _ => .unimplemented
  | .rpc status _ | .backend _ status => status.code
  | .broadcast _ => .unknown

/-- The status that a caller gets. A status of a call is passed on as it is. -/
def status : Fault → Status
  | .rpc status _ => status
  | fault => ⟨fault.code, fault.message⟩

@[simp] theorem code_status (f : Fault) : f.status.code = f.code := by
  cases f <;> rfl

end Fault

end RuntimeMux
