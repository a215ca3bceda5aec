import RuntimeMux.Deadline
import RuntimeMux.Exchange

/-!
# Dispatching calls

A call arrives with a path, a body and the header of its deadline. The path names a method and the
revision of the caller, and the call is handled as the exchange of the method in the schema of that
revision. What goes wrong reaches the caller as a status.
-/

namespace RuntimeMux

open Wire

namespace Router

/-- Handles a call to the method that a path names. -/
def dispatch (r : Router) (path : String) (body : Bytes) (deadline : Option Span) :
    Handling Bytes :=
  match Method.find? path with
  | none => throw (.unknownMethod path)
  | some (revision, method) =>
    (method.exchange revision.schema).handle r ⟨method, revision, deadline⟩ body

/-- Handles a call with the header of its deadline. A header that is none sets no deadline. -/
def respond (r : Router) (path : String) (body : Bytes) (header : Option String) :
    Activity (Except Status Bytes) := do
  let result ← (r.dispatch path body (header.bind Deadline.parse?)).run
  return result.mapError Fault.status

/-- Whether a path belongs to a service of a revision, so that a call to it is handled at all. -/
def isServed (path : String) : Bool :=
  Revision.all.any fun revision => [Service.runtime, Service.image].any fun service =>
    (Text.after? (revision.methodPath service.name "") path).any fun name => !name.isEmpty

/-- The path of the target of a call, which may have a query behind it. -/
def pathOfTarget (target : String) : String :=
  .ofList (target.toList.takeWhile fun c => c ≠ '?' ∧ c ≠ '#')

/-- What the server answers to a call. -/
def serve (r : Router) (target : String) (body : Bytes) (header : Option String) :
    Activity (Except Status Bytes) :=
  let path := pathOfTarget target
  if isServed path then r.respond path body header
  else return .error ⟨.unimplemented, ""⟩

/-- Asks for the connections of all runtimes. -/
def connectAll (r : Router) : Activity Unit :=
  r.backends.forM fun b => Activity.once (.kick b)

end Router

end RuntimeMux
