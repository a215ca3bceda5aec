import RuntimeMux.Call
import RuntimeMux.Cri.Scoped
import RuntimeMux.Cri.Views
import RuntimeMux.Routing.Choice
import RuntimeMux.Url.DomainName

/-!
# Calls that go to one runtime

Most methods are about one object. The request goes to the runtime of that object, which gets it
under its own ids and image names and otherwise as it is, and the response comes back under the ids
and names that callers see. Methods about images also keep the table of image names up to date. One
method goes to all runtimes and answers for all of them.
-/

namespace RuntimeMux

open Cri Wire

/-- How a method finds the runtimes that a request goes to. -/
inductive Route where
  /-- It always goes to the primary one. -/
  | primary
  /-- It goes to every runtime that is connected. -/
  | everyone
  /-- By the annotations of a new pod sandbox. -/
  | annotations
  /-- By the id of a pod sandbox. -/
  | podSandbox
  /-- By the id of a container. -/
  | container
  /-- By the pod sandbox of a new container, which its image must not contradict. -/
  | newContainer
  /-- By an image whose status is asked for. -/
  | imageStatus
  /-- By an image to pull. -/
  | pullImage
  /-- By an image to remove. -/
  | removeImage
  deriving DecidableEq, Repr

namespace Router

variable {Req Resp : Type}

/-- The text of a view, empty if the message lacks it. -/
def textOf [Views Req] (view : View) (m : Req) : String :=
  (Views.slot view).value m

/-- A message with the text of a view replaced. -/
def withText [Views Req] (view : View) (text : String) (m : Req) : Req :=
  (Views.slot view).set text m

/-- A response of a runtime as callers see it. -/
def present [Views Resp] [Scoped Resp] (r : Router) (b : Backend) (response : Resp) : Resp :=
  let seen := Scoped.qualify b.scope response
  match (Views.slot .url).get? seen with
  | some url => withText .url (Stream.fix r.stream url) seen
  | none => seen

section

variable [Message Req] [Message Resp] [Convertible Req] [Convertible Resp] [Views Req] [Views Resp]
  [Scoped Resp]

/-- Sends a request to the primary runtime. -/
def toPrimary (r : Router) (c : Call) (request : Req) : Handling Resp := do
  Handling.await r.primary
  c.invoke r.primary request

/-- Makes a call to one runtime after the other, whatever comes of the calls, and collects what
`gain` makes of each. A runtime that is not connected at its turn is asked for its connection
instead. -/
def callEach {α : Type} (c : Call) (request : Req) (gain : Backend → Except Fault Resp → List α) :
    List Backend → Activity (List α)
  | [] => return []
  | b :: bs => do
    if ← Activity.once (.connected b) then
      let result ← (c.attempt b request : Handling Resp).run
      if let .error fault := result then Call.notice b fault
      return gain b result ++ (← callEach c request gain bs)
    else
      Activity.once (.kick b)
      callEach c request gain bs

/-- The message of a call that has failed. -/
def complaint (b : Backend) : Except Fault Resp → List String
  | .ok _ => []
  | .error fault => [(fault.report b.address).message]

/-- Sends a request to the runtimes that are connected, and gives the messages of those that fail.
The others are asked for their connections. -/
def tellEach (c : Call) (request : Req) (Resp : Type) [Message Resp] [Convertible Resp] :
    List Backend → Activity (List String) :=
  callEach c request fun b (result : Except Fault Resp) => complaint b result

/-- Sends a request to all runtimes. The response is empty, and a fault tells of all that failed. -/
def toEveryone (r : Router) (c : Call) (request : Req) : Handling Resp := do
  let failures ← ExceptT.lift (tellEach c request Resp r.backends)
  if failures.isEmpty then return Message.blank
  else throw (.broadcast failures)

/-- Sends a request to create a pod sandbox to the runtime that its annotations name. -/
def byAnnotations (r : Router) (c : Call) (request : Req) : Handling Resp := do
  let b ← r.forAnnotations ((Views.annotations? request).getD .empty)
  return r.present b (← c.invoke b request)

/-- Sends a request to the runtime of the id in a view. -/
def byId (r : Router) (view : View) (c : Call) (request : Req) : Handling Resp := do
  let (b, own) ← r.forId (textOf view request)
  return r.present b (← c.invoke b (withText view own request))

/-- Sends a request to create a container to the runtime of its pod sandbox. The image must belong to
the same runtime; a digest may be known to several, so it is not looked at. -/
def toNewContainer (r : Router) (c : Call) (request : Req) : Handling Resp := do
  let (b, own) ← r.forId (textOf .podSandboxId request)
  let image := textOf .image request
  if image.isEmpty then throw .noImage
  let request ←
    if isDigest image then pure request
    else
      let (owner, ownImage) := r.ownerOfName image
      if owner ≠ b then throw (.wrongRuntime image)
      pure (withText .image ownImage request)
  return r.present b (← c.invoke b (withText .podSandboxId own request))

/-- Forgets what is known about a reference to an image. -/
def forgetImage (reference : String) : Activity Unit := do
  if isDigest reference then Activity.once (.forget reference)
  Activity.once (.forgetName reference)

/-- Asks the runtime of an image for its status. An image of a runtime that is away has none. The
image is remembered by its first name, or else by the reference of the caller; an image that does not
exist is forgotten. -/
def toImageStatus (r : Router) (c : Call) (request : Req) : Handling Resp := do
  let image := textOf .image request
  match ← r.forImage? image with
  | none => return Message.blank
  | some (b, own) =>
    let response : Resp ← c.invoke b (withText .image own request)
    match Views.describedImage? response with
    | some (id, tag) => Handling.once (.record id ((tag.map b.scope.qualifyImage).getD image))
    | none => ExceptT.lift (forgetImage image)
    return r.present b response

/-- Has the runtime of an image pull it. The image is remembered by the reference of the caller. -/
def toPullImage (r : Router) (c : Call) (request : Req) : Handling Resp := do
  let image := textOf .image request
  let (b, own) ← r.forImage image
  let response : Resp ← c.invoke b (withText .image own request)
  if let some (id, _) := Views.describedImage? response then Handling.once (.record id image)
  return r.present b response

/-- Has the runtime of an image remove it. The image is forgotten. -/
def toRemoveImage (r : Router) (c : Call) (request : Req) : Handling Resp := do
  let image := textOf .image request
  let (b, own) ← r.forImage image
  let response : Resp ← c.invoke b (withText .image own request)
  ExceptT.lift (forgetImage image)
  return r.present b response

/-- Sends a request along a route. -/
def follow (r : Router) (route : Route) (c : Call) (request : Req) : Handling Resp :=
  match route with
  | .primary => r.toPrimary c request
  | .everyone => r.toEveryone c request
  | .annotations => r.byAnnotations c request
  | .podSandbox => r.byId .podSandboxId c request
  | .container => r.byId .containerId c request
  | .newContainer => r.toNewContainer c request
  | .imageStatus => r.toImageStatus c request
  | .pullImage => r.toPullImage c request
  | .removeImage => r.toRemoveImage c request

end

end Router

end RuntimeMux
