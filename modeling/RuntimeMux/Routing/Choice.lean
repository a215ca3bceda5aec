import RuntimeMux.Activity
import RuntimeMux.Router

/-!
# Choosing a runtime

A call goes to the runtime that its subject belongs to. The primary runtime is waited for if it is
not connected. A named one is not: it is asked for the connection and must have it already, so that a
runtime that is away does not hold up the calls about its objects. Only the creation of a pod sandbox
waits for a named runtime.
-/

namespace RuntimeMux.Router

/-- Makes sure that a runtime can take a call. -/
def ready (b : Backend) : Handling Unit := do
  if b.isPrimary then Handling.await b
  else
    Handling.once (.kick b)
    if !(← Handling.once (.connected b)) then throw (.targetUnavailable b.scope.id)

/-- The runtime of an object, ready for a call, and what it calls the object. -/
def forId (r : Router) (id : String) : Handling (Backend × String) := do
  let owner := r.ownerOfId id
  ready owner.1
  return owner

/-- The runtime that a reference to an image belongs to, and what that runtime calls the image. -/
def findImage (r : Router) (reference : String) : Activity (Backend × String) := do
  if isDigest reference then
    let known ← Activity.once (.nameOf reference)
    return r.ownerOfImage known reference
  else return r.ownerOfImage none reference

/-- The runtime of an image, ready for a call, and what it calls the image. -/
def forImage (r : Router) (reference : String) : Handling (Backend × String) := do
  let owner ← ExceptT.lift (r.findImage reference)
  ready owner.1
  return owner

/-- The runtime of an image, unless it is a named one that is not connected. -/
def forImage? (r : Router) (reference : String) : Handling (Option (Backend × String)) :=
  tryCatch (some <$> r.forImage reference) fun
    | .targetUnavailable _ => return none
    | fault => throw fault

/-- The runtime to create a pod sandbox with these annotations on, connected. -/
def forAnnotations (r : Router) (annotations : TextMap) : Handling Backend := do
  match r.target? annotations with
  | none => throw (.unknownRuntime ((annotations.get? targetAnnotation).getD ""))
  | some b =>
    Handling.await b
    return b

end RuntimeMux.Router
