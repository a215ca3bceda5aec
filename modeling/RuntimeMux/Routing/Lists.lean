import RuntimeMux.Routing.Single

/-!
# Lists of all runtimes

A list is asked for from every runtime, and the items are put together in the order of the runtimes.
A filter by an id or an image narrows the list to the runtime of that id or image; filters that do
not agree on the runtime leave nothing. A runtime that is away or fails contributes no items.
-/

namespace RuntimeMux

open Cri Wire

/-- The runtimes that a list is asked for from. -/
inductive Targets where
  | all
  | one (b : Backend)
  | nothing
  deriving DecidableEq

namespace Targets

/-- Narrows the targets to a runtime. -/
def meet (b : Backend) : Targets → Targets
  | .all => .one b
  | .one c => if c = b then .one b else .nothing
  | .nothing => .nothing

/-- Leaves out all runtimes but one that has been chosen before. -/
def withoutRest : Targets → Targets
  | .all => .nothing
  | targets => targets

/-- The targets, in order. -/
def toList (r : Router) : Targets → List Backend
  | .all => r.backends
  | .one b => [b]
  | .nothing => []

end Targets

namespace Router

variable {Req Resp : Type} [Views Req]

/-- Narrows the targets of a list to the runtime of the text in a view, if there is such a text. The
runtime gets it as it knows it. Targets that are already empty stay so. -/
def narrowBy (view : View) (owner : String → Handling (Option (Backend × String))) :
    Req × Targets → Handling (Req × Targets)
  | (request, .nothing) => return (request, .nothing)
  | (request, targets) => do
    let text := textOf view request
    if text.isEmpty then return (request, targets)
    else
      match ← owner text with
      | some (b, own) => return (withText view own request, targets.meet b)
      | none => return (request, targets.withoutRest)

/-- The targets of a list, and the request that they get. -/
def narrow (r : Router) (request : Req) : Handling (Req × Targets) := do
  let byId := fun id => some <$> r.forId id
  let narrowed ← narrowBy .idFilter byId (request, .all)
  let narrowed ← narrowBy .podSandboxIdFilter byId narrowed
  narrowBy .imageFilter r.forImage? narrowed

variable [Message Req] [Message Resp] [Convertible Req] [Convertible Resp] [Listing Resp]

/-- The items of a list that a runtime has answered with, as callers see them. -/
def itemsOf (b : Backend) : Except Fault Resp → List (Listing.Item Resp)
  | .ok response => (Listing.items response).map (Scoped.qualify b.scope)
  | .error _ => []

/-- Asks the runtimes that are connected for their lists and puts the items together. The others are
asked for their connections. -/
def gather (c : Call) (request : Req) (Resp : Type) [Message Resp] [Convertible Resp]
    [Listing Resp] : List Backend → Activity (List (Listing.Item Resp)) :=
  callEach c request fun b (result : Except Fault Resp) => itemsOf b result

/-- Asks for a list. -/
def list (r : Router) (c : Call) (request : Req) : Handling Resp := do
  let (request, targets) ← r.narrow request
  let items ← ExceptT.lift (gather c request Resp (targets.toList r))
  return Listing.setItems items Message.blank

end Router

end RuntimeMux
