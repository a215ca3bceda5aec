import RuntimeMux.Proofs.Routing.NewContainers
import RuntimeMux.Routing.Lists

/-!
# Where requests go

Every route first aims a request: it chooses the runtimes that the request goes to and puts their
own names into it. Nothing is sent for that. What has been aimed at one runtime is sent to it, note
is taken of the images that the response tells of, and callers get the response as they are to see
it.
-/

namespace RuntimeMux.Router

open Cri Wire

variable {Req Resp : Type}

/-! ### Notes on images -/

section

variable [Views Resp]

/-- What is noted of an image that has been pulled: the reference of the caller. -/
def notePulled (image : String) (response : Resp) : Activity Unit :=
  match Views.describedImage? response with
  | some (id, _) => Activity.once (.record id image)
  | none => return ()

/-- What is noted of the status of an image: its first name, or else the reference of the caller. -/
def noteStatus (image : String) (b : Backend) (response : Resp) : Activity Unit :=
  match Views.describedImage? response with
  | some (id, tag) => Activity.once (.record id ((tag.map b.scope.qualifyImage).getD image))
  | none => forgetImage image

/-- What is noted of the response of a runtime to a request about an image. -/
def note (route : Route) (image : String) (b : Backend) (response : Resp) : Activity Unit :=
  match route with
  | .imageStatus => noteStatus image b response
  | .pullImage => notePulled image response
  | .removeImage => forgetImage image
  | .primary | .everyone | .annotations | .podSandbox | .container | .newContainer => return ()

theorem silent_notePulled (image : String) (response : Resp) :
    (notePulled image response).Silent := by
  rw [notePulled]
  split
  · exact Activity.silent_once rfl
  · trivial

theorem silent_forgetImage (reference : String) : (forgetImage reference).Silent := by
  rw [forgetImage]
  split
  · exact .bind (Activity.silent_once rfl) fun _ => Activity.silent_once rfl
  · exact Activity.silent_once rfl

theorem silent_noteStatus (image : String) (b : Backend) (response : Resp) :
    (noteStatus image b response).Silent := by
  rw [noteStatus]
  split
  · exact Activity.silent_once rfl
  · exact silent_forgetImage image

theorem silent_note (route : Route) (image : String) (b : Backend) (response : Resp) :
    (note route image b response).Silent := by
  cases route with
  | imageStatus => exact silent_noteStatus image b response
  | pullImage => exact silent_notePulled image response
  | removeImage => exact silent_forgetImage image
  | primary | everyone | annotations | podSandbox | container | newContainer => trivial

end

/-! ### Aims -/

section

variable [Views Req]

/-- Aims a request at the runtime of the text in a view, under its own text. -/
def aimBy (view : View) (find : String → Handling (Option (Backend × String))) (request : Req) :
    Handling (Req × Targets) := do
  match ← find (textOf view request) with
  | some (b, own) => return (withText view own request, .one b)
  | none => return (request, .nothing)

/-- Aims a request to create a container at the runtime of its pod sandbox, which must admit the
image. A digest is left as it is. -/
def aimNewContainer (r : Router) (request : Req) : Handling (Req × Targets) := do
  let (b, own) ← r.forId (textOf .podSandboxId request)
  let image := textOf .image request
  match r.admitImage b image with
  | .error fault => throw fault
  | .ok ownImage =>
    let admitted := if isDigest image then request else withText .image ownImage request
    return (withText .podSandboxId own admitted, .one b)

/-- Chooses the runtimes that a request goes to along a route, and what they are given. -/
def aim (r : Router) (route : Route) (request : Req) : Handling (Req × Targets) :=
  match route with
  | .primary => do
    Handling.await r.primary
    return (request, .one r.primary)
  | .everyone => return (request, .all)
  | .annotations => do
    let b ← r.forAnnotations ((Views.annotations? request).getD .empty)
    return (request, .one b)
  | .podSandbox => aimBy .podSandboxId (fun id => some <$> r.forId id) request
  | .container => aimBy .containerId (fun id => some <$> r.forId id) request
  | .newContainer => r.aimNewContainer request
  | .imageStatus => aimBy .image r.forImage? request
  | .pullImage | .removeImage => aimBy .image (fun image => some <$> r.forImage image) request

theorem silent_map {α β : Type} {h : Handling α} (hh : h.run.Silent) (f : α → β) :
    (f <$> h).run.Silent := by
  rw [← bind_pure_comp]
  exact .run_bind hh fun _ => trivial

theorem silent_await (b : Backend) : (Handling.await b).run.Silent :=
  Activity.silent_once rfl

theorem silent_forAnnotations (r : Router) (annotations : TextMap) :
    (r.forAnnotations annotations).run.Silent := by
  rw [forAnnotations]
  split
  · trivial
  · exact .run_bind (silent_await _) fun _ => trivial

theorem silent_aimBy {find : String → Handling (Option (Backend × String))}
    (silent : ∀ text, (find text).run.Silent) (view : View) (request : Req) :
    (aimBy view find request).run.Silent := by
  refine .run_bind (silent _) fun owner? => ?_
  split <;> trivial

/-- To aim a request, nothing is sent. -/
theorem silent_aim (r : Router) (route : Route) (request : Req) :
    (r.aim route request).run.Silent := by
  cases route with
  | primary => exact .run_bind (silent_await _) fun _ => trivial
  | everyone => trivial
  | annotations => exact .run_bind (r.silent_forAnnotations _) fun _ => trivial
  | podSandbox => exact silent_aimBy (fun id => silent_map (r.silent_forId id) _) _ _
  | container => exact silent_aimBy (fun id => silent_map (r.silent_forId id) _) _ _
  | newContainer =>
    refine .run_bind (r.silent_forId _) fun owner => ?_
    dsimp only
    split <;> trivial
  | imageStatus => exact silent_aimBy r.silent_forImage? _ _
  | pullImage => exact silent_aimBy (fun image => silent_map (r.silent_forImage image) _) _ _
  | removeImage => exact silent_aimBy (fun image => silent_map (r.silent_forImage image) _) _ _

end

/-! ### What has been aimed -/

section

variable [Views Resp] [Scoped Resp]

/-- A response as callers get it along a route. The primary runtime speaks for itself where it is
the only one to be asked. -/
def seen (r : Router) (route : Route) (b : Backend) (response : Resp) : Resp :=
  match route with
  | .primary => response
  | .everyone | .annotations | .podSandbox | .container | .newContainer | .imageStatus | .pullImage
  | .removeImage => r.present b response

variable [Message Req] [Message Resp] [Convertible Req] [Convertible Resp]

/-- Asks a runtime about an image and takes note of the answer. -/
def inquire (r : Router) (b : Backend) (c : Call) (given : Req) (note : Resp → Activity Unit) :
    Handling Resp := do
  let response ← c.invoke b given
  ExceptT.lift (note response)
  return r.present b response

/-- Sends what has been aimed along a route; `image` is the image that the request was about. -/
def reach (r : Router) (route : Route) (c : Call) (image : String) (given : Req) :
    Targets → Handling Resp
  | .all => r.toEveryone c given
  | .one b => do
    let response ← c.invoke b given
    ExceptT.lift (note route image b response)
    return r.seen route b response
  | .nothing => return Message.blank

variable [Views Req]

theorem toPullImage_eq (r : Router) (c : Call) (request : Req) :
    (r.toPullImage c request : Handling Resp) =
      r.forImage (textOf .image request) >>= fun owner =>
        r.inquire owner.1 c (withText .image owner.2 request)
          (notePulled (textOf .image request)) := by
  simp only [toPullImage, inquire]
  refine bind_congr fun owner => bind_congr fun response => ?_
  cases hd : Views.describedImage? response with
  | none =>
    simp only [notePulled, hd]
    rfl
  | some described =>
    simp only [notePulled, hd]
    rfl

theorem toImageStatus_eq (r : Router) (c : Call) (request : Req) :
    (r.toImageStatus c request : Handling Resp) =
      r.forImage? (textOf .image request) >>= fun
        | none => return Message.blank
        | some owner =>
          r.inquire owner.1 c (withText .image owner.2 request)
            (noteStatus (textOf .image request) owner.1) := by
  simp only [toImageStatus, inquire]
  refine bind_congr fun
    | none => rfl
    | some owner => bind_congr fun response => ?_
  cases hd : Views.describedImage? response with
  | none => simp only [noteStatus, hd]
  | some described =>
    simp only [noteStatus, hd]
    rfl

/-- A request is aimed along its route, and sent where it has been aimed. -/
theorem follow_eq (r : Router) (route : Route) (c : Call) (request : Req) :
    (r.follow route c request : Handling Resp) =
      r.aim route request >>= fun aimed =>
        r.reach route c (textOf .image request) aimed.1 aimed.2 := by
  cases route with
  | primary =>
    simp only [follow, toPrimary, aim, bind_assoc, pure_bind]
    refine bind_congr fun _ => ?_
    exact (bind_pure _).symm
  | everyone => rfl
  | annotations =>
    simp only [follow, byAnnotations, aim, bind_assoc, pure_bind]
    rfl
  | podSandbox =>
    simp only [follow, byId, aim, aimBy, bind_assoc, bind_map_left, pure_bind]
    rfl
  | container =>
    simp only [follow, byId, aim, aimBy, bind_assoc, bind_map_left, pure_bind]
    rfl
  | newContainer =>
    simp only [follow, toNewContainer, aim, aimNewContainer, bind_assoc]
    refine bind_congr fun owner => ?_
    unfold admitImage
    split
    · rfl
    split
    · rfl
    by_cases owns : (r.ownerOfName (textOf .image request)).1 = owner.1
    · simp only [owns, ne_eq, not_true, if_false, if_true]
      rfl
    · simp only [owns, ne_eq, not_false_eq_true, if_true, if_false]
      rfl
  | imageStatus =>
    simp only [follow, toImageStatus_eq, aim, aimBy, bind_assoc]
    refine bind_congr fun
      | none => rfl
      | some owner => rfl
  | pullImage =>
    simp only [follow, toPullImage_eq, aim, aimBy, bind_assoc, bind_map_left, pure_bind]
    rfl
  | removeImage =>
    simp only [follow, toRemoveImage, aim, aimBy, bind_assoc, bind_map_left, pure_bind]
    rfl

end

end RuntimeMux.Router
