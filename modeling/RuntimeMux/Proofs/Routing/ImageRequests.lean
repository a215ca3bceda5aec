import RuntimeMux.Proofs.Cri.Neutral
import RuntimeMux.Proofs.Routing.Refusals
import RuntimeMux.Proofs.Routing.RemovedImages

/-!
# Requests about images

A request about an image goes to the runtime that the image belongs to, as far as the table of names
tells, and only the name of the image is changed in it. If that is a named runtime that is not connected,
nobody is asked, and the status of the image is blank. The table is told last, when the runtime has
answered. So a call that fails leaves it as it is, and so does a call for which nothing has been sent.
-/

namespace RuntimeMux

open Cri Wire

/-- Whether a method is about one image. -/
def Method.asksImage : Method → Bool
  | .imageStatus | .pullImage | .removeImage => true
  | _ => false

namespace Router

variable {r : Router} {w : World} {past : Journal} {reference : String} {b : Backend} {own : String}

/-! ### Finding the runtime -/

/-- What is looked up to find the runtime of an image: the name that a digest is known by. -/
def lookedUp (w : World) (past : Journal) (reference : String) : Journal :=
  if isDigest reference then [⟨.nameOf reference, w past (.nameOf reference)⟩] else []

theorem play_findImage_of_known {t : ImageNames}
    (known : ∀ image, w past (.nameOf image) = t.lookup image) :
    (r.findImage reference).play w past =
      (r.ownerOfImage (t.lookup reference) reference, lookedUp w past reference) := by
  rw [findImage, lookedUp]
  split
  next digest =>
    rw [← known]
    rfl
  next name =>
    rw [Activity.play_pure]
    simp [ownerOfImage, name]

theorem sent_lookedUp (w : World) (past : Journal) (reference : String) :
    Journal.sent (lookedUp w past reference) = [] := by
  rw [lookedUp]
  split <;> rfl

theorem idle_of_mem_lookedUp {d : Deed} (mem : d ∈ lookedUp w past reference) :
    ImageNames.Idle d.act := by
  rw [lookedUp] at mem
  split at mem
  · cases List.mem_singleton.1 mem
    exact fun _ => rfl
  · cases mem

/-- A search finds the runtime `b` of an image and makes it ready. If it does not get ready, the search
fails, or finds nothing. -/
structure Finds (find : Handling (Option (Backend × String)))
    (unready : Fault → Except Fault (Option (Backend × String))) (b : Backend)
    (own reference : String) (w : World) (past : Journal) : Prop where
  play : find.run.play w past =
    let looked := lookedUp w past reference
    match (ready b).run.play w (past ++ looked) with
    | (.ok (), readied) => (.ok (some (b, own)), looked ++ readied)
    | (.error fault, readied) => (unready fault, looked ++ readied)
  missed : ∀ fault, unready fault = .error fault ∨ unready fault = .ok none

/-- An image of a runtime that is away is not found. -/
def tolerate : Fault → Except Fault (Option (Backend × String))
  | .targetUnavailable _ => .ok none
  | fault => .error fault

theorem finds_forImage
    (found : (r.findImage reference).play w past = ((b, own), lookedUp w past reference)) :
    Finds (some <$> r.forImage reference) .error b own reference w past := by
  refine ⟨?_, fun _ => .inl rfl⟩
  rw [ExceptT.run_map, Activity.play_map, forImage, Activity.play_run_bind,
    Activity.play_run_lift, found]
  dsimp only
  rw [Activity.play_run_bind]
  generalize (ready b).run.play w (past ++ lookedUp w past reference) = readied
  obtain ⟨fault | _, readied⟩ := readied
  · rfl
  · simp [Except.map]

theorem finds_forImage?
    (found : (r.findImage reference).play w past = ((b, own), lookedUp w past reference)) :
    Finds (r.forImage? reference) tolerate b own reference w past := by
  constructor
  case play =>
    rw [forImage?, Activity.play_run_tryCatch, (finds_forImage found).play]
    dsimp only
    generalize (ready b).run.play w (past ++ lookedUp w past reference) = readied
    obtain ⟨fault | _, readied⟩ := readied
    · cases fault <;> simp [tolerate]
    · rfl
  case missed =>
    intro fault
    cases fault <;> simp [tolerate]

/-! ### Asking it -/

variable {Req Resp : Type} [Message Req] [Message Resp] [Convertible Req] [Convertible Resp]
  [Views Resp] [Scoped Resp] {c : Call} {given : Req} {note : Resp → Activity Unit}

/-- To take note of an answer, nothing is sent. -/
theorem sent_inquire (silent : ∀ response, (note response).Silent) :
    Journal.sent ((r.inquire b c given note).run.play w past).2 =
      (w past (.link b)).elim [] fun link =>
        if c.isServedOn link then [(b, link, c.rpc link given)] else [] := by
  have invoked := (Call.Invoked.of_play Resp c b given w past).sent
  rw [play_inquire_eq]
  generalize (c.invoke b given : Handling Resp).run.play w past = result at invoked ⊢
  obtain ⟨fault | response, called⟩ := result
  · exact invoked
  · have unsent := (silent response).sent_play (w := w) (past ++ called)
    rw [Journal.sent_append, unsent, List.append_nil]
    exact invoked

/-- Nothing is learnt from a runtime that fails, or is not asked. -/
theorem after_inquire
    (unanswered : let played := (r.inquire b c given note).run.play w past
      (∃ fault, played.1 = .error fault) ∨ Journal.sent played.2 = []) (names : ImageNames) :
    names.after ((r.inquire b c given note).run.play w past).2 = names := by
  have invoked := Call.Invoked.of_play Resp c b given w past
  have untaught : names.after ((c.invoke b given : Handling Resp).run.play w past).2 = names :=
    after_invoke c b given w past names
  rw [play_inquire_eq] at unanswered ⊢
  generalize (c.invoke b given : Handling Resp).run.play w past = result
    at invoked untaught unanswered ⊢
  obtain ⟨fault | response, called⟩ := result
  · exact untaught
  · -- a runtime that has answered has been asked, and then callers get its answer
    obtain ⟨link, answer, mem, -⟩ := (invoked.eq_ok_iff response).1 rfl
    have asked := Journal.mem_sent mem
    rcases unanswered with ⟨fault, failed⟩ | unsent
    · cases failed
    · rw [Journal.sent_append, List.append_eq_nil_iff] at unsent
      rw [unsent.1] at asked
      cases asked

/-- What a request about an image ends with, and what is done for it. -/
inductive Inquired (r : Router) (b : Backend) (c : Call) (reference : String) (given : Req)
    (unready : Fault → Except Fault (Option (Backend × String))) (note : Resp → Activity Unit)
    (w : World) (past : Journal) : Except Fault Resp → Journal → Prop where
  /-- The runtime does not get ready. -/
  | missed {fault : Fault} {readied : Journal}
      (hr : (ready b).run.play w (past ++ lookedUp w past reference) = (.error fault, readied)) :
      Inquired r b c reference given unready note w past
        ((unready fault).map fun _ => Message.blank) (lookedUp w past reference ++ readied)
  /-- The runtime is asked. -/
  | asked {readied deeds : Journal} {result : Except Fault Resp}
      (hr : (ready b).run.play w (past ++ lookedUp w past reference) = (.ok (), readied))
      (played : (r.inquire b c given note).run.play w
        (past ++ (lookedUp w past reference ++ readied)) = (result, deeds)) :
      Inquired r b c reference given unready note w past result
        (lookedUp w past reference ++ readied ++ deeds)

namespace Inquired

variable {unready : Fault → Except Fault (Option (Backend × String))} {result : Except Fault Resp}
  {deeds readied : Journal} {link : Link}

theorem sent_found (hr : (ready b).run.play w (past ++ lookedUp w past reference) =
    (.ok (), readied)) : Journal.sent (lookedUp w past reference ++ readied) = [] := by
  rw [Journal.sent_append, sent_lookedUp, sent_of_play_ready hr]
  rfl

/-- To find the runtime of an image teaches nothing about it. -/
theorem idle_found {found : Except Fault Unit}
    (hr : (ready b).run.play w (past ++ lookedUp w past reference) = (found, readied)) :
    ∀ d ∈ lookedUp w past reference ++ readied, ImageNames.Idle d.act := by
  have about := (within_ready b).act_mem_play w (past ++ lookedUp w past reference)
  rw [hr] at about
  intro d mem
  rcases List.mem_append.1 mem with looked | made
  · exact idle_of_mem_lookedUp looked
  · exact ImageNames.idle_of_backend (about d made)

/-- A runtime that is ready is sent the call on its link, if it has one that the call is served on. -/
theorem sent_asked (silent : ∀ response, (note response).Silent)
    (hr : (ready b).run.play w (past ++ lookedUp w past reference) = (.ok (), readied))
    (played : (r.inquire b c given note).run.play w
      (past ++ (lookedUp w past reference ++ readied)) = (result, deeds)) :
    Journal.sent (lookedUp w past reference ++ readied ++ deeds) =
      (w (past ++ (lookedUp w past reference ++ readied)) (.link b)).elim [] fun link =>
        if c.isServedOn link then [(b, link, c.rpc link given)] else [] := by
  have sent : Journal.sent ((r.inquire b c given note).run.play w
      (past ++ (lookedUp w past reference ++ readied))).2 = _ := sent_inquire silent
  rw [played] at sent
  rw [Journal.sent_append, sent_found hr, List.nil_append]
  exact sent

theorem once (h : r.Inquired b c reference given unready note w past result deeds)
    (silent : ∀ response, (note response).Silent) :
    Journal.sent deeds = [] ∨ ∃ link, Journal.sent deeds = [(b, link, c.rpc link given)] := by
  cases h with
  | missed hr =>
    left
    rw [Journal.sent_append, sent_lookedUp, sent_of_play_ready hr]
    rfl
  | @asked readied deeds _ hr played =>
    rw [sent_asked silent hr played]
    cases w (past ++ (lookedUp w past reference ++ readied)) (.link b) with
    | none =>
      left
      rfl
    | some link =>
      by_cases served : c.isServedOn link = true
      · right
        exact ⟨link, if_pos served⟩
      · left
        exact if_neg served

theorem due (h : r.Inquired b c reference given unready note w past result deeds)
    (silent : ∀ response, (note response).Silent)
    (hr : (ready b).run.play w (past ++ lookedUp w past reference) = (.ok (), readied))
    (hl : w (past ++ (lookedUp w past reference ++ readied)) (.link b) = some link)
    (served : c.isServedOn link = true) : Journal.sent deeds = [(b, link, c.rpc link given)] := by
  cases h with
  | missed hr' => cases hr.symm.trans hr'
  | asked hr' played =>
    cases hr.symm.trans hr'
    rw [sent_asked silent hr played, hl]
    exact if_pos served

theorem of_unready {fault : Fault}
    (h : r.Inquired b c reference given unready note w past result deeds)
    (hr : (ready b).run.play w (past ++ lookedUp w past reference) = (.error fault, readied)) :
    result = (unready fault).map (fun _ => Message.blank) ∧
      deeds = lookedUp w past reference ++ readied := by
  cases h with
  | missed hr' =>
    cases hr.symm.trans hr'
    exact ⟨rfl, rfl⟩
  | asked hr' => cases hr.symm.trans hr'

theorem unlearnt (h : r.Inquired b c reference given unready note w past result deeds)
    (unanswered : (∃ fault, result = .error fault) ∨ Journal.sent deeds = [])
    (names : ImageNames) : names.after deeds = names := by
  cases h with
  | missed hr => exact ImageNames.after_eq_self (idle_found hr)
  | @asked readied deeds _ hr played =>
    rw [Journal.sent_append, sent_found hr, List.nil_append] at unanswered
    have learnt : names.after ((r.inquire b c given note).run.play w
        (past ++ (lookedUp w past reference ++ readied))).2 = names := by
      apply after_inquire
      rw [played]
      exact unanswered
    rw [played] at learnt
    rw [ImageNames.after_append, ImageNames.after_eq_self (idle_found hr)]
    exact learnt

end Inquired

/-- What a caller can rely on when the runtime `b` is to be asked about the image `reference`. -/
structure Inquires (b : Backend) (c : Call) (reference : String) (given : Req)
    (absent : Except Fault Resp) (handling : Handling Resp) (w : World) (past : Journal) : Prop where
  /-- At most one call is sent: to the runtime. -/
  once :
    let deeds := (handling.run.play w past).2
    Journal.sent deeds = [] ∨ ∃ link, Journal.sent deeds = [(b, link, c.rpc link given)]
  /-- It is sent if the runtime is ready and understands it. -/
  due :
    let looked := lookedUp w past reference
    ∀ readied link, (ready b).run.play w (past ++ looked) = (.ok (), readied) →
      w (past ++ (looked ++ readied)) (.link b) = some link → c.isServedOn link = true →
      Journal.sent (handling.run.play w past).2 = [(b, link, c.rpc link given)]
  /-- A named runtime that is not connected is asked for its connection, and nothing is sent. -/
  away :
    let looked := lookedUp w past reference
    b.isPrimary = false → w (past ++ looked ++ [⟨.kick b, ()⟩]) (.connected b) = false →
      handling.run.play w past = (absent, looked ++ [⟨.kick b, ()⟩, ⟨.connected b, false⟩])
  /-- Nothing is learnt from a call that fails, or for which nothing is sent. -/
  unlearnt :
    let played := handling.run.play w past
    (∃ fault, played.1 = .error fault) ∨ Journal.sent played.2 = [] →
      ∀ names : ImageNames, names.after played.2 = names

variable [Views Req]

/-- Asks the runtime of an image about it, if it is found. -/
def askFound (r : Router) (find : Handling (Option (Backend × String))) (c : Call) (request : Req)
    (note : Backend → Resp → Activity Unit) : Handling Resp :=
  find >>= fun
    | none => return Message.blank
    | some owner => r.inquire owner.1 c (withText .image owner.2 request) (note owner.1)

theorem toPullImage_eq_askFound (r : Router) (c : Call) (request : Req) :
    (r.toPullImage c request : Handling Resp) =
      r.askFound (some <$> r.forImage (textOf .image request)) c request fun _ =>
        notePulled (textOf .image request) := by
  rw [toPullImage_eq, askFound, bind_map_left]

theorem toRemoveImage_eq_askFound (r : Router) (c : Call) (request : Req) :
    (r.toRemoveImage c request : Handling Resp) =
      r.askFound (some <$> r.forImage (textOf .image request)) c request fun _ _ =>
        forgetImage (textOf .image request) := by
  rw [toRemoveImage_eq, askFound, bind_map_left]

theorem inquires_askFound {find : Handling (Option (Backend × String))}
    {unready : Fault → Except Fault (Option (Backend × String))}
    (finds : Finds find unready b own reference w past) (r : Router) (c : Call) (request : Req)
    {note : Backend → Resp → Activity Unit} (silent : ∀ response, (note b response).Silent) :
    Inquires b c reference (withText .image own request)
      ((unready (.targetUnavailable b.scope.id)).map fun _ => Message.blank)
      (r.askFound find c request note) w past := by
  have inquired : r.Inquired b c reference (withText .image own request) unready (note b) w past
      ((r.askFound find c request note).run.play w past).1
      ((r.askFound find c request note).run.play w past).2 := by
    rw [askFound, Activity.play_run_bind, finds.play]
    dsimp only
    cases hr : (ready b).run.play w (past ++ lookedUp w past reference) with
    | mk result readied =>
      cases result with
      | ok ready => exact .asked hr rfl
      | error fault =>
        dsimp only
        have missed : r.Inquired b c reference (withText .image own request) unready (note b) w
            past _ _ := .missed hr
        rcases finds.missed fault with failed | absent
        · rw [failed] at missed ⊢
          exact missed
        · rw [absent] at missed ⊢
          simpa only [Activity.play_run_pure, List.append_nil, Except.map] using missed
  constructor
  case once => exact inquired.once silent
  case due =>
    intro looked readied link hr hl served
    exact inquired.due silent hr hl served
  case away =>
    intro looked hb hl
    obtain ⟨ended, done⟩ := inquired.of_unready (play_ready_of_away hb hl)
    exact Prod.ext ended done
  case unlearnt => exact inquired.unlearnt

end Router

/-! ### Requests as runtimes get them -/

/-- Messages that are written alike, apart from the field of one name. -/
def Wire.Message.AgreeBut {M : Type} [Message M] (name : String) (m n : M) : Prop :=
  ∀ f ∈ fields (M := M), f.name = name ∨ f.write m = f.write n

/-- A request about an image as its runtime gets it: the image has the name `own`, and everything else
is as it was, in the schema of the caller and in the current one. -/
structure PassedOn {Req : Type} [Message Req] [Convertible Req] [Views Req] (own : String)
    (request given : Req) : Prop where
  image : (Views.slot .image).get? given = ((Views.slot .image).get? request).map fun _ => own
  others : Message.AgreeBut "image" given request
  upgraded : Message.AgreeBut "image" (Convertible.upgrade given) (Convertible.upgrade request)

/-- A type of requests about one image. -/
class ImageRequest (Req : Type) [Message Req] [Convertible Req] [Views Req] : Prop where
  passedOn : ∀ (own : String) (m : Req), PassedOn own m (Router.withText .image own m)

instance : ImageRequest ImageStatusRequest where
  passedOn _ m :=
    { image := by obtain ⟨_ | image, verbose⟩ := m <;> rfl
      others := List.forall_iff_forall_mem.1 ⟨.inl rfl, .inr rfl⟩
      upgraded := List.forall_iff_forall_mem.1 ⟨.inl rfl, .inr rfl⟩ }

instance : ImageRequest PullImageRequest where
  passedOn _ m :=
    { image := by obtain ⟨_ | image, auth, sandboxConfig⟩ := m <;> rfl
      others := List.forall_iff_forall_mem.1 ⟨.inl rfl, .inr rfl, .inr rfl⟩
      upgraded := List.forall_iff_forall_mem.1 ⟨.inl rfl, .inr rfl, .inr rfl⟩ }

instance : ImageRequest Legacy.PullImageRequest where
  passedOn _ m :=
    { image := by obtain ⟨_ | image, auth, sandboxConfig⟩ := m <;> rfl
      others := List.forall_iff_forall_mem.1 ⟨.inl rfl, .inr rfl, .inr rfl⟩
      upgraded := List.forall_iff_forall_mem.1 ⟨.inl rfl, .inr rfl, .inr rfl⟩ }

instance : ImageRequest RemoveImageRequest where
  passedOn _ m :=
    { image := by obtain ⟨_ | image⟩ := m <;> rfl
      others := List.forall_iff_forall_mem.1 (.inl rfl)
      upgraded := List.forall_iff_forall_mem.1 (.inl rfl) }

namespace Router

/-- What callers are told if the runtime of an image is away: there is no status, and the other calls
fail. -/
def whenAway {Resp : Type} [Message Resp] (m : Method) (b : Backend) : Except Fault Resp :=
  if m = .imageStatus then .ok Message.blank else .error (.targetUnavailable b.scope.id)

variable {Req Resp : Type} [Message Req] [Message Resp] [Convertible Req] [Convertible Resp]
  [Views Req] [Views Resp] [Scoped Resp]

/-- A request about an image is one to the runtime that the image belongs to when the call is made, by
the name that this runtime has for it. A digest is passed on as it is. -/
def AsksOwner (r : Router) (c : Call) (request : Req) (handling : Handling Resp) (w : World)
    (past : Journal) : Prop :=
  let reference := textOf .image request
  let owner := r.ownerOfImage ((ImageNames.empty.after past).lookup reference) reference
  let given := withText .image owner.2 request
  PassedOn owner.2 request given ∧ (isDigest reference = true → given = request) ∧
    Inquires owner.1 c reference given (whenAway c.method owner.1) handling w.recalling past

theorem asksOwner_of_finds [ImageRequest Req] [LawfulViews Req] {r : Router} {c : Call}
    {request : Req} {w : World} {past : Journal} {find : Handling (Option (Backend × String))}
    {unready : Fault → Except Fault (Option (Backend × String))}
    (finds : ∀ owner, (r.findImage (textOf .image request)).play w.recalling past =
        (owner, lookedUp w.recalling past (textOf .image request)) →
      Finds find unready owner.1 owner.2 (textOf .image request) w.recalling past)
    {note : Backend → Resp → Activity Unit} (silent : ∀ b response, (note b response).Silent)
    (away : ∀ b : Backend, (unready (.targetUnavailable b.scope.id)).map (fun _ => Message.blank) =
      (whenAway c.method b : Except Fault Resp)) :
    r.AsksOwner c request (r.askFound find c request note) w past := by
  unfold AsksOwner
  intro reference owner given
  have found : (r.findImage reference).play w.recalling past =
      (owner, lookedUp w.recalling past reference) := play_findImage_of_known fun _ => rfl
  refine ⟨ImageRequest.passedOn owner.2 request, ?_, ?_⟩
  · intro digest
    have same : owner.2 = reference := by simp [owner, ownerOfImage, digest]
    show withText .image owner.2 request = request
    rw [same]
    exact LawfulViews.withText_textOf .image request
  · rw [← away owner.1]
    exact inquires_askFound (finds owner found) r c request (silent owner.1)

/-- A call that ends with a fault has taught nothing about images. -/
theorem after_dispatch_of_error (r : Router) (path : String) (body : Bytes)
    (deadline : Option Span) (w : World) (past : Journal) {fault : Fault}
    (failed : ((r.dispatch path body deadline).run.play w past).1 = .error fault)
    (names : ImageNames) :
    names.after ((r.dispatch path body deadline).run.play w past).2 = names := by
  cases hf : Method.find? path with
  | none =>
    have unknown : r.dispatch path body deadline = throw (.unknownMethod path) := by
      rw [dispatch, hf]
    rw [unknown]
    rfl
  | some found =>
    obtain ⟨revision, m⟩ := found
    have handled : r.dispatch path body deadline =
        (m.exchange revision.schema).handle r ⟨m, revision, deadline⟩ body := by
      rw [dispatch, hf]
    rw [handled] at failed ⊢
    exact ((m.exchange revision.schema).handle_refuses r _ body w past).unlearnt fault failed names

/-- A request about an image goes to the runtime that the image belongs to and to no other one, and
names the image as the runtime does. Whatever the method, a call that ends with a fault leaves the
names of images as they are. -/
theorem follow_asksOwner (r : Router) (w : World) (past : Journal) :
    (∀ m : Method, m.asksImage = true → ∀ (revision : Revision) (deadline : Option Span),
      match m.exchange revision.schema with
      | @Exchange.listed .. => False
      | @Exchange.routed Req Resp _ _ _ _ _ _ _ route =>
        let c : Call := ⟨m, revision, deadline⟩
        ∀ request : Req,
          r.AsksOwner c request (r.follow route c request : Handling Resp) w past) ∧
    ∀ (path : String) (body : Bytes) (deadline : Option Span) (fault : Fault),
      let played := (r.dispatch path body deadline).run.play w.recalling past
      played.1 = .error fault → ∀ names : ImageNames, names.after played.2 = names := by
  constructor
  case right =>
    intro path body deadline fault played failed names
    exact after_dispatch_of_error r path body deadline w.recalling past failed names
  intro m hm revision deadline
  cases m with
  | imageStatus =>
    intro request
    rw [follow, toImageStatus_eq]
    exact asksOwner_of_finds (fun _ => finds_forImage?) (silent_noteStatus _) fun _ => rfl
  | pullImage =>
    have pulls (Req : Type) [Message Req] [Convertible Req] [Views Req] [ImageRequest Req]
        [LawfulViews Req] (request : Req) :
        r.AsksOwner ⟨.pullImage, revision, deadline⟩ request
          (r.follow .pullImage ⟨.pullImage, revision, deadline⟩ request :
            Handling PullImageResponse) w past := by
      rw [follow, toPullImage_eq_askFound]
      exact asksOwner_of_finds (fun _ => finds_forImage) (fun _ => silent_notePulled _) fun _ => rfl
    cases revision.schema with
    | legacy => exact pulls Legacy.PullImageRequest
    | current => exact pulls PullImageRequest
  | removeImage =>
    intro request
    rw [follow, toRemoveImage_eq_askFound]
    exact asksOwner_of_finds (fun _ => finds_forImage) (fun _ _ => silent_forgetImage _)
      fun _ => rfl
  | _ => cases hm

/-- A digest is known to be an image of a named runtime, which is away. So there is no status of the
image, and it cannot be removed. It stays known. -/
theorem follow_asksOwner_away :
    let primary : Backend := ⟨.primary, "/run/primary.sock"⟩
    let alt : Backend := ⟨.named ⟨"alt", by decide⟩, "/run/alt.sock"⟩
    let r : Router :=
      ⟨primary, [alt], ⟨"http", none, .plain "", none, none⟩, rfl, by decide, by decide⟩
    let digest := "sha256:0123456789abcdef0123456789abcdef0123456789abcdef0123456789abcdef"
    let past : Journal := [⟨.record digest "alt/busybox", ()⟩]
    let w := World.steady (fun _ => none) fun _ _ => .ok []
    let request : ImageStatusRequest := { image := some ⟨digest⟩ }
    let find := (r.follow .imageStatus ⟨.imageStatus, .v1, none⟩ request :
      Handling ImageStatusResponse).run.play w.recalling past
    let remove := (r.dispatch "/runtime.v1.ImageService/RemoveImage"
      (Message.encode ({ image := some ⟨digest⟩ } : RemoveImageRequest)) none).run.play
        w.recalling past
    find = (.ok Message.blank,
        [⟨.nameOf digest, some "alt/busybox"⟩, ⟨.kick alt, ()⟩, ⟨.connected alt, false⟩]) ∧
      (∀ names : ImageNames, names.after find.2 = names) ∧
      remove.1 = .error (.targetUnavailable "alt") ∧
      ∀ names : ImageNames, names.after remove.2 = names := by
  intro primary alt r digest past w request find remove
  have refused : remove.1 = .error (.targetUnavailable "alt") := by decide +kernel
  have owner : r.ownerOfImage ((ImageNames.empty.after past).lookup (textOf .image request))
      (textOf .image request) = (alt, digest) := by decide +kernel
  have looked : lookedUp w.recalling past (textOf .image request) =
      [⟨.nameOf digest, some "alt/busybox"⟩] := by
    have known : w.recalling past (.nameOf (textOf .image request)) = some "alt/busybox" := by
      decide +kernel
    rw [lookedUp, if_pos (by decide +kernel), known]
    rfl
  obtain ⟨asks, keeps⟩ := r.follow_asksOwner w past
  obtain ⟨-, -, inquires⟩ := asks .imageStatus rfl .v1 none request
  rw [owner] at inquires
  have offline (past : Journal) : w.recalling past (.connected alt) = false := rfl
  have absent := inquires.away rfl (offline _)
  rw [looked] at absent
  have unsent : Journal.sent find.2 = [] := by
    rw [show find = _ from absent]
    rfl
  exact ⟨absent, inquires.unlearnt (.inr unsent), refused, keeps _ _ _ _ refused⟩

end Router

end RuntimeMux
