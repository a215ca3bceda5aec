import RuntimeMux.Proofs.Cri.Neutral
import RuntimeMux.Proofs.Routing.Refusals

/-!
# A runtime on its own

If there is no runtime but the primary one, callers do not notice that there is anything between
them and the runtime. What they ask it for is sent to it once, as they have said it, and what it
answers they get as it has said it. Only the addresses of streams are completed.
-/

namespace RuntimeMux

open Cri Wire

/-! ### Methods -/

/-- Whether the response of a method has the address of a stream. -/
def Method.opensStream : Method → Bool
  | .exec | .attach | .portForward => true
  | _ => false

/-- A type of messages that are read as they were written. -/
def Wire.ReadsBack (M : Type) [Message M] : Prop :=
  ∀ m : M, (Message.encode m).length < UInt64.size → Message.decode (Message.encode m) = .ok m

theorem Wire.Legible.readsBack {M : Type} [Message M] [Legible M] : ReadsBack M :=
  fun m short => decode_eq_ok (Message.spells_encode m) short

/-- Along a route nothing is lost of the messages of a method, except that the address of a stream
may be completed. -/
structure Exchange.Preserves (m : Method) (Req Resp : Type) [Message Req] [Views Req] [Message Resp]
    [Views Resp] [Scoped Resp] (route : Route) : Prop where
  request : ReadsBack Req := by exact Legible.readsBack
  response : ReadsBack Resp := by exact Legible.readsBack
  views : LawfulViews Req := by exact inferInstance
  scope : LawfulScoped Resp := by exact inferInstance
  url : ∀ response : Resp, (Views.slot .url).get? response =
    if m.opensStream then some (Router.textOf .url response) else none := by exact fun _ => rfl
  primary : route = .primary → m.opensStream = false := by nofun
  everyone : route = .everyone → ∀ response : Resp, response = Message.blank := by nofun
  newContainer : route = .newContainer → m = .createContainer := by nofun
  annotations : route = .annotations → m = .runPodSandbox := by nofun

/-- Nothing is lost of the messages of a list. -/
structure Exchange.PreservesList (Req Resp : Type) [Message Req] [Views Req] [Message Resp]
    [Listing Resp] : Prop where
  request : ReadsBack Req := by exact Legible.readsBack
  response : ReadsBack Resp := by exact Legible.readsBack
  views : LawfulViews Req := by exact inferInstance
  listing : LawfulListing Resp := by exact inferInstance

theorem Method.preserves_exchange (m : Method) (s : Schema) :
    match m.exchange s with
    | @Exchange.routed Req Resp _ _ _ _ _ _ _ route => Exchange.Preserves m Req Resp route
    | @Exchange.listed Req Resp _ _ _ _ _ _ => Exchange.PreservesList Req Resp := by
  cases m with
  | version | status => exact { primary := fun _ => rfl }
  | updateRuntimeConfig => exact { everyone := fun _ _ => rfl }
  | createContainer => cases s <;> exact { newContainer := fun _ => rfl }
  | runPodSandbox => cases s <;> exact { annotations := fun _ => rfl }
  | _ => cases s <;> exact {}

/-! ### Worlds in which a runtime is there -/

/-- A runtime is connected whenever it is looked for, and its revision has the schema. -/
structure World.Connects (w : World) (b : Backend) (s : Schema) : Prop where
  await : ∀ past, w past (.await b) = .ok ()
  connected : ∀ past, w past (.connected b) = true
  link : ∀ past, ∃ link, w past (.link b) = some link ∧ link.revision.schema = s

/-- Wherever a runtime is looked for, it is there, and its revision has the schema. -/
structure Journal.Meets (deeds : Journal) (b : Backend) (s : Schema) : Prop where
  connected : ∀ yes, ⟨.connected b, yes⟩ ∈ deeds → yes = true
  link : ∀ link?, ⟨.link b, link?⟩ ∈ deeds → ∃ link, link? = some link ∧ link.revision.schema = s

theorem World.Connects.meets {α : Type} {w : World} {b : Backend} {s : Schema}
    (connects : w.Connects b s) (t : Activity α) (past : Journal) :
    Journal.Meets (t.play w past).2 b s where
  connected yes mem := by
    obtain ⟨before, answered⟩ := t.answer_of_mem_play past _ mem
    exact answered.trans (connects.connected before)
  link link? mem := by
    obtain ⟨before, answered⟩ := t.answer_of_mem_play past _ mem
    obtain ⟨link, found, same⟩ := connects.link before
    exact ⟨link, answered.trans found, same⟩

theorem Journal.Meets.of_append {deeds later : Journal} {b : Backend} {s : Schema}
    (h : Meets (deeds ++ later) b s) : later.Meets b s where
  connected yes mem := h.connected yes (List.mem_append_right _ mem)
  link link? mem := h.link link? (List.mem_append_right _ mem)

/-- A handling ends well, with the same value whatever has been done before. -/
def World.Gives {α : Type} (w : World) (h : Handling α) (x : α) : Prop :=
  ∀ past, (h.run.play w past).1 = .ok x

namespace World.Gives

variable {α β : Type} {w : World}

theorem pure (x : α) : w.Gives (Pure.pure x) x := fun _ => rfl

theorem bind {h : Handling α} {f : α → Handling β} {x : α} {y : β} (first : w.Gives h x)
    (rest : w.Gives (f x) y) : w.Gives (h >>= f) y := by
  intro past
  have ended := first past
  rw [Activity.play_run_bind]
  generalize h.run.play w past = played at ended ⊢
  obtain ⟨result, deeds⟩ := played
  subst ended
  exact rest _

theorem map {h : Handling α} {x : α} (hh : w.Gives h x) (f : α → β) : w.Gives (f <$> h) (f x) := by
  rw [← bind_pure_comp]
  exact hh.bind (.pure _)

theorem tryCatch {h : Handling α} {x : α} (hh : w.Gives h x) (f : Fault → Handling α) :
    w.Gives (MonadExcept.tryCatch h f) x := by
  intro past
  have ended := hh past
  rw [Activity.play_run_tryCatch]
  generalize h.run.play w past = played at ended ⊢
  obtain ⟨result, deeds⟩ := played
  subst ended
  rfl

/-- What it does then depends on the past only. -/
theorem exists_play {h : Handling α} {x : α} (hh : w.Gives h x) (past : Journal) :
    ∃ deeds, h.run.play w past = (.ok x, deeds) :=
  ⟨_, Prod.ext (hh past) rfl⟩

end World.Gives

namespace Router

/-! ### The owner of everything -/

section

variable {r : Router}

theorem ownerOfId_of_alone (alone : r.named = []) (id : String) :
    r.ownerOfId id = (r.primary, id) := by
  rw [ownerOfId, alone]
  rfl

theorem ownerOfName_of_alone (alone : r.named = []) (name : String) :
    r.ownerOfName name = (r.primary, name) := by
  rw [ownerOfName, alone]
  rfl

theorem ownerOfImage_of_alone (alone : r.named = []) (known : Option String) (reference : String) :
    r.ownerOfImage known reference = (r.primary, reference) := by
  rw [ownerOfImage]
  cases known <;> simp [ownerOfName_of_alone alone]

theorem target?_of_alone (alone : r.named = []) {annotations : TextMap}
    (untargeted : annotations.get? targetAnnotation = none) :
    r.target? annotations = some r.primary := by
  simp [target?, backends, alone, r.primary_scope, Scope.isTarget, untargeted]

theorem toList_of_alone (alone : r.named = []) {targets : Targets}
    (only : targets = .all ∨ targets = .one r.primary) : targets.toList r = [r.primary] := by
  rcases only with rfl | rfl
  · simp [Targets.toList, backends, alone]
  · rfl

variable {s : Schema} {w : World}

theorem gives_ready (connects : w.Connects r.primary s) : w.Gives (ready r.primary) () := by
  have primary : r.primary.isPrimary = true := by rw [Backend.isPrimary, r.primary_scope]; rfl
  intro past
  rw [play_ready_primary primary]
  exact connects.await past

theorem gives_forId (alone : r.named = []) (connects : w.Connects r.primary s) (id : String) :
    w.Gives (r.forId id) (r.primary, id) := by
  rw [forId, ownerOfId_of_alone alone]
  exact (gives_ready connects).bind (.pure _)

theorem gives_forImage (alone : r.named = []) (connects : w.Connects r.primary s)
    (reference : String) : w.Gives (r.forImage reference) (r.primary, reference) := by
  have found : w.Gives (ExceptT.lift (r.findImage reference)) (r.primary, reference) := by
    intro past
    obtain ⟨known, owns⟩ := r.play_findImage reference w past
    rw [Activity.play_run_lift, owns, ownerOfImage_of_alone alone]
  exact found.bind ((gives_ready connects).bind (.pure _))

theorem gives_forImage? (alone : r.named = []) (connects : w.Connects r.primary s)
    (reference : String) : w.Gives (r.forImage? reference) (some (r.primary, reference)) :=
  ((gives_forImage alone connects reference).map some).tryCatch _

theorem gives_resolve (alone : r.named = []) (connects : w.Connects r.primary s) (view : View)
    (text : String) : w.Gives (r.resolve view text) (some (r.primary, text)) := by
  cases view with
  | imageFilter => exact gives_forImage? alone connects text
  | podSandboxId | containerId | image | idFilter | podSandboxIdFilter | url =>
    exact (gives_forId alone connects text).map some

end

/-! ### Requests that are aimed at the only runtime -/

section

variable {Req : Type} [Views Req] [LawfulViews Req] {r : Router} {s : Schema} {w : World}

theorem gives_aimBy {find : String → Handling (Option (Backend × String))} {b : Backend}
    (found : ∀ text, w.Gives (find text) (some (b, text))) (view : View) (request : Req) :
    w.Gives (aimBy view find request) (request, .one b) := by
  refine (found _).bind ?_
  simp only [LawfulViews.withText_textOf]
  exact .pure _

/-- A request is aimed at the only runtime as it is. A new container needs an image, and a new pod
sandbox must not be meant for another runtime. -/
theorem gives_aim (alone : r.named = []) (connects : w.Connects r.primary s) {route : Route}
    {request : Req} (imaged : route = .newContainer → textOf .image request ≠ "")
    (untargeted : route = .annotations →
      ((Views.annotations? request).getD .empty).get? targetAnnotation = none) :
    w.Gives (r.aim route request)
      (request, if route = .everyone then .all else .one r.primary) := by
  have awaited : w.Gives (Handling.await r.primary) () := connects.await
  have byId (id : String) := (gives_forId alone connects id).map some
  have byImage (image : String) := (gives_forImage alone connects image).map some
  cases route with
  | primary => exact awaited.bind (.pure _)
  | everyone => exact .pure _
  | annotations =>
    have chosen : w.Gives (r.forAnnotations ((Views.annotations? request).getD .empty))
        r.primary := by
      rw [forAnnotations, target?_of_alone alone (untargeted rfl)]
      exact awaited.bind (.pure _)
    exact chosen.bind (.pure _)
  | newContainer =>
    have admitted : r.admitImage r.primary (textOf .image request) =
        .ok (textOf .image request) := by
      simp [admitImage, imaged rfl, ownerOfName_of_alone alone]
    refine (gives_forId alone connects _).bind ?_
    simp only [admitted, LawfulViews.withText_textOf, ite_self]
    exact .pure _
  | podSandbox => exact gives_aimBy byId _ _
  | container => exact gives_aimBy byId _ _
  | imageStatus => exact gives_aimBy (gives_forImage? alone connects) _ _
  | pullImage => exact gives_aimBy byImage _ _
  | removeImage => exact gives_aimBy byImage _ _

theorem gives_narrowBy (alone : r.named = []) (connects : w.Connects r.primary s) (view : View)
    (request : Req) {targets : Targets} (only : targets = .all ∨ targets = .one r.primary) :
    ∃ next, (next = .all ∨ next = .one r.primary) ∧
      w.Gives (narrowBy view (r.resolve view) (request, targets)) (request, next) := by
  by_cases ht : textOf view request = ""
  · refine ⟨targets, only, fun past => ?_⟩
    rw [play_narrowBy_unset ht]
  · refine ⟨.one r.primary, .inr rfl, fun past => ?_⟩
    obtain ⟨deeds, resolved⟩ :=
      (gives_resolve alone connects view (textOf view request)).exists_play past
    have some : targets ≠ .nothing := by rcases only with rfl | rfl <;> nofun
    have met : targets.meet r.primary = .one r.primary := by
      rcases only with rfl | rfl
      · rfl
      · exact if_pos rfl
    rw [play_narrowBy_set some ht resolved, LawfulViews.withText_textOf, met]

theorem gives_narrowAll (alone : r.named = []) (connects : w.Connects r.primary s)
    (views : List View) (request : Req) {targets : Targets}
    (only : targets = .all ∨ targets = .one r.primary) :
    ∃ last, (last = .all ∨ last = .one r.primary) ∧
      w.Gives (r.narrowAll views (request, targets)) (request, last) := by
  induction views generalizing targets with
  | nil => exact ⟨targets, only, .pure _⟩
  | cons view views ih =>
    obtain ⟨next, still, first⟩ := gives_narrowBy alone connects view request only
    obtain ⟨last, ending, rest⟩ := ih still
    exact ⟨last, ending, first.bind rest⟩

end

end Router

/-! ### The only contact -/

section

variable {Req Resp : Type} [Message Req] {c : Call} {b : Backend} {request : Req} {deeds : Journal}

/-- A request is relayed to a runtime of the caller's schema: it is sent once, as it is, and if the
answer is a response, the call ends as it is to end with the response. -/
structure Relays [Message Resp] (c : Call) (b : Backend) (request : Req) (ends : Resp → Prop)
    (deeds : Journal) : Prop where
  sent : ∃ link : Link, link.revision.schema = c.revision.schema ∧
    Journal.sent deeds =
      [(b, link, ⟨c.method.path link.revision, Message.encode request, c.deadline⟩)]
  answered : ∀ link rpc body response, ⟨.send b link rpc, .ok body⟩ ∈ deeds →
    Message.decode body = .ok response → ends response

theorem Relays.imp [Message Resp] {ends more : Resp → Prop} (h : Relays c b request ends deeds)
    (imp : ∀ response, ends response → more response) : Relays c b request more deeds where
  sent := h.sent
  answered link rpc body response sent read :=
    imp response (h.answered link rpc body response sent read)

variable [Message Resp] [Convertible Req] [Convertible Resp]

/-- A runtime of the caller's schema that is there is called. -/
theorem Contact.Made.relays {x : Contact Resp} (h : x.Made c request deeds)
    (meets : deeds.Meets x.backend c.revision.schema) :
    Relays c x.backend request
      (fun response : Resp => ∃ link, x = ⟨x.backend, true, some link, .ok response⟩) deeds := by
  cases h with
  | passed => cases meets.connected false List.mem_cons_self
  | away =>
    obtain ⟨link, found, -⟩ := meets.of_append.link none List.mem_cons_self
    cases found
  | @called b link result lead called rest early spoken quiet =>
    obtain ⟨_, ⟨⟩, same⟩ := meets.of_append.link (some link) List.mem_cons_self
    cases spoken with
    | @shared answer result later _ settled =>
      have unsent : Journal.sent (later ++ rest) = [] := by
        rw [Journal.sent_append, settled.sent, quiet, List.append_nil]
      constructor
      case sent =>
        refine ⟨link, same, ?_⟩
        rw [Journal.sent_append, early.sent]
        exact congrArg (_ :: ·) unsent
      case answered =>
        intro link' rpc body response mem read
        rcases List.mem_append.1 mem with before | mem
        · simpa [early.sent] using Journal.mem_sent before
        rcases List.mem_cons.1 mem with here | mem
        · cases here
        rcases List.mem_cons.1 mem with here | after
        · cases here
          have message : (Response.message (.ok body) : Except Status Resp) = .ok response := by
            rw [Response.message, read]
          rw [message] at settled
          cases settled
          exact ⟨link, rfl⟩
        · simpa [unsent] using Journal.mem_sent after
    | upgraded caller runtime | incompatible caller runtime =>
      cases runtime.symm.trans (same.trans caller)

variable {r : Router} {aim : Handling (Req × Targets)} {targets : Targets} {w : World}
  {conclude : Targets → List (Contact Resp) → Except Fault Resp} {past : Journal}
  {result : Except Fault Resp}

/-- A request that is aimed at a runtime of the caller's schema that is there is relayed to it. -/
theorem Router.Carried.relays (h : r.Carried c aim conclude w past result deeds)
    (aimed : w.Gives aim (request, targets)) (only : targets.toList r = [b])
    (silent : aim.run.Silent) (meets : deeds.Meets b c.revision.schema) :
    Relays c b request (fun response => ∃ link,
      result = conclude targets [⟨b, true, some link, .ok response⟩]) deeds := by
  obtain ⟨asked, played⟩ := aimed.exists_play past
  have unsent := silent.sent_play (w := w) past
  rw [played] at unsent
  cases h with
  | unaimed ha => cases played.symm.trans ha
  | @aimed given targets asked deeds contacts ha order made =>
    cases played.symm.trans ha
    rw [only] at order
    obtain ⟨x, rfl, rfl⟩ := List.map_eq_singleton_iff.1 order
    cases made with
    | @cons _ _ called _ made rest =>
      cases rest
      rw [List.append_nil] at meets ⊢
      have relayed := made.relays meets.of_append
      constructor
      case sent =>
        rw [Journal.sent_append, unsent, List.nil_append]
        exact relayed.sent
      case answered =>
        intro link rpc body response mem read
        rcases List.mem_append.1 mem with before | mem
        · simpa [unsent] using Journal.mem_sent before
        · obtain ⟨link, hx⟩ := relayed.answered link rpc body response mem read
          exact ⟨link, by rw [← hx]⟩

end

namespace Router

section

variable {Req Resp : Type} [Message Req] [Message Resp] [Views Req] {r : Router} {w : World}
  {c : Call}

/-- A response as callers get it from the only runtime: the address of a stream is completed. -/
def relayed [Views Resp] (r : Router) (m : Method) (response : Resp) : Resp :=
  if m.opensStream then withText .url (Stream.fix r.stream (textOf .url response)) response
  else response

/-- What is concluded of the only contact. -/
theorem concludeRoute_of_preserves [Views Resp] [Scoped Resp] {m : Method} {route : Route}
    (preserves : Exchange.Preserves m Req Resp route) (link : Link) (response : Resp) :
    r.concludeRoute route (if route = .everyone then .all else .one r.primary)
        [⟨r.primary, true, some link, .ok response⟩] = .ok (r.relayed m response) := by
  have presented : r.present r.primary response = r.relayed m response := by
    have := preserves.scope
    simp only [present, relayed, r.primary_scope, LawfulScoped.qualify_primary, preserves.url]
    cases m.opensStream <;> rfl
  cases route with
  | everyone =>
    have empty := preserves.everyone rfl
    exact congrArg Except.ok ((empty _).symm)
  | primary =>
    have same : r.relayed m response = response := by simp [relayed, preserves.primary rfl]
    exact congrArg Except.ok same.symm
  | annotations | podSandbox | container | newContainer | imageStatus | pullImage | removeImage =>
    exact congrArg Except.ok presented

variable [Convertible Req] [Convertible Resp]

variable (Resp) in
theorem follow_relays [Views Resp] [Scoped Resp] {m : Method} {route : Route} (alone : r.named = [])
    (connects : w.Connects r.primary c.revision.schema)
    (preserves : Exchange.Preserves m Req Resp route) {request : Req}
    (imaged : m = .createContainer → textOf .image request ≠ "")
    (untargeted : m = .runPodSandbox →
      ((Views.annotations? request).getD .empty).get? targetAnnotation = none) (past : Journal) :
    let played := (r.follow route c request : Handling Resp).run.play w past
    Relays c r.primary request (fun response => played.1 = .ok (r.relayed m response))
      played.2 := by
  intro played
  have := preserves.views
  have aimed : w.Gives (r.aim route request) (request, _) := gives_aim alone connects
    (fun hr => imaged (preserves.newContainer hr)) (fun hr => untargeted (preserves.annotations hr))
  have targeted : (if route = .everyone then .all else .one r.primary) = Targets.all ∨
      (if route = .everyone then .all else .one r.primary) = Targets.one r.primary := by
    split <;> simp
  have only := toList_of_alone alone targeted
  have carried : r.Carried c (r.aim route request) (r.concludeRoute route) w past played.1
      played.2 := r.carried_follow route c request w past
  refine (carried.relays aimed only (r.silent_aim route request) (connects.meets _ past)).imp ?_
  rintro response ⟨link, ended⟩
  exact ended.trans (concludeRoute_of_preserves preserves link response)

variable (Resp) in
theorem list_relays [Listing Resp] (alone : r.named = [])
    (connects : w.Connects r.primary c.revision.schema)
    (preserves : Exchange.PreservesList Req Resp) (request : Req) (past : Journal) :
    let played := (r.list c request : Handling Resp).run.play w past
    Relays c r.primary request (fun response => played.1 = .ok response) played.2 := by
  have := preserves.views
  have := preserves.listing
  obtain ⟨targets, last, narrowed⟩ :=
    gives_narrowAll alone connects View.filters request (.inl rfl)
  have silent := r.silent_narrowAll View.filters (request, .all)
  rw [← narrow_eq] at narrowed silent
  have carried := carried_list Resp r c request w past
  have only := toList_of_alone alone last
  refine (carried.relays narrowed only silent (connects.meets _ past)).imp ?_
  rintro response ⟨link, ended⟩
  rw [ended]
  simp [concludeList, Contact.gained, itemsOf, r.primary_scope, LawfulListing.setItems_qualify]

end

/-- With a connected runtime of the caller's schema and no other one, callers get what they would
get from the runtime itself: their requests are sent to it once, as they are, and its responses are
theirs. Only the address of a stream is completed. -/
theorem dispatch_relays (r : Router) (alone : r.named = []) (path : String) (revision : Revision)
    (m : Method) (found : Method.find? path = some (revision, m)) (body : Bytes)
    (deadline : Option Span) (w : World) (connects : w.Connects r.primary revision.schema)
    (past : Journal) :
    let c : Call := ⟨m, revision, deadline⟩
    let played := (r.dispatch path body deadline).run.play w past
    match m.exchange revision.schema with
    | @Exchange.routed Req Resp _ _ _ _ _ _ _ _ =>
      ReadsBack Req ∧ ReadsBack Resp ∧ ∀ request : Req, Message.decode body = .ok request →
        (m = .createContainer → textOf .image request ≠ "") →
        (m = .runPodSandbox →
          ((Views.annotations? request).getD .empty).get? targetAnnotation = none) →
        Relays c r.primary request
          (fun response : Resp => played.1 = .ok (Message.encode (r.relayed m response))) played.2
    | @Exchange.listed Req Resp _ _ _ _ _ _ =>
      ReadsBack Req ∧ ReadsBack Resp ∧ ∀ request : Req, Message.decode body = .ok request →
        Relays c r.primary request
          (fun response : Resp => played.1 = .ok (Message.encode response)) played.2 := by
  intro c played
  have handled : played = ((m.exchange revision.schema).handle r c body).run.play w past := by
    simp only [played, dispatch, found]
    rfl
  rw [handled]
  clear handled played
  have preserves := m.preserves_exchange revision.schema
  revert preserves
  cases m.exchange revision.schema with
  | @routed Req Resp _ _ _ _ _ _ _ route =>
    intro preserves
    refine ⟨preserves.request, preserves.response, fun request read imaged untargeted => ?_⟩
    have relays := follow_relays Resp (c := c) alone connects preserves imaged untargeted past
    rw [Exchange.handle_routed, readRequest, read]
    simp only [Except.mapError, ExceptT.run_map, Activity.play_map]
    refine relays.imp fun response ended => ?_
    rw [ended]
    rfl
  | @listed Req Resp =>
    intro preserves
    refine ⟨preserves.request, preserves.response, fun request read => ?_⟩
    have relays := list_relays Resp (c := c) alone connects preserves request past
    rw [Exchange.handle_listed, readRequest, read]
    simp only [Except.mapError, ExceptT.run_map, Activity.play_map]
    refine relays.imp fun response ended => ?_
    rw [ended]
    rfl

/-- A container has an id that looks like one of another runtime. The address of the stream is
completed. -/
theorem dispatch_relays_exec :
    let primary : Backend := ⟨.primary, "/run/primary.sock"⟩
    let stream : Url := ⟨"http", some ⟨"", some (.name "node"), none⟩, .segments [""], none, none⟩
    let r : Router := ⟨primary, [], stream, rfl, by decide, by decide⟩
    let w := World.steady (fun _ => some ⟨.v1, 1⟩)
      fun _ _ => .ok (Message.encode (⟨"/exec/x"⟩ : ExecResponse))
    let path := "/runtime.v1.RuntimeService/Exec"
    let request : ExecRequest := { containerId := "alt__c1", cmd := ["sh"] }
    let played := (r.dispatch path (Message.encode request) none).run.play w []
    r.named = [] ∧ Method.find? path = some (.v1, .exec) ∧ w.Connects primary .current ∧
      Journal.sent played.2 = [(primary, ⟨.v1, 1⟩, ⟨path, Message.encode request, none⟩)] ∧
      played.1 = .ok (Message.encode (⟨"http://node/exec/x"⟩ : ExecResponse)) := by
  intro primary stream r w path request played
  have connects : w.Connects primary .current := ⟨fun _ => rfl, fun _ => rfl, fun _ => ⟨_, rfl, rfl⟩⟩
  have found : Method.find? path = some (.v1, .exec) := by decide +kernel
  have calls : Journal.sent played.2 =
      [(primary, ⟨.v1, 1⟩, ⟨path, Message.encode request, none⟩)] := by decide +kernel
  obtain ⟨reads, answers, relays⟩ :=
    r.dispatch_relays rfl path .v1 .exec found (Message.encode request) none w connects []
  have relayed := relays request (reads request (by decide +kernel)) nofun nofun
  obtain ⟨before, sent⟩ := Activity.mem_play_of_sent _ (calls ▸ List.mem_singleton_self _)
  have ended := relayed.answered _ _ _ _ sent (answers ⟨"/exec/x"⟩ (by decide +kernel))
  exact ⟨rfl, found, connects, calls, ended.trans (by decide +kernel)⟩

end Router

end RuntimeMux
