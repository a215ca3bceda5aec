import RuntimeMux.Dispatch
import RuntimeMux.Proofs.Routing.Contacts
import RuntimeMux.Proofs.Routing.LearntOwners

/-!
# Calls that are refused

A call may be refused at any of its steps: its method is not known, its request cannot be read,
there is no runtime for it, or the runtime is away, or does not understand it. All of these come
before anything is sent, so a call that is refused has had no effect. And what has been sent is not
sent again, nor to another runtime: apart from the methods that ask all runtimes, a call is sent
once at most. Names of images are learnt last, when nothing can go wrong any more.
-/

namespace RuntimeMux

open Cri Wire

/-- Whether a fault says that a call is refused: there is no way to call a runtime with it. -/
def Fault.isRefusal : Fault → Bool
  | .unknownMethod _ | .decode _ | .unknownRuntime _ | .wrongRuntime _ | .noImage
  | .targetUnavailable _ | .notConnected _ | .connect _ | .connectTimeout _ _
  | .incompatibleRevision _ _ => true
  | .config _ | .transport _ | .system _ | .staleConnection _ | .rpc _ _ | .backend _ _
  | .broadcast _ => false

/-- Whether the calls of a method go to all runtimes: it asks for a list, or updates the
configuration of the runtimes. -/
def Method.asksAll : Method → Bool
  | .updateRuntimeConfig | .listPodSandbox | .listContainers | .listContainerStats | .listImages
  | .imageFsInfo => true
  | _ => false

/-- The other methods go along a route to one runtime. -/
theorem Method.route?_exchange {m : Method} (hm : m.asksAll = false) (s : Schema) :
    ∃ route, (m.exchange s).route? = some route ∧ route ≠ .everyone := by
  cases m with
  | updateRuntimeConfig | listPodSandbox | listContainers | listContainerStats | listImages
  | imageFsInfo => cases hm
  | _ => cases s <;> exact ⟨_, rfl, nofun⟩

variable {Req Resp : Type} {c : Call} {given request : Req} {deeds : Journal} {w : World}
  {past : Journal}

/-! ### Contacts -/

namespace Call

variable {b : Backend} {link : Link} {result : Except Fault Resp}

theorem Settled.sent {read : Except Status Resp} (h : Settled b link read result deeds) :
    Journal.sent deeds = [] := by
  cases h <;> rfl

/-- A call that has been sent is not refused any more. -/
theorem Settled.isRefusal_eq_false {read : Except Status Resp} {fault : Fault}
    (h : Settled b link read result deeds)
    (failed : result.mapError (Fault.report b.address) = .error fault) :
    fault.isRefusal = false := by
  cases h <;> cases failed <;> rfl

variable [Message Req] [Message Resp] [Convertible Req] [Convertible Resp]

theorem Spoken.length_sent_le (h : c.Spoken b link given result deeds) :
    (Journal.sent deeds).length ≤ 1 := by
  cases h with
  | shared _ settled | upgraded _ _ settled =>
    exact Nat.succ_le_succ (congrArg List.length settled.sent).le
  | incompatible => exact Nat.zero_le _

theorem Spoken.sent_of_isRefusal {fault : Fault} (h : c.Spoken b link given result deeds)
    (failed : result.mapError (Fault.report b.address) = .error fault)
    (refusal : fault.isRefusal = true) : Journal.sent deeds = [] := by
  cases h with
  | shared _ settled | upgraded _ _ settled =>
    cases refusal.symm.trans (settled.isRefusal_eq_false failed)
  | incompatible => rfl

end Call

section

variable [Message Req] [Message Resp] [Convertible Req] [Convertible Resp]

namespace Contact.Made

variable {x : Contact Resp}

/-- Of all that is done for a contact, only the call on a link that is found is sent. -/
theorem sent_cases (h : x.Made c given deeds) :
    Journal.sent deeds = [] ∨ ∃ link called, c.Spoken x.backend link given x.result called ∧
      Journal.sent deeds = Journal.sent called := by
  cases h with
  | passed quiet => exact .inl quiet
  | away early quiet =>
    left
    rw [Journal.sent_append, early.sent]
    exact quiet
  | @called b link result lead called rest early spoken quiet =>
    right
    refine ⟨link, called, spoken, ?_⟩
    rw [Journal.sent_append, early.sent]
    change Journal.sent (called ++ rest) = _
    rw [Journal.sent_append, quiet, List.append_nil]

theorem length_sent_le (h : x.Made c given deeds) : (Journal.sent deeds).length ≤ 1 := by
  rcases h.sent_cases with silent | ⟨link, called, spoken, sent⟩
  · exact (congrArg List.length silent).trans_le (Nat.zero_le 1)
  · rw [sent]
    exact spoken.length_sent_le

theorem sent_of_isRefusal {fault : Fault} (h : x.Made c given deeds)
    (failed : x.reported = .error fault) (refusal : fault.isRefusal = true) :
    Journal.sent deeds = [] := by
  rcases h.sent_cases with silent | ⟨link, called, spoken, sent⟩
  · exact silent
  · rw [sent]
    exact spoken.sent_of_isRefusal failed refusal

end Contact.Made

/-- Every runtime that is contacted is called once at most. -/
theorem Contacts.length_sent_le {xs : List (Contact Resp)} (h : Contacts c given xs deeds) :
    (Journal.sent deeds).length ≤ xs.length := by
  induction h with
  | nil => exact Nat.le_refl _
  | cons made _ ih =>
    have := made.length_sent_le
    simp only [Journal.sent_append, List.length_append, List.length_cons]
    omega

end

namespace Router

variable {r : Router} {route : Route} {targets : Targets} {fault : Fault}

/-! ### Targets -/

section

variable [Views Req]

theorem ne_all_of_play_aimBy {view : View}
    {find : String → Handling (Option (Backend × String))}
    (played : (aimBy view find request).run.play w past = (.ok (given, targets), deeds)) :
    targets ≠ .all := by
  obtain ⟨owner?, _, _, -, ended, -⟩ := Activity.play_run_bind_eq_ok played
  rcases owner? with _ | ⟨b, own⟩ <;> cases ended <;> nofun

/-- Only a broadcast is aimed at all runtimes. -/
theorem ne_all_of_play_aim (hr : route ≠ .everyone)
    (played : (r.aim route request).run.play w past = (.ok (given, targets), deeds)) :
    targets ≠ .all := by
  cases route with
  | everyone => exact absurd rfl hr
  | primary | annotations =>
    obtain ⟨_, _, _, -, ended, -⟩ := Activity.play_run_bind_eq_ok played
    cases ended
    nofun
  | newContainer =>
    obtain ⟨⟨b, own⟩, _, _, -, ended, -⟩ := Activity.play_run_bind_eq_ok played
    dsimp only at ended
    split at ended
    · cases ended
    · cases ended
      nofun
  | podSandbox | container | imageStatus | pullImage | removeImage =>
    rw [aim] at played
    exact ne_all_of_play_aimBy played

end

theorem length_toList_le_one (r : Router) (h : targets ≠ .all) : (targets.toList r).length ≤ 1 := by
  cases targets with
  | all => exact absurd rfl h
  | one b => exact Nat.le_refl 1
  | nothing => exact Nat.zero_le 1

/-! ### Names of images -/

theorem within_map {α β : Type} {allowed : Act → Prop} {h : Handling α}
    (hh : h.run.Within allowed) (f : α → β) : (f <$> h).run.Within allowed := by
  rw [← bind_pure_comp]
  exact .run_bind hh fun _ => trivial

theorem within_await (b : Backend) : (Handling.await b).run.Within ImageNames.Idle :=
  Activity.within_once fun _ => rfl

theorem within_forId (r : Router) (id : String) : (r.forId id).run.Within ImageNames.Idle :=
  .run_bind ((within_ready _).imp fun _ => ImageNames.idle_of_backend) fun _ => trivial

section

variable [Views Req]

theorem within_aimBy {find : String → Handling (Option (Backend × String))}
    (idle : ∀ text, (find text).run.Within ImageNames.Idle) (view : View) (request : Req) :
    (aimBy view find request).run.Within ImageNames.Idle := by
  refine .run_bind (idle _) fun owner? => ?_
  split <;> trivial

/-- To aim a request teaches nothing about images. -/
theorem within_aim (r : Router) (route : Route) (request : Req) :
    (r.aim route request).run.Within ImageNames.Idle := by
  have byId (id : String) := within_map (r.within_forId id) some
  have byImage (image : String) := within_map (r.within_forImage image) some
  cases route with
  | primary => exact .run_bind (within_await _) fun _ => trivial
  | everyone => trivial
  | annotations =>
    refine .run_bind ?_ fun _ => trivial
    rw [forAnnotations]
    split
    · trivial
    · exact .run_bind (within_await _) fun _ => trivial
  | newContainer =>
    refine .run_bind (r.within_forId _) fun owner => ?_
    dsimp only
    split <;> trivial
  | podSandbox | container => exact within_aimBy byId _ _
  | imageStatus => exact within_aimBy r.within_forImage? _ _
  | pullImage | removeImage => exact within_aimBy byImage _ _

theorem within_resolve (r : Router) (view : View) (text : String) :
    (r.resolve view text).run.Within ImageNames.Idle := by
  cases view with
  | imageFilter => exact r.within_forImage? text
  | podSandboxId | containerId | image | idFilter | podSandboxIdFilter | url =>
    exact within_map (r.within_forId text) some

theorem within_narrowAll (r : Router) (views : List View) (narrowed : Req × Targets) :
    (r.narrowAll views narrowed).run.Within ImageNames.Idle := by
  induction views generalizing narrowed with
  | nil => trivial
  | cons view views ih =>
    refine .run_bind ?_ ih
    obtain ⟨m, targets⟩ := narrowed
    cases targets with
    | nothing => trivial
    | all | one =>
      simp only [narrowBy]
      split
      · trivial
      · refine .run_bind (r.within_resolve view _) fun found => ?_
        split <;> trivial

end

section

variable [Message Req] [Message Resp] [Convertible Req] [Convertible Resp]

theorem within_notice_idle (b : Backend) (fault : Fault) :
    (Call.notice b fault).Within ImageNames.Idle :=
  (Call.within_notice b fault).imp fun _ => ImageNames.idle_of_backend

/-- A round of calls teaches nothing about images. -/
theorem within_callEach {α : Type} (c : Call) (request : Req)
    (gain : Backend → Except Fault Resp → List α) (bs : List Backend) :
    (callEach c request gain bs).Within ImageNames.Idle := by
  induction bs with
  | nil => trivial
  | cons b bs ih =>
    refine .bind (Activity.within_once (a := .connected b) fun _ => rfl) fun yes => ?_
    cases yes with
    | false => exact .bind (Activity.within_once (a := .kick b) fun _ => rfl) fun _ => ih
    | true =>
      have idle : (c.attempt b request : Handling Resp).run.Within ImageNames.Idle :=
        (Call.within_attempt c b request).imp fun _ => ImageNames.idle_of_backend
      refine .bind idle fun result => ?_
      cases result with
      | ok response => exact .bind ih fun _ => trivial
      | error fault => exact .bind (within_notice_idle b fault) fun _ => .bind ih fun _ => trivial

end

/-! ### What is left behind -/

/-- What is left behind by a call that ends with a fault: nothing is learnt from it, and if it is
refused, nothing has been sent. -/
structure Refuses {α : Type} (played : Except Fault α × Journal) : Prop where
  unsent : ∀ fault, played.1 = .error fault → fault.isRefusal = true → Journal.sent played.2 = []
  unlearnt : ∀ fault, played.1 = .error fault → ∀ names : ImageNames,
    names.after played.2 = names

theorem Refuses.of_nothing {α : Type} (result : Except Fault α) : Refuses (result, []) :=
  ⟨fun _ _ _ => rfl, fun _ _ _ => rfl⟩

theorem Refuses.map {α β : Type} {result : Except Fault α} (h : Refuses (result, deeds))
    (f : α → β) : Refuses (result.map f, deeds) := by
  cases result with
  | error fault => exact ⟨fun _ => by rintro ⟨⟩; exact h.unsent fault rfl,
      fun _ _ => h.unlearnt fault rfl⟩
  | ok x => exact ⟨nofun, nofun⟩

variable [Message Req] [Message Resp] [Convertible Req] [Convertible Resp]

section

variable [Views Resp] [Scoped Resp]

/-- A route ends with a refusal only if the runtime that has been contacted has not been called. -/
theorem sent_of_concludeRoute {contacts : List (Contact Resp)}
    (order : contacts.map Contact.backend = targets.toList r)
    (made : Contacts c given contacts deeds)
    (failed : r.concludeRoute route targets contacts = .error fault)
    (refusal : fault.isRefusal = true) : Journal.sent deeds = [] := by
  cases targets with
  | all =>
    simp only [concludeRoute] at failed
    split at failed
    · cases failed
    · cases failed
      cases refusal
  | one b =>
    cases made with
    | nil => rfl
    | @cons x xs deeds later made rest =>
      obtain ⟨-, none⟩ : x.backend = b ∧ xs = [] := by simpa [Targets.toList] using order
      subst none
      cases rest
      have reported : x.reported = .error fault := by
        cases hx : x.reported with
        | ok response => simp [concludeRoute, hx, Except.map] at failed
        | error other => simpa [concludeRoute, hx, Except.map] using failed
      rw [List.append_nil]
      exact made.sent_of_isRefusal reported refusal
  | nothing => cases failed

section

variable [Views Req] {result : Except Fault Resp}

theorem Carried.sent_of_isRefusal
    (h : r.Carried c (r.aim route request) (r.concludeRoute route) w past result deeds)
    (failed : result = .error fault) (refusal : fault.isRefusal = true) :
    Journal.sent deeds = [] := by
  have silent := (r.silent_aim route request).sent_play (w := w) past
  cases h with
  | unaimed ha => rwa [ha] at silent
  | aimed ha order made =>
    rw [ha] at silent
    rw [Journal.sent_append, silent, List.nil_append]
    exact sent_of_concludeRoute order made failed refusal

theorem Carried.length_sent_le (hr : route ≠ .everyone)
    (h : r.Carried c (r.aim route request) (r.concludeRoute route) w past result deeds) :
    (Journal.sent deeds).length ≤ 1 := by
  have silent := (r.silent_aim route request).sent_play (w := w) past
  cases h with
  | unaimed ha =>
    rw [ha] at silent
    exact (congrArg List.length silent).trans_le (Nat.zero_le 1)
  | aimed ha order made =>
    have targeted := r.length_toList_le_one (ne_all_of_play_aim hr ha)
    rw [← order, List.length_map] at targeted
    rw [ha] at silent
    rw [Journal.sent_append, silent, List.nil_append]
    exact made.length_sent_le.trans targeted

end

/-- What has been aimed fails before anything is noted. -/
theorem after_of_play_reach {image : String}
    (failed : (r.reach route c image given targets : Handling Resp).run.play w past =
      (.error fault, deeds)) (names : ImageNames) : names.after deeds = names := by
  have idle {t : Activity (Except Fault Resp)} (within : t.Within ImageNames.Idle)
      (played : t.play w past = (.error fault, deeds)) : names.after deeds = names := by
    have untaught := within.act_mem_play w past
    rw [played] at untaught
    exact ImageNames.after_eq_self untaught
  cases targets with
  | all =>
    refine idle (.run_bind (within_callEach c given _ r.backends).run_lift fun failures => ?_) failed
    split <;> trivial
  | one b =>
    apply idle (within_invoke_idle c b given)
    rw [reach, Activity.play_run_bind] at failed
    generalize (c.invoke b given : Handling Resp).run.play w past = called at failed ⊢
    obtain ⟨other | response, called⟩ := called
    · exact failed
    · simp only [Activity.play_run_bind, Activity.play_run_lift] at failed
      cases congrArg Prod.fst failed
  | nothing => cases congrArg Prod.fst failed

/-- How a request along a route is refused. -/
theorem follow_refuses [Views Req] (r : Router) (route : Route) (c : Call) (request : Req)
    (w : World) (past : Journal) :
    Refuses ((r.follow route c request : Handling Resp).run.play w past) := by
  constructor
  case unsent =>
    intro fault failed refusal
    exact (r.carried_follow route c request w past).sent_of_isRefusal failed refusal
  case unlearnt =>
    intro fault failed names
    have untaught := (r.within_aim route request).act_mem_play w past
    rw [follow_eq, Activity.play_run_bind] at failed ⊢
    generalize (r.aim route request).run.play w past = aimed at failed untaught ⊢
    obtain ⟨other | ⟨given, targets⟩, asked⟩ := aimed
    · exact ImageNames.after_eq_self untaught
    · simp only [ImageNames.after_append, ImageNames.after_eq_self untaught]
      exact after_of_play_reach (Prod.ext failed rfl) names

end

/-- How a list is refused: it cannot be narrowed. Later it never fails. -/
theorem list_refuses [Views Req] [Listing Resp] (r : Router) (c : Call) (request : Req) (w : World)
    (past : Journal) :
    Refuses ((r.list c request : Handling Resp).run.play w past) := by
  constructor
  case unsent =>
    have silent := (r.silent_narrowAll View.filters (request, .all)).sent_play (w := w) past
    rw [← narrow_eq] at silent
    cases hn : (r.narrow request).run.play w past with
    | mk result asked =>
      rcases result with other | narrowed
      · rw [hn] at silent
        rw [play_list_error Resp c hn]
        exact fun _ _ _ => silent
      · rw [play_list Resp c hn]
        nofun
  case unlearnt =>
    have within : (r.list c request : Handling Resp).run.Within ImageNames.Idle := by
      rw [list, narrow_eq]
      refine .run_bind (r.within_narrowAll _ _) fun narrowed => ?_
      exact .run_bind (within_callEach c narrowed.1 _ _).run_lift fun _ => trivial
    exact fun _ _ _ => ImageNames.after_eq_self (within.act_mem_play w past)

end Router

/-! ### Dispatched calls -/

namespace Exchange

section

variable [Message Req] [Message Resp] [Convertible Req] [Convertible Resp]

/-- A request that can be read goes along the route, and the response is written. -/
theorem handle_routed [Views Req] [Views Resp] [Scoped Resp] (route : Route) (r : Router)
    (c : Call) (body : Bytes) :
    (routed Req Resp route).handle r c body =
      match readRequest Req body with
      | .error fault => throw fault
      | .ok request => Message.encode <$> (r.follow route c request : Handling Resp) := by
  simp only [handle, bind_pure_comp]
  cases readRequest Req body <;> rfl

/-- A request that can be read asks for the list, and the response is written. -/
theorem handle_listed [Views Req] [Listing Resp] (r : Router) (c : Call) (body : Bytes) :
    (listed Req Resp).handle r c body =
      match readRequest Req body with
      | .error fault => throw fault
      | .ok request => Message.encode <$> (r.list c request : Handling Resp) := by
  simp only [handle, bind_pure_comp]
  cases readRequest Req body <;> rfl

end

/-- How an exchange is refused. -/
theorem handle_refuses (e : Exchange) (r : Router) (c : Call) (body : Bytes) (w : World)
    (past : Journal) : Router.Refuses ((e.handle r c body).run.play w past) := by
  cases e with
  | @routed Req Resp _ _ _ _ _ _ _ route =>
    rw [handle_routed]
    cases readRequest Req body with
    | error fault => exact .of_nothing _
    | ok request =>
      rw [ExceptT.run_map, Activity.play_map]
      exact (r.follow_refuses route c request w past).map Message.encode
  | @listed Req Resp =>
    rw [handle_listed]
    cases readRequest Req body with
    | error fault => exact .of_nothing _
    | ok request =>
      rw [ExceptT.run_map, Activity.play_map]
      exact (r.list_refuses c request w past).map Message.encode

/-- A call of an exchange along a route to one runtime is sent once at most. -/
theorem length_sent_handle_le {e : Exchange} {route : Route} (he : e.route? = some route)
    (hr : route ≠ .everyone) (r : Router) (c : Call) (body : Bytes) (w : World) (past : Journal) :
    (Journal.sent ((e.handle r c body).run.play w past).2).length ≤ 1 := by
  cases e with
  | @routed Req Resp _ _ _ _ _ _ _ way =>
    obtain rfl : way = route := Option.some.inj he
    rw [handle_routed]
    cases readRequest Req body with
    | error fault => exact Nat.zero_le 1
    | ok request =>
      rw [ExceptT.run_map, Activity.play_map]
      exact (r.carried_follow way c request w past).length_sent_le hr
  | listed => cases he

end Exchange

namespace Router

/-- A call that is refused has not been sent, and a call that ends with a fault has not changed the
names of images. Unless its method asks all runtimes, a call is sent once at most, whatever it ends
with. -/
theorem dispatch_refuses (r : Router) (path : String) (body : Bytes) (deadline : Option Span)
    (w : World) (past : Journal) :
    let played := (r.dispatch path body deadline).run.play w past
    Refuses played ∧
    ∀ revision m, Method.find? path = some (revision, m) → m.asksAll = false →
      (Journal.sent played.2).length ≤ 1 := by
  cases hf : Method.find? path with
  | none =>
    have unknown : r.dispatch path body deadline = throw (.unknownMethod path) := by
      rw [dispatch, hf]
    rw [unknown]
    exact ⟨.of_nothing _, nofun⟩
  | some found =>
    obtain ⟨revision, m⟩ := found
    have handled : r.dispatch path body deadline =
        (m.exchange revision.schema).handle r ⟨m, revision, deadline⟩ body := by
      rw [dispatch, hf]
    rw [handled]
    refine ⟨(m.exchange revision.schema).handle_refuses r _ body w past, ?_⟩
    rintro _ _ ⟨⟩ one
    obtain ⟨route, he, hr⟩ := Method.route?_exchange one revision.schema
    exact Exchange.length_sent_handle_le he hr r _ body w past

/-- A container is refused because of its image, when its runtime has been asked for the connection
already. -/
theorem dispatch_refuses_image :
    let primary : Backend := ⟨.primary, "/run/primary.sock"⟩
    let alt : Backend := ⟨.named ⟨"alt", by decide⟩, "/run/alt.sock"⟩
    let r : Router :=
      ⟨primary, [alt], ⟨"http", none, .plain "", none, none⟩, rfl, by decide, by decide⟩
    let w := World.steady (fun _ => some ⟨.v1, 1⟩) fun _ _ => .ok []
    let request : CreateContainerRequest := ⟨"alt__p1", some { image := some ⟨"busybox"⟩ }, none⟩
    let path := "/runtime.v1.RuntimeService/CreateContainer"
    let played := (r.dispatch path (Message.encode request) none).run.play w []
    played.1 = .error (.wrongRuntime "busybox") ∧ Journal.kicked played.2 = [alt] ∧
      Journal.sent played.2 = [] ∧ ∀ names : ImageNames, names.after played.2 = names := by
  intro primary alt r w request path played
  have refused : played.1 = .error (.wrongRuntime "busybox") := by decide +kernel
  have refuses := (r.dispatch_refuses path (Message.encode request) none w []).1
  exact ⟨refused, by decide +kernel, refuses.unsent _ refused rfl, refuses.unlearnt _ refused⟩

end Router

end RuntimeMux
