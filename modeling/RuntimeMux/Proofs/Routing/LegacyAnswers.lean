import RuntimeMux.Proofs.Cri.NewerFields
import RuntimeMux.Proofs.Routing.Refusals

/-!
# What callers of the legacy schema get

Whatever runtimes answer, a caller of the legacy schema gets responses in the layout of its own schema.
The newer fields of a status of a pod sandbox, of statistics and of filesystems are gone when the
response is downgraded, and the other responses have none. A list of pod sandboxes is the exception: it
has all the runtime handlers that the runtimes have told, and is in the legacy layout if they have told
none.
-/

namespace RuntimeMux

open Cri Wire

/-! ### Lists -/

/-- The runtime handlers of the pod sandboxes that a runtime lists in an answer. -/
def Deed.runtimeHandlers : Deed → List String
  | ⟨.send _ _ _, .ok body⟩ =>
    match (Message.decode body : Except Failure ListPodSandboxResponse) with
    | .ok response => response.items.map (·.runtimeHandler)
    | .error _ => []
  | _ => []

/-- Callers see the handlers that a runtime has told. -/
theorem Deed.map_runtimeHandler_items (c : Call) (d : Deed) :
    (d.items c ListPodSandboxResponse).map PodSandbox.runtimeHandler = d.runtimeHandlers := by
  obtain ⟨act, answer⟩ := d
  cases act with
  | send b link rpc =>
    have read : c.reading ListPodSandboxResponse link answer = Response.message answer :=
      c.reading_unconverted link answer
    simp only [items, read]
    cases answer with
    | error status => rfl
    | ok body =>
      simp only [Response.message, runtimeHandlers]
      cases (Message.decode body : Except Failure ListPodSandboxResponse) with
      | error failure => rfl
      | ok response => exact List.map_map
  | _ => rfl

/-- They see the handlers of all answers, in order. -/
theorem Deed.map_runtimeHandler_gathered (c : Call) (deeds : Journal) :
    let gathered := deeds.flatMap (items c ListPodSandboxResponse)
    let response : ListPodSandboxResponse := Listing.setItems gathered Message.blank
    response.items.map (·.runtimeHandler) = deeds.flatMap runtimeHandlers := by
  intro gathered response
  show gathered.map PodSandbox.runtimeHandler = _
  rw [List.map_flatMap]
  simp only [map_runtimeHandler_items]

section

variable {Req Resp : Type} [Message Req] [Views Req] [Convertible Req] [Message Resp]
  [Convertible Resp] [Listing Resp] {c : Call} {request : Req} {deeds : Journal}

theorem flatMap_items_of_unsent (unsent : Journal.sent deeds = []) :
    deeds.flatMap (Deed.items c Resp) = [] := by
  rw [List.flatMap_eq_nil_iff]
  rintro ⟨act, answer⟩ mem
  cases act with
  | send b link rpc =>
    have sent := Journal.mem_sent mem
    rw [unsent] at sent
    cases sent
  | _ => rfl

/-- A list that a caller gets is that of all answers. -/
theorem Router.eq_of_play_list {r : Router} {w : World} {past : Journal} {response : Resp}
    (played : (r.list c request).run.play w past = (.ok response, deeds)) :
    response = Listing.setItems (deeds.flatMap (Deed.items c Resp)) Message.blank := by
  have silent := (r.silent_narrowAll View.filters (request, .all)).sent_play (w := w) past
  rw [← narrow_eq] at silent
  cases hn : (r.narrow request).run.play w past with
  | mk result asked =>
    rcases result with fault | ⟨narrowed, targets⟩
    · rw [play_list_error Resp c hn] at played
      cases played
    · rw [hn] at silent
      rw [play_list Resp c hn] at played
      have gathered : Gathered c narrowed Resp (targets.toList r) _ _ :=
        .of_play c narrowed (targets.toList r) w (past ++ asked)
      cases played
      rw [List.flatMap_append, flatMap_items_of_unsent silent, List.nil_append, ← gathered.items]

end

/-! ### Responses -/

namespace Exchange

/-- Bytes are those of a response of an exchange that leaves out the fields with certain names. -/
def WritesWithout (names : List String) (e : Exchange) (bytes : Bytes) : Prop :=
  match e with
  | @routed _ Resp _ _ _ _ _ _ _ _ | @listed _ Resp _ _ _ _ _ _ =>
    ∃ response : Resp, bytes = Message.encode response ∧ Message.Omits names response

variable {r : Router} {c : Call} {body bytes : Bytes} {w : World} {past deeds : Journal}

/-- Bytes that a request is answered with are written from a response to it. -/
theorem exists_of_play_encode {Req Resp : Type} [Message Req] [Message Resp]
    {answer : Req → Handling Resp}
    (played : (match readRequest Req body with
      | .error fault => throw fault
      | .ok request => Message.encode <$> answer request : Handling Bytes).run.play w past =
        (.ok bytes, deeds)) :
    ∃ request response, (answer request).run.play w past = (.ok response, deeds) ∧
      bytes = Message.encode response := by
  cases hr : readRequest Req body with
  | error fault =>
    rw [hr] at played
    cases played
  | ok request =>
    rw [hr, ExceptT.run_map, Activity.play_map] at played
    obtain ⟨ended, rfl⟩ := Prod.mk.inj played
    obtain ⟨response, answered, rfl⟩ := map_eq_ok_iff.1 ended
    exact ⟨request, response, Prod.ext answered rfl, rfl⟩

/-- What a caller gets who asks for a list is written from the items of all answers. -/
theorem written_of_play_listed {Req Resp : Type} [Message Req] [Views Req] [Convertible Req]
    [Message Resp] [Convertible Resp] [Listing Resp]
    (played : ((listed Req Resp).handle r c body).run.play w past = (.ok bytes, deeds)) :
    bytes = Message.encode
      (Listing.setItems (deeds.flatMap (Deed.items c Resp)) Message.blank : Resp) := by
  rw [handle_listed] at played
  obtain ⟨request, response, answered, rfl⟩ := exists_of_play_encode played
  rw [Router.eq_of_play_list answered]

/-- If all responses of an exchange leave fields out, so does what a caller gets. -/
theorem Omits.writesWithout {names : List String} {e : Exchange} (omits : e.Omits names)
    (played : (e.handle r c body).run.play w past = (.ok bytes, deeds)) :
    e.WritesWithout names bytes := by
  cases e with
  | routed =>
    rw [handle_routed] at played
    obtain ⟨request, response, -, written⟩ := exists_of_play_encode played
    exact ⟨response, written, omits response⟩
  | listed => exact ⟨_, written_of_play_listed played, omits _⟩

end Exchange

namespace Router

/-- A caller of the legacy schema gets a response without the fields that exist in the current schema
only. A list of pod sandboxes has the runtime handlers of all answers, in order, and no other such
field; without handlers in the answers it has none. -/
theorem dispatch_legacyLayout (r : Router) (path : String) (body : Bytes) (deadline : Option Span)
    (w : World) (past : Journal) {revision : Revision} {m : Method}
    (found : Method.find? path = some (revision, m)) (legacy : revision.schema = .legacy)
    {bytes : Bytes} {deeds : Journal}
    (played : (r.dispatch path body deadline).run.play w past = (.ok bytes, deeds)) :
    match m with
    | .listPodSandbox =>
      ∃ response : ListPodSandboxResponse, bytes = Message.encode response ∧
        response.items.map (·.runtimeHandler) = deeds.flatMap Deed.runtimeHandlers ∧
        Message.Omits (newerFields.erase "runtime_handler") response ∧
        ((∀ handler ∈ deeds.flatMap Deed.runtimeHandlers, handler = "") →
          Message.Omits newerFields response)
    | m => (m.exchange .legacy).WritesWithout newerFields bytes := by
  have handled : r.dispatch path body deadline =
      (m.exchange .legacy).handle r ⟨m, revision, deadline⟩ body := by
    rw [dispatch, found, ← legacy]
  rw [handled] at played
  by_cases list : m = .listPodSandbox
  · subst list
    have listed : ((Exchange.listed ListPodSandboxRequest ListPodSandboxResponse).handle r
      ⟨.listPodSandbox, revision, deadline⟩ body).run.play w past = (.ok bytes, deeds) := played
    have handlers := Deed.map_runtimeHandler_gathered ⟨.listPodSandbox, revision, deadline⟩ deeds
    refine ⟨_, Exchange.written_of_play_listed listed, handlers,
      ListPodSandboxResponse.omits_erase _, ?_⟩
    intro unset
    apply ListPodSandboxResponse.omits
    intro item mem
    apply unset
    rw [← handlers]
    exact List.mem_map_of_mem mem
  · have written := (Method.omits_exchange list).writesWithout played
    split
    · exact absurd rfl list
    · exact written

/-- A runtime of the current schema tells the runtime handler of a pod sandbox and the container that it
joins. A caller of the legacy schema that asks for the status gets neither. -/
theorem dispatch_legacyLayout_status :
    let primary : Backend := ⟨.primary, "/run/primary.sock"⟩
    let r : Router := ⟨primary, [], ⟨"http", none, .plain "", none, none⟩, rfl, by decide, by decide⟩
    let linux : LinuxPodSandboxStatus := ⟨some ⟨some { targetId := "c1" }⟩⟩
    let status : PodSandboxStatus := { id := "p1", linux := some linux, runtimeHandler := "kata" }
    let w := World.steady (fun _ => some ⟨.v1, 1⟩) fun _ _ =>
      .ok (Message.encode (⟨some status, .empty⟩ : PodSandboxStatusResponse))
    let path := "/runtime.RuntimeService/PodSandboxStatus"
    let request : PodSandboxStatusRequest := ⟨"p1", false⟩
    let bytes := Message.encode
      (⟨some (Legacy.PodSandboxStatus.downgrade status), .empty⟩ : Legacy.PodSandboxStatusResponse)
    let played := (r.dispatch path (Message.encode request) none).run.play w []
    Method.find? path = some (.v1alpha1, .podSandboxStatus) ∧ Revision.v1alpha1.schema = .legacy ∧
      played.1 = .ok bytes ∧
      (Method.podSandboxStatus.exchange .legacy).WritesWithout newerFields bytes := by
  intro primary r linux status w path request bytes played
  have found : Method.find? path = some (.v1alpha1, .podSandboxStatus) := by decide +kernel
  have ended : played.1 = .ok bytes := by decide +kernel
  have whole : played = (.ok bytes, played.2) := Prod.ext ended rfl
  exact ⟨found, rfl, ended, r.dispatch_legacyLayout path _ none w [] found rfl whole⟩

/-- A runtime of the current schema tells the runtime handler of a pod sandbox in a list. A caller of
the legacy schema gets it, although its schema has no such field. -/
theorem dispatch_legacyLayout_handler :
    let primary : Backend := ⟨.primary, "/run/primary.sock"⟩
    let r : Router := ⟨primary, [], ⟨"http", none, .plain "", none, none⟩, rfl, by decide, by decide⟩
    let told : ListPodSandboxResponse := ⟨[{ id := "p1", runtimeHandler := "kata" }]⟩
    let older : ListPodSandboxResponse := ⟨[{ id := "p1" }]⟩
    let w := World.steady (fun _ => some ⟨.v1, 1⟩) fun _ _ => .ok (Message.encode told)
    let path := "/runtime.RuntimeService/ListPodSandbox"
    let played := (r.dispatch path [] none).run.play w []
    let read (bytes : Bytes) : Except Failure ListPodSandboxResponse := Message.decode bytes
    let handlers (bytes : Bytes) := (read bytes).toOption.map fun m => m.items.map (·.runtimeHandler)
    Method.find? path = some (.v1alpha1, .listPodSandbox) ∧ Revision.v1alpha1.schema = .legacy ∧
      played.1.toOption.map handlers = some (some ["kata"]) ∧
      ¬ played.1 = .ok (Message.encode older) := by
  decide +kernel

end Router

end RuntimeMux
