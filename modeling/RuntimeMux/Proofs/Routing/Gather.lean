import RuntimeMux.Proofs.Routing.Rounds
import RuntimeMux.Routing.Lists

/-!
# How a list is gathered

A list is asked for from the runtimes in a round. A runtime that is passed over, or whose call fails,
contributes nothing to it, and one that answers contributes the items of its answer.
-/

namespace RuntimeMux

open Cri Wire

variable {Req Resp : Type} [Message Req] [Convertible Req] [Message Resp] [Convertible Resp]
  [Listing Resp]

/-- The items that a runtime contributes by answering a call. -/
def Deed.items (c : Call) (Resp : Type) [Message Resp] [Convertible Resp] [Listing Resp] :
    Deed → List (Listing.Item Resp)
  | ⟨.send b link _, answer⟩ =>
    match c.reading Resp link answer with
    | .ok response => (Listing.items response).map (Scoped.qualify b.scope)
    | .error _ => []
  | _ => []

/-- A list has been gathered from runtimes. -/
structure Gathered (c : Call) (request : Req) (Resp : Type) [Message Resp] [Convertible Resp]
    [Listing Resp] (bs : List Backend) (deeds : Journal) (items : List (Listing.Item Resp)) :
    Prop where
  /-- Every runtime has its turn, once and in order. -/
  visited : (Journal.visited deeds).map Prod.fst = bs
  /-- Those that are connected at their turn are called: their links are looked up. -/
  looked : (Journal.looked deeds).map Prod.fst =
    ((Journal.visited deeds).filter Prod.snd).map Prod.fst
  /-- Those whose links are found, and that understand the request, get it. -/
  sent : Journal.sent deeds = (Journal.looked deeds).filterMap (c.due request)
  /-- Those that are not connected at their turn are asked for their connections. -/
  kicked : Journal.kicked deeds =
    ((Journal.visited deeds).filter fun turn => !turn.2).map Prod.fst
  /-- The items are those of all answers, in order. -/
  items : items = deeds.flatMap (Deed.items c Resp)
  /-- A connection is given up only by a runtime that was unavailable on it. -/
  reconnected : ∀ b generation, ⟨.reconnect b generation, ()⟩ ∈ deeds →
    ∃ link rpc status, ⟨.send b link rpc, .error status⟩ ∈ deeds ∧
      status.code = .unavailable ∧ link.generation = generation

variable {c : Call} {request : Req} {b : Backend} {link : Link} {link? : Option Link}
  {result : Except Fault Resp} {deeds : Journal} {x : Contact Resp} {xs : List (Contact Resp)}

/-! ### Items -/

theorem Call.Outcome.items (h : c.Outcome b link request result deeds) :
    deeds.flatMap (Deed.items c Resp) = Router.itemsOf b result := by
  cases h with
  | unserved => rfl
  | answered _ hr | refused _ hr => simp [Deed.items, Router.itemsOf, hr]
  | replaced | lost => simp [Deed.items, Router.itemsOf, Call.reading_error]

theorem Call.Attempted.items (h : c.Attempted b request link? result deeds) :
    deeds.flatMap (Deed.items c Resp) = Router.itemsOf b result := by
  cases h with
  | away => rfl
  | made ho => exact ho.items

theorem items_noticed (c : Call) (x : Contact Resp) :
    x.noticed.flatMap (Deed.items c Resp) = [] := by
  rw [Contact.noticed]
  cases x.result with
  | ok response => rfl
  | error fault =>
    simp only [Call.noticed]
    cases fault.lostLink? <;> rfl

theorem Turn.items (turn : Turn c request x deeds) :
    deeds.flatMap (Deed.items c Resp) = x.gained Router.itemsOf := by
  cases turn with
  | passed => rfl
  | @called _ tried there attempted =>
    have first : (⟨.connected x.backend, true⟩ :: tried : Journal).flatMap (Deed.items c Resp) = _ :=
      attempted.items
    rw [List.flatMap_append, first, items_noticed, Contact.gained, if_pos there, List.append_nil]

theorem Round.items (round : Round c request xs deeds) :
    deeds.flatMap (Deed.items c Resp) = xs.flatMap (Contact.gained Router.itemsOf) := by
  induction round with
  | nil => rfl
  | cons turn _ ih => rw [List.flatMap_append, turn.items, ih, List.flatMap_cons]

/-! ### Connections that are given up -/

omit [Listing Resp]

theorem Call.Attempted.lost_of_mem_noticed {fault : Fault}
    (h : c.Attempted b request link? (.error fault : Except Fault Resp) deeds) {b' : Backend}
    {generation : Nat} (mem : ⟨.reconnect b' generation, ()⟩ ∈ Call.noticed b fault) :
    ∃ link rpc status, ⟨.send b' link rpc, .error status⟩ ∈ deeds ∧
      status.code = .unavailable ∧ link.generation = generation := by
  cases h with
  | away => simp [Call.noticed, Fault.lostLink?] at mem
  | @made link _ called ho =>
    obtain ⟨same, status, sent, unavailable⟩ := ho.lost_of_mem_noticed _ mem
    obtain ⟨rfl, rfl⟩ : b' = b ∧ generation = link.generation := by simpa using same
    exact ⟨link, _, status, List.mem_cons_of_mem _ sent, unavailable, rfl⟩

theorem Turn.reconnected (turn : Turn c request x deeds) {b : Backend} {generation : Nat}
    (mem : ⟨.reconnect b generation, ()⟩ ∈ deeds) :
    ∃ link rpc status, ⟨.send b link rpc, .error status⟩ ∈ deeds ∧
      status.code = .unavailable ∧ link.generation = generation := by
  cases turn with
  | passed => simp at mem
  | @called _ tried there attempted =>
    rcases List.mem_append.1 mem with mem | mem
    · simp [attempted.reconnect_notMem b generation] at mem
    · cases hr : x.result with
      | ok response => simp [Contact.noticed, hr] at mem
      | error fault =>
        simp only [Contact.noticed, hr] at mem
        obtain ⟨link, rpc, status, sent, lost⟩ := (hr ▸ attempted).lost_of_mem_noticed mem
        exact ⟨link, rpc, status, List.mem_append_left _ (List.mem_cons_of_mem _ sent), lost⟩

theorem Round.reconnected (round : Round c request xs deeds) {b : Backend} {generation : Nat}
    (mem : ⟨.reconnect b generation, ()⟩ ∈ deeds) :
    ∃ link rpc status, ⟨.send b link rpc, .error status⟩ ∈ deeds ∧
      status.code = .unavailable ∧ link.generation = generation := by
  induction round with
  | nil => cases mem
  | cons turn _ ih =>
    rcases List.mem_append.1 mem with mem | mem
    · obtain ⟨link, rpc, status, sent, lost⟩ := turn.reconnected mem
      exact ⟨link, rpc, status, List.mem_append_left _ sent, lost⟩
    · obtain ⟨link, rpc, status, sent, lost⟩ := ih mem
      exact ⟨link, rpc, status, List.mem_append_right _ sent, lost⟩

/-! ### What has been gathered -/

variable [Listing Resp]

/-- By a round of calls, a list is gathered. -/
theorem Round.gathered (round : Round c request xs deeds) :
    Gathered c request Resp (xs.map Contact.backend) deeds
      (xs.flatMap (Contact.gained Router.itemsOf)) where
  visited := by
    rw [round.visited, List.map_map]
    rfl
  looked := by
    rw [round.looked, round.visited, List.filter_map, List.map_map, List.map_map]
    rfl
  sent := round.sent
  kicked := by
    rw [round.kicked, round.visited, List.filter_map, List.map_map]
    rfl
  items := round.items.symm
  reconnected _ _ mem := round.reconnected mem

theorem Gathered.of_play (c : Call) (request : Req) (bs : List Backend) (w : World)
    (past : Journal) :
    let gathered := (Router.gather c request Resp bs).play w past
    Gathered c request Resp bs gathered.2 gathered.1 := by
  obtain ⟨xs, rfl, items, round⟩ :=
    Router.round_callEach c request (fun b (result : Except Fault Resp) => Router.itemsOf b result)
      bs w past
  intro gathered
  have whole : gathered.1 = _ := items.symm
  rw [whole]
  exact round.gathered

end RuntimeMux
