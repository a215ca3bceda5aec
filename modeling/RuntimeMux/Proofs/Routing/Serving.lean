import Mathlib.Data.List.Basic
import RuntimeMux.Exchange
import RuntimeMux.Proofs.Cri.ListRequests
import RuntimeMux.Proofs.Routing.Merge
import RuntimeMux.Proofs.Routing.Ready

/-!
# Runtimes that serve lists

Runtimes that are connected, and answer requests for their objects as they should, contribute to a
list what its filters select.
-/

namespace RuntimeMux

open Cri Wire

/-- The views that select objects by their ids. -/
def Cri.View.ids : List View := [.idFilter, .podSandboxIdFilter]

/-- A type of lists of objects, each of which has an id for every filter. The schemas agree on the
type. -/
class ObjectList (Resp : Type) [Message Resp] [Convertible Resp] [Listing Resp] where
  key : View → Listing.Item Resp → String
  key_qualify : ∀ (view : View) (s : Scope) (x : Listing.Item Resp),
    key view (Scoped.qualify s x) = s.qualifyId (key view x)
  items_setItems : ∀ (xs : List (Listing.Item Resp)) (m : Resp),
    Listing.items (Listing.setItems xs m) = xs
  reading_eq : ∀ (c : Call) (link : Link) (answer : Except Status Bytes),
    c.reading Resp link answer = Response.message answer

section

variable {Req : Type} (Resp : Type) [Views Req] [Message Resp] [Convertible Resp] [Listing Resp]
  [ObjectList Resp]

/-- Whether the filters of a request select an object. An empty filter selects all. -/
def selects (request : Req) (x : Listing.Item Resp) : Bool :=
  View.ids.all fun view =>
    Router.textOf view request = "" ∨ ObjectList.key view x = Router.textOf view request

/-- Runtimes that are connected, and answer with those of their objects that a request selects. -/
structure Serves (Req : Type) [Message Req] [Views Req] (w : World) (c : Call) (bs : List Backend)
    (objects : Backend → List (Listing.Item Resp)) : Prop where
  awaited : ∀ past, ∀ b ∈ bs, w past (.await b) = .ok ()
  connected : ∀ past, ∀ b ∈ bs, w past (.connected b) = true
  linked : ∀ past, ∀ b ∈ bs, ∃ link, w past (.link b) = some link ∧ c.isServedOn link = true
  answers : ∀ past, ∀ b ∈ bs, ∀ link rpc, ∀ request : Req,
    rpc.path = c.method.path link.revision → Message.decode rpc.body = .ok request →
    ∃ body response, w past (.send b link rpc) = .ok body ∧
      Message.decode body = .ok (response : Resp) ∧
      Listing.items response = (objects b).filter (selects Resp request)

end

namespace Router

variable {Req Resp : Type} [Message Req] [Views Req] [Message Resp] [Convertible Resp]
  [Listing Resp] [ObjectList Resp] {w : World} {c : Call}
  {objects : Backend → List (Listing.Item Resp)}

/-! ### Resolving among connected runtimes -/

theorem play_ready {b : Backend} (awaited : ∀ past, w past (.await b) = .ok ())
    (connected : ∀ past, w past (.connected b) = true) (past : Journal) :
    ∃ deeds, (ready b).run.play w past = (.ok (), deeds) := by
  cases hb : b.isPrimary with
  | true => exact ⟨_, by rw [play_ready_primary hb, awaited]⟩
  | false => exact ⟨_, by rw [play_ready_named hb, connected]; rfl⟩

/-- Among connected runtimes, the runtime of an id is always ready. -/
theorem play_forId {r : Router} (serves : Serves Resp Req w c r.backends objects) (id : String)
    (past : Journal) :
    ∃ deeds, (r.forId id).run.play w past = (.ok (r.ownerOfId id), deeds) := by
  have mem := (r.ownId?_ownerOfId id).1
  obtain ⟨deeds, played⟩ := play_ready (fun past => serves.awaited past _ mem)
    (fun past => serves.connected past _ mem) past
  exact ⟨_, by rw [forId, Activity.play_run_bind, played]; rfl⟩

end Router

/-! ### Gathering from connected runtimes -/

variable {Req Resp : Type} [Message Req] [Views Req] [Convertible Req] [Message Resp]
  [Convertible Resp] [Listing Resp] [ObjectList Resp] {w : World} {c : Call}
  {objects : Backend → List (Listing.Item Resp)} {bs asked : List Backend} {request : Req}
  {deeds : Journal} {items : List (Listing.Item Resp)}

namespace Gathered

/-- All runtimes that are asked are connected at their turn. -/
theorem visited_of_serves (gathered : Gathered c request Resp asked deeds items)
    (serves : Serves Resp Req w c bs objects) (known : ∀ b ∈ asked, b ∈ bs)
    (answered : ∀ d ∈ deeds, ∃ before, d.answer = w before d.act) :
    (Journal.looked deeds).map Prod.fst = asked := by
  have connected : ∀ turn ∈ Journal.visited deeds, turn.2 = true := by
    intro turn hturn
    have mem : turn.1 ∈ bs := known _ (gathered.visited ▸ List.mem_map_of_mem hturn)
    obtain ⟨⟨act, answer⟩, hd, visited⟩ := List.mem_filterMap.1 hturn
    obtain ⟨before, h⟩ := answered _ hd
    obtain rfl : answer = w before act := h
    cases act with
    | connected b =>
      cases visited
      exact serves.connected before b mem
    | await | kick | link | generation | send | reconnect | nameOf | record | forget
    | forgetName =>
      cases visited
  rw [gathered.looked, List.filter_eq_self.2 connected, gathered.visited]

theorem looked_of_serves (gathered : Gathered c request Resp asked deeds items)
    (serves : Serves Resp Req w c bs objects) (known : ∀ b ∈ asked, b ∈ bs)
    (answered : ∀ d ∈ deeds, ∃ before, d.answer = w before d.act) {turn : Backend × Option Link}
    (hturn : turn ∈ Journal.looked deeds) :
    turn.1 ∈ bs ∧ ∃ link, turn.2 = some link ∧ c.isServedOn link = true := by
  have visited := gathered.visited_of_serves serves known answered
  have mem : turn.1 ∈ bs := known _ (visited ▸ List.mem_map_of_mem hturn)
  refine ⟨mem, ?_⟩
  obtain ⟨⟨act, answer⟩, hd, looked⟩ := List.mem_filterMap.1 hturn
  obtain ⟨before, h⟩ := answered _ hd
  obtain rfl : answer = w before act := h
  cases act with
  | link b =>
    cases looked
    exact serves.linked before b mem
  | await | kick | connected | generation | send | reconnect | nameOf | record | forget
  | forgetName =>
    cases looked

/-- All runtimes that are asked get the request. -/
theorem sent_of_serves (gathered : Gathered c request Resp asked deeds items)
    (serves : Serves Resp Req w c bs objects) (known : ∀ b ∈ asked, b ∈ bs)
    (answered : ∀ d ∈ deeds, ∃ before, d.answer = w before d.act) :
    (Journal.sent deeds).map Prod.fst = asked := by
  rw [gathered.sent, List.map_filterMap]
  have due : ∀ turn ∈ Journal.looked deeds,
      (c.due request turn).map Prod.fst = some turn.1 := by
    rintro ⟨b, found⟩ hturn
    obtain ⟨-, link, rfl, served⟩ := gathered.looked_of_serves serves known answered hturn
    simp [Call.due, served]
  rw [List.filterMap_congr due, List.filterMap_eq_map',
    gathered.visited_of_serves serves known answered]

variable [ListRequest Req] [ObjectRequest Req]

/-- A runtime contributes the objects that it selects by answering the call that it gets. -/
theorem items_deed_of_serves (gathered : Gathered c request Resp asked deeds items)
    (serves : Serves Resp Req w c bs objects)
    (short : (Message.encode request).length < UInt64.size)
    (known : ∀ b ∈ asked, b ∈ bs) (answered : ∀ d ∈ deeds, ∃ before, d.answer = w before d.act)
    {d : Deed} (hd : d ∈ deeds) :
    Deed.items c Resp d = (Deed.sent? d).toList.flatMap fun call =>
      ((objects call.1).filter (selects Resp request)).map (Scoped.qualify call.1.scope) := by
  obtain ⟨act, answer⟩ := d
  obtain ⟨before, h⟩ := answered _ hd
  obtain rfl : answer = w before act := h
  cases act with
  | send b link rpc =>
    have sent := Journal.mem_sent hd
    rw [gathered.sent] at sent
    obtain ⟨⟨b', found⟩, hturn, due⟩ := List.mem_filterMap.1 sent
    obtain ⟨mem, link', rfl, served⟩ := gathered.looked_of_serves serves known answered hturn
    obtain ⟨rfl, rfl, rfl⟩ : b' = b ∧ link' = link ∧ c.rpc link' request = rpc := by
      simpa [Call.due, served] using due
    have unchanged := Router.rpc_eq c link' request
    obtain ⟨body, response, answers, decoded, selected⟩ :=
      serves.answers before b' mem link' (c.rpc link' request) request (by rw [unchanged])
        (by rw [unchanged]; exact ObjectRequest.decode_encode request short)
    simp [Deed.items, Deed.sent?, answers, ObjectList.reading_eq, Response.message, decoded,
      selected]
  | await | kick | connected | link | generation | reconnect | nameOf | record | forget
  | forgetName => rfl

/-- The runtimes that are asked contribute the objects that they select. -/
theorem items_of_serves (gathered : Gathered c request Resp asked deeds items)
    (serves : Serves Resp Req w c bs objects)
    (short : (Message.encode request).length < UInt64.size)
    (known : ∀ b ∈ asked, b ∈ bs)
    (answered : ∀ d ∈ deeds, ∃ before, d.answer = w before d.act) :
    items = asked.flatMap fun b =>
      ((objects b).filter (selects Resp request)).map (Scoped.qualify b.scope) := by
  let own (b : Backend) : List (Listing.Item Resp) :=
    ((objects b).filter (selects Resp request)).map (Scoped.qualify b.scope)
  calc
    items = deeds.flatMap (Deed.items c Resp) := gathered.items
    _ = deeds.flatMap fun d => (Deed.sent? d).toList.flatMap fun call => own call.1 :=
      List.flatMap_congr fun _ hd => gathered.items_deed_of_serves serves short known answered hd
    _ = (Journal.sent deeds).flatMap fun call => own call.1 := by
      rw [Journal.sent, List.filterMap_eq_flatMap_toList, List.flatMap_assoc]
    _ = ((Journal.sent deeds).map Prod.fst).flatMap own := (List.flatMap_map ..).symm
    _ = asked.flatMap own := by rw [gathered.sent_of_serves serves known answered]

end Gathered

/-! ### Serving runtimes -/

/-- A world in which connected runtimes answer with those of their objects that a request
selects. -/
def World.serving (Req Resp : Type) [Message Req] [Views Req] [Message Resp] [Convertible Resp]
    [Listing Resp] [ObjectList Resp] (link : Backend → Link)
    (objects : Backend → List (Listing.Item Resp)) : World :=
  .steady (fun b => some (link b)) fun b rpc =>
    match (Message.decode rpc.body : Except Failure Req) with
    | .ok request =>
      let selected := (objects b).filter (selects Resp request)
      .ok (Message.encode (Listing.setItems selected Message.blank : Resp))
    | .error failure => .error ⟨.internal, failure.text⟩

theorem serves_serving {Req Resp : Type} [Message Req] [Views Req] [Message Resp]
    [Convertible Resp] [Listing Resp] [ObjectList Resp] {link : Backend → Link} {c : Call}
    {bs : List Backend} {objects : Backend → List (Listing.Item Resp)}
    (served : ∀ b ∈ bs, c.isServedOn (link b) = true)
    (decoded : ∀ b ∈ bs, ∀ xs, xs.Sublist (objects b) →
      Message.decode (Message.encode (Listing.setItems xs Message.blank : Resp)) =
        .ok (Listing.setItems xs Message.blank : Resp)) :
    Serves Resp Req (World.serving Req Resp link objects) c bs objects where
  awaited _ _ _ := rfl
  connected _ _ _ := rfl
  linked _ b hb := ⟨link b, rfl, served b hb⟩
  answers _ b hb _ _ _ _ hd := by
    refine ⟨_, _, ?_, decoded b hb _ List.filter_sublist, ObjectList.items_setItems _ _⟩
    simp only [World.serving, World.steady, hd]

end RuntimeMux
