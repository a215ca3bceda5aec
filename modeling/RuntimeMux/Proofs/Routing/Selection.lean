import RuntimeMux.Proofs.Routing.Serving

/-!
# Lists of selected objects

Pod sandboxes and containers are selected by the ids that callers see. The runtime of such an id
gets it as it knows it, and selects by that. So a list with filters is the list without filters,
filtered. There is one exception: of the bare qualifier of a runtime nothing is left, and it selects
all objects of the runtime.
-/

namespace RuntimeMux

open Cri Wire

theorem Cri.View.mem_filters_iff {view : View} :
    view ∈ View.filters ↔ view ∈ View.ids ∨ view = .imageFilter := by
  cases view <;> decide

namespace Router

variable {Req Resp : Type} [Views Req] [Message Resp] [Convertible Resp] [Listing Resp]
  [ObjectList Resp]

/-- Whether an object that callers see by an id comes back for the text of a filter: for the bare
qualifier of a runtime, all objects of the runtime do. -/
def admitsId (r : Router) (text id : String) : Bool :=
  text = "" ∨
    if (r.ownerOfId text).2 = "" then (r.ownerOfId id).1 = (r.ownerOfId text).1 else id = text

/-- Whether an object comes back for the filters of a request. -/
def admits (r : Router) (Resp : Type) [Message Resp] [Convertible Resp] [Listing Resp]
    [ObjectList Resp] (request : Req) (x : Listing.Item Resp) : Bool :=
  View.ids.all fun view => r.admitsId (textOf view request) (ObjectList.key view x)

/-- Whether an id is the bare qualifier of a named runtime. -/
def IsBare (r : Router) (id : String) : Prop :=
  ∃ b ∈ r.named, id = b.scope.qualifyId ""

/-- No object has an id that looks like one of a named runtime. -/
def Unqualified (r : Router) (Resp : Type) [Message Resp] [Convertible Resp] [Listing Resp]
    [ObjectList Resp] (xs : List (Listing.Item Resp)) : Prop :=
  ∀ x ∈ xs, ∀ view ∈ View.ids, ∀ b ∈ r.named, b.scope.ownId? (ObjectList.key view x) = none

/-- A list with filters has the objects of the list without filters that they admit. Those are the
objects that they select, unless one of them is a bare qualifier. -/
def Filters (r : Router) (Resp : Type) [Message Resp] [Convertible Resp] [Listing Resp]
    [ObjectList Resp] (request : Req) (whole part : Except Fault Resp) : Prop :=
  ∃ all some, whole = .ok all ∧ part = .ok some ∧
    Listing.items some = (Listing.items all).filter (r.admits Resp request) ∧
    ((∀ view ∈ View.ids, ¬ r.IsBare (textOf view request)) →
      Listing.items some = (Listing.items all).filter (selects Resp request))

/-- The owners of all filters of a request that are set. -/
structure Owned (r : Router) (request : Req) (found : List Found) : Prop where
  set : ∀ view ∈ View.ids, textOf view request ≠ "" → view ∈ found.map Found.view
  view_mem : ∀ y ∈ found, y.view ∈ View.ids
  text_ne : ∀ y ∈ found, textOf y.view request ≠ ""
  owner : ∀ y ∈ found, r.ownerOfId (textOf y.view request) = (y.backend, y.own)

variable {r : Router} {w : World} {c : Call} {objects : Backend → List (Listing.Item Resp)}
  {request : Req} {found : List Found}

/-! ### Filters under the ids that callers see -/

theorem admitsId_iff {text id : String} (set : text ≠ "") :
    r.admitsId text id = true ↔ (r.ownerOfId text).1 = (r.ownerOfId id).1 ∧
      ((r.ownerOfId text).2 = "" ∨ (r.ownerOfId id).2 = (r.ownerOfId text).2) := by
  simp only [admitsId, set, false_or, decide_eq_true_eq]
  split
  next bare => rw [and_iff_left (Or.inl bare), eq_comm]
  next own =>
    rw [or_iff_right own, ← r.ownerOfId_injective.eq_iff, Prod.ext_iff,
      eq_comm (a := (r.ownerOfId id).1)]

theorem admitsId_of_not_bare {text : String} (own : ¬ r.IsBare text) (id : String) :
    r.admitsId text id = decide (text = "" ∨ id = text) := by
  by_cases set : text = ""
  · simp [admitsId, set]
  · have hne : (r.ownerOfId text).2 ≠ "" := by
      intro bare
      obtain ⟨mem, owns⟩ := r.ownId?_ownerOfId text
      rw [Scope.ownId?_eq_some_iff, bare] at owns
      rcases List.mem_cons.1 mem with primary | named
      · rw [primary, r.primary_scope] at owns
        exact set owns
      · exact own ⟨_, named, owns⟩
    simp [admitsId, hne]

/-- Among separated runtimes, an object of a runtime is known to be its own. -/
theorem ownerOfId_key (separated : Backend.Separated r.named)
    (unqualified : r.Unqualified Resp (objects r.primary)) {b : Backend} (hb : b ∈ r.backends)
    {x : Listing.Item Resp} (hx : x ∈ objects b) {view : View} (hv : view ∈ View.ids) :
    r.ownerOfId (ObjectList.key view (Scoped.qualify b.scope x)) =
      (b, ObjectList.key view x) := by
  rw [ObjectList.key_qualify]
  rcases List.mem_cons.1 hb with rfl | hb
  · rw [r.primary_scope]
    exact ownerOfId_of_unqualified (unqualified x hx view hv)
  · exact r.forall_ownerOfId_qualifyId_iff.2 separated b hb _

/-- An object comes back if all filters have its runtime, which selects it. -/
theorem admits_qualify_iff (owned : r.Owned request found)
    (separated : Backend.Separated r.named)
    (unqualified : r.Unqualified Resp (objects r.primary)) {b : Backend} (hb : b ∈ r.backends)
    {x : Listing.Item Resp} (hx : x ∈ objects b) :
    r.admits Resp request (Scoped.qualify b.scope x) = true ↔
      ∀ y ∈ found, y.backend = b ∧ (y.own = "" ∨ ObjectList.key y.view x = y.own) := by
  simp only [admits, List.all_eq_true]
  constructor
  · intro admitted y hy
    have hv := owned.view_mem y hy
    have admitted := (admitsId_iff (owned.text_ne y hy)).1 (admitted y.view hv)
    rwa [owned.owner y hy, ownerOfId_key separated unqualified hb hx hv] at admitted
  · intro fits view hv
    by_cases ht : textOf view request = ""
    · simp [admitsId, ht]
    · obtain ⟨y, hy, rfl⟩ := List.mem_map.1 (owned.set view hv ht)
      rw [admitsId_iff ht, owned.owner y hy, ownerOfId_key separated unqualified hb hx hv]
      exact fits y hy

/-- No object of a runtime comes back if a filter has another runtime. -/
theorem filter_admits_eq_nil (owned : r.Owned request found)
    (separated : Backend.Separated r.named)
    (unqualified : r.Unqualified Resp (objects r.primary)) {b : Backend} (hb : b ∈ r.backends)
    (other : ∃ y ∈ found, y.backend ≠ b) :
    (objects b).filter (r.admits Resp request ∘ Scoped.qualify b.scope) = [] := by
  obtain ⟨y, hy, hne⟩ := other
  refine List.filter_eq_nil_iff.2 fun x hx admitted => hne ?_
  exact ((admits_qualify_iff owned separated unqualified hb hx).1 admitted y hy).1

variable [Message Req]

/-! ### Resolving among connected runtimes -/

/-- Among connected runtimes, all filters by ids have runtimes. -/
theorem Resolved.of_serves (serves : Serves Resp Req w c r.backends objects)
    (views : List View) (ids : ∀ view ∈ views, textOf view request ≠ "" → view ∈ View.ids)
    (past : Journal) :
    ∃ found deeds, Resolved r w request views past found deeds ∧
      ∀ y ∈ found, r.ownerOfId (textOf y.view request) = (y.backend, y.own) := by
  induction views generalizing past with
  | nil => exact ⟨[], [], .nil, nofun⟩
  | cons view views ih =>
    obtain ⟨first, others⟩ := List.forall_mem_cons.1 ids
    by_cases ht : textOf view request = ""
    · obtain ⟨found, deeds, resolved, owner⟩ := ih others past
      exact ⟨found, deeds, .unset ht resolved, owner⟩
    · obtain ⟨asked, played⟩ := play_forId serves (textOf view request) past
      obtain ⟨found, deeds, resolved, owner⟩ := ih others (past ++ asked)
      have byId (text : String) : r.resolve view text = some <$> r.forId text := by
        cases view with
        | imageFilter => exact absurd (first ht) (by decide)
        | podSandboxId | containerId | image | idFilter | podSandboxIdFilter | url => rfl
      have found : (r.resolve view (textOf view request)).run.play w past =
          (.ok (some (r.ownerOfId (textOf view request))), asked) := by
        rw [byId, ExceptT.run_map, Activity.play_map, played]
        rfl
      exact ⟨_, _, .set ht found resolved, List.forall_mem_cons.2 ⟨rfl, owner⟩⟩

/-- Among connected runtimes, all filters have owners. -/
theorem exists_owned [ObjectRequest Req] (serves : Serves Resp Req w c r.backends objects)
    (request : Req) (past : Journal) :
    ∃ found deeds, Resolved r w request View.filters past found deeds ∧ r.Owned request found := by
  have ids : ∀ view ∈ View.filters, textOf view request ≠ "" → view ∈ View.ids := by
    intro view hv set
    rcases View.mem_filters_iff.1 hv with hv | rfl
    · exact hv
    · exact absurd (ObjectRequest.textOf_imageFilter request) set
  obtain ⟨found, deeds, resolved, owner⟩ := Resolved.of_serves serves View.filters ids past
  have text_ne : ∀ y ∈ found, textOf y.view request ≠ "" := fun y hy => (resolved.owned y hy).1
  refine ⟨found, deeds, resolved, ?_, ?_, text_ne, owner⟩
  · intro view hv set
    exact resolved.mem_of_set view (View.mem_filters_iff.2 (Or.inl hv)) set
  · intro y hy
    exact ids y.view (resolved.sublist.subset (List.mem_map_of_mem hy)) (text_ne y hy)

/-! ### Filters as runtimes know them -/

theorem utf8ByteSize_own_le {b : Backend} {text own : String}
    (owner : r.ownerOfId text = (b, own)) : own.utf8ByteSize ≤ text.utf8ByteSize := by
  have owns := (r.ownId?_ownerOfId text).2
  rw [owner, Scope.ownId?_eq_some_iff] at owns
  rw [owns]
  cases b.scope with
  | primary => exact Nat.le_refl _
  | named id => simp [Scope.qualifyId]

variable [Convertible Req] [ListRequest Req]

/-- A runtime selects an object if it fits all filters as the runtime knows them. -/
theorem selects_apply_iff (owned : r.Owned request found)
    (nodup : (found.map Found.view).Nodup) (x : Listing.Item Resp) :
    selects Resp (Found.apply found request) x = true ↔
      ∀ y ∈ found, y.own = "" ∨ ObjectList.key y.view x = y.own := by
  have texts := Found.textOf_apply nodup owned.text_ne
  simp only [selects, List.all_eq_true, decide_eq_true_eq]
  constructor
  · intro selected y hy
    have selected := selected y.view (owned.view_mem y hy)
    rwa [texts y hy] at selected
  · intro fits view hv
    by_cases mem : view ∈ found.map Found.view
    · obtain ⟨y, hy, rfl⟩ := List.mem_map.1 mem
      rw [texts y hy]
      exact fits y hy
    · rw [Found.textOf_apply_of_notMem mem]
      exact Or.inl (not_not.1 (mt (owned.set view hv) mem))

/-- If all filters have a runtime, it selects what they admit of its objects. -/
theorem filter_selects_eq (owned : r.Owned request found) (nodup : (found.map Found.view).Nodup)
    (separated : Backend.Separated r.named)
    (unqualified : r.Unqualified Resp (objects r.primary)) {b : Backend} (hb : b ∈ r.backends)
    (agree : ∀ y ∈ found, y.backend = b) :
    (objects b).filter (selects Resp (Found.apply found request)) =
      (objects b).filter (r.admits Resp request ∘ Scoped.qualify b.scope) := by
  refine List.filter_congr fun x hx => Bool.eq_iff_iff.2 ?_
  rw [selects_apply_iff owned nodup, Function.comp_apply,
    admits_qualify_iff owned separated unqualified hb hx]
  exact forall₂_congr fun y hy => (and_iff_right (agree y hy)).symm

variable [ObjectRequest Req]

/-- A request gets no longer by its filters. -/
theorem length_encode_apply_le {found : List Found} (nodup : (found.map Found.view).Nodup)
    {m : Req} (shorter : ∀ y ∈ found, y.own.utf8ByteSize ≤ (textOf y.view m).utf8ByteSize)
    (short : (Message.encode m).length < UInt64.size) :
    (Message.encode (Found.apply found m)).length ≤ (Message.encode m).length := by
  induction found generalizing m with
  | nil => exact Nat.le_refl _
  | cons y found ih =>
    obtain ⟨new, nodup⟩ := List.nodup_cons.1 nodup
    obtain ⟨first, others⟩ := List.forall_mem_cons.1 shorter
    have step := ObjectRequest.length_withText_le y.view y.own m first short
    refine (ih nodup (fun z hz => ?_) (Nat.lt_of_le_of_lt step short)).trans step
    have hne : z.view ≠ y.view := fun he => new (he ▸ List.mem_map_of_mem hz)
    rw [ListRequest.textOf_withText_of_ne _ _ _ _ hne]
    exact others z hz

/-! ### Lists -/

theorem flatMap_backends_eq {α : Type} {b : Backend} (hb : b ∈ r.backends)
    {f : Backend → List α} (others : ∀ other ∈ r.backends, other ≠ b → f other = []) :
    r.backends.flatMap f = f b := by
  have nodup := r.nodup_backends
  obtain ⟨before, after, split⟩ := List.append_of_mem hb
  rw [split, List.nodup_append] at nodup
  obtain ⟨-, behind, apart⟩ := nodup
  have front : before.flatMap f = [] := List.flatMap_eq_nil_iff.2 fun other mem =>
    others other (by simp [split, mem]) (apart other mem b List.mem_cons_self)
  have back : after.flatMap f = [] := List.flatMap_eq_nil_iff.2 fun other mem =>
    others other (by simp [split, mem]) fun same => (List.nodup_cons.1 behind).1 (same ▸ mem)
  rw [split, List.flatMap_append, List.flatMap_cons, front, back, List.append_nil, List.nil_append]

/-- A list holds the objects of all runtimes that its filters admit, in the order of the
runtimes. -/
theorem list_serves (separated : Backend.Separated r.named)
    (unqualified : r.Unqualified Resp (objects r.primary))
    (serves : Serves Resp Req w c r.backends objects)
    (short : (Message.encode request).length < UInt64.size) (past : Journal) :
    ∃ part : Resp, ((r.list c request).run.play w past).1 = .ok part ∧
      Listing.items part = (r.backends.flatMap fun b =>
        (objects b).map (Scoped.qualify b.scope)).filter (r.admits Resp request) := by
  obtain ⟨found, asked, resolved, owned⟩ := exists_owned serves request past
  have nodup : (found.map Found.view).Nodup := resolved.sublist.nodup (by decide)
  have merges := merges_of_listRequest Resp r c request w past
  have answered := Activity.answer_of_mem_play (w := w) (r.list c request : Handling Resp).run past
  have agreed {b : Backend} (hb : b ∈ r.backends) (agree : ∀ y ∈ found, y.backend = b) :=
    filter_selects_eq owned nodup separated unqualified hb agree
  have others {b : Backend} (hb : b ∈ r.backends) (other : ∃ y ∈ found, y.backend ≠ b) :=
    filter_admits_eq_nil owned separated unqualified hb other
  simp only [List.filter_flatMap, List.filter_map]
  by_cases some : found = []
  · -- no filter is set
    subst some
    have unset : ∀ view ∈ View.filters, textOf view request = "" := fun view hv =>
      not_not.1 fun set => absurd (resolved.mem_of_set view hv set) (by simp)
    obtain ⟨items, result, gathered⟩ := merges.unfiltered unset
    refine ⟨_, result, ?_⟩
    rw [ObjectList.items_setItems, gathered.items_of_serves serves short (fun _ hb => hb) answered]
    exact List.flatMap_congr fun b hb => congrArg _ (agreed hb nofun)
  obtain ⟨x, hx⟩ := List.exists_mem_of_ne_nil found some
  by_cases agree : ∃ b, ∀ y ∈ found, y.backend = b
  · obtain ⟨b, agree⟩ := agree
    have hb : b ∈ r.backends := agree x hx ▸ ((merges.owned found asked resolved).2 x hx).1
    obtain ⟨deeds, items, played, -, gathered, -⟩ := merges.agreed found asked b resolved some agree
    rw [played] at answered ⊢
    have shorter := length_encode_apply_le nodup
      (fun y hy => utf8ByteSize_own_le (owned.owner y hy)) short
    have contributed := gathered.items_of_serves serves (Nat.lt_of_le_of_lt shorter short)
      (List.forall_mem_singleton.2 hb) fun d hd => answered d (List.mem_append_right _ hd)
    refine ⟨_, rfl, ?_⟩
    rw [ObjectList.items_setItems, contributed, List.flatMap_singleton, agreed hb agree,
      flatMap_backends_eq hb]
    intro other ho hne
    rw [others ho ⟨x, hx, (agree x hx).trans_ne hne.symm⟩, List.map_nil]
  · push Not at agree
    obtain ⟨y, hy, hne⟩ := agree x.backend
    obtain ⟨result, -⟩ := merges.disagreed found asked resolved x hx y hy hne.symm
    refine ⟨_, result, ?_⟩
    rw [ObjectList.items_setItems]
    refine (List.flatMap_eq_nil_iff.2 fun b hb => ?_).symm
    rw [others hb (agree b), List.map_nil]

/-- A list with filters is the list without filters, filtered. -/
theorem filters_of_serves (separated : Backend.Separated r.named)
    (unqualified : r.Unqualified Resp (objects r.primary))
    (serves : Serves Resp Req w c r.backends objects) {plain : Req}
    (unset : ∀ view ∈ View.ids, textOf view plain = "")
    (empty : (Message.encode plain).length < UInt64.size)
    (short : (Message.encode request).length < UInt64.size) (past later : Journal) :
    r.Filters Resp request ((r.list c plain).run.play w past).1
      ((r.list c request).run.play w later).1 := by
  obtain ⟨all, whole, items⟩ := list_serves separated unqualified serves empty past
  obtain ⟨some, part, admitted⟩ := list_serves separated unqualified serves short later
  have every : ∀ x, r.admits Resp plain x = true := fun x =>
    List.all_eq_true.2 fun view hv => by simp [admitsId, unset view hv]
  rw [List.filter_eq_self.2 fun x _ => every x] at items
  rw [← items] at admitted
  refine ⟨all, some, whole, part, admitted, fun own => ?_⟩
  rw [admitted]
  refine List.filter_congr fun x _ => Bool.eq_iff_iff.2 ?_
  simp only [admits, selects, List.all_eq_true]
  exact forall₂_congr fun view hv => by rw [admitsId_of_not_bare (own view hv)]

end Router

/-! ### Lists of pod sandboxes and containers -/

instance : ObjectList ListPodSandboxResponse where
  key _ x := x.id
  key_qualify _ _ _ := rfl
  items_setItems _ _ := rfl
  reading_eq := Call.reading_unconverted

instance : ObjectList ListContainersResponse where
  key
    | .podSandboxIdFilter, x => x.podSandboxId
    | _, x => x.id
  key_qualify view _ _ := by cases view <;> rfl
  items_setItems _ _ := rfl
  reading_eq := Call.reading_unconverted

theorem decode_encode_of_sublist {xs : List Container}
    (h : xs.Sublist [{ id := "c1", podSandboxId := "p1" }]) :
    Message.decode (Message.encode (⟨xs⟩ : ListContainersResponse)) =
      .ok (⟨xs⟩ : ListContainersResponse) := by
  rcases List.sublist_singleton.1 h with rfl | rfl <;> rfl

namespace Router

/-- Among separated runtimes that are connected and answer with those of their objects that a
request selects, a list of pod sandboxes or containers with filters is the list without filters,
filtered. A filter that is the bare qualifier of a runtime keeps the objects of that runtime. A
request that takes more bytes than a word can count does not reach a runtime as it is. -/
theorem list_filters {stream : Url} {bs : List Backend} {r : Router}
    (built : ofBackends stream bs = .ok r) (separated : Backend.Separated bs) (revision : Revision)
    (deadline : Option Span) (w : World) (past later : Journal) :
    (∀ sandboxes : Backend → List PodSandbox,
      let c : Call := ⟨.listPodSandbox, revision, deadline⟩
      let list (request : ListPodSandboxRequest) : Handling ListPodSandboxResponse :=
        r.list c request
      r.Unqualified ListPodSandboxResponse (sandboxes r.primary) →
      Serves ListPodSandboxResponse ListPodSandboxRequest w c bs sandboxes →
      ∀ request, (Message.encode request).length < UInt64.size →
        r.Filters ListPodSandboxResponse request ((list Message.blank).run.play w past).1
          ((list request).run.play w later).1) ∧
    (∀ containers : Backend → List Container,
      let c : Call := ⟨.listContainers, revision, deadline⟩
      let list (request : ListContainersRequest) : Handling ListContainersResponse :=
        r.list c request
      r.Unqualified ListContainersResponse (containers r.primary) →
      Serves ListContainersResponse ListContainersRequest w c bs containers →
      ∀ request, (Message.encode request).length < UInt64.size →
        r.Filters ListContainersResponse request ((list Message.blank).run.play w past).1
          ((list request).run.play w later).1) := by
  obtain rfl := backends_ofBackends built
  have separated := (Backend.separated_cons_iff r.primary_scope).1 separated
  constructor
  · intro sandboxes c list unqualified serves request short
    exact filters_of_serves separated unqualified serves (by decide) (by decide) short past later
  · intro containers c list unqualified serves request short
    exact filters_of_serves separated unqualified serves (by decide) (by decide) short past later

/-- Two runtimes have a container of the same id each. The id of the second one selects that. -/
theorem list_filters_two :
    let primary : Backend := ⟨.primary, "/run/primary.sock"⟩
    let alt : Backend := ⟨.named ⟨"alt", by decide⟩, "/run/alt.sock"⟩
    let r : Router :=
      ⟨primary, [alt], ⟨"http", none, .plain "", none, none⟩, rfl, by decide, by decide⟩
    let c : Call := ⟨.listContainers, .v1, none⟩
    let containers (_ : Backend) : List Container := [{ id := "c1", podSandboxId := "p1" }]
    let w := World.serving ListContainersRequest ListContainersResponse (fun _ => ⟨.v1, 1⟩)
      containers
    let own : ListContainersRequest := ⟨some { id := "alt__c1", podSandboxId := "alt__p1" }⟩
    let list (request : ListContainersRequest) :=
      ((r.list c request : Handling ListContainersResponse).run.play w []).1
    ∃ all some, list Message.blank = .ok all ∧ list own = .ok some ∧
      some.containers = all.containers.filter (selects ListContainersResponse own) ∧
      some.containers.map (·.id) = ["alt__c1"] := by
  intro primary alt r c containers w own list
  have separated : Backend.Separated [primary, alt] := by
    unfold Backend.Separated
    decide
  have unqualified : r.Unqualified ListContainersResponse (containers primary) := by
    unfold Unqualified
    decide
  have serves : Serves ListContainersResponse ListContainersRequest w c [primary, alt] containers :=
    serves_serving (by decide) fun _ _ _ => decode_encode_of_sublist
  obtain ⟨all, some, whole, part, -, selected⟩ :=
    (list_filters (r := r) rfl separated .v1 none w [] []).2 containers unqualified serves own
      (by decide)
  have listed : (list own).toOption.map (·.containers.map (·.id)) = .some ["alt__c1"] := by
    decide +kernel
  refine ⟨all, some, whole, part, selected (by unfold IsBare; decide), ?_⟩
  simpa [list, c, part, Except.toOption] using listed

/-- The bare qualifier of a runtime is not the id of an object, but has all objects of the runtime
listed. -/
theorem list_filters_bare :
    let primary : Backend := ⟨.primary, "/run/primary.sock"⟩
    let alt : Backend := ⟨.named ⟨"alt", by decide⟩, "/run/alt.sock"⟩
    let r : Router :=
      ⟨primary, [alt], ⟨"http", none, .plain "", none, none⟩, rfl, by decide, by decide⟩
    let c : Call := ⟨.listContainers, .v1, none⟩
    let containers (_ : Backend) : List Container := [{ id := "c1", podSandboxId := "p1" }]
    let w := World.serving ListContainersRequest ListContainersResponse (fun _ => ⟨.v1, 1⟩)
      containers
    let bare : ListContainersRequest := ⟨some { id := "alt__" }⟩
    let list (request : ListContainersRequest) :=
      ((r.list c request : Handling ListContainersResponse).run.play w []).1.toOption.map
        (·.containers)
    ofBackends r.stream [primary, alt] = .ok r ∧ Backend.Separated [primary, alt] ∧
    r.Unqualified ListContainersResponse (containers primary) ∧
    Serves ListContainersResponse ListContainersRequest w c [primary, alt] containers ∧
    (Message.encode bare).length < UInt64.size ∧
    (list bare).map (·.map (·.id)) = some ["alt__c1"] ∧
    ¬ list bare = (list Message.blank).map (·.filter (selects ListContainersResponse bare)) := by
  intro primary alt r c containers w bare list
  have listed : (list bare).map (·.map (·.id)) = some ["alt__c1"] := by decide +kernel
  refine ⟨rfl, ?_, ?_, serves_serving (by decide) fun _ _ _ => decode_encode_of_sublist,
    by decide, listed, fun same => ?_⟩
  · unfold Backend.Separated
    decide
  · unfold Unqualified
    decide
  · rw [same] at listed
    revert listed
    decide +kernel

end Router

end RuntimeMux
