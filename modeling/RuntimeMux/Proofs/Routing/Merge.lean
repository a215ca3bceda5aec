import RuntimeMux.Exchange
import RuntimeMux.Proofs.Routing.Narrow

/-!
# Lists of all runtimes

A list without filters is that of all runtimes, one after the other, each with its own items as
callers see them. A list with filters is that of one runtime, or empty if the filters do not agree.
-/

namespace RuntimeMux

open Cri Wire

namespace Router

variable {Req Resp : Type} [Message Req] [Views Req] [Convertible Req] [Message Resp]
  [Convertible Resp] [Listing Resp]

/-- What a list is put together from. -/
structure Merges (r : Router) (bs : List Backend) (c : Call) (request : Req) (Resp : Type)
    [Message Resp] [Convertible Resp] [Listing Resp] (w : World) (past : Journal)
    (played : Except Fault Resp × Journal) : Prop where
  /-- A request is sent as it is, whatever the runtime speaks. -/
  unchanged : ∀ (link : Link) (m : Req),
    c.rpc link m = ⟨c.method.path link.revision, Message.encode m, c.deadline⟩
  /-- Without filters, the list is gathered from all runtimes. -/
  unfiltered : (∀ view ∈ View.filters, textOf view request = "") →
    ∃ items, played.1 = .ok (Listing.setItems items Message.blank) ∧
      Gathered c request Resp bs played.2 items
  /-- Every filter that is set has a runtime, which is one of the runtimes and knows its text. -/
  owned : ∀ found asked, Resolved r w request View.filters past found asked →
    (∀ view ∈ View.filters, textOf view request ≠ "" → view ∈ found.map Found.view) ∧
    ∀ x ∈ found, x.backend ∈ bs ∧ x.Owns (textOf x.view request)
  /-- If all filters have the same runtime, the list is gathered from that alone. Every filter
  reaches it as it knows it. -/
  agreed : ∀ found asked b, Resolved r w request View.filters past found asked → found ≠ [] →
    (∀ x ∈ found, x.backend = b) →
    ∃ deeds items, played = (.ok (Listing.setItems items Message.blank), asked ++ deeds) ∧
      Journal.sent asked = [] ∧ Gathered c (Found.apply found request) Resp [b] deeds items ∧
      ∀ x ∈ found, textOf x.view (Found.apply found request) = x.own
  /-- If two filters have different runtimes, the list is empty and no call is sent. -/
  disagreed : ∀ found asked, Resolved r w request View.filters past found asked →
    ∀ x ∈ found, ∀ y ∈ found, x.backend ≠ y.backend →
    played.1 = .ok (Listing.setItems [] Message.blank) ∧ Journal.sent played.2 = []

variable {r : Router} {w : World} {past : Journal}

variable (Resp) in
/-- A list is gathered after it has been narrowed. -/
theorem play_list (c : Call) {request narrowed : Req} {targets : Targets} {asked : Journal}
    (hn : (r.narrow request).run.play w past = (.ok (narrowed, targets), asked)) :
    let gathered := (gather c narrowed Resp (targets.toList r)).play w (past ++ asked)
    (r.list c request : Handling Resp).run.play w past =
      (.ok (Listing.setItems gathered.1 Message.blank), asked ++ gathered.2) := by
  rw [list, Activity.play_run_bind, hn]
  simp only [Activity.play_run_bind, Activity.play_run_lift, Activity.play_run_pure,
    List.append_nil]

theorem rpc_eq [ListRequest Req] (c : Call) (link : Link) (m : Req) :
    c.rpc link m = ⟨c.method.path link.revision, Message.encode m, c.deadline⟩ :=
  c.rpc_of_encode_upgrade link (ListRequest.encode_upgrade m)

variable (Resp) in
/-- A list whose requests can be narrowed. -/
theorem merges_of_listRequest [ListRequest Req] (r : Router) (c : Call) (request : Req) (w : World)
    (past : Journal) :
    r.Merges r.backends c request Resp w past ((r.list c request).run.play w past) where
  unchanged := rpc_eq c
  unfiltered unset := by
    have narrowed := play_narrowAll_unset (r := r) (w := w) unset .all past
    rw [← narrow_eq] at narrowed
    rw [play_list Resp c narrowed]
    exact ⟨_, rfl, .of_play c request r.backends w _⟩
  owned found asked resolved :=
    ⟨resolved.mem_of_set, fun x hx => (resolved.owned x hx).2⟩
  agreed found asked b resolved some agree := by
    obtain ⟨narrowed, deeds, played, changed⟩ :=
      resolved.play_narrowAll (by decide) (fun _ _ => rfl) .all
    rw [Found.targets_of_agree some agree] at played changed
    obtain ⟨rfl, rfl⟩ := changed (by simp)
    have silent := (r.silent_narrowAll View.filters (request, .all)).sent_play (w := w) past
    rw [played] at silent
    rw [← narrow_eq] at played
    rw [play_list Resp c played]
    refine ⟨_, _, rfl, silent, .of_play c _ [b] w _, ?_⟩
    exact Found.textOf_apply (resolved.sublist.nodup (by decide)) fun x hx =>
      (resolved.owned x hx).1
  disagreed found asked resolved x hx y hy hne := by
    obtain ⟨narrowed, deeds, played, -⟩ :=
      resolved.play_narrowAll (by decide) (fun _ _ => rfl) .all
    rw [Found.targets_of_disagree hx hy hne] at played
    have silent := (r.silent_narrowAll View.filters (request, .all)).sent_play (w := w) past
    rw [played] at silent
    rw [← narrow_eq] at played
    rw [play_list Resp c played]
    exact ⟨rfl, by simpa [Targets.toList, gather, callEach] using silent⟩

end Router

/-! ### Requests for lists -/

instance : ListRequest ListPodSandboxRequest where
  encode_upgrade _ := rfl
  textOf_withText view text m set := by
    obtain ⟨_ | filter⟩ := m <;> cases view <;> first | rfl | exact absurd rfl set
  textOf_withText_of_ne view other text m hne := by
    cases view <;> cases other <;> first | rfl | exact absurd rfl hne

instance : ListRequest ListContainersRequest where
  encode_upgrade _ := rfl
  textOf_withText view text m set := by
    obtain ⟨_ | filter⟩ := m <;> cases view <;> first | rfl | exact absurd rfl set
  textOf_withText_of_ne view other text m hne := by
    obtain ⟨_ | filter⟩ := m <;> cases view <;> cases other <;> first | rfl | exact absurd rfl hne

instance : ListRequest ListContainerStatsRequest where
  encode_upgrade _ := rfl
  textOf_withText view text m set := by
    obtain ⟨_ | filter⟩ := m <;> cases view <;> first | rfl | exact absurd rfl set
  textOf_withText_of_ne view other text m hne := by
    obtain ⟨_ | filter⟩ := m <;> cases view <;> cases other <;> first | rfl | exact absurd rfl hne

instance : ListRequest ListImagesRequest where
  encode_upgrade _ := rfl
  textOf_withText view text m set := by
    obtain ⟨_ | ⟨_ | image⟩⟩ := m <;> cases view <;> first | rfl | exact absurd rfl set
  textOf_withText_of_ne view other text m hne := by
    cases view <;> cases other <;> first | rfl | exact absurd rfl hne

instance : ListRequest ImageFsInfoRequest where
  encode_upgrade _ := rfl
  textOf_withText _ _ _ set := absurd rfl set
  textOf_withText_of_ne _ _ _ _ _ := rfl

namespace Router

/-- A list of all runtimes is put together from what those answer that are connected at their turn
and understand the request, in the order in which the runtimes are configured. -/
theorem list_merges {stream : Url} {bs : List Backend} {r : Router}
    (built : ofBackends stream bs = .ok r) (m : Method) (revision : Revision)
    (deadline : Option Span) (w : World) (past : Journal) :
    match m.exchange revision.schema with
    | @Exchange.routed .. => True
    | @Exchange.listed Req Resp _ _ _ _ _ _ =>
      let c : Call := ⟨m, revision, deadline⟩
      ∀ request : Req,
        r.Merges bs c request Resp w past ((r.list c request : Handling Resp).run.play w past) := by
  obtain rfl := backends_ofBackends built
  cases m with
  | listPodSandbox =>
    exact fun request : ListPodSandboxRequest =>
      merges_of_listRequest ListPodSandboxResponse r _ request w past
  | listContainers =>
    exact fun request : ListContainersRequest =>
      merges_of_listRequest ListContainersResponse r _ request w past
  | listContainerStats =>
    cases revision.schema with
    | legacy =>
      exact fun request : ListContainerStatsRequest =>
        merges_of_listRequest Legacy.ListContainerStatsResponse r _ request w past
    | current =>
      exact fun request : ListContainerStatsRequest =>
        merges_of_listRequest ListContainerStatsResponse r _ request w past
  | listImages =>
    exact fun request : ListImagesRequest =>
      merges_of_listRequest ListImagesResponse r _ request w past
  | imageFsInfo =>
    cases revision.schema with
    | legacy =>
      exact fun request : ImageFsInfoRequest =>
        merges_of_listRequest Legacy.ImageFsInfoResponse r _ request w past
    | current =>
      exact fun request : ImageFsInfoRequest =>
        merges_of_listRequest ImageFsInfoResponse r _ request w past
  | runPodSandbox | podSandboxStatus | createContainer | containerStats | pullImage =>
    cases revision.schema <;> trivial
  | version | status | updateRuntimeConfig | stopPodSandbox | removePodSandbox | startContainer
  | stopContainer | removeContainer | containerStatus | updateContainerResources
  | reopenContainerLog | execSync | exec | attach | portForward | imageStatus | removeImage =>
    trivial

/-- Of three runtimes one is away. The others have an object of the same id each. -/
theorem list_merges_three :
    let primary : Backend := ⟨.primary, "/run/primary.sock"⟩
    let alt : Backend := ⟨.named ⟨"alt", by decide⟩, "/run/alt.sock"⟩
    let far : Backend := ⟨.named ⟨"far", by decide⟩, "/run/far.sock"⟩
    let r : Router :=
      ⟨primary, [alt, far], ⟨"http", none, .plain "", none, none⟩, rfl, by decide, by decide⟩
    let w := World.steady
      (fun b => if b = far then none else some ⟨if b = alt then .v1alpha2 else .v1, 1⟩)
      (fun _ _ => .ok (Message.encode (⟨[{ id := "c", podSandboxId := "p" }]⟩ :
        ListContainersResponse)))
    let c : Call := ⟨.listContainers, .v1, none⟩
    let blank : ListContainersRequest := Message.blank
    let other : ListContainersRequest := ⟨some { id := "alt__c", podSandboxId := "p" }⟩
    let list (request : ListContainersRequest) :=
      (r.list c request : Handling ListContainersResponse).run.play w []
    let ids (result : Except Fault ListContainersResponse) :=
      result.toOption.map fun response => response.containers.map (·.id)
    ofBackends r.stream [primary, alt, far] = .ok r ∧
    Journal.sent (list blank).2 =
      [(primary, ⟨.v1, 1⟩, c.rpc ⟨.v1, 1⟩ blank),
        (alt, ⟨.v1alpha2, 1⟩, c.rpc ⟨.v1alpha2, 1⟩ blank)] ∧
    Journal.kicked (list blank).2 = [far] ∧ ids (list blank).1 = some ["c", "alt__c"] ∧
    ids (list other).1 = some [] ∧ Journal.sent (list other).2 = [] := by
  intro primary alt far r w c blank other list ids
  have built : ofBackends r.stream [primary, alt, far] = .ok r := rfl
  have merges (request : ListContainersRequest) :
      r.Merges [primary, alt, far] c request ListContainersResponse w [] (list request) :=
    list_merges built .listContainers .v1 none w [] request
  obtain ⟨items, result, gathered⟩ := (merges blank).unfiltered (by decide)
  have owners : r.ownerOfId "alt__c" = (alt, "c") ∧ r.ownerOfId "p" = (primary, "p") := by
    decide +kernel
  have first : (some <$> r.forId "alt__c").run.play w [] =
      (.ok (some (alt, "c")), [⟨.kick alt, ()⟩, ⟨.connected alt, true⟩]) := by
    rw [forId, owners.1]
    rfl
  have second (past : Journal) : (some <$> r.forId "p").run.play w past =
      (.ok (some (primary, "p")), [⟨.await primary, .ok ()⟩]) := by
    rw [forId, owners.2]
    rfl
  have resolved : r.Resolved w other View.filters []
      [⟨.idFilter, alt, "c"⟩, ⟨.podSandboxIdFilter, primary, "p"⟩] _ :=
    .set (by decide) first (.set (by decide) (second _) (.unset (by decide) .nil))
  obtain ⟨empty, silent⟩ := (merges other).disagreed _ _ resolved ⟨.idFilter, alt, "c"⟩ (by simp)
    ⟨.podSandboxIdFilter, primary, "p"⟩ (by simp) (by decide)
  refine ⟨built, ?_, ?_, ?_, by rw [empty]; rfl, silent⟩
  · exact gathered.sent.trans (by decide +kernel)
  · exact gathered.kicked.trans (by decide +kernel)
  · rw [result, gathered.items]
    decide +kernel

/-- A runtime of the legacy schema is connected, but a caller of the current one does not have it
called. -/
theorem list_merges_unserved :
    let primary : Backend := ⟨.primary, "/run/primary.sock"⟩
    let r : Router := ⟨primary, [], ⟨"http", none, .plain "", none, none⟩, rfl, by decide, by decide⟩
    let w := World.steady (fun _ => some ⟨.v1alpha1, 1⟩) (fun _ _ => .ok [])
    let request : ListPodSandboxRequest := Message.blank
    let deeds := ((r.list ⟨.listPodSandbox, .v1, none⟩ request :
      Handling ListPodSandboxResponse).run.play w []).2
    ofBackends r.stream [primary] = .ok r ∧ (∀ view ∈ View.filters, textOf view request = "") ∧
    Journal.visited deeds = [(primary, true)] ∧
    Journal.looked deeds = [(primary, some ⟨.v1alpha1, 1⟩)] ∧
    ¬ (Journal.sent deeds).map Prod.fst =
      ((Journal.visited deeds).filter Prod.snd).map Prod.fst := by
  refine ⟨rfl, by decide, by decide +kernel, by decide +kernel, by decide +kernel⟩

end Router

end RuntimeMux
