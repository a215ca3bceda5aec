import RuntimeMux.Proofs.Routing.Merge
import RuntimeMux.Proofs.Routing.Ready

/-!
# What lists tolerate

A list that has been narrowed never fails: a runtime that is away, or whose call fails, contributes no
items. To narrow it is less tolerant. The runtime of every filter is made ready like that of any other
call, and if it is not ready, the list fails. Only the filter by an image of a named runtime is
tolerant: it leaves nothing then.
-/

namespace RuntimeMux

open Cri Wire

namespace Router

variable {Req Resp : Type} {r : Router} {w : World} {past deeds : Journal} {fault : Fault}

/-! ### Filters whose runtimes are not ready -/

/-- The runtime of the text of a filter, ready or not. -/
def filterOwner (r : Router) : View → String → Activity (Backend × String)
  | .imageFilter, reference => r.findImage reference
  | _, id => return r.ownerOfId id

/-- A filter has a runtime that is not ready. A named runtime of an image may be away. -/
def Unresolved (r : Router) (w : World) (past : Journal) (view : View) (text : String)
    (fault : Fault) : Prop :=
  let (owner, asked) := (r.filterOwner view text).play w past
  Unready w (past ++ asked) owner.1 fault ∧
    (view = .imageFilter → ∀ id, fault ≠ .targetUnavailable id)

/-- In a world, a filter stops a list: those in front of it have been resolved and agree on a
runtime, and its own runtime is not ready. -/
inductive Stopped [Views Req] (r : Router) (w : World) (request : Req) (fault : Fault) :
    List View → Targets → Journal → Prop where
  /-- It is the first filter. -/
  | here {view : View} {views : List View} {targets : Targets} {past : Journal}
      (ht : textOf view request ≠ "")
      (hu : r.Unresolved w past view (textOf view request) fault) :
      Stopped r w request fault (view :: views) targets past
  /-- The first filter is not set. -/
  | unset {view : View} {views : List View} {targets : Targets} {past : Journal}
      (ht : textOf view request = "") (rest : Stopped r w request fault views targets past) :
      Stopped r w request fault (view :: views) targets past
  /-- The first filter has a runtime, which agrees with those so far. -/
  | later {view : View} {views : List View} {targets : Targets} {past first : Journal}
      {b : Backend} {own : String} (ht : textOf view request ≠ "")
      (hr : (r.resolve view (textOf view request)).run.play w past = (.ok (some (b, own)), first))
      (agree : targets.meet b ≠ .nothing)
      (rest : Stopped r w request fault views (targets.meet b) (past ++ first)) :
      Stopped r w request fault (view :: views) targets past

theorem play_forId_eq_error_iff {id : String} :
    ((r.forId id).run.play w past).1 = .error fault ↔
      Unready w past (r.ownerOfId id).1 fault := by
  rw [← play_ready_eq_error_iff, forId, Activity.play_run_bind]
  generalize (ready (r.ownerOfId id).1).run.play w past = readied
  obtain ⟨_ | _, deeds⟩ := readied <;> simp

theorem play_forImage_eq_error_iff {reference : String} :
    ((r.forImage reference).run.play w past).1 = .error fault ↔
      let (owner, asked) := (r.findImage reference).play w past
      Unready w (past ++ asked) owner.1 fault := by
  simp only [← play_ready_eq_error_iff, forImage, Activity.play_run_bind, Activity.play_run_lift]
  generalize (r.findImage reference).play w past = found
  obtain ⟨owner, asked⟩ := found
  generalize (ready owner.1).run.play w (past ++ asked) = readied
  obtain ⟨_ | _, deeds⟩ := readied <;> simp

/-- What a list takes the choice of a runtime for: a named runtime that is away is no choice. -/
def tolerant {α : Type} : Except Fault α → Except Fault (Option α)
  | .ok x => .ok (some x)
  | .error (.targetUnavailable _) => .ok none
  | .error fault => .error fault

theorem tolerant_eq_error_iff {α : Type} {result : Except Fault α} :
    tolerant result = .error fault ↔
      result = .error fault ∧ ∀ id, fault ≠ .targetUnavailable id := by
  rcases result with other | x
  · cases other with
    | targetUnavailable id =>
      simp only [tolerant, Except.error.injEq, reduceCtorEq, false_iff, not_and]
      rintro rfl unavailable
      exact unavailable id rfl
    | _ =>
      simp only [tolerant, Except.error.injEq, iff_self_and]
      rintro rfl id
      nofun
  · simp [tolerant]

theorem play_forImage? (r : Router) (reference : String) (w : World) (past : Journal) :
    (r.forImage? reference).run.play w past =
      (tolerant ((r.forImage reference).run.play w past).1,
        ((r.forImage reference).run.play w past).2) := by
  rw [forImage?, Activity.play_run_tryCatch, ExceptT.run_map, Activity.play_map]
  generalize (r.forImage reference).run.play w past = chosen
  obtain ⟨fault | owner, deeds⟩ := chosen
  · cases fault <;> simp [tolerant, Except.map]
  · rfl

theorem play_resolve_eq_error_iff {view : View} {text : String} :
    ((r.resolve view text).run.play w past).1 = .error fault ↔
      r.Unresolved w past view text fault := by
  have byId : ((some <$> r.forId text).run.play w past).1 = .error fault ↔
      Unready w past (r.ownerOfId text).1 fault := by
    rw [← play_forId_eq_error_iff, ExceptT.run_map, Activity.play_map]
    cases ((r.forId text).run.play w past).1 <;> simp [Except.map]
  cases view with
  | imageFilter =>
    rw [resolve, play_forImage?, tolerant_eq_error_iff, play_forImage_eq_error_iff]
    simp [Unresolved, filterOwner]
  | podSandboxId | containerId | image | idFilter | podSandboxIdFilter | url =>
    refine byId.trans ?_
    simp [Unresolved, filterOwner]

/-- Only an image can be without a runtime. -/
theorem view_of_play_resolve_eq_none {view : View} {text : String}
    (played : (r.resolve view text).run.play w past = (.ok none, deeds)) :
    view = .imageFilter := by
  have byId : (some <$> r.forId text).run.play w past ≠ (.ok none, deeds) := by
    rw [ExceptT.run_map, Activity.play_map]
    cases ((r.forId text).run.play w past).1 <;> simp [Except.map]
  cases view with
  | imageFilter => rfl
  | podSandboxId | containerId | image | idFilter | podSandboxIdFilter | url =>
    exact absurd played byId

/-! ### Narrowing that fails -/

section

variable [Views Req] {view : View} {views : List View} {m request : Req} {targets : Targets}

theorem play_narrowBy_error (hn : targets ≠ .nothing) (ht : textOf view m ≠ "")
    (hr : (r.resolve view (textOf view m)).run.play w past = (.error fault, deeds)) :
    (narrowBy view (r.resolve view) (m, targets)).run.play w past = (.error fault, deeds) := by
  rw [play_narrowBy hn ht, hr]
  rfl

theorem play_narrowBy_none (hn : targets ≠ .nothing) (ht : textOf view m ≠ "")
    (hr : (r.resolve view (textOf view m)).run.play w past = (.ok none, deeds)) :
    (narrowBy view (r.resolve view) (m, targets)).run.play w past =
      (.ok (m, targets.withoutRest), deeds) := by
  rw [play_narrowBy hn ht, hr]
  rfl

theorem play_narrowAll_error (views : List View) {narrowed : Req × Targets}
    (played : (narrowBy view (r.resolve view) narrowed).run.play w past = (.error fault, deeds)) :
    (r.narrowAll (view :: views) narrowed).run.play w past = (.error fault, deeds) := by
  rw [narrowAll, List.foldlM_cons, Activity.play_run_bind, played]

variable [Message Req] [Convertible Req] [ListRequest Req]

/-- A filter that stops a list makes it fail. -/
theorem Stopped.play_narrowAll (stopped : r.Stopped w request fault views targets past)
    (nodup : views.Nodup) (same : ∀ view ∈ views, textOf view m = textOf view request)
    (hn : targets ≠ .nothing) :
    ((r.narrowAll views (m, targets)).run.play w past).1 = .error fault := by
  induction stopped generalizing m with
  | @here view views targets past ht hu =>
    have text := same view List.mem_cons_self
    rw [← text] at ht hu
    have failed := play_resolve_eq_error_iff.2 hu
    rw [play_narrowAll_error views (play_narrowBy_error hn ht (Prod.ext failed rfl))]
  | @unset view views targets past ht _ ih =>
    obtain ⟨-, nodup⟩ := List.nodup_cons.1 nodup
    obtain ⟨text, others⟩ := List.forall_mem_cons.1 same
    rw [play_narrowAll_cons r view views _ _ (play_narrowBy_unset (text.trans ht) targets past)]
    simpa using ih nodup others hn
  | @later view views targets past first b own ht hr agree _ ih =>
    obtain ⟨new, nodup⟩ := List.nodup_cons.1 nodup
    obtain ⟨text, others⟩ := List.forall_mem_cons.1 same
    rw [← text] at ht hr
    rw [play_narrowAll_cons r view views _ _ (play_narrowBy_set hn ht hr)]
    exact ih nodup (textOf_withText_of_notMem new others own) agree

/-- A list that fails has been stopped by a filter, provided that the filter by an image comes
last. -/
theorem Stopped.of_play_narrowAll
    (failed : ((r.narrowAll views (m, targets)).run.play w past).1 = .error fault)
    (nodup : views.Nodup) (last : views.Pairwise fun view _ => view ≠ .imageFilter)
    (same : ∀ view ∈ views, textOf view m = textOf view request) :
    r.Stopped w request fault views targets past := by
  induction views generalizing m targets past with
  | nil => cases failed
  | cons view views ih =>
    obtain ⟨new, nodup⟩ := List.nodup_cons.1 nodup
    obtain ⟨text, others⟩ := List.forall_mem_cons.1 same
    obtain ⟨front, last⟩ := List.pairwise_cons.1 last
    by_cases hn : targets = .nothing
    · subst hn
      rw [play_narrowAll_nothing] at failed
      cases failed
    by_cases ht : textOf view m = ""
    · rw [play_narrowAll_cons r view views _ _ (play_narrowBy_unset ht targets past)] at failed
      simp only [List.append_nil] at failed
      exact .unset (text ▸ ht) (ih failed nodup last others)
    cases hr : (r.resolve view (textOf view m)).run.play w past with
    | mk result first =>
      rcases result with other | _ | ⟨b, own⟩
      · rw [play_narrowAll_error views (play_narrowBy_error hn ht hr)] at failed
        cases failed
        rw [text] at ht hr
        exact .here ht (play_resolve_eq_error_iff.1 (congrArg Prod.fst hr))
      · -- an image without a runtime is the last filter
        obtain rfl := view_of_play_resolve_eq_none hr
        cases views with
        | nil =>
          rw [play_narrowAll_cons r _ _ _ _ (play_narrowBy_none hn ht hr)] at failed
          cases failed
        | cons next views => exact absurd rfl (front next List.mem_cons_self)
      · rw [play_narrowAll_cons r view views _ _ (play_narrowBy_set hn ht hr)] at failed
        have rest := ih failed nodup last (textOf_withText_of_notMem new others own)
        refine .later (text ▸ ht) (text ▸ hr) (fun nothing => ?_) rest
        rw [nothing, play_narrowAll_nothing] at failed
        cases failed

end

/-! ### Lists -/

variable [Message Req] [Views Req] [Convertible Req] [Message Resp] [Convertible Resp]
  [Listing Resp] {request : Req} {c : Call}

/-- What a list tolerates. -/
structure Tolerates (r : Router) (c : Call) (request : Req) (Resp : Type) [Message Resp]
    [Convertible Resp] [Listing Resp] (w : World) (past : Journal)
    (played : Except Fault Resp × Journal) : Prop where
  /-- A list fails exactly if a filter stops it. -/
  fails_iff : ∀ fault, played.1 = .error fault ↔ r.Stopped w request fault View.filters .all past
  /-- If it fails, no call has been sent. -/
  silent : ∀ fault, played.1 = .error fault → Journal.sent played.2 = []
  /-- Otherwise it is gathered from runtimes, whatever they answer. One that is away or fails
  contributes nothing. -/
  gathered : (∀ fault, ¬ r.Stopped w request fault View.filters .all past) →
    ∃ narrowed targets asked deeds items,
      (r.narrow request).run.play w past = (.ok (narrowed, targets), asked) ∧
      played = (.ok (Listing.setItems items Message.blank), asked ++ deeds) ∧
      Journal.sent asked = [] ∧ Gathered c narrowed Resp (targets.toList r) deeds items

variable (Resp) in
/-- A list that cannot be narrowed fails before anything is sent. -/
theorem play_list_error (c : Call)
    (hn : (r.narrow request).run.play w past = (.error fault, deeds)) :
    (r.list c request : Handling Resp).run.play w past = (.error fault, deeds) := by
  rw [list, Activity.play_run_bind, hn]

theorem play_narrow_eq_error_iff [ListRequest Req] :
    ((r.narrow request).run.play w past).1 = .error fault ↔
      r.Stopped w request fault View.filters .all past := by
  rw [narrow_eq]
  constructor
  · intro failed
    exact .of_play_narrowAll failed (by decide) (by decide) fun _ _ => rfl
  · intro stopped
    exact stopped.play_narrowAll (by decide) (fun _ _ => rfl) nofun

variable (Resp) in
/-- What a list tolerates whose requests can be narrowed. -/
theorem tolerates_of_listRequest [ListRequest Req] (r : Router) (c : Call) (request : Req)
    (w : World) (past : Journal) :
    r.Tolerates c request Resp w past ((r.list c request).run.play w past) := by
  have silent := (r.silent_narrowAll View.filters (request, .all)).sent_play (w := w) past
  have stopped (fault : Fault) : ((r.narrow request).run.play w past).1 = .error fault ↔
      r.Stopped w request fault View.filters .all past := play_narrow_eq_error_iff
  rw [← narrow_eq] at silent
  cases hn : (r.narrow request).run.play w past with
  | mk result asked =>
    rw [hn] at silent
    rcases result with other | ⟨narrowed, targets⟩
    · have failed := play_list_error Resp c hn
      rw [failed]
      refine ⟨fun fault => ?_, fun _ _ => silent, fun unstopped => ?_⟩
      · rw [← stopped, hn]
        simp
      · exact absurd ((stopped other).1 (by rw [hn])) (unstopped other)
    · rw [play_list Resp c hn]
      refine ⟨fun fault => ?_, nofun, fun _ => ?_⟩
      · rw [← stopped, hn]
        simp
      · refine ⟨narrowed, targets, asked, _, _, hn, rfl, silent, ?_⟩
        exact .of_play c narrowed (targets.toList r) w (past ++ asked)

end Router

/-! ### Methods -/

/-- Every list can be narrowed. -/
theorem Method.listRequest_exchange (m : Method) (s : Schema) :
    match m.exchange s with
    | @Exchange.routed .. => True
    | @Exchange.listed Req _ _ _ _ _ _ _ => ListRequest Req := by
  cases m with
  | listPodSandbox => exact inferInstanceAs (ListRequest ListPodSandboxRequest)
  | listContainers => exact inferInstanceAs (ListRequest ListContainersRequest)
  | listContainerStats => cases s <;> exact inferInstanceAs (ListRequest ListContainerStatsRequest)
  | listImages => exact inferInstanceAs (ListRequest ListImagesRequest)
  | imageFsInfo => cases s <;> exact inferInstanceAs (ListRequest ImageFsInfoRequest)
  | runPodSandbox | podSandboxStatus | createContainer | containerStats | pullImage =>
    cases s <;> trivial
  | version | status | updateRuntimeConfig | stopPodSandbox | removePodSandbox | startContainer
  | stopContainer | removeContainer | containerStatus | updateContainerResources
  | reopenContainerLog | execSync | exec | attach | portForward | imageStatus | removeImage =>
    trivial

namespace Router

/-- A list ends well unless a filter has a runtime that is not ready: a named runtime of an id that
is not connected, or the primary one that cannot be waited for. Then it fails with the fault of that
runtime. -/
theorem list_tolerates (r : Router) (m : Method) (revision : Revision) (deadline : Option Span)
    (w : World) (past : Journal) :
    match m.exchange revision.schema with
    | @Exchange.routed .. => True
    | @Exchange.listed Req Resp _ _ _ _ _ _ =>
      let c : Call := ⟨m, revision, deadline⟩
      ∀ request : Req,
        r.Tolerates c request Resp w past ((r.list c request : Handling Resp).run.play w past) := by
  have narrows := m.listRequest_exchange revision.schema
  revert narrows
  cases m.exchange revision.schema with
  | routed => exact fun _ => trivial
  | @listed Req Resp =>
    intro narrows request
    exact tolerates_of_listRequest Resp r _ request w past

/-- A named runtime is away. Without filters its items are left out, but an id of it makes the list
fail. -/
theorem list_tolerates_away :
    let primary : Backend := ⟨.primary, "/run/primary.sock"⟩
    let alt : Backend := ⟨.named ⟨"alt", by decide⟩, "/run/alt.sock"⟩
    let r : Router :=
      ⟨primary, [alt], ⟨"http", none, .plain "", none, none⟩, rfl, by decide, by decide⟩
    let w := World.steady (fun b => if b = alt then none else some ⟨.v1, 1⟩) (fun _ _ => .ok [])
    let own : ListContainersRequest := ⟨some { id := "alt__c1" }⟩
    let list (request : ListContainersRequest) :=
      (r.list ⟨.listContainers, .v1, none⟩ request : Handling ListContainersResponse).run.play w []
    ofBackends r.stream [primary, alt] = .ok r ∧
    (∃ response, (list Message.blank).1 = .ok response) ∧
    (list own).1 = .error (.targetUnavailable "alt") ∧
    ¬ ∃ response, (list own).1 = .ok response := by
  intro primary alt r w own list
  have owner : r.ownerOfId "alt__c1" = (alt, "c1") := by decide +kernel
  have unready : (r.forId "alt__c1").run.play w [] =
      (.error (.targetUnavailable "alt"), [⟨.kick alt, ()⟩, ⟨.connected alt, false⟩]) := by
    rw [forId, owner]
    rfl
  have unresolved : (r.resolve .idFilter (textOf .idFilter own)).run.play w [] =
      (.error (.targetUnavailable "alt"), [⟨.kick alt, ()⟩, ⟨.connected alt, false⟩]) := by
    change (some <$> r.forId "alt__c1").run.play w [] = _
    rw [ExceptT.run_map, Activity.play_map, unready]
    rfl
  have narrowed : (r.narrow own).run.play w [] =
      (.error (.targetUnavailable "alt"), [⟨.kick alt, ()⟩, ⟨.connected alt, false⟩]) := by
    rw [narrow_eq]
    exact play_narrowAll_error _ (play_narrowBy_error (by simp) (by decide) unresolved)
  have failed : (list own).1 = .error (.targetUnavailable "alt") :=
    congrArg Prod.fst (play_list_error ListContainersResponse _ narrowed)
  exact ⟨rfl, ⟨_, rfl⟩, failed, by simp [failed]⟩

end Router

end RuntimeMux
