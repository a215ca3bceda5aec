import RuntimeMux.Proofs.Routing.Chosen
import RuntimeMux.Proofs.Routing.Gather

/-!
# How a list is narrowed

The filters of a list are looked at one after the other. As long as they agree on the runtime, it is
the only target, and gets every filter as it knows it. As soon as two filters disagree there is no
target left, and nothing is asked any more.
-/

namespace RuntimeMux

open Cri Wire

/-- The views that narrow a list, in the order in which they are looked at. -/
def Cri.View.filters : List View := [.idFilter, .podSandboxIdFilter, .imageFilter]

/-- A type of list requests: its filters can be replaced one by one, and the schemas agree on it. -/
class ListRequest (Req : Type) [Message Req] [Views Req] [Convertible Req] : Prop where
  encode_upgrade : ∀ m : Req, Message.encode (Convertible.upgrade m) = Message.encode m
  textOf_withText : ∀ (view : View) (text : String) (m : Req), Router.textOf view m ≠ "" →
    Router.textOf view (Router.withText view text m) = text
  textOf_withText_of_ne : ∀ (view other : View) (text : String) (m : Req), other ≠ view →
    Router.textOf other (Router.withText view text m) = Router.textOf other m

/-- A filter for which a runtime has been found. -/
structure Found where
  view : View
  backend : Backend
  /-- What the runtime knows the text of the filter as. -/
  own : String

namespace Found

/-- The runtime of a filter knows a text by its own name for it. -/
def Owns (x : Found) (text : String) : Prop :=
  match x.view with
  | .imageFilter =>
    x.backend.scope.ownImage? text = some x.own ∨ isDigest text = true ∧ x.own = text
  | _ => x.backend.scope.ownId? text = some x.own

/-- The targets of a list after the filters. -/
def targets (found : List Found) (start : Targets) : Targets :=
  found.foldl (fun targets x => targets.meet x.backend) start

/-- A request with the filters as their runtimes know them. -/
def apply {Req : Type} [Views Req] (found : List Found) (request : Req) : Req :=
  found.foldl (fun m x => Router.withText x.view x.own m) request

theorem targets_nothing (found : List Found) : targets found .nothing = .nothing := by
  induction found with
  | nil => rfl
  | cons x found ih => exact ih

theorem targets_one (found : List Found) (b : Backend) :
    targets found (.one b) = if ∀ x ∈ found, x.backend = b then .one b else .nothing := by
  induction found with
  | nil => simp [targets]
  | cons x found ih =>
    have step : targets (x :: found) (.one b) =
        targets found (if b = x.backend then .one x.backend else .nothing) := rfl
    rw [step]
    by_cases hx : b = x.backend
    · subst hx
      simp [ih]
    · simp [hx, Ne.symm hx, targets_nothing]

/-- Filters that agree on a runtime leave it as the only target. -/
theorem targets_of_agree {found : List Found} {b : Backend} (some : found ≠ [])
    (agree : ∀ x ∈ found, x.backend = b) : targets found .all = .one b := by
  cases found with
  | nil => exact absurd rfl some
  | cons x found =>
    obtain ⟨rfl, rest⟩ := List.forall_mem_cons.1 agree
    exact (targets_one found x.backend).trans (if_pos rest)

/-- Filters that do not agree leave no target. -/
theorem targets_of_disagree {found : List Found} {x y : Found} (hx : x ∈ found) (hy : y ∈ found)
    (hne : x.backend ≠ y.backend) : targets found .all = .nothing := by
  cases found with
  | nil => cases hx
  | cons z found =>
    refine (targets_one found z.backend).trans (if_neg fun agree => hne ?_)
    have all : ∀ u ∈ z :: found, u.backend = z.backend := List.forall_mem_cons.2 ⟨rfl, agree⟩
    rw [all x hx, all y hy]

variable {Req : Type} [Message Req] [Views Req] [Convertible Req] [ListRequest Req]

theorem textOf_apply_of_notMem {found : List Found} {view : View}
    (other : view ∉ found.map Found.view) (m : Req) :
    Router.textOf view (apply found m) = Router.textOf view m := by
  induction found generalizing m with
  | nil => rfl
  | cons x found ih =>
    simp only [List.map_cons, List.mem_cons, not_or] at other
    exact (ih other.2 _).trans (ListRequest.textOf_withText_of_ne _ _ _ _ other.1)

/-- Every filter is replaced by what its runtime knows it as. -/
theorem textOf_apply {found : List Found} (nodup : (found.map Found.view).Nodup) {m : Req}
    (set : ∀ x ∈ found, Router.textOf x.view m ≠ "") :
    ∀ x ∈ found, Router.textOf x.view (apply found m) = x.own := by
  induction found generalizing m with
  | nil => simp
  | cons x found ih =>
    obtain ⟨new, nodup⟩ := List.nodup_cons.1 nodup
    obtain ⟨first, others⟩ := List.forall_mem_cons.1 set
    refine List.forall_mem_cons.2 ⟨?_, ih nodup fun y hy => ?_⟩
    · exact (textOf_apply_of_notMem new _).trans (ListRequest.textOf_withText _ _ _ first)
    · have hne : y.view ≠ x.view := fun he => new (he ▸ List.mem_map_of_mem hy)
      rw [ListRequest.textOf_withText_of_ne _ _ _ _ hne]
      exact others y hy

end Found

namespace Router

variable {Req : Type} [Views Req]

/-- Finds the runtime of the text of a filter. -/
def resolve (r : Router) : View → String → Handling (Option (Backend × String))
  | .imageFilter, reference => r.forImage? reference
  | _, id => some <$> r.forId id

/-- Narrows the targets of a list by one filter after the other. -/
def narrowAll (r : Router) (views : List View) (narrowed : Req × Targets) :
    Handling (Req × Targets) :=
  views.foldlM (fun narrowed view => narrowBy view (r.resolve view) narrowed) narrowed

theorem narrow_eq (r : Router) (request : Req) :
    r.narrow request = r.narrowAll View.filters (request, .all) := by
  simp only [narrow, narrowAll, View.filters, List.foldlM_cons, List.foldlM_nil, bind_pure]
  rfl

/-- In a world, every filter of a request that is set has a runtime that is ready for calls. -/
inductive Resolved (r : Router) (w : World) (request : Req) :
    List View → Journal → List Found → Journal → Prop where
  | nil {past : Journal} : Resolved r w request [] past [] []
  | unset {view : View} {views : List View} {past deeds : Journal} {found : List Found}
      (ht : textOf view request = "") (rest : Resolved r w request views past found deeds) :
      Resolved r w request (view :: views) past found deeds
  | set {view : View} {views : List View} {past first later : Journal} {found : List Found}
      {b : Backend} {own : String} (ht : textOf view request ≠ "")
      (hr : (r.resolve view (textOf view request)).run.play w past = (.ok (some (b, own)), first))
      (rest : Resolved r w request views (past ++ first) found later) :
      Resolved r w request (view :: views) past (⟨view, b, own⟩ :: found) (first ++ later)

variable {r : Router} {w : World} {request : Req}

theorem silent_resolve (r : Router) (view : View) (text : String) :
    (r.resolve view text).run.Silent := by
  have byId : (some <$> r.forId text).run.Silent := by
    rw [← bind_pure_comp]
    exact .run_bind (r.silent_forId text) fun _ => trivial
  cases view with
  | imageFilter => exact r.silent_forImage? text
  | podSandboxId | containerId | image | idFilter | podSandboxIdFilter | url => exact byId

theorem owns_of_play_resolve {view : View} {text : String} {past deeds : Journal} {b : Backend}
    {own : String} (played : (r.resolve view text).run.play w past = (.ok (some (b, own)), deeds)) :
    b ∈ r.backends ∧ (Found.mk view b own).Owns text := by
  have byId (played : (some <$> r.forId text).run.play w past = (.ok (some (b, own)), deeds)) :
      b ∈ r.backends ∧ b.scope.ownId? text = some own := by
    rw [ExceptT.run_map, Activity.play_map] at played
    generalize hc : (r.forId text).run.play w past = chosen at played
    obtain ⟨fault | owner, first⟩ := chosen
    · cases played
    · cases played
      have owns := r.ownId?_ownerOfId text
      rwa [← eq_ownerOfId_of_play hc] at owns
  cases view with
  | imageFilter =>
    obtain ⟨known, owner⟩ := eq_ownerOfImage_of_play played
    have owns := r.ownImage?_ownerOfImage known text
    rwa [← owner] at owns
  | podSandboxId | containerId | image | idFilter | podSandboxIdFilter | url => exact byId played

/-! ### One filter -/

theorem silent_narrowBy (r : Router) (view : View) (narrowed : Req × Targets) :
    (narrowBy view (r.resolve view) narrowed).run.Silent := by
  obtain ⟨m, targets⟩ := narrowed
  cases targets with
  | nothing => trivial
  | all | one =>
    simp only [narrowBy]
    split
    · trivial
    · refine .run_bind (r.silent_resolve view _) fun found => ?_
      split <;> trivial

theorem play_narrowBy_nothing (view : View) (m : Req) (past : Journal) :
    (narrowBy view (r.resolve view) (m, .nothing)).run.play w past = (.ok (m, .nothing), []) := rfl

theorem play_narrowBy_unset {view : View} {m : Req} (ht : textOf view m = "") (targets : Targets)
    (past : Journal) :
    (narrowBy view (r.resolve view) (m, targets)).run.play w past = (.ok (m, targets), []) := by
  cases targets <;> simp [narrowBy, ht]

/-- What a filter that is set leaves of the targets and the request, by what its runtime is. -/
def narrowedBy (view : View) (m : Req) (targets : Targets) :
    Option (Backend × String) → Req × Targets
  | some (b, own) => (withText view own m, targets.meet b)
  | none => (m, targets.withoutRest)

/-- A filter that is set narrows a list as its runtime is found, and fails as that fails. -/
theorem play_narrowBy {view : View} {m : Req} {targets : Targets} (hn : targets ≠ .nothing)
    (ht : textOf view m ≠ "") (past : Journal) :
    (narrowBy view (r.resolve view) (m, targets)).run.play w past =
      let found := (r.resolve view (textOf view m)).run.play w past
      (found.1.map (narrowedBy view m targets), found.2) := by
  have set : (textOf view m).isEmpty = false := by simpa using ht
  have narrows : (narrowBy view (r.resolve view) (m, targets)) =
      (fun found => narrowedBy view m targets found) <$> r.resolve view (textOf view m) := by
    cases targets with
    | nothing => exact absurd rfl hn
    | all | one =>
      simp only [narrowBy, set, Bool.false_eq_true, if_false, ← bind_pure_comp]
      exact bind_congr fun found => by rcases found with _ | ⟨b, own⟩ <;> rfl
  rw [narrows, ExceptT.run_map, Activity.play_map]

theorem play_narrowBy_set {view : View} {m : Req} {targets : Targets} {past first : Journal}
    {b : Backend} {own : String} (hn : targets ≠ .nothing) (ht : textOf view m ≠ "")
    (hr : (r.resolve view (textOf view m)).run.play w past = (.ok (some (b, own)), first)) :
    (narrowBy view (r.resolve view) (m, targets)).run.play w past =
      (.ok (withText view own m, targets.meet b), first) := by
  rw [play_narrowBy hn ht, hr]
  rfl

/-! ### All filters -/

theorem play_narrowAll_cons (r : Router) (view : View) (views : List View)
    (narrowed next : Req × Targets) {past deeds : Journal}
    (played : (narrowBy view (r.resolve view) narrowed).run.play w past = (.ok next, deeds)) :
    (r.narrowAll (view :: views) narrowed).run.play w past =
      let rest := (r.narrowAll views next).run.play w (past ++ deeds)
      (rest.1, deeds ++ rest.2) := by
  rw [narrowAll, List.foldlM_cons, Activity.play_run_bind, played]
  rfl

/-- If no target is left, nothing is asked any more. -/
theorem play_narrowAll_nothing (r : Router) (views : List View) (m : Req) (past : Journal) :
    (r.narrowAll views (m, .nothing)).run.play w past = (.ok (m, .nothing), []) := by
  induction views generalizing past with
  | nil => rfl
  | cons view views ih =>
    rw [play_narrowAll_cons r view views _ _ (play_narrowBy_nothing view m past)]
    simp [ih]

theorem play_narrowAll_unset {views : List View} {m : Req}
    (unset : ∀ view ∈ views, textOf view m = "") (targets : Targets) (past : Journal) :
    (r.narrowAll views (m, targets)).run.play w past = (.ok (m, targets), []) := by
  induction views generalizing past with
  | nil => rfl
  | cons view views ih =>
    obtain ⟨first, rest⟩ := List.forall_mem_cons.1 unset
    rw [play_narrowAll_cons r view views _ _ (play_narrowBy_unset first targets past)]
    simp [ih rest]

/-- No call is sent to narrow a list. -/
theorem silent_narrowAll (r : Router) (views : List View) (narrowed : Req × Targets) :
    (r.narrowAll views narrowed).run.Silent := by
  induction views generalizing narrowed with
  | nil => trivial
  | cons view views ih =>
    exact .run_bind (r.silent_narrowBy view narrowed) ih

section

variable [Message Req] [Convertible Req] [ListRequest Req]

/-- A filter that is replaced leaves those behind it as they are. -/
theorem textOf_withText_of_notMem {view : View} {views : List View} (new : view ∉ views) {m : Req}
    (same : ∀ other ∈ views, textOf other m = textOf other request) (own : String) :
    ∀ other ∈ views, textOf other (withText view own m) = textOf other request := by
  intro other mem
  rw [ListRequest.textOf_withText_of_ne view other own m fun he => new (he ▸ mem)]
  exact same other mem

/-- Filters that have been resolved narrow the targets to their runtimes. Unless they leave no
target, the request is changed accordingly. -/
theorem Resolved.play_narrowAll {views : List View} {past deeds : Journal} {found : List Found}
    (resolved : Resolved r w request views past found deeds) (nodup : views.Nodup) {m : Req}
    (same : ∀ view ∈ views, textOf view m = textOf view request) (start : Targets) :
    ∃ narrowed asked, (r.narrowAll views (m, start)).run.play w past =
        (.ok (narrowed, Found.targets found start), asked) ∧
      (Found.targets found start ≠ .nothing → narrowed = Found.apply found m ∧ asked = deeds) := by
  induction resolved generalizing m start with
  | nil => exact ⟨m, [], rfl, fun _ => ⟨rfl, rfl⟩⟩
  | @unset view views past deeds found ht rest ih =>
    obtain ⟨-, nodup⟩ := List.nodup_cons.1 nodup
    obtain ⟨first, others⟩ := List.forall_mem_cons.1 same
    obtain ⟨narrowed, asked, played, changed⟩ := ih nodup others start
    refine ⟨narrowed, asked, ?_, changed⟩
    rw [play_narrowAll_cons r view views _ _ (play_narrowBy_unset (first.trans ht) start past)]
    simp [played]
  | @set view views past first later found b own ht hr rest ih =>
    obtain ⟨new, nodup⟩ := List.nodup_cons.1 nodup
    obtain ⟨text, others⟩ := List.forall_mem_cons.1 same
    by_cases hn : start = .nothing
    · subst hn
      refine ⟨m, [], ?_, fun left => absurd (Found.targets_nothing _) left⟩
      rw [play_narrowAll_nothing, Found.targets_nothing]
    · have step := play_narrowBy_set hn (by rwa [text]) (by rwa [text])
      have still := textOf_withText_of_notMem new others own
      obtain ⟨narrowed, asked, played, changed⟩ := ih nodup still (start.meet b)
      refine ⟨narrowed, first ++ asked, ?_, fun left => ?_⟩
      · rw [play_narrowAll_cons r view views _ _ step, played]
        rfl
      · obtain ⟨rfl, rfl⟩ := changed left
        exact ⟨rfl, rfl⟩

end

/-! ### What has been resolved -/

theorem Resolved.sublist {views : List View} {past deeds : Journal} {found : List Found}
    (resolved : Resolved r w request views past found deeds) :
    (found.map Found.view).Sublist views := by
  induction resolved with
  | nil => exact .slnil
  | unset _ _ ih => exact ih.cons _
  | set _ _ _ ih => exact ih.cons_cons _

theorem Resolved.mem_of_set {views : List View} {past deeds : Journal} {found : List Found}
    (resolved : Resolved r w request views past found deeds) :
    ∀ view ∈ views, textOf view request ≠ "" → view ∈ found.map Found.view := by
  induction resolved with
  | nil => simp
  | unset ht _ ih => exact List.forall_mem_cons.2 ⟨fun set => absurd ht set, ih⟩
  | set _ _ _ ih =>
    exact List.forall_mem_cons.2
      ⟨fun _ => List.mem_cons_self, fun view hv set => List.mem_cons_of_mem _ (ih view hv set)⟩

/-- A filter that is found is set, and its runtime owns the text of it. -/
theorem Resolved.owned {views : List View} {past deeds : Journal} {found : List Found}
    (resolved : Resolved r w request views past found deeds) :
    ∀ x ∈ found, textOf x.view request ≠ "" ∧ x.backend ∈ r.backends ∧
      x.Owns (textOf x.view request) := by
  induction resolved with
  | nil => simp
  | unset _ _ ih => exact ih
  | @set view views past first later found b own ht hr rest ih =>
    refine List.forall_mem_cons.2 ⟨⟨ht, ?_⟩, ih⟩
    exact owns_of_play_resolve hr

end Router

end RuntimeMux
