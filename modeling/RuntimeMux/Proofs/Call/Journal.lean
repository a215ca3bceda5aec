import RuntimeMux.Activity

/-!
# Journals

What the proxy does for a call depends on what answers its acts, and that may be anything: the
runtimes, the connections and other calls go their own ways. A world answers every act, in view of
all that has been done before, and the journal of an activity is what it does in a world, with the
answers. So a law for all worlds is one for everything that can happen.
-/

namespace RuntimeMux

/-- An act that has been performed, and what answered it. -/
structure Deed where
  act : Act
  answer : act.Answer

/-- What has been done, in order. -/
abbrev Journal := List Deed

/-- What answers the acts, depending on what has been done before. -/
abbrev World := Journal → (a : Act) → a.Answer

namespace World

/-- Performs an act and writes it down. -/
def perform (w : World) (a : Act) : StateM Journal a.Answer :=
  fun past => (w past a, past ++ [⟨a, w past a⟩])

/-- A world in which links and replies are always the same. -/
def steady (link? : Backend → Option Link)
    (reply : Backend → Rpc → Except Status Wire.Bytes) : World
  | _, .await _ => .ok ()
  | _, .connected b => (link? b).isSome
  | _, .link b => link? b
  | _, .generation b => ((link? b).map Link.generation).getD 0
  | _, .send b _ rpc => reply b rpc
  | _, .nameOf _ => none
  | _, .kick _ | _, .reconnect _ _ | _, .record _ _ | _, .forget _ | _, .forgetName _ => ()

end World

namespace Activity

variable {α β : Type} {w : World}

/-- Plays an activity in a world: what it ends with, and what is done. -/
def play (w : World) : Activity α → Journal → α × Journal
  | .done x, _ => (x, [])
  | .act a next, past =>
    let (x, deeds) := (next (w past a)).play w (past ++ [⟨a, w past a⟩])
    (x, ⟨a, w past a⟩ :: deeds)

/-- To play an activity is to run it and write down what is done. -/
theorem run_perform (w : World) (t : Activity α) (past : Journal) :
    (t.run w.perform).run past = ((t.play w past).1, past ++ (t.play w past).2) := by
  induction t generalizing past with
  | done x => rw [play, List.append_nil]; rfl
  | act a next ih =>
    have rest := ih (w past a) (past ++ [⟨a, w past a⟩])
    rw [List.append_assoc] at rest
    exact rest

@[simp]
theorem play_pure (x : α) (past : Journal) : (pure x : Activity α).play w past = (x, []) := rfl

@[simp]
theorem play_once (a : Act) (past : Journal) :
    (once a).play w past = (w past a, [⟨a, w past a⟩]) := rfl

theorem play_bind (t : Activity α) (f : α → Activity β) (past : Journal) :
    (t >>= f).play w past =
      let first := t.play w past
      let second := (f first.1).play w (past ++ first.2)
      (second.1, first.2 ++ second.2) := by
  induction t generalizing past with
  | done x => simp [play]
  | act a next ih => simp [play, ih]

@[simp]
theorem play_map (f : α → β) (t : Activity α) (past : Journal) :
    (f <$> t).play w past = (f (t.play w past).1, (t.play w past).2) := by
  rw [← bind_pure_comp, play_bind]
  simp

/-- What is written down is what the world answered, in view of all that was done before. -/
theorem answer_of_play {t : Activity α} {past before after : Journal} {d : Deed}
    (played : (t.play w past).2 = before ++ d :: after) : d.answer = w (past ++ before) d.act := by
  induction t generalizing past before with
  | done x => simp [play] at played
  | act a next ih =>
    cases before with
    | nil =>
      obtain ⟨rfl, -⟩ := List.cons.inj played
      simp
    | cons e before =>
      obtain ⟨rfl, rest⟩ := List.cons.inj played
      simpa using ih _ rest

theorem answer_of_mem_play (t : Activity α) (past : Journal) :
    ∀ d ∈ (t.play w past).2, ∃ before, d.answer = w before d.act := by
  intro d hd
  obtain ⟨before, after, played⟩ := List.append_of_mem hd
  exact ⟨past ++ before, answer_of_play played⟩

/-! ### Handlings -/

@[simp]
theorem play_run_pure (x : α) (past : Journal) :
    (pure x : Handling α).run.play w past = (.ok x, []) := rfl

@[simp]
theorem play_run_throw (fault : Fault) (past : Journal) :
    (throw fault : Handling α).run.play w past = (.error fault, []) := rfl

theorem play_run_lift (t : Activity α) (past : Journal) :
    (ExceptT.lift t : Handling α).run.play w past = (.ok (t.play w past).1, (t.play w past).2) := by
  rw [ExceptT.run_lift, play_map]

@[simp]
theorem play_run_once (a : Act) (past : Journal) :
    (Handling.once a).run.play w past = (.ok (w past a), [⟨a, w past a⟩]) := rfl

@[simp]
theorem play_run_await (b : Backend) (past : Journal) :
    (Handling.await b).run.play w past = (w past (.await b), [⟨.await b, w past (.await b)⟩]) :=
  rfl

theorem play_run_bind (h : Handling α) (f : α → Handling β) (past : Journal) :
    (h >>= f).run.play w past =
      match h.run.play w past with
      | (.ok x, deeds) =>
        let second := (f x).run.play w (past ++ deeds)
        (second.1, deeds ++ second.2)
      | (.error fault, deeds) => (.error fault, deeds) := by
  rw [ExceptT.run_bind, play_bind]
  generalize h.run.play w past = result
  obtain ⟨_ | _, deeds⟩ := result <;> simp

/-- A handling that ends well has done so in all its parts. -/
theorem play_run_bind_eq_ok {h : Handling α} {f : α → Handling β} {past deeds : Journal} {y : β}
    (played : (h >>= f).run.play w past = (.ok y, deeds)) :
    ∃ x first rest, h.run.play w past = (.ok x, first) ∧
      (f x).run.play w (past ++ first) = (.ok y, rest) ∧ deeds = first ++ rest := by
  rw [play_run_bind] at played
  generalize h.run.play w past = result at played
  obtain ⟨fault | x, first⟩ := result
  · cases played
  · obtain ⟨ended, rfl⟩ := Prod.mk.inj played
    exact ⟨x, first, _, rfl, Prod.ext ended rfl, rfl⟩

theorem play_run_tryCatch (h : Handling α) (f : Fault → Handling α) (past : Journal) :
    (tryCatch h f).run.play w past =
      match h.run.play w past with
      | (.ok x, deeds) => (.ok x, deeds)
      | (.error fault, deeds) =>
        let second := (f fault).run.play w (past ++ deeds)
        (second.1, deeds ++ second.2) := by
  rw [ExceptT.run_tryCatch, play_bind]
  generalize h.run.play w past = result
  obtain ⟨_ | _, deeds⟩ := result <;> simp

end Activity

/-! ### What stands in a journal -/

namespace Deed

/-- The runtime that is looked at, and whether it is connected. -/
def visited? : Deed → Option (Backend × Bool)
  | ⟨.connected b, yes⟩ => some (b, yes)
  | _ => none

/-- The runtime whose link is looked up, and what is found. -/
def looked? : Deed → Option (Backend × Option Link)
  | ⟨.link b, found⟩ => some (b, found)
  | _ => none

/-- The runtime whose connection is asked for in passing. -/
def kicked? : Deed → Option Backend
  | ⟨.kick b, _⟩ => some b
  | _ => none

/-- The call that is sent to a runtime on a link. -/
def sent? : Deed → Option (Backend × Link × Rpc)
  | ⟨.send b link rpc, _⟩ => some (b, link, rpc)
  | _ => none

/-- The runtime whose connection is given up, and the generation of its link. -/
def reconnected? : Deed → Option (Backend × Nat)
  | ⟨.reconnect b generation, _⟩ => some (b, generation)
  | _ => none

end Deed

namespace Journal

/-- The runtimes that are looked at, and whether they are connected. -/
def visited (deeds : Journal) : List (Backend × Bool) :=
  deeds.filterMap Deed.visited?

/-- The runtimes whose links are looked up, and what is found. -/
def looked (deeds : Journal) : List (Backend × Option Link) :=
  deeds.filterMap Deed.looked?

/-- The runtimes whose connections are asked for in passing. -/
def kicked (deeds : Journal) : List Backend :=
  deeds.filterMap Deed.kicked?

/-- The calls that are sent to runtimes. -/
def sent (deeds : Journal) : List (Backend × Link × Rpc) :=
  deeds.filterMap Deed.sent?

/-- The runtimes whose connections are given up, and the generations of their links. -/
def reconnected (deeds : Journal) : List (Backend × Nat) :=
  deeds.filterMap Deed.reconnected?

variable {deeds later : Journal}

@[simp]
theorem visited_append : visited (deeds ++ later) = visited deeds ++ visited later :=
  List.filterMap_append

@[simp]
theorem looked_append : looked (deeds ++ later) = looked deeds ++ looked later :=
  List.filterMap_append

@[simp]
theorem kicked_append : kicked (deeds ++ later) = kicked deeds ++ kicked later :=
  List.filterMap_append

@[simp]
theorem sent_append : sent (deeds ++ later) = sent deeds ++ sent later :=
  List.filterMap_append

@[simp]
theorem reconnected_append :
    reconnected (deeds ++ later) = reconnected deeds ++ reconnected later :=
  List.filterMap_append

theorem mem_reconnected_iff {b : Backend} {generation : Nat} :
    (b, generation) ∈ reconnected deeds ↔ ⟨.reconnect b generation, ()⟩ ∈ deeds := by
  constructor
  · intro mem
    obtain ⟨⟨act, answer⟩, mem, given⟩ := List.mem_filterMap.1 mem
    cases act with
    | reconnect =>
      cases given
      exact mem
    | await | kick | connected | link | generation | send | nameOf | record | forget
    | forgetName =>
      cases given
  · exact fun mem => List.mem_filterMap.2 ⟨_, mem, rfl⟩

theorem mem_sent {b : Backend} {link : Link} {rpc : Rpc} {answer : Except Status Wire.Bytes}
    (mem : ⟨.send b link rpc, answer⟩ ∈ deeds) : (b, link, rpc) ∈ sent deeds :=
  List.mem_filterMap.2 ⟨_, mem, rfl⟩

end Journal

/-- A call that is sent is answered by the world. -/
theorem Activity.mem_play_of_sent {α : Type} {w : World} (t : Activity α) {past : Journal}
    {b : Backend} {link : Link} {rpc : Rpc}
    (sent : (b, link, rpc) ∈ Journal.sent (t.play w past).2) :
    ∃ before, ⟨.send b link rpc, w before (.send b link rpc)⟩ ∈ (t.play w past).2 := by
  obtain ⟨⟨act, answer⟩, mem, call⟩ := List.mem_filterMap.1 sent
  obtain ⟨before, answered⟩ := t.answer_of_mem_play past _ mem
  cases act with
  | send =>
    cases call
    exact ⟨before, answered ▸ mem⟩
  | await | kick | connected | link | generation | reconnect | nameOf | record | forget
  | forgetName =>
    cases call

/-! ### Activities that keep to some acts -/

/-- The runtime that an act is about, unless it is about the names of images. -/
def Act.backend? : Act → Option Backend
  | .await b | .kick b | .connected b | .link b | .generation b | .reconnect b _ | .send b _ _ =>
    some b
  | .nameOf _ | .record _ _ | .forget _ | .forgetName _ => none

namespace Activity

variable {α β : Type} {w : World} {allowed : Act → Prop}

/-- Whatever answers its acts, an activity performs only acts that are allowed. -/
def Within (allowed : Act → Prop) : Activity α → Prop
  | .done _ => True
  | .act a next => allowed a ∧ ∀ answer, (next answer).Within allowed

theorem within_once {a : Act} (ha : allowed a) : (once a).Within allowed :=
  ⟨ha, fun _ => trivial⟩

theorem Within.imp {t : Activity α} (ht : t.Within allowed) {more : Act → Prop}
    (h : ∀ a, allowed a → more a) : t.Within more := by
  induction t with
  | done x => trivial
  | act a next ih => exact ⟨h a ht.1, fun answer => ih answer (ht.2 answer)⟩

theorem within_once_backend {a : Act} {b : Backend} (ha : a.backend? = some b) :
    (once a).Within fun a => a.backend? = some b :=
  within_once ha

theorem Within.bind {t : Activity α} (ht : t.Within allowed) {f : α → Activity β}
    (hf : ∀ x, (f x).Within allowed) : (t >>= f).Within allowed := by
  induction t with
  | done x => exact hf x
  | act a next ih => exact ⟨ht.1, fun answer => ih answer (ht.2 answer)⟩

theorem Within.run_lift {t : Activity α} (ht : t.Within allowed) :
    (ExceptT.lift t : Handling α).run.Within allowed := by
  rw [ExceptT.run_lift, ← bind_pure_comp]
  exact ht.bind fun _ => trivial

theorem Within.run_bind {h : Handling α} (hh : h.run.Within allowed) {f : α → Handling β}
    (hf : ∀ x, (f x).run.Within allowed) : (h >>= f).run.Within allowed := by
  rw [ExceptT.run_bind]
  refine hh.bind fun result => ?_
  cases result with
  | ok x => exact hf x
  | error fault => trivial

theorem Within.run_tryCatch {h : Handling α} (hh : h.run.Within allowed)
    {f : Fault → Handling α} (hf : ∀ fault, (f fault).run.Within allowed) :
    (tryCatch h f).run.Within allowed := by
  rw [ExceptT.run_tryCatch]
  refine hh.bind fun result => ?_
  cases result with
  | ok x => trivial
  | error fault => exact hf fault

theorem Within.act_mem_play {t : Activity α} (ht : t.Within allowed) (w : World)
    (past : Journal) : ∀ d ∈ (t.play w past).2, allowed d.act := by
  induction t generalizing past with
  | done x => simp [play]
  | act a next ih =>
    obtain ⟨ha, within⟩ := ht
    intro d hd
    rcases List.mem_cons.1 hd with rfl | hd
    · exact ha
    · exact ih _ (within _) _ d hd

/-- Worlds that answer the acts of an activity alike play it alike. -/
theorem Within.play_congr {t : Activity α} (ht : t.Within allowed) {w w' : World}
    (agree : ∀ past a, allowed a → w past a = w' past a) (past : Journal) :
    t.play w past = t.play w' past := by
  induction t generalizing past with
  | done x => rfl
  | act a next ih =>
    have answer := agree past a ht.1
    simp only [play, ← answer]
    rw [ih _ (ht.2 _)]

end Activity

/-! ### Activities that send nothing -/

/-- Whether an act sends a call. -/
def Act.isSend : Act → Bool
  | .send _ _ _ => true
  | _ => false

namespace Activity

variable {α β : Type} {w : World}

/-- Whatever answers its acts, an activity sends no call. -/
def Silent : Activity α → Prop
  | .done _ => True
  | .act a next => a.isSend = false ∧ ∀ answer, (next answer).Silent

theorem silent_iff_within {t : Activity α} : t.Silent ↔ t.Within fun a => a.isSend = false := by
  induction t with
  | done x => rfl
  | act a next ih => exact and_congr_right' (forall_congr' ih)

theorem silent_once {a : Act} (ha : a.isSend = false) : (once a).Silent :=
  ⟨ha, fun _ => trivial⟩

theorem Silent.bind {t : Activity α} (ht : t.Silent) {f : α → Activity β}
    (hf : ∀ x, (f x).Silent) : (t >>= f).Silent := by
  simp only [silent_iff_within] at *
  exact ht.bind hf

theorem Silent.run_lift {t : Activity α} (ht : t.Silent) :
    (ExceptT.lift t : Handling α).run.Silent := by
  simp only [silent_iff_within] at *
  exact ht.run_lift

theorem Silent.run_bind {h : Handling α} (hh : h.run.Silent) {f : α → Handling β}
    (hf : ∀ x, (f x).run.Silent) : (h >>= f).run.Silent := by
  simp only [silent_iff_within] at *
  exact hh.run_bind hf

theorem Silent.run_tryCatch {h : Handling α} (hh : h.run.Silent) {f : Fault → Handling α}
    (hf : ∀ fault, (f fault).run.Silent) : (tryCatch h f).run.Silent := by
  simp only [silent_iff_within] at *
  exact hh.run_tryCatch hf

/-- No call stands in the journal of an activity that sends none. -/
theorem Silent.sent_play {t : Activity α} (ht : t.Silent) (past : Journal) :
    Journal.sent (t.play w past).2 = [] := by
  induction t generalizing past with
  | done x => rfl
  | act a next ih =>
    have none : Deed.sent? ⟨a, w past a⟩ = none := by
      obtain ⟨silent, -⟩ := ht
      cases a with
      | send => simp [Act.isSend] at silent
      | await | kick | connected | link | generation | reconnect | nameOf | record | forget
      | forgetName => rfl
    exact (List.filterMap_cons_none none).trans (ih _ (ht.2 _) _)

end Activity

end RuntimeMux
