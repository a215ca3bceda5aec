import RuntimeMux.Proofs.Call.Journal

/-!
# Activities in turns

While an activity waits for an answer, others go on. So several activities take turns with their acts,
in any order that keeps the acts of each activity in theirs. If all acts of an activity but the last
one leave alone what is observed, then for an observer it happens at once, as it ends. Whatever the
turns, the activities then seem to be carried out one after the other, in the order in which they end.
-/

namespace RuntimeMux

variable {α β : Type}

/-- What an activity ends with, if nothing is left to do. -/
def Activity.value? : Activity α → Option α
  | .done x => some x
  | .act _ _ => none

/-- What several activities do in turns, and how they end. -/
structure Chronicle (α : Type) where
  /-- What is done, and which activity does it. -/
  deeds : List (Nat × Deed)
  /-- What the activities end with, in the order in which they end. -/
  ends : List (Nat × α)

namespace Chronicle

/-- A deed is done first, and the activity that does it may end with it. -/
def turn (i : Nat) (deed : Deed) (ended? : Option α) (rest : Chronicle α) : Chronicle α :=
  ⟨(i, deed) :: rest.deeds, ended?.toList.map (i, ·) ++ rest.ends⟩

/-- What is done, in order. -/
def journal (run : Chronicle α) : Journal :=
  run.deeds.map Prod.snd

/-- The activities that send calls, in the order in which the calls reach the runtimes. -/
def served (run : Chronicle α) : List Nat :=
  (run.deeds.filter fun deed => deed.2.act.isSend).map Prod.fst

theorem ends_turn_some (i : Nat) (deed : Deed) (x : α) (rest : Chronicle α) :
    (rest.turn i deed (some x)).ends = (i, x) :: rest.ends := rfl

end Chronicle

/-- Activities take turns in a world. Each turn names the activity that does its next act; if there is
none that has one left, nothing happens. -/
def World.interleave (w : World) : List Nat → List (Activity α) → Journal → Chronicle α
  | [], _, _ => ⟨[], []⟩
  | i :: turns, crowd, past =>
    match crowd[i]? with
    | some (.act a next) =>
      let deed : Deed := ⟨a, w past a⟩
      (w.interleave turns (crowd.set i (next deed.answer)) (past ++ [deed])).turn i deed
        (next deed.answer).value?
    | some (.done _) | none => w.interleave turns crowd past

namespace World

variable {w : World} {turns : List Nat} {crowd : List (Activity α)} {past : Journal} {i : Nat}

theorem interleave_cons_act {a : Act} {next : a.Answer → Activity α}
    (acts : crowd[i]? = some (.act a next)) :
    w.interleave (i :: turns) crowd past =
      let deed : Deed := ⟨a, w past a⟩
      (w.interleave turns (crowd.set i (next deed.answer)) (past ++ [deed])).turn i deed
        (next deed.answer).value? := by
  rw [interleave, acts]

theorem interleave_cons_idle (idle : ∀ a next, crowd[i]? ≠ some (.act a next)) :
    w.interleave (i :: turns) crowd past = w.interleave turns crowd past := by
  rw [interleave]
  split
  next a next acts => exact absurd acts (idle a next)
  next => rfl
  next => rfl

/-- An activity takes its turn, or the turn is idle. -/
theorem acts_or_idle (crowd : List (Activity α)) (i : Nat) :
    (∃ a next, crowd[i]? = some (.act a next)) ∨ ∀ a next, crowd[i]? ≠ some (.act a next) := by
  by_cases acts : ∃ a next, crowd[i]? = some (.act a next)
  · left
    exact acts
  · right
    intro a next h
    exact acts ⟨a, next, h⟩

/-- If an activity has all turns, it is played. -/
theorem interleave_alone (w : World) (t : Activity α) (past : Journal) :
    let played := t.play w past
    let run := w.interleave (List.replicate played.2.length 0) [t] past
    run.journal = played.2 ∧ (played.2 ≠ [] → run.ends = [(0, played.1)]) := by
  induction t generalizing past with
  | done x => exact ⟨rfl, nofun⟩
  | act a next ih =>
    obtain ⟨done, ended⟩ := ih (w past a) (past ++ [⟨a, w past a⟩])
    constructor
    · exact congrArg (_ :: ·) done
    · intro _
      simp only [Activity.play, List.length_cons, List.replicate_succ]
      rw [interleave_cons_act (by rfl)]
      simp only [List.set_cons_zero]
      cases hn : next (w past a) with
      | done x => rfl
      | act b more =>
        rw [hn] at ended
        apply ended
        exact List.cons_ne_nil _ _

/-! ### Ends -/

/-- An activity that has nothing left to do does not end again. -/
theorem notMem_ends (idle : ∀ a next, crowd[i]? ≠ some (.act a next)) (x : α) :
    (i, x) ∉ (w.interleave turns crowd past).ends := by
  induction turns generalizing crowd past with
  | nil => exact List.not_mem_nil
  | cons j turns ih =>
    rcases acts_or_idle crowd j with ⟨a, next, acts⟩ | stays
    · have other : j ≠ i := by
        rintro rfl
        exact idle a next acts
      rw [interleave_cons_act acts]
      intro mem
      rcases List.mem_append.1 mem with first | later
      · obtain ⟨_, _, same⟩ := List.mem_map.1 first
        exact other (congrArg Prod.fst same)
      · have stays : ∀ b more, (crowd.set j (next (w past a)))[i]? ≠ some (.act b more) := by
          intro b more
          rw [List.getElem?_set_ne other]
          exact idle b more
        exact ih stays later
    · rw [interleave_cons_idle stays]
      exact ih idle

/-- An activity ends once at most. -/
theorem nodup_ends (w : World) (turns : List Nat) (crowd : List (Activity α)) (past : Journal) :
    ((w.interleave turns crowd past).ends.map Prod.fst).Nodup := by
  induction turns generalizing crowd past with
  | nil => exact List.nodup_nil
  | cons i turns ih =>
    rcases acts_or_idle crowd i with ⟨a, next, acts⟩ | stays
    · rw [interleave_cons_act acts]
      dsimp only
      cases hn : next (w past a) with
      | act b more => exact ih _ _
      | done x =>
        have ended : ∀ b more, (crowd.set i (.done x))[i]? ≠ some (.act b more) := by
          intro b more
          simp [List.getElem?_set]
        apply List.nodup_cons.2
        constructor
        · intro mem
          obtain ⟨⟨j, y⟩, later, rfl⟩ := List.mem_map.1 mem
          exact notMem_ends ended y later
        · exact ih _ _
    · rw [interleave_cons_idle stays]
      exact ih crowd past

end World

/-! ### Observations -/

section

variable {σ γ : Type} (learn : σ → Act → σ) (observe : σ → γ) (effect : α → γ → γ)

/-- Nothing is observed of an act. -/
def Act.Unobserved (a : Act) : Prop :=
  ∀ state, observe (learn state a) = observe state

namespace Activity

/-- Whatever answers its acts, nothing is observed of an activity but its last act. This shows the
effect of what the activity ends with. -/
def Concludes : Activity α → Prop
  | .done x => ∀ seen, effect x seen = seen
  | .act a next => ∀ answer,
    (∃ x, next answer = .done x ∧ ∀ state, observe (learn state a) = effect x (observe state)) ∨
      a.Unobserved learn observe ∧ (next answer).Concludes

variable {learn observe effect}

/-- What comes before may take any number of acts, as long as nothing is observed of them. -/
theorem Within.concludes_bind {t : Activity β} (quiet : t.Within (Act.Unobserved learn observe))
    {f : β → Activity α} (hf : ∀ x, (f x).Concludes learn observe effect) :
    (t >>= f).Concludes learn observe effect := by
  induction t with
  | done x => exact hf x
  | act a next ih =>
    intro answer
    right
    exact ⟨quiet.1, ih answer (quiet.2 answer)⟩

end Activity

theorem Handling.concludes_bind {learn : σ → Act → σ} {observe : σ → γ}
    {effect : Except Fault α → γ → γ} {h : Handling β}
    (quiet : h.run.Within (Act.Unobserved learn observe))
    (faultless : ∀ fault seen, effect (.error fault) seen = seen) {f : β → Handling α}
    (hf : ∀ x, (f x).run.Concludes learn observe effect) :
    (h >>= f).run.Concludes learn observe effect := by
  rw [ExceptT.run_bind]
  apply quiet.concludes_bind
  intro result
  cases result with
  | ok x => exact hf x
  | error fault => exact faultless fault

variable {learn observe effect} {w : World} {crowd : List (Activity α)}

/-- What is observed at last is as if the activities had been carried out one after the other, in the
order in which they end. -/
theorem World.observe_interleave (turns : List Nat)
    (concludes : ∀ t ∈ crowd, (∃ x, t = .done x) ∨ t.Concludes learn observe effect)
    (past : Journal) (state : σ) :
    let run := w.interleave turns crowd past
    observe (run.journal.foldl (fun state deed => learn state deed.act) state) =
      run.ends.foldl (fun seen ended => effect ended.2 seen) (observe state) := by
  induction turns generalizing crowd past state with
  | nil => rfl
  | cons i turns ih =>
    rcases acts_or_idle crowd i with ⟨a, next, acts⟩ | stays
    · have acting : (Activity.act a next).Concludes learn observe effect := by
        rcases concludes _ (List.mem_of_getElem? acts) with ⟨x, ended⟩ | acting
        · cases ended
        · exact acting
      -- the others stay as they are, so the rest of the run is settled by what the activity becomes
      have rest (becomes : (∃ x, next (w past a) = .done x) ∨
          (next (w past a)).Concludes learn observe effect) :
          ∀ t ∈ crowd.set i (next (w past a)),
            (∃ x, t = .done x) ∨ t.Concludes learn observe effect := by
        intro t mem
        rcases List.mem_or_eq_of_mem_set mem with before | rfl
        · exact concludes t before
        · exact becomes
      rw [interleave_cons_act acts]
      rcases acting (w past a) with ⟨x, last, shown⟩ | ⟨unobserved, later⟩
      · have seen := ih (rest (.inl ⟨x, last⟩)) (past ++ [⟨a, w past a⟩]) (learn state a)
        rw [shown] at seen
        simp only [last, Activity.value?] at seen ⊢
        exact seen
      · have seen := ih (rest (.inr later)) (past ++ [⟨a, w past a⟩]) (learn state a)
        rw [unobserved] at seen
        cases hn : next (w past a) with
        | act b more =>
          simp only [hn, Activity.value?] at seen ⊢
          exact seen
        | done x =>
          -- an activity that ends with an act of which nothing is observed has no effect
          rw [hn] at later
          simp only [hn, Activity.value?, Chronicle.ends_turn_some, List.foldl_cons,
            later (observe state)] at seen ⊢
          exact seen
    · rw [interleave_cons_idle stays]
      exact ih concludes past state

end

end RuntimeMux
