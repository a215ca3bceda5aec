import Mathlib.Data.List.Nodup
import RuntimeMux.Proofs.Connection.Moves

/-!
# Sound lines

What a connection stores depends on its phase: a link exactly when it is connected, waiters only while
it is connecting. The generations tie this to the attempts: while the connection is connecting, one
pending attempt has its generation, and at other times none has, so that a superseded attempt cannot
be taken for the current one.
-/

namespace RuntimeMux

/-- Whether an attempt was started before another one. -/
def Attempt.Before (a b : Attempt) : Prop :=
  a.number < b.number ∧ a.generation < b.generation

namespace Line

/-- The attempts of a line that are started by an event. -/
def begun (l : Line) (event : LineEvent) : List Attempt :=
  (l.step event).1.pending.filter fun a => l.dials < a.number

/-- The attempts that are started in the course of a run, in order. -/
def attempts (l : Line) : List LineEvent → List Attempt
  | [] => []
  | event :: events => l.begun event ++ (l.step event).1.attempts events

/-- What holds of every line that somebody can come to see. -/
structure Sound (l : Line) : Prop where
  link_iff : l.connection.link.isSome ↔ l.connection.phase = .connected
  link_generation : ∀ link, l.connection.link = some link →
    link.generation = l.connection.generation
  waiters : l.connection.phase ≠ .connecting → l.connection.waiters = []
  current : (∃ a ∈ l.pending, a.generation = l.connection.generation) ↔
    l.connection.phase = .connecting
  inOrder : l.pending.Pairwise Attempt.Before
  number_le : ∀ a ∈ l.pending, a.number ≤ l.dials
  generation_le : ∀ a ∈ l.pending, a.generation ≤ l.connection.generation

theorem sound_offline (address : String) : (offline address).Sound := by
  constructor <;> simp [offline, Connection.offline]

end Line

/-! ### Attempts in order -/

namespace Attempt

variable {attempts : List Attempt}

theorem before_or_eq_or_before (h : attempts.Pairwise Before) {a b : Attempt}
    (ha : a ∈ attempts) (hb : b ∈ attempts) : a.Before b ∨ a = b ∨ b.Before a := by
  refine List.Pairwise.forall_of_forall_of_flip (R := fun a b => a.Before b ∨ a = b ∨ b.Before a)
    ?_ ?_ ?_ ha hb
  · intro x _
    exact Or.inr (Or.inl rfl)
  · exact h.imp Or.inl
  · exact h.imp fun hab => Or.inr (Or.inr hab)

theorem eq_of_number (h : attempts.Pairwise Before) {a b : Attempt} (ha : a ∈ attempts)
    (hb : b ∈ attempts) (hn : a.number = b.number) : a = b := by
  rcases before_or_eq_or_before h ha hb with hlt | rfl | hlt
  · exact absurd hlt.1 (by omega)
  · rfl
  · exact absurd hlt.1 (by omega)

theorem eq_of_generation (h : attempts.Pairwise Before) {a b : Attempt} (ha : a ∈ attempts)
    (hb : b ∈ attempts) (hg : a.generation = b.generation) : a = b := by
  rcases before_or_eq_or_before h ha hb with hlt | rfl | hlt
  · exact absurd hlt.2 (by omega)
  · rfl
  · exact absurd hlt.2 (by omega)

theorem countP_generation_eq_one (h : attempts.Pairwise Before) {a : Attempt}
    (ha : a ∈ attempts) : attempts.countP (fun b => b.generation = a.generation) = 1 := by
  have nodup : attempts.Nodup := h.imp fun {x y} hxy hne => absurd hxy.1 (by simp [hne])
  rw [← List.count_eq_one_of_mem nodup ha, List.count]
  refine List.countP_congr fun b hb => ?_
  simp only [decide_eq_true_eq, beq_iff_eq]
  exact ⟨fun hg => eq_of_generation h hb ha hg, fun hba => hba ▸ rfl⟩

end Attempt

namespace Line

variable {l : Line}

/-- While the connection is connecting, one pending attempt is current, and at other times none. -/
theorem Sound.countP_current (h : l.Sound) :
    l.pending.countP (fun a => a.generation = l.connection.generation) =
      if l.connection.phase = .connecting then 1 else 0 := by
  split
  next hp =>
    obtain ⟨a, ha, hg⟩ := h.current.2 hp
    simpa only [hg] using Attempt.countP_generation_eq_one h.inOrder ha
  next hp =>
    rw [List.countP_eq_zero]
    intro a ha
    simpa using fun hg => hp (h.current.1 ⟨a, ha, hg⟩)

/-! ### Events -/

/-- A connection with a pending attempt of its generation is connecting. -/
theorem Sound.phase_of_current (h : l.Sound) {a : Attempt} (ha : a ∈ l.pending)
    (hg : l.connection.generation = a.generation) : l.connection.phase = .connecting :=
  h.current.1 ⟨a, ha, hg.symm⟩

/-- An attempt of a new generation is started. -/
theorem Sound.start (h : l.Sound) {c : Connection} (hp : c.phase = .connecting)
    (hl : c.link = none) (hg : l.connection.generation < c.generation) :
    Sound ⟨c, l.dials + 1, l.pending ++ [⟨l.dials + 1, c.generation⟩]⟩ := by
  constructor
  case link_iff => simp [hl, hp]
  case link_generation => simp [hl]
  case waiters => exact fun hne => absurd hp hne
  case current => simp [hp]
  case inOrder =>
    rw [List.pairwise_append]
    refine ⟨h.inOrder, List.pairwise_singleton .., ?_⟩
    intro a ha b hb
    obtain rfl := List.mem_singleton.1 hb
    exact ⟨Nat.lt_succ_of_le (h.number_le a ha), Nat.lt_of_le_of_lt (h.generation_le a ha) hg⟩
  case number_le =>
    intro a ha
    rcases List.mem_append.1 ha with ha | ha
    · exact Nat.le_succ_of_le (h.number_le a ha)
    · simp [List.mem_singleton.1 ha]
  case generation_le =>
    intro a ha
    rcases List.mem_append.1 ha with ha | ha
    · exact Nat.le_trans (h.generation_le a ha) (Nat.le_of_lt hg)
    · simp [List.mem_singleton.1 ha]

/-- What there is of a link or an attempt is given up, and its generation with it. -/
theorem Sound.giveUp (h : l.Sound) {c : Connection} (hp : c.phase = .offline) (hl : c.link = none)
    (hw : c.waiters = []) (hg : l.connection.generation < c.generation) :
    Sound { l with connection := c } := by
  constructor
  case link_iff => simp [hl, hp]
  case link_generation => simp [hl]
  case waiters => exact fun _ => hw
  case current =>
    -- the generation is new, so no attempt has it
    simp only [hp, reduceCtorEq, iff_false, not_exists, not_and]
    intro a ha hag
    exact absurd (h.generation_le a ha) (by omega)
  case inOrder => exact h.inOrder
  case number_le => exact h.number_le
  case generation_le => exact fun a ha => Nat.le_trans (h.generation_le a ha) (Nat.le_of_lt hg)

/-- An attempt ends, and only if it was the current one, the connection is no longer connecting. -/
theorem Sound.finish (h : l.Sound) {a : Attempt} (ha : a ∈ l.pending) {c : Connection}
    (hl : c.link.isSome ↔ c.phase = .connected)
    (hlg : ∀ link, c.link = some link → link.generation = c.generation)
    (hw : c.phase ≠ .connecting → c.waiters = [])
    (hg : c.generation = l.connection.generation)
    (hp : c.phase = .connecting ↔
      l.connection.phase = .connecting ∧ l.connection.generation ≠ a.generation) :
    Sound ⟨c, l.dials, l.pending.filter fun b => b.number != a.number⟩ := by
  have mem {b : Attempt} (hb : b ∈ l.pending.filter fun b => b.number != a.number) :
      b ∈ l.pending ∧ b.number ≠ a.number := by simpa using hb
  constructor
  case link_iff => exact hl
  case link_generation => exact hlg
  case waiters => exact hw
  case current =>
    simp only [hp, ← h.current, hg]
    constructor
    · rintro ⟨b, hb, hbg⟩
      refine ⟨⟨b, (mem hb).1, hbg⟩, fun hag => (mem hb).2 ?_⟩
      rw [Attempt.eq_of_generation h.inOrder (mem hb).1 ha (hbg.trans hag)]
    · rintro ⟨⟨b, hb, hbg⟩, hag⟩
      refine ⟨b, List.mem_filter.2 ⟨hb, ?_⟩, hbg⟩
      have hn : b.number ≠ a.number := fun hn =>
        hag (hbg.symm.trans (congrArg _ (Attempt.eq_of_number h.inOrder hb ha hn)))
      simpa using hn
  case inOrder => exact h.inOrder.filter _
  case number_le => exact fun b hb => h.number_le b (mem hb).1
  case generation_le => exact fun b hb => hg ▸ h.generation_le b (mem hb).1

/-- An event keeps a line sound. -/
theorem Sound.step (h : l.Sound) (event : LineEvent) : (l.step event).1.Sound := by
  have move := Move.of_step l event
  generalize l.step event = next at move
  cases move with
  | abandoned w => exact h
  | reported tolerant hf => exact h
  | served ha hp => exact h
  | joined ha hp =>
    exact { h with waiters := fun hne => absurd hp hne }
  | started ha hp =>
    refine h.start rfl ?_ (Nat.lt_succ_self _)
    simpa [hp] using h.link_iff
  | replaced tolerant hf hu => exact h.start rfl rfl (Nat.lt_add_of_pos_right (by decide))
  | dropped hu =>
    -- nobody waits next to a link, so nobody is left behind
    have hp : l.connection.phase = .connected := by
      simp only [Connection.uses, decide_eq_true_eq] at hu
      exact hu.1
    exact h.giveUp rfl rfl (h.waiters (by simp [hp])) (Nat.lt_succ_self _)
  | kept hu => exact h
  | stopped => exact h.giveUp rfl rfl rfl (Nat.lt_succ_self _)
  | unknown outcome hn => exact h
  | superseded outcome ha hg =>
    refine h.finish ha h.link_iff h.link_generation h.waiters rfl ?_
    simp [hg]
  | succeeded revision ha hg =>
    refine h.finish ha (by simp) (by simp) (fun _ => rfl) rfl ?_
    simp [hg]
  | failed fault ha hg =>
    -- the attempt was current, so there was no link that would have to be given up
    have hlink : l.connection.link = none := by
      simpa [h.phase_of_current ha hg] using h.link_iff
    refine h.finish ha (by simp [hlink]) (by simp [hlink]) (fun _ => rfl) rfl ?_
    simp [hg]

/-- A run keeps a line sound. -/
theorem Sound.run (h : l.Sound) (events : List LineEvent) : (l.run events).1.Sound := by
  induction events generalizing l with
  | nil => exact h
  | cons event events ih => exact ih (h.step event)

/-! ### Attempts of a run -/

theorem Sound.filter_begun (h : l.Sound) {attempts : List Attempt} (old : attempts ⊆ l.pending) :
    attempts.filter (fun a => l.dials < a.number) = [] := by
  rw [List.filter_eq_nil_iff]
  intro a ha
  simpa using h.number_le a (old ha)

theorem Sound.filter_begun_append (h : l.Sound) (generation : Nat) :
    (l.pending ++ [(⟨l.dials + 1, generation⟩ : Attempt)]).filter (fun a => l.dials < a.number) =
      [⟨l.dials + 1, generation⟩] := by
  simp [List.filter_append, h.filter_begun (List.Subset.refl _)]

/-- An event starts no attempt, or one of a new generation. -/
theorem Sound.begun_cases (h : l.Sound) (event : LineEvent) :
    let next := (l.step event).1
    (l.begun event = [] ∧ next.dials = l.dials ∧ next.pending ⊆ l.pending ∧
        l.connection.generation ≤ next.connection.generation) ∨
    (∃ a, l.begun event = [a] ∧ next.dials = l.dials + 1 ∧ next.pending = l.pending ++ [a] ∧
        a.number = l.dials + 1 ∧ a.generation = next.connection.generation ∧
        l.connection.generation < next.connection.generation) := by
  have none {attempts : List Attempt} (old : attempts ⊆ l.pending) := h.filter_begun old
  have one := h.filter_begun_append
  have move := Move.of_step l event
  simp only [begun]
  generalize l.step event = next at move
  cases move with
  | abandoned | reported | served | joined | kept | unknown =>
    exact Or.inl ⟨none (List.Subset.refl _), rfl, List.Subset.refl _, Nat.le_refl _⟩
  | dropped | stopped =>
    exact Or.inl ⟨none (List.Subset.refl _), rfl, List.Subset.refl _, Nat.le_succ _⟩
  | superseded | succeeded | failed =>
    exact Or.inl ⟨none (List.filter_subset_self _), rfl, List.filter_subset_self _, Nat.le_refl _⟩
  | started => exact Or.inr ⟨_, one _, rfl, rfl, rfl, rfl, Nat.lt_succ_self _⟩
  | replaced =>
    exact Or.inr ⟨_, one _, rfl, rfl, rfl, rfl, Nat.lt_add_of_pos_right (by decide)⟩

theorem Sound.generation_le_step (h : l.Sound) (event : LineEvent) :
    l.connection.generation ≤ (l.step event).1.connection.generation := by
  rcases h.begun_cases event with ⟨-, -, -, hg⟩ | ⟨-, -, -, -, -, -, hg⟩
  · exact hg
  · exact Nat.le_of_lt hg

theorem Sound.generation_le_run (h : l.Sound) (events : List LineEvent) :
    l.connection.generation ≤ (l.run events).1.connection.generation := by
  induction events generalizing l with
  | nil => exact Nat.le_refl _
  | cons event events ih => exact Nat.le_trans (h.generation_le_step event) (ih (h.step event))

/-- The attempts of a run come later than all before it, and in order. -/
theorem Sound.attempts_inOrder (h : l.Sound) (events : List LineEvent) :
    (∀ a ∈ l.attempts events, l.dials < a.number ∧ l.connection.generation < a.generation) ∧
      (l.attempts events).Pairwise Attempt.Before := by
  induction events generalizing l with
  | nil => simp [attempts]
  | cons event events ih =>
    obtain ⟨later, inOrder⟩ := ih (h.step event)
    rcases h.begun_cases event with ⟨hb, hd, -, hg⟩ | ⟨a, hb, hd, -, han, hag, hg⟩
    · simp only [attempts, hb, List.nil_append]
      refine ⟨fun b hb => ?_, inOrder⟩
      have := later b hb
      omega
    · simp only [attempts, hb, List.singleton_append, List.forall_mem_cons, List.pairwise_cons]
      refine ⟨⟨by omega, fun b hb => ?_⟩, fun b hb => ?_, inOrder⟩
      · have := later b hb
        omega
      · have := later b hb
        exact ⟨by omega, by omega⟩

/-- The attempts of a run are all that are dialed in its course. -/
theorem Sound.attempts_complete (h : l.Sound) (events : List LineEvent) :
    (l.run events).1.dials = l.dials + (l.attempts events).length ∧
      (l.run events).1.pending ⊆ l.pending ++ l.attempts events := by
  induction events generalizing l with
  | nil => simp [attempts, Line.run]
  | cons event events ih =>
    obtain ⟨dials, pending⟩ := ih (h.step event)
    rcases h.begun_cases event with ⟨hb, hd, hp, -⟩ | ⟨a, hb, hd, hp, -, -, -⟩
    · simp only [attempts, hb, List.nil_append]
      refine ⟨dials.trans (by rw [hd]), fun b hb => ?_⟩
      rcases List.mem_append.1 (pending hb) with hb | hb
      · exact List.mem_append_left _ (hp hb)
      · exact List.mem_append_right _ hb
    · simp only [attempts, hb, List.singleton_append, List.length_cons]
      refine ⟨dials.trans (by omega), fun b hb => ?_⟩
      simpa [hp] using pending hb

/-- In every state that a run reaches, a link is stored exactly if the connection is connected, and it
has the generation of the connection; waiters are stored only while it is connecting; then one pending
attempt has the generation of the connection, and otherwise none has. No two attempts of a run, which
are all that it dials, have one generation. -/
theorem run_sound (address : String) (events : List LineEvent) :
    let line := ((offline address).run events).1
    let started := (offline address).attempts events
    (line.connection.link.isSome ↔ line.connection.phase = .connected) ∧
    (∀ link, line.connection.link = some link → link.generation = line.connection.generation) ∧
    (line.connection.waiters ≠ [] → line.connection.phase = .connecting) ∧
    line.pending.countP (fun a => a.generation = line.connection.generation) =
      (if line.connection.phase = .connecting then 1 else 0) ∧
    (started.map Attempt.generation).Nodup ∧
    started.length = line.dials ∧ line.pending ⊆ started := by
  have start := sound_offline address
  have sound := start.run events
  obtain ⟨dials, pending⟩ := start.attempts_complete events
  refine ⟨sound.link_iff, sound.link_generation, ?_, sound.countP_current, ?_, ?_, ?_⟩
  · intro hw
    by_contra hp
    exact hw (sound.waiters hp)
  · rw [List.Nodup, List.pairwise_map]
    exact (start.attempts_inOrder events).2.imp fun hab => Nat.ne_of_lt hab.2
  · simpa [offline] using dials.symm
  · simpa [offline] using pending

end Line

end RuntimeMux
