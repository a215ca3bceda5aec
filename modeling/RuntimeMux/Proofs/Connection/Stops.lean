import RuntimeMux.Proofs.Connection.Losses

/-!
# Connections that are given up

An attempt is not cut short when the connection is given up. It goes on, and ends at some later
time in some way, perhaps side by side with newer attempts. But its generation is over, so its end
matters to nobody: a run comes out the same if the ends of all attempts from before are left out.
-/

namespace RuntimeMux

namespace LineEvent

/-- Whether the connection is given up by an event. -/
def isStop : LineEvent → Bool
  | .stop => true
  | _ => false

theorem isStop_eq_false_iff {event : LineEvent} : event.isStop = false ↔ event ≠ .stop := by
  cases event <;> simp [isStop]

/-- The number of the attempt that an event ends. -/
def ended? : LineEvent → Option Nat
  | .finish number _ => some number
  | _ => none

/-- Whether an event is anything but the end of one of the first attempts. -/
def isBeyond (first : Nat) (event : LineEvent) : Bool :=
  event.ended?.all fun number => first < number

end LineEvent

namespace Line

variable {l m : Line} {event : LineEvent} {first : Nat}

theorem run_cons (l : Line) (event : LineEvent) (events : List LineEvent) :
    l.run (event :: events) =
      (((l.step event).1.run events).1, (l.step event).2 ++ ((l.step event).1.run events).2) := rfl

/-! ### Nothing happens by itself -/

/-- Giving up a connection that is offline only begins a new generation. -/
theorem Sound.step_stop_of_offline (h : l.Sound) (hp : l.connection.phase = .offline) :
    l.step .stop = ({ l with connection.generation := l.connection.generation + 1 }, []) := by
  have hl : l.connection.link = none := by simpa [hp] using h.link_iff
  have hw : l.connection.waiters = [] := h.waiters (by simp [hp])
  simp [Line.step, Line.stop, Connection.stop, Connection.resolve, Line.absorb, hl, hw, hp]

/-- Nothing happens to a connection that is offline unless somebody asks for it. Giving it up again
only begins a new generation. -/
theorem Sound.step_quiet (h : l.Sound) (hp : l.connection.phase = .offline)
    (quiet : event.askers = []) :
    (l.step event).2 = [] ∧
      (l.step event).1.connection =
        { l.connection with
          generation := l.connection.generation + if event.isStop then 1 else 0 } := by
  by_cases hs : event = .stop
  · rw [hs, h.step_stop_of_offline hp]
    exact ⟨rfl, rfl⟩
  · rcases h.step_offline hp hs with ⟨-, -, same, -⟩ | ⟨asked, -⟩
    · -- nobody waits and nobody asks, so nobody learns of anything
      have conserved := l.step_conserves event
      rw [quiet, same, h.waiters (by simp [hp])] at conserved
      exact ⟨by simpa using conserved, by simp [same, LineEvent.isStop_eq_false_iff.2 hs]⟩
    · exact absurd quiet asked

theorem Sound.run_quiet (h : l.Sound) (hp : l.connection.phase = .offline)
    {events : List LineEvent} (quiet : events.flatMap LineEvent.askers = []) :
    (l.run events).2 = [] ∧
      (l.run events).1.connection =
        { l.connection with
          generation := l.connection.generation + events.countP LineEvent.isStop } := by
  induction events generalizing l with
  | nil => exact ⟨rfl, rfl⟩
  | cons event events ih =>
    obtain ⟨now, later⟩ := List.append_eq_nil_iff.1 quiet
    obtain ⟨silent, same⟩ := h.step_quiet hp now
    obtain ⟨silent_later, all⟩ := ih (h.step event) (by rw [same, hp]) later
    refine ⟨by rw [run_cons, silent, silent_later]; rfl, ?_⟩
    rw [run_cons, all, same, List.countP_cons, Nat.add_assoc, Nat.add_comm (events.countP _)]

/-! ### Attempts from before -/

/-- The first attempts, up to a number, are all superseded. -/
structure Outdated (l : Line) (first : Nat) : Prop where
  le_dials : first ≤ l.dials
  superseded : ∀ a ∈ l.pending, a.number ≤ first → a.generation < l.connection.generation

/-- When a connection is given up, all attempts that there have been are superseded. -/
theorem Sound.outdated_stop (h : l.Sound) : (l.step .stop).1.Outdated l.dials where
  le_dials := Nat.le_refl _
  superseded a ha _ := Nat.lt_succ_of_le (h.generation_le a ha)

theorem Outdated.step (o : l.Outdated first) (h : l.Sound) (event : LineEvent) :
    (l.step event).1.Outdated first := by
  rcases h.begun_cases event with ⟨-, dials, pending, hg⟩ | ⟨b, -, dials, pending, number, -, hg⟩
  · exact ⟨by rw [dials]; exact o.le_dials, fun a ha hn =>
      Nat.lt_of_lt_of_le (o.superseded a (pending ha) hn) hg⟩
  · refine ⟨by rw [dials]; exact Nat.le_succ_of_le o.le_dials, fun a ha hn => ?_⟩
    rcases List.mem_append.1 (pending ▸ ha) with ha | ha
    · exact Nat.lt_trans (o.superseded a ha hn) hg
    · -- the new attempt is not one of the first
      obtain rfl := List.mem_singleton.1 ha
      have := o.le_dials
      omega

/-- Two lines differ in nothing but which of the first attempts are pending. -/
structure Alike (first : Nat) (l m : Line) : Prop where
  connection : l.connection = m.connection
  dials : l.dials = m.dials
  pending : l.pending.filter (fun a => first < a.number) =
    m.pending.filter fun a => first < a.number

theorem Alike.refl (first : Nat) (l : Line) : Alike first l l := ⟨rfl, rfl, rfl⟩

theorem Alike.trans {k : Line} (hl : Alike first l m) (hm : Alike first m k) : Alike first l k :=
  ⟨hl.connection.trans hm.connection, hl.dials.trans hm.dials, hl.pending.trans hm.pending⟩

theorem Alike.absorb (a : Alike first l m) (next : Connection × Effects) :
    (l.absorb next).2 = (m.absorb next).2 ∧ Alike first (l.absorb next).1 (m.absorb next).1 := by
  cases hn : next.2.attempt with
  | none => simpa [Line.absorb, hn] using ⟨rfl, a.dials, a.pending⟩
  | some generation =>
    simp only [Line.absorb, hn, true_and]
    exact ⟨rfl, by simp [a.dials], by simp [a.pending, a.dials]⟩

/-- Two lines that are alike have the same attempts beyond the first. -/
theorem Alike.find?_pending (a : Alike first l m) {number : Nat} (beyond : first < number) :
    (l.pending.find? fun b => b.number == number) =
      m.pending.find? fun b => b.number == number := by
  have within (attempts : List Attempt) :
      (attempts.find? fun b => b.number == number) =
        (attempts.filter fun b => first < b.number).find? fun b => b.number == number := by
    rw [List.find?_filter]
    congr 1
    funext b
    by_cases hb : b.number = number
    · simp [hb, beyond]
    · simp [hb]
  rw [within, a.pending, ← within]

theorem Alike.without (a : Alike first l m) (number : Nat) :
    Alike first { l with pending := l.pending.filter fun b => b.number != number }
      { m with pending := m.pending.filter fun b => b.number != number } := by
  refine ⟨a.connection, a.dials, ?_⟩
  have swap (attempts : List Attempt) :
      (attempts.filter fun b => b.number != number).filter (fun b => first < b.number) =
        (attempts.filter fun b => first < b.number).filter fun b => b.number != number := by
    rw [List.filter_comm]
  rw [swap, swap, a.pending]

/-- An event that is not the end of a first attempt does the same to lines that are alike. -/
theorem Alike.step (a : Alike first l m) (beyond : event.isBeyond first = true) :
    (l.step event).2 = (m.step event).2 ∧ Alike first (l.step event).1 (m.step event).1 := by
  cases event with
  | connect w => simpa only [Line.step, connect, a.connection] using a.absorb _
  | stop => simpa only [Line.step, stop, a.connection] using a.absorb _
  | fault fault tolerant => simpa only [Line.step, handleFault, a.connection] using a.absorb _
  | drop generation => simpa only [Line.step, drop, a.connection] using a.absorb _
  | abandon w => exact ⟨rfl, a⟩
  | finish number outcome =>
    have later : first < number := by simpa [LineEvent.isBeyond, LineEvent.ended?] using beyond
    simp only [Line.step, finish, a.find?_pending later]
    cases m.pending.find? fun b => b.number == number with
    | none => exact ⟨rfl, a⟩
    | some attempt => simpa only [a.connection] using (a.without number).absorb _

/-- The end of a superseded attempt makes no difference. -/
theorem Outdated.step_finish (o : l.Outdated first) (beyond : event.isBeyond first = false) :
    (l.step event).2 = [] ∧ Alike first (l.step event).1 l := by
  cases event with
  | connect | stop | fault | drop | abandon => simp [LineEvent.isBeyond, LineEvent.ended?] at beyond
  | finish number outcome =>
    have hn : number ≤ first := by simpa [LineEvent.isBeyond, LineEvent.ended?] using beyond
    have move := Move.of_step l (.finish number outcome)
    generalize l.step (.finish number outcome) = next at move
    cases move with
    | served ha | joined ha | started ha => cases ha
    | unknown => exact ⟨rfl, .refl first l⟩
    | superseded _ ha =>
      refine ⟨rfl, rfl, rfl, ?_⟩
      rw [List.filter_filter]
      refine List.filter_congr fun b _ => ?_
      by_cases hb : first < b.number
      · simp [hb, Nat.ne_of_gt (Nat.lt_of_le_of_lt hn hb)]
      · simp [hb]
    | succeeded _ ha hg | failed _ ha hg =>
      have := o.superseded _ ha hn
      omega

/-- A run comes out the same if the ends of superseded attempts are left out of it. -/
theorem Outdated.run (o : l.Outdated first) (h : l.Sound) (a : Alike first l m)
    (events : List LineEvent) :
    let kept := events.filter (LineEvent.isBeyond first)
    (l.run events).2 = (m.run kept).2 ∧ Alike first (l.run events).1 (m.run kept).1 := by
  induction events generalizing l m with
  | nil => exact ⟨rfl, a⟩
  | cons event events ih =>
    cases hb : event.isBeyond first with
    | true =>
      obtain ⟨now, alike⟩ := a.step hb
      obtain ⟨later, last⟩ := ih (o.step h event) (h.step event) alike
      rw [List.filter_cons_of_pos hb, run_cons l]
      exact ⟨congrArg₂ (· ++ ·) now later, last⟩
    | false =>
      obtain ⟨silent, alike⟩ := o.step_finish hb
      obtain ⟨later, last⟩ := ih (o.step h event) (h.step event) (alike.trans a)
      rw [List.filter_cons_of_neg (by simp [hb]), run_cons, silent]
      exact ⟨later, last⟩

/-! ### The link of a new attempt -/

/-- When the current attempt succeeds, its link is the one in use. -/
theorem Sound.link?_step_finish (h : l.Sound) {a : Attempt} (ha : l.current? = some a)
    (revision : Revision) :
    (l.step (.finish a.number (.ok revision))).1.connection.link? =
      some ⟨revision, a.generation⟩ := by
  obtain ⟨hm, hg⟩ := h.current?_eq_some_iff.1 ha
  have found : l.pending.find? (fun b => b.number == a.number) = some a := by
    cases hf : l.pending.find? (fun b => b.number == a.number) with
    | none => simpa using List.find?_eq_none.1 hf a hm
    | some b =>
      have hn : b.number = a.number := by simpa using List.find?_some hf
      rw [Attempt.eq_of_number h.inOrder (List.mem_of_find?_eq_some hf) hm hn]
  simp only [Line.step, Line.finish, found, Connection.finish, hg, if_true, Connection.resolve,
    Line.absorb, Connection.link?]

/-- While there is a link, all attempts that are pending are superseded, so that their ends do not
touch the connection. -/
theorem Sound.step_finish_of_connected (h : l.Sound) (hp : l.connection.phase = .connected)
    (number : Nat) (outcome : Except ConnectFault Revision) :
    (l.step (.finish number outcome)).1.connection = l.connection := by
  have move := Move.of_step l (.finish number outcome)
  generalize l.step (.finish number outcome) = next at move
  cases move with
  | served ha | joined ha | started ha => cases ha
  | unknown | superseded => rfl
  | succeeded _ ha hg | failed _ ha hg => simp [h.phase_of_current ha hg] at hp

theorem Sound.run_ended (h : l.Sound) (hp : l.connection.phase = .connected)
    {events : List LineEvent} (ended : ∀ event ∈ events, event.ended?.isSome) :
    (l.run events).1.connection = l.connection := by
  induction events generalizing l with
  | nil => rfl
  | cons event events ih =>
    obtain ⟨now, later⟩ := List.forall_mem_cons.1 ended
    have same : (l.step event).1.connection = l.connection := by
      cases event with
      | finish number outcome => exact h.step_finish_of_connected hp number outcome
      | connect | stop | fault | drop | abandon => simp [LineEvent.ended?] at now
    rw [run_cons, ih (h.step event) (by rw [same, hp]) later, same]

/-- If an event starts an attempt that succeeds before the connection is given up, its link is the
one in use, whatever other attempts end before or after it. -/
theorem Sound.link?_of_begun (h : l.Sound) {a : Attempt} (hb : l.begun event = [a])
    {between after : List LineEvent} (revision : Revision)
    (hd : decision? l.connection.address a.number between = none)
    (ended : ∀ event ∈ after, event.ended?.isSome) :
    (l.run (event :: between ++ .finish a.number (.ok revision) :: after)).1.connection.link? =
      some ⟨revision, a.generation⟩ := by
  have current := (h.current?_of_begun hb).1
  have started := h.step event
  have still : ((l.step event).1.run between).1.current? = some a :=
    (started.run_undecided current (by simpa using hd)).2.2
  have waited := started.run between
  have linked := waited.link?_step_finish still revision
  have kept := (waited.step (.finish a.number (.ok revision))).run_ended
    (link?_eq_some_iff.1 linked).1 ended
  rw [List.cons_append, run_cons, run_append, run_cons, ← linked]
  exact congrArg Connection.link? kept

/-! ### Runs -/

/-- Once a connection has been given up it is offline, without a link and without waiters, and
remains so until somebody asks for it. Giving it up again changes nothing but the generation.
Everything that happens comes out the same if the ends of all attempts from before are left out, and
if an attempt from after that succeeds, its link is the one in use. -/
theorem run_stop (address : String) (before : List LineEvent) :
    let line := ((offline address).run before).1
    let stopped := (line.step .stop).1
    stopped.connection = ⟨address, .offline, none, [], line.connection.generation + 1⟩ ∧
    (∀ quiet, quiet.flatMap LineEvent.askers = [] →
      let now := (stopped.run quiet).1
      (stopped.run quiet).2 = [] ∧
      now.connection =
        { stopped.connection with
          generation := stopped.connection.generation + quiet.countP LineEvent.isStop } ∧
      now.step .stop =
        ({ now with connection.generation := now.connection.generation + 1 }, [])) ∧
    (∀ events,
      let kept := events.filter (LineEvent.isBeyond line.dials)
      (stopped.run events).2 = (stopped.run kept).2 ∧
      (stopped.run events).1.connection = (stopped.run kept).1.connection ∧
      (stopped.run events).1.dials = (stopped.run kept).1.dials) ∧
    (∀ events event a,
      let now := (stopped.run events).1
      now.begun event = [a] →
      line.dials < a.number ∧
      ∀ between revision after,
        (∀ e ∈ between, e ≠ .stop ∧ ∀ outcome, e ≠ .finish a.number outcome) →
        (∀ e ∈ after, e.ended?.isSome) →
        let last := (now.run (event :: between ++ .finish a.number (.ok revision) :: after)).1
        last.connection.link? = some ⟨revision, a.generation⟩) := by
  intro line stopped
  have sound : line.Sound := (sound_offline address).run before
  have given_up : stopped.Sound := sound.step .stop
  have outdated : stopped.Outdated line.dials := sound.outdated_stop
  have offline : stopped.connection =
      ⟨address, .offline, none, [], line.connection.generation + 1⟩ := by
    simp [stopped, line, Line.step, Line.stop, Connection.stop, Connection.resolve, Line.absorb,
      Line.offline, Connection.offline]
  refine ⟨offline, ?_, ?_, ?_⟩
  · intro quiet silent now
    obtain ⟨resolved, same⟩ := given_up.run_quiet (by rw [offline]) silent
    exact ⟨resolved, same, (given_up.run quiet).step_stop_of_offline (by rw [same, offline])⟩
  · intro events kept
    obtain ⟨resolved, alike⟩ := outdated.run given_up (.refl _ _) events
    exact ⟨resolved, alike.connection, alike.dials⟩
  · intro events event a now begun
    have sound_now : now.Sound := given_up.run events
    have number := (sound_now.current?_of_begun begun).2
    have dials : now.dials = line.dials + _ := (given_up.attempts_complete events).1
    refine ⟨by omega, fun between revision after undecided ended => ?_⟩
    exact sound_now.link?_of_begun begun revision (decision?_eq_none_iff.2 undecided) ended

/-- Two attempts are given up, and both succeed after the one that follows them has been started,
one before its end and one after it. -/
theorem run_stop_twice :
    let before : List LineEvent := [.connect .nobody, .stop, .connect .nobody]
    let stopped := (((offline "/run/alt.sock").run before).1.step .stop).1
    let last := (stopped.run [.connect .nobody, .finish 2 (.ok .v1), .finish 3 (.ok .v1alpha2),
      .finish 1 (.ok .v1)]).1
    stopped.connection.phase = .offline ∧
    (stopped.run [.finish 1 (.ok .v1)]).1.connection = stopped.connection ∧
    last.connection.link? = some ⟨.v1alpha2, 5⟩ := by
  intro before stopped last
  obtain ⟨offline, quiet, -, begun⟩ := run_stop "/run/alt.sock" before
  obtain ⟨-, same, -⟩ := quiet [.finish 1 (.ok .v1)] rfl
  obtain ⟨-, linked⟩ := begun [] (.connect .nobody) ⟨3, 5⟩ (by decide)
  have link := linked [.finish 2 (.ok .v1)] .v1alpha2 [.finish 1 (.ok .v1)] (by simp)
    (by simp [LineEvent.ended?])
  exact ⟨congrArg Connection.phase offline, same, link⟩

end Line

end RuntimeMux
