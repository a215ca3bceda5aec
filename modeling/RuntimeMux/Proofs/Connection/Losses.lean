import RuntimeMux.Proofs.Connection.Links
import RuntimeMux.Proofs.Connection.Waiters

/-!
# Lost links

Many calls may be under way on one link when the runtime goes away, and all of them fail. The first
failure that is noticed drops the link, and all others find that it is no longer in use. Whoever
asks for the connection next starts an attempt, and all others join it. So a link is dropped at most
once, a late failure does not touch the link that came after it, and however many failures are
noticed while the attempt runs, it remains the only one.
-/

namespace RuntimeMux

/-- The generation of the link that an event calls into question: a call on the link found the
runtime unavailable. -/
def LineEvent.blamed? : LineEvent → Option Nat
  | .fault cause _ => cause.lostLink?
  | .drop generation => some generation
  | _ => none

namespace Line

/-- The link that a failed call drops by an event: it was in use and no longer is. -/
def lost? (l : Line) (event : LineEvent) : Option Link :=
  if event.blamed?.isSome ∧ (l.step event).1.connection.link? ≠ l.connection.link? then
    l.connection.link?
  else none

/-- The links that failed calls drop in the course of a run, in order. -/
def lost (l : Line) : List LineEvent → List Link
  | [] => []
  | event :: events => (l.lost? event).toList ++ (l.step event).1.lost events

/-- An event leaves what there is of a link or an attempt as it is. -/
def Keeps (l : Line) (event : LineEvent) : Prop :=
  let next := (l.step event).1
  next.connection.phase = l.connection.phase ∧
  next.connection.link = l.connection.link ∧
  next.connection.generation = l.connection.generation ∧
  next.dials = l.dials ∧ next.pending = l.pending

variable {l : Line} {link : Link} {event : LineEvent}

theorem Keeps.of_asked {w : Waiter}
    (h : (l.step event).1 = l ∨
      (l.step event).1 = { l with connection.waiters := l.connection.waiters ++ [w] }) :
    l.Keeps event := by
  rcases h with same | same <;> simp [Keeps, same]

/-! ### One failure -/

theorem uses_iff {generation : Nat} :
    l.connection.uses generation = true ↔
      ∃ link, l.connection.link? = some link ∧ link.generation = generation := by
  simp only [Connection.uses, decide_eq_true_eq, link?_eq_some_iff, Option.map_eq_some_iff,
    and_assoc, exists_and_left]

/-- A failed call on a link that is not in use leaves the connection as it is, but asks for it. -/
theorem step_of_not_uses {generation : Nat} (hb : event.blamed? = some generation)
    (hu : l.connection.uses generation = false) (hp : l.connection.phase ≠ .offline) :
    (l.step event).1 = l ∨
      (l.step event).1 = { l with connection.waiters := l.connection.waiters ++ [.nobody] } := by
  have move := Move.of_step l event
  generalize l.step event = next at move
  cases move with
  | reported tolerant hf => simp [LineEvent.blamed?, hf] at hb
  | served ha hc => exact Or.inl rfl
  | joined ha hc =>
    cases ha with
    | connect => simp [LineEvent.blamed?] at hb
    | fault tolerant hf _ => exact Or.inr rfl
  | started ha hc => exact absurd hc hp
  | replaced tolerant hf hr =>
    simp only [LineEvent.blamed?, hf, Option.some.injEq] at hb
    simp [hb, hu] at hr
  | dropped hr =>
    simp only [LineEvent.blamed?, Option.some.injEq] at hb
    simp [hb, hu] at hr
  | kept => exact Or.inl rfl
  | abandoned | stopped | unknown | superseded | succeeded | failed =>
    simp [LineEvent.blamed?] at hb

/-- Unless the connection is offline, whoever asks for it leaves it as it is. -/
theorem step_connect_of_online (w : Waiter) (hp : l.connection.phase ≠ .offline) :
    (l.step (.connect w)).1 = l ∨
      (l.step (.connect w)).1 = { l with connection.waiters := l.connection.waiters ++ [w] } := by
  have move := Move.of_step l (.connect w)
  generalize l.step (.connect w) = next at move
  cases move with
  | served ha hc => exact Or.inl rfl
  | joined ha hc =>
    cases ha
    exact Or.inr rfl
  | started ha hc => exact absurd hc hp

/-- A failed call on the link in use begins a new generation, and leaves no link. -/
theorem step_of_uses {generation : Nat} (hb : event.blamed? = some generation)
    (hu : l.connection.uses generation = true) :
    (l.step event).1.connection.link? = none ∧
      l.connection.generation < (l.step event).1.connection.generation := by
  have move := Move.of_step l event
  generalize l.step event = next at move
  cases move with
  | reported tolerant hf => simp [LineEvent.blamed?, hf] at hb
  | served ha | joined ha | started ha =>
    cases ha with
    | connect => simp [LineEvent.blamed?] at hb
    | fault tolerant hf hn =>
      simp only [LineEvent.blamed?, hf, Option.some.injEq] at hb
      simp [hb, hu] at hn
  | replaced => exact ⟨rfl, Nat.lt_add_of_pos_right (by decide)⟩
  | dropped => exact ⟨rfl, Nat.lt_succ_self _⟩
  | kept hn =>
    simp only [LineEvent.blamed?, Option.some.injEq] at hb
    simp [hb, hu] at hn
  | abandoned | stopped | unknown | superseded | succeeded | failed =>
    simp [LineEvent.blamed?] at hb

/-- A failed call drops exactly the link that it went out on, if that is in use. -/
theorem lost?_eq_some_iff :
    l.lost? event = some link ↔
      l.connection.link? = some link ∧ event.blamed? = some link.generation := by
  simp only [lost?, Option.ite_none_right_eq_some]
  constructor
  · rintro ⟨⟨hb, changed⟩, hl⟩
    refine ⟨hl, ?_⟩
    obtain ⟨generation, hb⟩ := Option.isSome_iff_exists.1 hb
    cases hu : l.connection.uses generation with
    | false =>
      have hp : l.connection.phase ≠ .offline := by simp [(link?_eq_some_iff.1 hl).1]
      rcases step_of_not_uses hb hu hp with same | same
      · exact absurd (congrArg (fun next => next.connection.link?) same) changed
      · exact absurd (congrArg (fun next => next.connection.link?) same) changed
    | true =>
      obtain ⟨other, ho, rfl⟩ := uses_iff.1 hu
      rwa [Option.some.inj (hl.symm.trans ho)]
  · rintro ⟨hl, hb⟩
    obtain ⟨none, -⟩ := step_of_uses hb (uses_iff.2 ⟨link, hl, rfl⟩)
    exact ⟨⟨by simp [hb], by simp [none, hl]⟩, hl⟩

/-! ### Failures in the course of a run -/

theorem Sound.generation_le_lost (h : l.Sound) (events : List LineEvent) :
    ∀ link ∈ l.lost events, l.connection.generation ≤ link.generation := by
  induction events generalizing l with
  | nil => simp [lost]
  | cons event events ih =>
    intro link hm
    rcases List.mem_append.1 hm with hm | hm
    · have hl := (lost?_eq_some_iff.1 (Option.mem_toList.1 hm)).1
      exact Nat.le_of_eq (h.generation_of_link? hl).symm
    · exact Nat.le_trans (h.generation_le_step event) (ih (h.step event) link hm)

/-- The links that failed calls drop in the course of a run are of ascending generations. -/
theorem Sound.lost_ascending (h : l.Sound) (events : List LineEvent) :
    ((l.lost events).map Link.generation).Pairwise (· < ·) := by
  induction events generalizing l with
  | nil => simp [lost]
  | cons event events ih =>
    rw [lost, List.map_append, List.pairwise_append]
    refine ⟨?_, ih (h.step event), ?_⟩
    · cases l.lost? event <;> simp
    · intro g hg k hk
      obtain ⟨link, hm, rfl⟩ := List.mem_map.1 hg
      obtain ⟨later, hn, rfl⟩ := List.mem_map.1 hk
      obtain ⟨hl, hb⟩ := lost?_eq_some_iff.1 (Option.mem_toList.1 hm)
      obtain ⟨-, grown⟩ := step_of_uses hb (uses_iff.2 ⟨link, hl, rfl⟩)
      have := h.generation_of_link? hl
      have := (h.step event).generation_le_lost events later hn
      omega

/-! ### One attempt -/

theorem decision?_eq_none_iff {address : String} {number : Nat} {events : List LineEvent} :
    decision? address number events = none ↔
      ∀ event ∈ events, event ≠ .stop ∧ ∀ outcome, event ≠ .finish number outcome := by
  rw [decision?, List.findSome?_eq_none_iff]
  refine forall₂_congr fun event _ => ?_
  cases event <;> simp [LineEvent.decision?]

/-- While an attempt is undecided, none is started. -/
theorem Sound.begun_undecided (h : l.Sound) {a : Attempt} (ha : l.current? = some a)
    (hd : event.decision? l.connection.address a.number = none) : l.begun event = [] := by
  rcases h.begun_cases event with ⟨hb, -⟩ | ⟨b, -, -, -, -, -, later⟩
  · exact hb
  · -- the attempt would no longer be the current one
    have before := h.current?_eq_some_iff.1 ha
    have after := (h.step event).current?_eq_some_iff.1 (h.step_undecided ha hd).2.2
    omega

theorem Sound.attempts_undecided (h : l.Sound) {a : Attempt} (ha : l.current? = some a)
    {events : List LineEvent} (hd : decision? l.connection.address a.number events = none) :
    l.attempts events = [] := by
  induction events generalizing l with
  | nil => rfl
  | cons event events ih =>
    obtain ⟨first, rest⟩ : event.decision? l.connection.address a.number = none ∧
        decision? l.connection.address a.number events = none := by
      simpa [decision?] using hd
    rw [attempts, h.begun_undecided ha first, List.nil_append]
    exact ih (h.step event) (h.step_undecided ha first).2.2 (by simpa using rest)

/-- An attempt that an event starts is the current one then. -/
theorem Sound.current?_of_begun (h : l.Sound) {a : Attempt} (hb : l.begun event = [a]) :
    (l.step event).1.current? = some a ∧ a.number = l.dials + 1 := by
  rcases h.begun_cases event with ⟨none, -⟩ | ⟨b, one, -, pending, number, generation, -⟩
  · simp [none] at hb
  · obtain rfl : b = a := by simpa [one] using hb
    exact ⟨(h.step event).current?_eq_some_iff.2 ⟨by simp [pending], generation⟩, number⟩

/-- If an event starts an attempt, it remains the only one while it is undecided. -/
theorem Sound.attempts_of_begun (h : l.Sound) {a : Attempt} (hb : l.begun event = [a])
    {after : List LineEvent}
    (hd : decision? l.connection.address (l.dials + 1) after = none) :
    l.attempts (event :: after) = [a] := by
  obtain ⟨current, number⟩ := h.current?_of_begun hb
  have none := (h.step event).attempts_undecided current (by simpa [number] using hd)
  rw [attempts, hb, none, List.append_nil]

/-- Whoever asks for a connection that is offline starts an attempt. Until then nothing happens to
the connection unless it is given up. -/
theorem Sound.step_offline (h : l.Sound) (hp : l.connection.phase = .offline)
    (hs : event ≠ .stop) :
    (event.askers = [] ∧ l.begun event = [] ∧ (l.step event).1.connection = l.connection ∧
        (l.step event).1.dials = l.dials) ∨
      (event.askers ≠ [] ∧
        l.begun event = [⟨l.dials + 1, l.connection.generation + 1⟩]) := by
  have old := h.filter_begun (List.Subset.refl _)
  simp only [begun]
  have move := Move.of_step l event
  generalize l.step event = next at move
  cases move with
  | abandoned | kept | unknown => exact Or.inl ⟨rfl, old, rfl, rfl⟩
  | reported tolerant hf => exact Or.inl ⟨by simp [LineEvent.askers, hf], old, rfl, rfl⟩
  | superseded outcome ha hg =>
    exact Or.inl ⟨rfl, h.filter_begun (List.filter_subset_self _), rfl, rfl⟩
  | started ha =>
    exact Or.inr ⟨by simp [ha.askers], h.filter_begun_append _⟩
  | served ha hc | joined ha hc => simp [hp] at hc
  | replaced tolerant hf hu | dropped hu => simp [Connection.uses, hp] at hu
  | stopped => exact absurd rfl hs
  | succeeded _ ha hg | failed _ ha hg => simp [h.phase_of_current ha hg] at hp

/-- However many ask for a connection that is offline, they start one attempt, which remains the
only one while it is undecided. -/
theorem Sound.attempts_offline (h : l.Sound) (hp : l.connection.phase = .offline)
    {events : List LineEvent} (hd : decision? l.connection.address (l.dials + 1) events = none) :
    l.attempts events =
      if events.flatMap LineEvent.askers = [] then []
      else [⟨l.dials + 1, l.connection.generation + 1⟩] := by
  induction events generalizing l with
  | nil => rfl
  | cons event events ih =>
    have undecided := decision?_eq_none_iff.1 hd
    have rest : decision? l.connection.address (l.dials + 1) events = none :=
      decision?_eq_none_iff.2 fun e he => undecided e (List.mem_cons_of_mem _ he)
    rcases h.step_offline hp (undecided event List.mem_cons_self).1 with
      ⟨silent, none, same, dials⟩ | ⟨asks, one⟩
    · rw [attempts, none, List.nil_append, List.flatMap_cons, silent, List.nil_append]
      have := ih (h.step event) (by rw [same, hp]) (by rw [same, dials]; exact rest)
      rwa [same, dials] at this
    · rw [h.attempts_of_begun one rest, if_neg]
      simp [asks]

/-- A failed call starts an attempt if its link is in use, or if there is neither link nor
attempt. -/
theorem Sound.begun_fault (h : l.Sound) {fault : Fault} {generation : Nat}
    (hf : fault.lostLink? = some generation) (tolerant : Bool)
    (needed : l.connection.uses generation = true ∨ l.connection.phase = .offline) :
    ∃ a, l.begun (.fault fault tolerant) = [a] ∧ a.number = l.dials + 1 := by
  rcases needed with hu | hp
  · have started : (l.step (.fault fault tolerant)).1.pending =
        l.pending ++ [⟨l.dials + 1, l.connection.generation + 2⟩] := by
      simp [Line.step, handleFault, Connection.handleFault, hf, Connection.reconnect,
        Connection.dropLink, hu, Connection.connect, absorb]
    exact ⟨_, by rw [begun, started, h.filter_begun_append], rfl⟩
  · have asked : LineEvent.fault fault tolerant ≠ .stop := by simp
    rcases h.step_offline hp asked with ⟨silent, -⟩ | ⟨-, one⟩
    · simp [LineEvent.askers, hf] at silent
    · exact ⟨_, one, rfl⟩

/-- If the link is dropped first and asked for later, it is the first one to ask who starts the
attempt. -/
theorem Sound.attempts_drop (h : l.Sound) (hl : l.connection.link? = some link)
    {after : List LineEvent} (hd : decision? l.connection.address (l.dials + 1) after = none) :
    l.attempts (.drop link.generation :: after) =
      if after.flatMap LineEvent.askers = [] then [] else [⟨l.dials + 1, link.generation + 2⟩] := by
  have hu := uses_iff.2 ⟨link, hl, rfl⟩
  have dropped : (l.step (.drop link.generation)).1 =
      { l with
        connection :=
          { l.connection with
            phase := .offline
            link := none
            generation := l.connection.generation + 1 } } := by
    simp [Line.step, drop, Connection.dropLink, hu, absorb, Effects.none]
  have none : l.begun (.drop link.generation) = [] := by
    rw [begun, dropped]
    exact h.filter_begun (List.Subset.refl _)
  have undecided : decision? (l.step (.drop link.generation)).1.connection.address
      ((l.step (.drop link.generation)).1.dials + 1) after = Option.none := by
    simpa [dropped] using hd
  have rest := (h.step (.drop link.generation)).attempts_offline (by rw [dropped]) undecided
  rw [attempts, none, List.nil_append, rest, dropped, h.generation_of_link? hl]

/-! ### Runs -/

/-- In the course of a run, at most one failed call drops the link of a generation, and a failed
call drops no other link than the one that it went out on. If that is not in use, the call leaves
what there is of a link or an attempt as it is. If it is in use, or if there is neither link nor
attempt, the call starts an attempt, and that remains the only one, however many calls fail and
whatever else happens, until the attempt ends or the connection is given up. It makes no difference
if others come between the loss of the link and the moment when the failed call asks for the
connection. -/
theorem run_lost (address : String) (events : List LineEvent) :
    let line := ((offline address).run events).1
    (∀ generation, (((offline address).lost events).map Link.generation).count generation ≤ 1) ∧
    (∀ event link, line.lost? event = some link ↔
      line.connection.link? = some link ∧ event.blamed? = some link.generation) ∧
    (∀ event generation, event.blamed? = some generation →
      (∀ link, line.connection.link? = some link → link.generation ≠ generation) →
      line.connection.phase ≠ .offline → line.Keeps event) ∧
    (∀ w, line.connection.phase ≠ .offline → line.Keeps (.connect w)) ∧
    (∀ fault generation tolerant after, fault.lostLink? = some generation →
      (∃ link, line.connection.link? = some link ∧ link.generation = generation) ∨
        line.connection.phase = .offline →
      (∀ event ∈ after, event ≠ .stop ∧ ∀ outcome, event ≠ .finish (line.dials + 1) outcome) →
      ∃ a, a.number = line.dials + 1 ∧ line.attempts (.fault fault tolerant :: after) = [a] ∧
        (line.run (.fault fault tolerant :: after)).1.dials = line.dials + 1) ∧
    (∀ link after, line.connection.link? = some link →
      (∀ event ∈ after, event ≠ .stop ∧ ∀ outcome, event ≠ .finish (line.dials + 1) outcome) →
      line.attempts (.drop link.generation :: after) =
        if after.flatMap LineEvent.askers = [] then []
        else [⟨line.dials + 1, link.generation + 2⟩]) := by
  intro line
  have start := sound_offline address
  have sound : line.Sound := start.run events
  refine ⟨?_, fun event link => lost?_eq_some_iff, ?_,
    fun w hp => .of_asked (step_connect_of_online w hp), ?_, ?_⟩
  · intro generation
    exact List.nodup_iff_count_le_one.1 ((start.lost_ascending events).imp Nat.ne_of_lt) generation
  · intro event generation hb other hp
    have hu : line.connection.uses generation = false := by
      rw [Bool.eq_false_iff, ne_eq, uses_iff]
      rintro ⟨link, hl, hg⟩
      exact other link hl hg
    exact .of_asked (step_of_not_uses hb hu hp)
  · intro fault generation tolerant after hf needed undecided
    obtain ⟨a, one, number⟩ := sound.begun_fault hf tolerant (needed.imp_left uses_iff.2)
    have only := sound.attempts_of_begun one (decision?_eq_none_iff.2 undecided)
    refine ⟨a, number, only, ?_⟩
    rw [(sound.attempts_complete _).1, only]
    rfl
  · intro link after hl undecided
    exact sound.attempts_drop hl (decision?_eq_none_iff.2 undecided)

/-- Three calls fail on the first link. The second failure is noticed before the first one has asked
for the connection, and the third one when the new link is there. -/
theorem run_lost_shared :
    let events := [.connect .nobody, .finish 1 (.ok .v1)]
    let late := .fault (.rpc ⟨.unavailable, "late"⟩ 1) false
    let line := ((offline "/run/alt.sock").run events).1
    let after := [.fault (.rpc ⟨.unavailable, "gone"⟩ 1) true, .connect .nobody]
    let last := ((offline "/run/alt.sock").run
      (events ++ .drop 1 :: after ++ [.finish 2 (.ok .v1alpha2)])).1
    line.connection.link? = some ⟨.v1, 1⟩ ∧
    line.attempts (.drop 1 :: after) = [⟨2, 3⟩] ∧
    last.connection.link? = some ⟨.v1alpha2, 3⟩ ∧
    (last.step late).1.connection.link = some ⟨.v1alpha2, 3⟩ := by
  intro events late line after last
  obtain ⟨-, -, -, -, -, dropped⟩ := run_lost "/run/alt.sock" events
  obtain ⟨-, -, kept, -⟩ := run_lost "/run/alt.sock"
    (events ++ .drop 1 :: after ++ [.finish 2 (.ok .v1alpha2)])
  have one := dropped ⟨.v1, 1⟩ after (by decide) (by simp [after])
  have link : last.connection.link? = some ⟨.v1alpha2, 3⟩ := by decide
  obtain ⟨-, same, -⟩ := kept late 1 rfl
    (by intro other ho; obtain rfl := Option.some.inj (link.symm.trans ho); decide) (by decide)
  exact ⟨by decide, one, link, same.trans (by decide)⟩

end Line

end RuntimeMux
