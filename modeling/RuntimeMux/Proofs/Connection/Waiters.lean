import RuntimeMux.Connection.Wait
import RuntimeMux.Proofs.Connection.Soundness

/-!
# Those who wait

Nobody who asks for a connection is forgotten. Either they have learned of an outcome, once, or they
are among those who wait. The outcome is that of the attempt that they wait for, unless the connection
is given up before the attempt ends, and it is the same for all who wait for the attempt. Thus it can
be told from the events after they asked which outcome they learn of, and what others do who gave up
does not matter.
-/

namespace RuntimeMux

namespace LineEvent

/-- Those who ask for the connection by an event. -/
def askers : LineEvent → List Waiter
  | .connect w => [w]
  | .fault cause _ => if cause.lostLink?.isSome then [.nobody] else []
  | _ => []

/-- Who gives up by an event. -/
def leaver? : LineEvent → Option Waiter
  | .abandon w => some w
  | _ => none

/-- The outcome that an event brings to those who wait for the attempt with a number. -/
def decision? (address : String) (number : Nat) : LineEvent → Option Outcome
  | .stop => some (.error ⟨address, "connection stopped"⟩)
  | .finish ended outcome => if ended = number then some (outcome.map fun _ => ()) else none
  | _ => none

end LineEvent

namespace Line

/-- The outcome of the first of some events that brings one to those who wait for the attempt with a
number. -/
def decision? (address : String) (number : Nat) (events : List LineEvent) : Option Outcome :=
  events.findSome? (LineEvent.decision? address number)

/-- The outcomes that somebody learns of. -/
def outcomesOf (w : Waiter) (resolved : Resolved) : List Outcome :=
  resolved.filterMap fun (v, outcome) => if v = w then some outcome else none

/-- The outcomes that somebody hears of in the course of a run: those that they learn of until they
give up. -/
def heard (l : Line) (w : Waiter) : List LineEvent → List Outcome
  | [] => []
  | event :: events =>
    if event.leaver? = some w then []
    else outcomesOf w (l.step event).2 ++ (l.step event).1.heard w events

/-- The attempt that those who ask for the connection wait for. -/
def current? (l : Line) : Option Attempt :=
  l.pending.find? fun a => a.generation = l.connection.generation

/-- The outcome for somebody who asks for the connection, as far as it is decided by the events after
that. -/
def outcome? (l : Line) (w : Waiter) (after : List LineEvent) : Option Outcome :=
  if l.connection.phase = .connected then some (.ok ())
  else
    (l.step (.connect w)).1.current?.bind fun a =>
      decision? l.connection.address a.number after

variable {l : Line} {w : Waiter}

/-! ### Nobody is forgotten -/

theorem Asks.askers {event : LineEvent} (h : Asks l event w) : event.askers = [w] := by
  cases h with
  | connect => rfl
  | fault tolerant hf hu => simp [LineEvent.askers, hf]

/-- Those who waited and those who ask by an event either learn of an outcome or wait afterwards. -/
theorem step_conserves (l : Line) (event : LineEvent) :
    (l.connection.waiters ++ event.askers).Perm
      ((l.step event).2.map Prod.fst ++ (l.step event).1.connection.waiters) := by
  have move := Move.of_step l event
  generalize l.step event = next at move
  cases move with
  | abandoned | dropped | kept | unknown | superseded => simp [LineEvent.askers]
  | reported tolerant hf => simp [LineEvent.askers, hf]
  | served ha hp =>
    rw [ha.askers]
    exact List.perm_append_comm
  | joined ha hp => simp [ha.askers]
  | started ha hp => simp [ha.askers]
  | replaced tolerant hf hu => simp [LineEvent.askers, hf]
  | stopped | succeeded | failed => simp [LineEvent.askers, Function.comp_def]

/-- Those who waited and those who ask in the course of a run either learn of an outcome or wait at its
end. -/
theorem run_conserves (l : Line) (events : List LineEvent) :
    (l.connection.waiters ++ events.flatMap LineEvent.askers).Perm
      ((l.run events).2.map Prod.fst ++ (l.run events).1.connection.waiters) := by
  induction events generalizing l with
  | nil => simp [run]
  | cons event events ih =>
    have first := (l.step_conserves event).append_right (events.flatMap LineEvent.askers)
    have rest := (ih (l.step event).1).append_left ((l.step event).2.map Prod.fst)
    simp only [List.append_assoc] at first
    simpa [run] using first.trans rest

/-! ### Those who wait for an attempt -/

theorem Sound.current?_eq_some_iff (h : l.Sound) {a : Attempt} :
    l.current? = some a ↔ a ∈ l.pending ∧ a.generation = l.connection.generation := by
  constructor
  · intro ha
    exact ⟨List.mem_of_find?_eq_some ha, by simpa using List.find?_some ha⟩
  · rintro ⟨ha, hg⟩
    cases hc : l.current? with
    | none => exact absurd hg (by simpa using List.find?_eq_none.1 hc a ha)
    | some b =>
      have hb : b.generation = l.connection.generation := by simpa using List.find?_some hc
      rw [Attempt.eq_of_generation h.inOrder (List.mem_of_find?_eq_some hc) ha (hb.trans hg.symm)]

theorem Sound.phase_of_current? (h : l.Sound) {a : Attempt} (ha : l.current? = some a) :
    l.connection.phase = .connecting := by
  obtain ⟨ha, hg⟩ := h.current?_eq_some_iff.1 ha
  exact h.phase_of_current ha hg.symm

/-- If there is a link, somebody who asks for the connection is satisfied at once. -/
theorem step_connect_of_connected (w : Waiter) (hp : l.connection.phase = .connected) :
    l.step (.connect w) = (l, [(w, .ok ())]) := by
  simp [step, connect, Connection.connect, absorb, hp]

/-- Unless there is a link, somebody who asks for the connection waits for the current attempt. -/
theorem Sound.step_connect (h : l.Sound) (w : Waiter) (hp : l.connection.phase ≠ .connected) :
    let asked := l.step (.connect w)
    asked.2 = [] ∧ asked.1.connection.waiters = l.connection.waiters ++ [w] ∧
      ∃ a, asked.1.current? = some a := by
  have sound := h.step (.connect w)
  have connecting : (l.step (.connect w)).1.connection.phase = .connecting ∧
      (l.step (.connect w)).2 = [] ∧
      (l.step (.connect w)).1.connection.waiters = l.connection.waiters ++ [w] := by
    have move := Move.of_step l (.connect w)
    generalize l.step (.connect w) = next at move
    cases move with
    | served ha hc => exact absurd hc hp
    | joined ha hc =>
      cases ha
      exact ⟨hc, rfl, rfl⟩
    | started ha hc =>
      cases ha
      exact ⟨rfl, rfl, rfl⟩
  obtain ⟨a, ha, hg⟩ := sound.current.2 connecting.1
  exact ⟨connecting.2.1, connecting.2.2, a, sound.current?_eq_some_iff.2 ⟨ha, hg⟩⟩

/-- While no event decides it, those who wait for an attempt go on doing so. -/
theorem Sound.step_undecided (h : l.Sound) {a : Attempt} (ha : l.current? = some a)
    {event : LineEvent} (hd : event.decision? l.connection.address a.number = none) :
    (l.step event).2 = [] ∧
      (l.step event).1.connection.waiters = l.connection.waiters ++ event.askers ∧
      (l.step event).1.current? = some a := by
  have connecting := h.phase_of_current? ha
  obtain ⟨hm, hg⟩ := h.current?_eq_some_iff.1 ha
  have sound := h.step event
  rw [sound.current?_eq_some_iff]
  have move := Move.of_step l event
  generalize l.step event = next at move
  cases move with
  | abandoned | kept | unknown => exact ⟨rfl, by simp [LineEvent.askers], hm, hg⟩
  | reported tolerant hf => exact ⟨rfl, by simp [LineEvent.askers, hf], hm, hg⟩
  | joined asks hp => exact ⟨rfl, by simp [asks.askers], hm, hg⟩
  | superseded outcome hb hne =>
    refine ⟨rfl, by simp [LineEvent.askers], List.mem_filter.2 ⟨hm, ?_⟩, hg⟩
    have hn : a.number ≠ _ := fun hn => hne (hg ▸ congrArg _ (Attempt.eq_of_number h.inOrder hm hb hn))
    simpa using hn
  | served asks hp | started asks hp => simp [connecting] at hp
  | replaced _ _ hu | dropped hu => simp [Connection.uses, connecting] at hu
  | stopped => simp [LineEvent.decision?] at hd
  | succeeded revision hb hc | failed fault hb hc =>
    -- only the attempt itself is current
    obtain rfl := Attempt.eq_of_generation h.inOrder hm hb (hg.trans hc)
    simp [LineEvent.decision?] at hd

/-- When an event decides it, those who wait for an attempt all learn of the outcome. -/
theorem Sound.step_decided (h : l.Sound) {a : Attempt} (ha : l.current? = some a)
    {event : LineEvent} {outcome : Outcome}
    (hd : event.decision? l.connection.address a.number = some outcome) :
    (l.step event).2 = l.connection.waiters.map (·, outcome) ∧
      (l.step event).1.connection.waiters = [] := by
  obtain ⟨hm, hg⟩ := h.current?_eq_some_iff.1 ha
  have move := Move.of_step l event
  generalize l.step event = next at move
  cases move with
  | stopped =>
    obtain rfl : Except.error _ = outcome := by simpa [LineEvent.decision?] using hd
    exact ⟨rfl, rfl⟩
  | unknown _ hn =>
    simp only [LineEvent.decision?, Option.ite_none_right_eq_some] at hd
    exact absurd hd.1.symm (hn a hm)
  | superseded _ hb hne =>
    simp only [LineEvent.decision?, Option.ite_none_right_eq_some] at hd
    obtain rfl := Attempt.eq_of_number h.inOrder hb hm hd.1
    exact absurd hg.symm hne
  | succeeded | failed =>
    simp only [LineEvent.decision?, Option.ite_none_right_eq_some, Option.some.injEq] at hd
    exact ⟨by rw [← hd.2]; rfl, rfl⟩
  | abandoned | reported | replaced | dropped | kept => simp [LineEvent.decision?] at hd
  | served asks | joined asks | started asks => cases asks <;> simp [LineEvent.decision?] at hd

theorem Sound.run_undecided (h : l.Sound) {a : Attempt} (ha : l.current? = some a)
    {events : List LineEvent} (hd : decision? l.connection.address a.number events = none) :
    (l.run events).2 = [] ∧
      (l.run events).1.connection.waiters =
        l.connection.waiters ++ events.flatMap LineEvent.askers ∧
      (l.run events).1.current? = some a := by
  induction events generalizing l with
  | nil => simp [Line.run, ha]
  | cons event events ih =>
    obtain ⟨first, rest⟩ : event.decision? l.connection.address a.number = none ∧
        decision? l.connection.address a.number events = none := by
      simpa [decision?] using hd
    obtain ⟨resolved, waiters, current⟩ := h.step_undecided ha first
    obtain ⟨later, all, last⟩ := ih (h.step event) current (by simpa using rest)
    simp [Line.run, resolved, later, all, waiters, last]

/-! ### Outcomes -/

theorem outcomesOf_append (w : Waiter) (resolved later : Resolved) :
    outcomesOf w (resolved ++ later) = outcomesOf w resolved ++ outcomesOf w later :=
  List.filterMap_append

theorem outcomesOf_map (w : Waiter) (waiters : List Waiter) (outcome : Outcome) :
    outcomesOf w (waiters.map (·, outcome)) = List.replicate (waiters.count w) outcome := by
  induction waiters with
  | nil => rfl
  | cons v waiters ih =>
    by_cases hv : v = w
    · simpa [outcomesOf, hv, List.replicate_succ] using ih
    · simpa [outcomesOf, hv] using ih

theorem length_outcomesOf (w : Waiter) (resolved : Resolved) :
    (outcomesOf w resolved).length = (resolved.map Prod.fst).count w := by
  induction resolved with
  | nil => rfl
  | cons pair resolved ih =>
    by_cases hv : pair.1 = w
    · simpa [outcomesOf, hv] using ih
    · simpa [outcomesOf, hv] using ih

theorem lookup_eq_head? (w : Waiter) (resolved : Resolved) :
    resolved.lookup w = (outcomesOf w resolved).head? := by
  rw [outcomesOf, List.head?_filterMap, List.lookup_eq_findSome?]
  have same (pair : Waiter × Outcome) :
      (if w == pair.1 then some pair.2 else none) = if pair.1 = w then some pair.2 else none := by
    by_cases hv : pair.1 = w
    · simp [hv]
    · simp [hv, Ne.symm hv]
  exact congrArg (resolved.findSome? ·) (funext same)

/-- How often somebody learns of an outcome in the course of a run. -/
theorem length_outcomesOf_run (l : Line) (events : List LineEvent) (w : Waiter) :
    (outcomesOf w (l.run events).2).length + (l.run events).1.connection.waiters.count w =
      l.connection.waiters.count w + (events.flatMap LineEvent.askers).count w := by
  rw [length_outcomesOf, ← List.count_append, ← List.count_append]
  exact ((l.run_conserves events).count_eq w).symm

theorem outcomesOf_run_eq_nil {events : List LineEvent} (hw : w ∉ l.connection.waiters)
    (fresh : w ∉ events.flatMap LineEvent.askers) :
    outcomesOf w (l.run events).2 = [] ∧ w ∉ (l.run events).1.connection.waiters := by
  have count := l.length_outcomesOf_run events w
  rw [List.count_eq_zero.2 hw, List.count_eq_zero.2 fresh] at count
  exact ⟨List.eq_nil_of_length_eq_zero (by omega), List.count_eq_zero.1 (by omega)⟩

/-- Somebody who waits for an attempt learns of the outcome that the events decide on, if any. -/
theorem Sound.outcomesOf_run (h : l.Sound) {a : Attempt} (ha : l.current? = some a)
    {events : List LineEvent} (once : l.connection.waiters.count w = 1)
    (fresh : w ∉ events.flatMap LineEvent.askers) :
    outcomesOf w (l.run events).2 =
      (decision? l.connection.address a.number events).toList := by
  cases hd : decision? l.connection.address a.number events with
  | none => simp [(h.run_undecided ha hd).1, outcomesOf]
  | some outcome =>
    obtain ⟨between, event, rest, rfl, decided, undecided⟩ := List.findSome?_eq_some_iff.1 hd
    simp only [List.flatMap_append, List.flatMap_cons, List.mem_append, not_or] at fresh
    obtain ⟨silent, waiters, current⟩ := h.run_undecided ha (List.findSome?_eq_none_iff.2 undecided)
    obtain ⟨resolved, empty⟩ := (h.run between).step_decided current (by simpa using decided)
    have still : (l.run between).1.connection.waiters.count w = 1 := by
      rw [waiters, List.count_append, once, List.count_eq_zero.2 fresh.1]
    have later : outcomesOf w (((l.run between).1.step event).1.run rest).2 = [] :=
      (outcomesOf_run_eq_nil (by simp [empty]) fresh.2.2).1
    rw [run_append, silent, List.nil_append, Line.run, outcomesOf_append, resolved, outcomesOf_map,
      still, later]
    rfl

/-- Somebody new who asks for the connection learns of the outcome that is decided for them, if any. -/
theorem Sound.outcomesOf_connect (h : l.Sound) {after : List LineEvent}
    (new : w ∉ l.connection.waiters) (fresh : w ∉ after.flatMap LineEvent.askers) :
    outcomesOf w (l.run (.connect w :: after)).2 = (l.outcome? w after).toList := by
  by_cases hp : l.connection.phase = .connected
  · have later : outcomesOf w (l.run after).2 = [] := (outcomesOf_run_eq_nil new fresh).1
    have atOnce : outcomesOf w [(w, Except.ok ())] = [.ok ()] := by simp [outcomesOf]
    rw [Line.run, step_connect_of_connected w hp, outcome?, if_pos hp, outcomesOf_append, atOnce,
      later]
    rfl
  · obtain ⟨silent, waiters, a, current⟩ := h.step_connect w hp
    have once : (l.step (.connect w)).1.connection.waiters.count w = 1 := by
      rw [waiters, List.count_append, List.count_eq_zero.2 new]
      simp
    have outcomes := (h.step (.connect w)).outcomesOf_run current once fresh
    simpa [Line.run, silent, outcome?, hp, current] using outcomes

/-- What somebody sees who has learned of an outcome if they do not wait. -/
theorem receipt_eq {resolved : Resolved} {outcome : Option Outcome}
    (learned : outcomesOf w resolved = outcome.toList)
    (waits : outcome = none → w ∈ l.connection.waiters) :
    l.receipt resolved w = outcome.elim .waiting .resolved := by
  rw [receipt, lookup_eq_head?, learned]
  cases outcome with
  | none => simp [waits rfl]
  | some outcome => rfl

/-! ### Giving up -/

/-- Others who give up do not change what somebody hears of. -/
theorem heard_abandon {v : Waiter} (hv : v ≠ w) (l : Line) (before after : List LineEvent) :
    l.heard w (before ++ .abandon v :: after) = l.heard w (before ++ after) := by
  induction before generalizing l with
  | nil => simp [heard, LineEvent.leaver?, hv, step, outcomesOf]
  | cons event before ih => simp [heard, ih]

/-- Somebody who does not give up hears of all outcomes that they learn of. -/
theorem heard_eq_outcomesOf (l : Line) {events : List LineEvent}
    (stays : ∀ event ∈ events, event.leaver? ≠ some w) :
    l.heard w events = outcomesOf w (l.run events).2 := by
  induction events generalizing l with
  | nil => simp [heard, run, outcomesOf]
  | cons event events ih =>
    obtain ⟨first, rest⟩ := List.forall_mem_cons.1 stays
    simp [heard, run, first, ih _ rest, outcomesOf_append]

/-! ### Waits in the course of a run -/

/-- Nobody who asks in the course of a run is forgotten. Somebody new who asks at some point of it
learns of the outcome that is decided for them, and waits if none is. If there is a link, they are
satisfied at once. Otherwise there is an attempt that they wait for, and while no event decides it,
the attempt is not superseded, and all who wait go on doing so. The event that decides it brings all
of them one outcome. So a wait ends with the outcome or when its time is up, and never because those
who wait were forgotten; and others who give up at any point do not change what is heard of. -/
theorem run_waiter (address : String) (before after : List LineEvent) (w : Waiter)
    (fresh : w ∉ (before ++ after).flatMap LineEvent.askers) :
    let events := before ++ .connect w :: after
    let line := ((offline address).run before).1
    let asked := line.step (.connect w)
    let last := line.run (.connect w :: after)
    let all := (offline address).run events
    (events.flatMap LineEvent.askers).Perm (all.2.map Prod.fst ++ all.1.connection.waiters) ∧
    outcomesOf w all.2 = (line.outcome? w after).toList ∧
    (outcomesOf w all.2).length + all.1.connection.waiters.count w = 1 ∧
    (line.connection.phase = .connected → asked = (line, [(w, .ok ())])) ∧
    (line.connection.phase ≠ .connected →
      asked.2 = [] ∧
      ∃ a, asked.1.current? = some a ∧
        line.outcome? w after = decision? address a.number after ∧
        ∀ between, decision? address a.number between = none →
          let now := asked.1.run between
          now.2 = [] ∧
          now.1.current? = some a ∧
          now.1.connection.waiters =
            line.connection.waiters ++ w :: between.flatMap LineEvent.askers ∧
          ∀ event outcome, event.decision? address a.number = some outcome →
            (now.1.step event).2 = now.1.connection.waiters.map (·, outcome)) ∧
    last.1.receipt last.2 w ≠ .forgotten ∧
    (∀ timeout, (line.wait timeout w after).1 =
      match line.outcome? w after with
      | some outcome => outcome.mapError .connect
      | none => .error (.connectTimeout address timeout)) ∧
    (∀ v, v ≠ w → ∀ early late, events = early ++ late →
      (offline address).heard w (early ++ .abandon v :: late) = (offline address).heard w events) ∧
    ((∀ event ∈ events, event.leaver? ≠ some w) →
      (offline address).heard w events = (line.outcome? w after).toList) := by
  intro events line asked last all
  rw [List.flatMap_append, List.mem_append, not_or] at fresh
  have start := sound_offline address
  have sound : line.Sound := start.run before
  have hl : line.connection.address = address := address_run _ before
  have hw : w ∉ (offline address).connection.waiters := List.not_mem_nil
  obtain ⟨earlier, new⟩ := outcomesOf_run_eq_nil hw fresh.1
  have run_events : all = (last.1, ((offline address).run before).2 ++ last.2) := run_append ..
  have outcomes : outcomesOf w all.2 = (line.outcome? w after).toList := by
    rw [run_events, outcomesOf_append, earlier, List.nil_append]
    exact sound.outcomesOf_connect new fresh.2
  have count : (outcomesOf w all.2).length + all.1.connection.waiters.count w = 1 := by
    rw [length_outcomesOf_run, List.count_eq_zero.2 hw, List.flatMap_append, List.count_append,
      List.count_eq_zero.2 fresh.1, List.flatMap_cons, List.count_append,
      List.count_eq_zero.2 fresh.2]
    simp [LineEvent.askers]
  have receipt : last.1.receipt last.2 w = (line.outcome? w after).elim .waiting .resolved := by
    refine receipt_eq (sound.outcomesOf_connect new fresh.2) fun hn => ?_
    rw [outcomes, hn] at count
    have waits : last.1.connection.waiters.count w = 1 := by simpa [run_events] using count
    exact List.count_pos_iff.1 (by omega)
  refine ⟨?_, outcomes, count, fun hp => step_connect_of_connected w hp, fun hp => ?_, ?_, ?_, ?_, ?_⟩
  · exact (offline address).run_conserves events
  · obtain ⟨silent, waiters, a, current⟩ := sound.step_connect w hp
    have asked_sound : asked.1.Sound := sound.step (.connect w)
    have ha : asked.1.connection.address = address := (address_step ..).trans hl
    refine ⟨silent, a, current, by simp [outcome?, hp, current, hl], fun between undecided => ?_⟩
    obtain ⟨quiet, all_wait, still⟩ := asked_sound.run_undecided current (ha ▸ undecided)
    refine ⟨quiet, still, by rw [all_wait, waiters]; simp, fun event outcome decided => ?_⟩
    exact ((asked_sound.run between).step_decided still (by simpa [ha] using decided)).1
  · rw [receipt]
    cases line.outcome? w after <;> simp
  · intro timeout
    have verdict : (line.wait timeout w after).1 =
        (last.1.receipt last.2 w).verdict line.connection.address timeout := rfl
    rw [verdict, receipt, hl]
    cases line.outcome? w after with
    | none => rfl
    | some outcome => cases outcome <;> rfl
  · intro v hv early late split
    rw [split]
    exact heard_abandon hv _ early late
  · intro stays
    rw [heard_eq_outcomesOf _ stays]
    exact outcomes

/-- Two wait for the second attempt. One of them gives up, and a failed call joins them. -/
theorem run_waiter_shared :
    let before := [.connect (.caller 1), .finish 1 (.error ⟨"/run/alt.sock", "refused"⟩)]
    let after := [.connect (.caller 2), .fault (.rpc ⟨.unavailable, "gone"⟩ 1) true,
      .abandon (.caller 2), .finish 2 (.ok .v1), .stop]
    let line := ((offline "/run/alt.sock").run before).1
    .caller 0 ∉ (before ++ after).flatMap LineEvent.askers ∧
    outcomesOf (.caller 0)
      ((offline "/run/alt.sock").run (before ++ .connect (.caller 0) :: after)).2 = [.ok ()] ∧
    (line.wait ⟨5000000000⟩ (.caller 0) after).1 = .ok () := by
  intro before after line
  have fresh : .caller 0 ∉ (before ++ after).flatMap LineEvent.askers := by decide
  obtain ⟨-, outcomes, -, -, -, -, wait, -⟩ := run_waiter "/run/alt.sock" before after _ fresh
  exact ⟨fresh, outcomes, wait ⟨5000000000⟩⟩

end Line

end RuntimeMux
