import Mathlib.Data.List.Induction
import Mathlib.Logic.Function.Iterate
import RuntimeMux.Proofs.Connection.Waiters

/-!
# Asking in passing

To ask for the connection in passing changes nothing if there is a link. While an attempt is running, it
stores somebody who does not care about the outcome, each time anew, and changes nothing else. So those
who are stored are all who have asked since the attempt was started, whether they still care or not, and
as long as a runtime stays away there is no bound on their number.
-/

namespace RuntimeMux.Line

variable {l : Line}

/-! ### Kicks -/

theorem kick_of_connected (hp : l.connection.phase = .connected) : l.kick = l :=
  congrArg Prod.fst (step_connect_of_connected .nobody hp)

theorem kick_of_connecting (hp : l.connection.phase = .connecting) :
    l.kick = { l with connection.waiters := l.connection.waiters ++ [.nobody] } := by
  simp [kick, connect, Connection.connect, absorb, hp, Effects.none]

theorem iterate_kick_of_connected (hp : l.connection.phase = .connected) (n : Nat) :
    kick^[n] l = l :=
  Function.iterate_fixed (kick_of_connected hp) n

/-- Every kick during an attempt stores one more who does not care. -/
theorem iterate_kick_of_connecting (hp : l.connection.phase = .connecting) (n : Nat) :
    kick^[n] l =
      { l with connection.waiters := l.connection.waiters ++ List.replicate n .nobody } := by
  induction n with
  | zero => simp
  | succ n ih =>
    have still : (kick^[n] l).connection.phase = .connecting := by rw [ih, ← hp]
    rw [Function.iterate_succ_apply', kick_of_connecting still, ih, List.replicate_succ']
    simp only [List.append_assoc]

/-! ### Those who are stored -/

/-- If an attempt is running after an event, those who ask by the event are stored behind those who were
before. -/
theorem waiters_step {event : LineEvent}
    (connecting : (l.step event).1.connection.phase = .connecting) :
    (l.step event).1.connection.waiters = l.connection.waiters ++ event.askers := by
  have move := Move.of_step l event
  generalize l.step event = next at move connecting
  cases move with
  | abandoned | kept | unknown | superseded => simp [LineEvent.askers]
  | reported tolerant hf => simp [LineEvent.askers, hf]
  | joined ha hp | started ha hp => simp [ha.askers]
  | replaced tolerant hf hu => simp [LineEvent.askers, hf]
  | served ha hp => simp [hp] at connecting
  | dropped | stopped | succeeded | failed => cases connecting

theorem run_concat (l : Line) (events : List LineEvent) (event : LineEvent) :
    (l.run (events ++ [event])).1 = ((l.run events).1.step event).1 := by
  rw [run_append]
  rfl

/-- No attempt is running after the first events of a run, and one is running all the time after them.
-/
structure BusySince (address : String) (before since : List LineEvent) : Prop where
  idle : ((offline address).run before).1.connection.phase ≠ .connecting
  busy : ∀ early late, since = early ++ late → early ≠ [] →
    ((offline address).run (before ++ early)).1.connection.phase = .connecting

section BusySince

variable {address : String} {before since : List LineEvent} {event : LineEvent}

theorem BusySince.nil (idle : ((offline address).run before).1.connection.phase ≠ .connecting) :
    BusySince address before [] where
  idle := idle
  busy := fun _ _ split nonempty => absurd (List.append_eq_nil_iff.1 split.symm).1 nonempty

/-- An attempt is still running after one more event. -/
theorem BusySince.concat (h : BusySince address before since)
    (connecting : ((offline address).run (before ++ (since ++ [event]))).1.connection.phase =
      .connecting) : BusySince address before (since ++ [event]) where
  idle := h.idle
  busy := by
    intro early late split nonempty
    rcases List.eq_nil_or_concat late with rfl | ⟨late, final, rfl⟩
    · rwa [← List.append_nil early, ← split]
    · rw [List.concat_eq_append, ← List.append_assoc] at split
      exact h.busy early late (List.append_inj_left' split rfl) nonempty

end BusySince

/-- While an attempt is running, those who are stored have asked since no attempt was running, in
order. -/
theorem exists_busySince (address : String) (events : List LineEvent)
    (connecting : ((offline address).run events).1.connection.phase = .connecting) :
    ∃ before since, events = before ++ since ∧ BusySince address before since ∧
      ((offline address).run events).1.connection.waiters = since.flatMap LineEvent.askers := by
  induction events using List.reverseRecOn with
  | nil => cases connecting
  | append_singleton events event ih =>
    have connecting' := connecting
    rw [run_concat] at connecting' ⊢
    rw [waiters_step connecting']
    by_cases running : ((offline address).run events).1.connection.phase = .connecting
    · obtain ⟨before, since, rfl, busy, stored⟩ := ih running
      rw [List.append_assoc] at connecting
      exact ⟨before, since ++ [event], List.append_assoc .., busy.concat connecting, by simp [stored]⟩
    · have nobody := ((sound_offline address).run events).waiters running
      exact ⟨events, [event], rfl, (BusySince.nil running).concat connecting, by simp [nobody]⟩

/-- In every state that a run reaches, kicks change nothing if there is a link, and each of them
stores one more who does not care if an attempt is running. Only then is anybody stored, and those who
are have asked since no attempt was running, be it in passing or not, and whether they have given up
or not. -/
theorem run_kicks (address : String) (events : List LineEvent) (n : Nat) :
    let line := ((offline address).run events).1
    (line.connection.phase = .connected → kick^[n] line = line) ∧
    (line.connection.phase = .connecting → kick^[n] line =
      { line with
        connection.waiters := line.connection.waiters ++ List.replicate n .nobody }) ∧
    (line.connection.phase ≠ .connecting → line.connection.waiters = []) ∧
    (line.connection.phase = .connecting → ∃ before since, events = before ++ since ∧
      BusySince address before since ∧
      line.connection.waiters = since.flatMap LineEvent.askers) :=
  ⟨fun hp => iterate_kick_of_connected hp n, fun hp => iterate_kick_of_connecting hp n,
    ((sound_offline address).run events).waiters, exists_busySince address events⟩

example :
    let line := ((offline "/run/alt.sock").run [.connect (.caller 0)]).1
    line.connection.phase = .connecting ∧
      (kick^[3] line).connection.waiters = [.caller 0, .nobody, .nobody, .nobody] := by
  decide

end RuntimeMux.Line
