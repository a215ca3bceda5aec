import RuntimeMux.Connection.Line

/-!
# What an event does to a line

All that an event can do to a line is one of thirteen moves, each under its own conditions. Asking for a
connection is the same move whether somebody asks or a failed call does, unless the failed call finds
its link still in use. Laws about lines are proved by cases on the move, not on the event.
-/

namespace RuntimeMux

namespace Line

/-- The event asks for the connection as it is, on behalf of a waiter. -/
inductive Asks (l : Line) : LineEvent → Waiter → Prop where
  | connect (w : Waiter) : Asks l (.connect w) w
  /-- The call did not go out on the link in use. -/
  | fault {fault : Fault} {generation : Nat} (tolerant : Bool)
      (hf : fault.lostLink? = some generation) (hu : l.connection.uses generation = false) :
      Asks l (.fault fault tolerant) .nobody

/-- What an event makes of a line, and who learns of an outcome. -/
inductive Move (l : Line) : LineEvent → Line × Resolved → Prop where
  /-- Somebody gave up. -/
  | abandoned (w : Waiter) : Move l (.abandon w) (l, [])
  /-- The fault tells nothing about the link. -/
  | reported {fault : Fault} (tolerant : Bool) (hf : fault.lostLink? = none) :
      Move l (.fault fault tolerant) (l, [])
  /-- There is a link already. -/
  | served {event : LineEvent} {w : Waiter} (ha : Asks l event w)
      (hp : l.connection.phase = .connected) :
      Move l event (l, [(w, .ok ())])
  /-- An attempt is running already. -/
  | joined {event : LineEvent} {w : Waiter} (ha : Asks l event w)
      (hp : l.connection.phase = .connecting) :
      Move l event
        ({ l with connection.waiters := l.connection.waiters ++ [w] }, [])
  /-- An attempt is started. -/
  | started {event : LineEvent} {w : Waiter} (ha : Asks l event w)
      (hp : l.connection.phase = .offline) :
      Move l event
        ({ connection :=
             { l.connection with
               phase := .connecting
               waiters := l.connection.waiters ++ [w]
               generation := l.connection.generation + 1 }
           dials := l.dials + 1
           pending := l.pending ++ [⟨l.dials + 1, l.connection.generation + 1⟩] }, [])
  /-- The link in use is dropped, and an attempt is started. -/
  | replaced {fault : Fault} {generation : Nat} (tolerant : Bool)
      (hf : fault.lostLink? = some generation) (hu : l.connection.uses generation = true) :
      Move l (.fault fault tolerant)
        ({ connection :=
             { l.connection with
               phase := .connecting
               link := none
               waiters := l.connection.waiters ++ [.nobody]
               generation := l.connection.generation + 2 }
           dials := l.dials + 1
           pending := l.pending ++ [⟨l.dials + 1, l.connection.generation + 2⟩] }, [])
  /-- The link in use is dropped, and nobody asks for the connection yet. -/
  | dropped {generation : Nat} (hu : l.connection.uses generation = true) :
      Move l (.drop generation)
        ({ l with
           connection :=
             { l.connection with
               phase := .offline
               link := none
               generation := l.connection.generation + 1 } }, [])
  /-- The link to be dropped is not in use. -/
  | kept {generation : Nat} (hu : l.connection.uses generation = false) :
      Move l (.drop generation) (l, [])
  /-- The connection is given up. -/
  | stopped :
      Move l .stop
        ({ l with
           connection :=
             { l.connection with
               phase := .offline
               link := none
               waiters := []
               generation := l.connection.generation + 1 } },
         l.connection.waiters.map fun w =>
           (w, .error (l.connection.failure "connection stopped")))
  /-- No such attempt is pending. -/
  | unknown {number : Nat} (outcome : Except ConnectFault Revision)
      (hn : ∀ a ∈ l.pending, a.number ≠ number) :
      Move l (.finish number outcome) (l, [])
  /-- A superseded attempt ends. -/
  | superseded {a : Attempt} (outcome : Except ConnectFault Revision) (ha : a ∈ l.pending)
      (hg : l.connection.generation ≠ a.generation) :
      Move l (.finish a.number outcome)
        ({ l with pending := l.pending.filter fun b => b.number != a.number }, [])
  /-- The current attempt succeeds. -/
  | succeeded {a : Attempt} (revision : Revision) (ha : a ∈ l.pending)
      (hg : l.connection.generation = a.generation) :
      Move l (.finish a.number (.ok revision))
        ({ l with
           connection :=
             { l.connection with
               phase := .connected
               link := some ⟨revision, l.connection.generation⟩
               waiters := [] }
           pending := l.pending.filter fun b => b.number != a.number },
         l.connection.waiters.map fun w => (w, .ok ()))
  /-- The current attempt fails. The link stays as it is. -/
  | failed {a : Attempt} (fault : ConnectFault) (ha : a ∈ l.pending)
      (hg : l.connection.generation = a.generation) :
      Move l (.finish a.number (.error fault))
        ({ l with
           connection :=
             { l.connection with
               phase := .offline
               waiters := [] }
           pending := l.pending.filter fun b => b.number != a.number },
         l.connection.waiters.map fun w => (w, .error fault))

variable {l : Line}

theorem Move.of_asks {event : LineEvent} {w : Waiter} (ha : Asks l event w)
    (hs : l.step event = l.connect w) : Move l event (l.step event) := by
  rw [hs]
  cases hp : l.connection.phase with
  | connected =>
    have : l.connect w = (l, [(w, .ok ())]) := by simp [Line.connect, Connection.connect, absorb, hp]
    exact this ▸ .served ha hp
  | connecting =>
    have : l.connect w = ({ l with connection.waiters := l.connection.waiters ++ [w] }, []) := by
      simp [Line.connect, Connection.connect, absorb, hp, Effects.none]
    exact this ▸ .joined ha hp
  | offline =>
    simp only [Line.connect, Connection.connect, absorb, hp]
    exact .started ha hp

theorem Move.of_fault (fault : Fault) (tolerant : Bool) :
    Move l (.fault fault tolerant) (l.step (.fault fault tolerant)) := by
  cases hf : fault.lostLink? with
  | none =>
    have : l.step (.fault fault tolerant) = (l, []) := by
      simp [step, handleFault, Connection.handleFault, hf, absorb, Effects.none]
    exact this ▸ .reported tolerant hf
  | some generation =>
    have hs : l.step (.fault fault tolerant) = l.reconnect generation := by
      simp [step, handleFault, Connection.handleFault, hf, Line.reconnect]
    cases hu : l.connection.uses generation with
    | false =>
      refine Move.of_asks (.fault tolerant hf hu) ?_
      simp [hs, Line.reconnect, Connection.reconnect, Connection.dropLink, hu, Line.connect]
    | true =>
      rw [hs]
      simp only [Line.reconnect, Connection.reconnect, Connection.dropLink, hu, if_true,
        Connection.connect, absorb]
      exact .replaced tolerant hf hu

theorem Move.of_drop (generation : Nat) :
    Move l (.drop generation) (l.step (.drop generation)) := by
  cases hu : l.connection.uses generation with
  | false =>
    have : l.step (.drop generation) = (l, []) := by
      simp [step, drop, Connection.dropLink, hu, absorb, Effects.none]
    exact this ▸ .kept hu
  | true =>
    simp only [step, drop, Connection.dropLink, hu, if_true, absorb, Effects.none]
    exact .dropped hu

theorem Move.of_finish (number : Nat) (outcome : Except ConnectFault Revision) :
    Move l (.finish number outcome) (l.step (.finish number outcome)) := by
  simp only [step, finish]
  cases hn : l.pending.find? fun a => a.number == number with
  | none =>
    refine .unknown outcome fun a ha => ?_
    simpa using List.find?_eq_none.1 hn a ha
  | some a =>
    have ha : a ∈ l.pending := List.mem_of_find?_eq_some hn
    obtain rfl : a.number = number := by simpa using List.find?_some hn
    by_cases hg : l.connection.generation = a.generation
    · cases outcome with
      | ok revision =>
        simp only [Connection.finish, hg, if_true, Connection.resolve, absorb]
        simpa only [hg] using Move.succeeded revision ha hg
      | error fault =>
        simp only [Connection.finish, hg, if_true, Connection.resolve, absorb]
        simpa only [hg] using Move.failed fault ha hg
    · simp only [Connection.finish, hg, if_false, Effects.none, absorb]
      exact .superseded outcome ha hg

/-- An event makes one of the moves. -/
theorem Move.of_step (l : Line) (event : LineEvent) : Move l event (l.step event) := by
  cases event with
  | connect w => exact .of_asks (.connect w) rfl
  | stop => exact .stopped
  | fault fault tolerant => exact .of_fault fault tolerant
  | drop generation => exact .of_drop generation
  | finish number outcome => exact .of_finish number outcome
  | abandon w => exact .abandoned w

/-! ### Runs -/

theorem run_append (l : Line) (before after : List LineEvent) :
    l.run (before ++ after) =
      (((l.run before).1.run after).1, (l.run before).2 ++ ((l.run before).1.run after).2) := by
  induction before generalizing l with
  | nil => simp [run]
  | cons event before ih => simp [run, ih]

/-- Notice of a call that found the runtime unavailable is taken in two steps. -/
theorem run_fault (l : Line) {fault : Fault} {generation : Nat}
    (hf : fault.lostLink? = some generation) (tolerant : Bool) :
    l.run [.fault fault tolerant] = l.run [.drop generation, .connect .nobody] := by
  simp only [run, step, handleFault, Connection.handleFault, hf, Connection.reconnect, drop, connect,
    absorb, Effects.none, List.append_nil, List.nil_append]

@[simp]
theorem address_step (l : Line) (event : LineEvent) :
    (l.step event).1.connection.address = l.connection.address := by
  have move := Move.of_step l event
  generalize l.step event = next at move
  cases move <;> rfl

@[simp]
theorem address_run (l : Line) (events : List LineEvent) :
    (l.run events).1.connection.address = l.connection.address := by
  induction events generalizing l with
  | nil => rfl
  | cons event events ih => simp [run, ih]

end Line

/-! ### Addresses -/

/-- A connection to another address, in the same state. -/
def Connection.movedTo (c : Connection) (address : String) : Connection :=
  { c with address := address }

theorem Connection.connect_movedTo (c : Connection) (address : String) (w : Waiter) :
    ((c.movedTo address).connect w).1 = (c.connect w).1.movedTo address ∧
      ((c.movedTo address).connect w).2.attempt = (c.connect w).2.attempt := by
  have same : (c.movedTo address).phase = c.phase := rfl
  rw [connect, same, connect]
  cases c.phase with
  | connected | connecting | offline => exact ⟨rfl, rfl⟩

theorem Connection.finish_movedTo (c : Connection) (address : String) (generation : Nat)
    (outcome : Except ConnectFault Revision) :
    ((c.movedTo address).finish generation outcome).1 =
        (c.finish generation outcome).1.movedTo address ∧
      ((c.movedTo address).finish generation outcome).2.attempt =
        (c.finish generation outcome).2.attempt := by
  have same : (c.movedTo address).generation = c.generation := rfl
  simp only [finish, same]
  split
  · cases outcome with
    | ok | error => exact ⟨rfl, rfl⟩
  · exact ⟨rfl, rfl⟩

namespace Line

/-- A line to another address, in the same state. -/
def movedTo (l : Line) (address : String) : Line :=
  { l with connection := l.connection.movedTo address }

theorem fst_absorb_movedTo (l : Line) {address : String} {next next' : Connection × Effects}
    (moved : next'.1 = next.1.movedTo address) (same : next'.2.attempt = next.2.attempt) :
    ((l.movedTo address).absorb next').1 = (l.absorb next).1.movedTo address := by
  rw [absorb, absorb, same]
  cases next.2.attempt with
  | none => simp [movedTo, moved]
  | some generation => simp [movedTo, moved]

theorem fst_connect_movedTo (l : Line) (address : String) (w : Waiter) :
    ((l.movedTo address).connect w).1 = (l.connect w).1.movedTo address := by
  obtain ⟨moved, same⟩ := l.connection.connect_movedTo address w
  exact l.fst_absorb_movedTo moved same

theorem fst_drop_movedTo (l : Line) (address : String) (generation : Nat) :
    ((l.movedTo address).drop generation).1 = (l.drop generation).1.movedTo address := by
  refine l.fst_absorb_movedTo ?_ rfl
  have uses : (l.connection.movedTo address).uses generation = l.connection.uses generation := rfl
  simp only [movedTo, Connection.dropLink, uses]
  split <;> rfl

theorem fst_finish_movedTo (l : Line) (address : String) (number : Nat)
    (outcome : Except ConnectFault Revision) :
    ((l.movedTo address).finish number outcome).1 = (l.finish number outcome).1.movedTo address := by
  have pending : (l.movedTo address).pending = l.pending := rfl
  rw [finish, pending, finish]
  cases l.pending.find? fun a => a.number == number with
  | none => rfl
  | some a =>
    obtain ⟨moved, same⟩ := l.connection.finish_movedTo address a.generation outcome
    exact fst_absorb_movedTo { l with pending := _ } moved same

/-- Where a connection leads does not matter to what an event makes of it. -/
theorem step_movedTo (l : Line) (address : String) (event : LineEvent) :
    ((l.movedTo address).step event).1 = (l.step event).1.movedTo address := by
  cases event with
  | connect w => exact l.fst_connect_movedTo address w
  | stop => exact l.fst_absorb_movedTo rfl rfl
  | drop generation => exact l.fst_drop_movedTo address generation
  | finish number outcome => exact l.fst_finish_movedTo address number outcome
  | abandon w => rfl
  | fault cause tolerant =>
    cases hf : cause.lostLink? with
    | none =>
      simp only [step, handleFault, Connection.handleFault, hf]
      exact l.fst_absorb_movedTo rfl rfl
    | some generation =>
      have two (l : Line) : (l.step (.fault cause tolerant)).1 =
          ((l.drop generation).1.connect .nobody).1 := by
        have notice := congrArg Prod.fst (l.run_fault hf tolerant)
        exact notice
      rw [two, two, fst_drop_movedTo, fst_connect_movedTo]

theorem run_movedTo (l : Line) (address : String) (events : List LineEvent) :
    ((l.movedTo address).run events).1 = (l.run events).1.movedTo address := by
  induction events generalizing l with
  | nil => rfl
  | cons event events ih =>
    rw [run, run, ← ih, ← step_movedTo]

end Line

end RuntimeMux
