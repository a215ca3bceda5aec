import RuntimeMux.Proofs.Connection.Soundness

/-!
# Links over time

A link that is in use stays so until it is given up, and with it goes its generation. So the
generation alone tells whether a link is still the one in use, and a link that is in use at the end
of a run has been so all along.
-/

namespace RuntimeMux

namespace Line

variable {l : Line} {link : Link}

theorem link?_eq_some_iff :
    l.connection.link? = some link ↔
      l.connection.phase = .connected ∧ l.connection.link = some link := by
  simp [Connection.link?]

theorem Sound.generation_of_link? (h : l.Sound) (hl : l.connection.link? = some link) :
    link.generation = l.connection.generation :=
  h.link_generation link (link?_eq_some_iff.1 hl).2

/-- While there is a link, an event leaves the connection as it is, or begins a new generation. -/
theorem Sound.step_connected (h : l.Sound) (hp : l.connection.phase = .connected)
    (event : LineEvent) :
    (l.step event).1.connection = l.connection ∨
      l.connection.generation < (l.step event).1.connection.generation := by
  have move := Move.of_step l event
  generalize l.step event = next at move
  cases move with
  | abandoned | reported | served | kept | unknown | superseded => exact Or.inl rfl
  | joined ha hc | started ha hc => simp [hp] at hc
  | replaced => exact Or.inr (Nat.lt_add_of_pos_right (by decide))
  | dropped | stopped => exact Or.inr (Nat.lt_succ_self _)
  | succeeded _ ha hg | failed _ ha hg =>
    -- there is no current attempt next to a link
    simp [h.phase_of_current ha hg] at hp

theorem Sound.run_connected (h : l.Sound) (hp : l.connection.phase = .connected)
    (events : List LineEvent) :
    (l.run events).1.connection = l.connection ∨
      l.connection.generation < (l.run events).1.connection.generation := by
  induction events generalizing l with
  | nil => exact Or.inl rfl
  | cons event events ih =>
    rcases h.step_connected hp event with same | later
    · have := ih (h.step event) (same ▸ hp)
      rwa [same] at this
    · exact Or.inr (Nat.lt_of_lt_of_le later ((h.step event).generation_le_run events))

/-- A link is still in use exactly if its generation is still the current one. -/
theorem Sound.link?_run_iff (h : l.Sound) (hl : l.connection.link? = some link)
    (events : List LineEvent) :
    (l.run events).1.connection.link? = some link ↔
      (l.run events).1.connection.generation = link.generation := by
  constructor
  · intro still
    exact ((h.run events).generation_of_link? still).symm
  · intro hg
    rcases h.run_connected (link?_eq_some_iff.1 hl).1 events with same | later
    · rw [same, hl]
    · have := h.generation_of_link? hl
      omega

/-- A link that is in use at the end of a run has been so all along. -/
theorem Sound.link?_run_of_append (h : l.Sound) (hl : l.connection.link? = some link)
    {before after : List LineEvent}
    (still : (l.run (before ++ after)).1.connection.link? = some link) :
    (l.run before).1.connection.link? = some link := by
  rw [h.link?_run_iff hl] at still ⊢
  simp only [run_append] at still
  have later := (h.run before).generation_le_run after
  have earlier := h.generation_le_run before
  have := h.generation_of_link? hl
  omega

/-! ### Calls that fail -/

/-- A call on the link in use found the runtime unavailable. The link is dropped, and an attempt is
started. -/
theorem Sound.handleFault_of_link? (h : l.Sound) (hl : l.connection.link? = some link)
    {status : Status} (hs : status.code = .unavailable) (tolerant : Bool) :
    l.handleFault (.rpc status link.generation) tolerant =
      (({ connection :=
            { l.connection with
              phase := .connecting
              link := none
              waiters := [.nobody]
              generation := link.generation + 2 }
          dials := l.dials + 1
          pending := l.pending ++ [⟨l.dials + 1, link.generation + 2⟩] }, []),
        if tolerant then .ok () else .error (.backend l.connection.address status)) := by
  obtain ⟨hp, hlink⟩ := link?_eq_some_iff.1 hl
  have hg := h.generation_of_link? hl
  have hw : l.connection.waiters = [] := h.waiters (by simp [hp])
  have hu : l.connection.uses l.connection.generation = true := by
    simp [Connection.uses, hp, hlink, hg]
  simp [handleFault, Connection.handleFault, Fault.lostLink?, hs, Connection.reconnect,
    Connection.dropLink, hu, Connection.connect, absorb, hw, hg, Fault.classify, Fault.report]

/-- A call whose link has been replaced says nothing about the link in use. -/
theorem handleFault_stale (l : Line) (address : String) (tolerant : Bool) :
    l.handleFault (.staleConnection address) tolerant =
      ((l, []), .error (.staleConnection address)) := by
  simp [handleFault, Connection.handleFault, Fault.lostLink?, absorb, Effects.none, Fault.classify,
    Fault.report]

end Line

end RuntimeMux
