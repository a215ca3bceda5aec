import Mathlib.Data.List.Induction
import RuntimeMux.Proofs.Connection.Links

/-!
# Where links come from

A link is made when an attempt succeeds, with the revision that the attempt has found out and in the
generation that it was started in. No other attempt of the line has this generation. So a link tells
what has been found out on the very channel that it stands for, whatever has happened to the
connection before and since.
-/

namespace RuntimeMux

namespace Line

variable {l : Line} {link : Link}

/-- In the history of a line, the attempt of the generation of a link ended with its revision. -/
def Probed (address : String) (history : List LineEvent) (link : Link) : Prop :=
  ∃ before attempt after,
    history = before ++ .finish attempt.number (.ok link.revision) :: after ∧
      attempt ∈ ((offline address).run before).1.pending ∧
      attempt.generation = link.generation ∧
      ∀ other ∈ (offline address).attempts history,
        other.generation = link.generation → other = attempt

/-- A link that is in use after an event has been so before, or the event is that the attempt of its
generation ends with its revision. -/
theorem link?_step {event : LineEvent} (hl : (l.step event).1.connection.link? = some link) :
    l.connection.link? = some link ∨
      ∃ a ∈ l.pending, event = .finish a.number (.ok link.revision) ∧
        a.generation = link.generation := by
  have move := Move.of_step l event
  generalize l.step event = next at move hl
  cases move with
  | abandoned | reported | served | kept | unknown | superseded => exact Or.inl hl
  | joined ha hp => exact Or.inl hl
  | started | replaced | dropped | stopped | failed => simp [Connection.link?] at hl
  | @succeeded a revision ha hg =>
    obtain rfl : ⟨revision, l.connection.generation⟩ = link := by simpa [Connection.link?] using hl
    exact Or.inr ⟨a, ha, rfl, hg.symm⟩

theorem attempts_append (l : Line) (before after : List LineEvent) :
    l.attempts (before ++ after) = l.attempts before ++ (l.run before).1.attempts after := by
  induction before generalizing l with
  | nil => rfl
  | cons event before ih => simp [attempts, run, ih]

/-- A link that is in use has been made by an attempt. -/
theorem exists_finish_of_link? {address : String} {history : List LineEvent}
    (hl : ((offline address).run history).1.connection.link? = some link) :
    ∃ before attempt after,
      history = before ++ .finish attempt.number (.ok link.revision) :: after ∧
        attempt ∈ ((offline address).run before).1.pending ∧
        attempt.generation = link.generation := by
  induction history using List.reverseRecOn with
  | nil => simp [run, offline, Connection.offline, Connection.link?] at hl
  | append_singleton history event ih =>
    rw [run_append] at hl
    rcases link?_step hl with earlier | ⟨a, ha, rfl, hg⟩
    · obtain ⟨before, attempt, after, rfl, pending, hg⟩ := ih earlier
      exact ⟨before, attempt, after ++ [event], by simp, pending, hg⟩
    · exact ⟨history, a, [], rfl, ha, hg⟩

/-- The revision of a link in use is the one that its own attempt has ended with. -/
theorem probed_of_link? {address : String} {history : List LineEvent}
    (hl : ((offline address).run history).1.connection.link? = some link) :
    Probed address history link := by
  obtain ⟨before, attempt, after, rfl, pending, hg⟩ := exists_finish_of_link? hl
  have start := sound_offline address
  have begun : attempt ∈ (offline address).attempts
      (before ++ .finish attempt.number (.ok link.revision) :: after) := by
    have old := (start.attempts_complete before).2 pending
    rw [attempts_append]
    exact List.mem_append_left _ (by simpa [offline] using old)
  refine ⟨before, attempt, after, rfl, pending, hg, fun other ho same => ?_⟩
  exact Attempt.eq_of_generation (start.attempts_inOrder _).2 ho begun (same.trans hg.symm)

end Line

end RuntimeMux
