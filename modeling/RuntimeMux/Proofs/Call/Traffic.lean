import RuntimeMux.Proofs.Call.Journal
import RuntimeMux.Proofs.Connection.Losses

/-!
# Lines while the proxy acts

What the proxy does for a call may change the line of a runtime: the connection is asked for, or a
link is given up. Meanwhile the lines of all runtimes go their own ways: other calls come and go,
and attempts end. Both together make the line that the next act finds.
-/

namespace RuntimeMux

/-- What else happens to the lines of runtimes after the deeds so far, before the next act. -/
abbrev Traffic := Journal → Backend → List LineEvent

/-- What a deed is to the line of a runtime. -/
def Deed.events (b : Backend) : Deed → List LineEvent
  | ⟨.await b', _⟩ | ⟨.kick b', _⟩ => if b' = b then [.connect .nobody] else []
  | ⟨.reconnect b' generation, _⟩ =>
    if b' = b then [.drop generation, .connect .nobody] else []
  | _ => []

/-- The line after its link has been given up: an attempt is under way that nobody waits for. -/
def Line.redialed (l : Line) : Line where
  connection :=
    { l.connection with
      phase := .connecting
      link := none
      waiters := [.nobody]
      generation := l.connection.generation + 2 }
  dials := l.dials + 1
  pending := l.pending ++ [⟨l.dials + 1, l.connection.generation + 2⟩]

/-- A runtime that was unavailable on the link in use is connected to anew. -/
theorem Line.Sound.run_drop_connect {l : Line} (h : l.Sound) {generation : Nat}
    (hu : l.connection.uses generation = true) :
    (l.run [.drop generation, .connect .nobody]).1 = l.redialed := by
  obtain ⟨link, hl, rfl⟩ := uses_iff.1 hu
  have hg := h.generation_of_link? hl
  have hw : l.connection.waiters = [] := h.waiters (by simp [(link?_eq_some_iff.1 hl).1])
  rw [hg] at hu ⊢
  simp [Line.run, Line.step, Line.drop, Line.connect, Connection.dropLink, hu,
    Connection.connect, absorb, hw, Effects.none, redialed]

/-- A link that is not in use is not dropped. -/
theorem Line.run_drop_of_unused {l : Line} {generation : Nat}
    (hu : l.connection.uses generation = false) : (l.run [.drop generation]).1 = l := by
  simp [run, step, drop, Connection.dropLink, hu, absorb, Effects.none]

namespace Traffic

variable {t : Traffic} {past : Journal} {b : Backend} {link : Link}

/-- What happens to the line of a runtime while deeds are done, up to the next act. -/
def during (t : Traffic) (b : Backend) (before : Journal) : Journal → List LineEvent
  | [] => t before b
  | d :: later => t before b ++ d.events b ++ t.during b (before ++ [d]) later

/-- All that has happened to the line of a runtime. -/
def history (t : Traffic) (past : Journal) (b : Backend) : List LineEvent :=
  t.during b [] past

/-- The line of a runtime that the next act finds. -/
def line (t : Traffic) (past : Journal) (b : Backend) : Line :=
  ((Line.offline b.address).run (t.history past b)).1

theorem during_concat (t : Traffic) (b : Backend) (before deeds : Journal) (d : Deed) :
    t.during b before (deeds ++ [d]) =
      t.during b before deeds ++ d.events b ++ t (before ++ deeds ++ [d]) b := by
  induction deeds generalizing before with
  | nil => simp [during]
  | cons e deeds ih => simp [during, ih]

/-- A deed changes the line, and then other things may. -/
theorem line_concat (t : Traffic) (past : Journal) (b : Backend) (d : Deed) :
    t.line (past ++ [d]) b = ((t.line past b).run (d.events b ++ t (past ++ [d]) b)).1 := by
  rw [line, history, during_concat, List.nil_append, List.append_assoc, Line.run_append]
  rfl

theorem sound_line (t : Traffic) (past : Journal) (b : Backend) : (t.line past b).Sound :=
  (Line.sound_offline b.address).run _

/-- Whatever is done, the line goes on from where it was. -/
theorem line_append (t : Traffic) (past deeds : Journal) (b : Backend) :
    ∃ events, t.line (past ++ deeds) b = ((t.line past b).run events).1 := by
  induction deeds generalizing past with
  | nil => exact ⟨[], by rw [List.append_nil]; rfl⟩
  | cons d deeds ih =>
    obtain ⟨events, later⟩ := ih (past ++ [d])
    refine ⟨d.events b ++ t (past ++ [d]) b ++ events, ?_⟩
    rw [List.append_cons, later, line_concat, Line.run_append _ _ events]

/-- A link that has been found is still in use exactly if its generation is the current one. -/
theorem link?_line_iff (found : (t.line past b).connection.link? = some link) (deeds : Journal) :
    (t.line (past ++ deeds) b).connection.link? = some link ↔
      (t.line (past ++ deeds) b).connection.generation = link.generation := by
  obtain ⟨events, later⟩ := t.line_append past deeds b
  rw [later]
  exact (t.sound_line past b).link?_run_iff found events

/-- By a deed, the link of a generation is given up. The line of no other runtime is changed. -/
structure GivesUp (t : Traffic) (past : Journal) (d : Deed) (b : Backend) (generation : Nat) :
    Prop where
  /-- If the link is still in use, it is dropped, and one attempt is started. -/
  redialed : (t.line past b).connection.uses generation = true →
    t.line (past ++ [d]) b = ((t.line past b).redialed.run (t (past ++ [d]) b)).1
  /-- If it is not, the connection is just asked for. -/
  kept : (t.line past b).connection.uses generation = false →
    t.line (past ++ [d]) b = ((t.line past b).run (.connect .nobody :: t (past ++ [d]) b)).1
  /-- Other lines change by themselves only. -/
  others : ∀ other ≠ b,
    t.line (past ++ [d]) other = ((t.line past other).run (t (past ++ [d]) other)).1

theorem givesUp_reconnect (t : Traffic) (past : Journal) (b : Backend) (generation : Nat) :
    t.GivesUp past ⟨.reconnect b generation, ()⟩ b generation where
  redialed used := by
    have dropped := (t.sound_line past b).run_drop_connect used
    rw [line_concat, Line.run_append, Deed.events, if_pos rfl, dropped]
  kept unused := by
    have same := Line.run_drop_of_unused unused
    have events : Deed.events b ⟨.reconnect b generation, ()⟩ =
        [.drop generation] ++ [.connect .nobody] := if_pos rfl
    rw [line_concat, events, List.append_assoc, Line.run_append, same]
    rfl
  others other different := by
    rw [line_concat, Deed.events, if_neg different.symm, List.nil_append]

end Traffic

end RuntimeMux
