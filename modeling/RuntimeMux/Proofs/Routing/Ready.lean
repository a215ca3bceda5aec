import RuntimeMux.Proofs.Routing.Chosen

/-!
# Runtimes that are ready

Before a call is made about an object or an image, its runtime is made ready. The primary one is
waited for, and what the wait fails with is what the call fails with. A named one is asked for its
connection and looked at once: if it is not connected it is unavailable, and nobody waits for it.
-/

namespace RuntimeMux.Router

variable {w : World} {b : Backend} {past deeds : Journal} {fault : Fault}

/-- A runtime cannot take a call: the wait for the primary one fails, or a named one is not connected
when it has just been asked for the connection. -/
def Unready (w : World) (past : Journal) (b : Backend) (fault : Fault) : Prop :=
  if b.isPrimary then w past (.await b) = .error fault
  else w (past ++ [⟨.kick b, ()⟩]) (.connected b) = false ∧ fault = .targetUnavailable b.scope.id

theorem within_ready (b : Backend) : (ready b).run.Within fun a => a.backend? = some b := by
  rw [ready]
  split
  · exact Activity.within_once_backend rfl
  · refine .run_bind (Activity.within_once_backend (a := .kick b) rfl).run_lift fun _ => ?_
    refine .run_bind (Activity.within_once_backend (a := .connected b) rfl).run_lift fun yes => ?_
    split <;> trivial

theorem play_ready_primary (hb : b.isPrimary = true) (w : World) (past : Journal) :
    (ready b).run.play w past = (w past (.await b), [⟨.await b, w past (.await b)⟩]) := by
  rw [ready, if_pos hb, Activity.play_run_await]

theorem play_ready_named (hb : b.isPrimary = false) (w : World) (past : Journal) :
    let yes := w (past ++ [⟨.kick b, ()⟩]) (.connected b)
    (ready b).run.play w past =
      (if yes then .ok () else .error (.targetUnavailable b.scope.id),
        [⟨.kick b, ()⟩, ⟨.connected b, yes⟩]) := by
  intro yes
  have kicked := Activity.play_run_once (w := w) (.kick b) past
  have looked := Activity.play_run_once (w := w) (.connected b) (past ++ [⟨.kick b, ()⟩])
  rw [ready, hb, if_neg Bool.false_ne_true]
  simp only [Activity.play_run_bind, kicked, looked]
  cases hy : w (past ++ [⟨.kick b, ()⟩]) (.connected b) with
  | false => simp [yes, hy]
  | true => simp [yes, hy]

/-- A call about an object fails if its runtime is not ready. -/
theorem play_ready_eq_error_iff :
    ((ready b).run.play w past).1 = .error fault ↔ Unready w past b fault := by
  cases hb : b.isPrimary with
  | true => simp [play_ready_primary hb, Unready, hb]
  | false =>
    rw [play_ready_named hb, Unready, hb]
    cases w (past ++ [⟨.kick b, ()⟩]) (.connected b) with
    | false => simp [eq_comm]
    | true => simp

/-- A named runtime that is not connected is not ready, and has been asked for its connection. -/
theorem play_ready_of_away (hb : b.isPrimary = false)
    (away : w (past ++ [⟨.kick b, ()⟩]) (.connected b) = false) :
    (ready b).run.play w past =
      (.error (.targetUnavailable b.scope.id), [⟨.kick b, ()⟩, ⟨.connected b, false⟩]) := by
  simp [play_ready_named hb, away]

theorem sent_of_play_ready {result : Except Fault Unit}
    (played : (ready b).run.play w past = (result, deeds)) : Journal.sent deeds = [] := by
  have silent := (silent_ready b).sent_play (w := w) past
  rwa [played] at silent

end RuntimeMux.Router
