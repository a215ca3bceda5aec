import RuntimeMux.Connection.Rehearsal
import RuntimeMux.Proofs.Connection.Soundness

/-!
# Rehearsals of a connection as runs

Each step of a script is a block of events of the line. Those who wait do so under numbers of their
own, an attempt ends if it is pending, and a fault may be that of the generation in use; so which
events they are depends on what the line has become. What can be seen after a step is the line after
all events up to there, and who learned of an outcome by the latest ones.
-/

namespace RuntimeMux

namespace Line

theorem finishBy_eq (l : Line) (plan : Plan) (number? : Option Nat) :
    (l.finishBy plan number?).2 = l.run (l.finishEvent? plan number?).toList := by
  rw [finishBy]
  cases l.finishEvent? plan number? with
  | none => rfl
  | some event => simp [run]

theorem run_singleton (l : Line) (event : LineEvent) : l.run [event] = l.step event := by
  simp [run]

/-- What each of some blocks of events makes of a line, one after the other, and who learns of an
outcome by it. -/
def runs (l : Line) : List (List LineEvent) → List (Line × Resolved)
  | [] => []
  | block :: blocks => l.run block :: (l.run block).1.runs blocks

/-- A block makes of the line what it makes of it after all events before. -/
theorem getElem?_runs (l : Line) (blocks : List (List LineEvent)) (k : Nat) :
    (l.runs blocks)[k]? =
      blocks[k]?.map fun block => (l.run (blocks.take k).flatten).1.run block := by
  induction blocks generalizing l k with
  | nil => rfl
  | cons block blocks ih =>
    cases k with
    | zero => rfl
    | succ k =>
      rw [runs, List.getElem?_cons_succ, List.getElem?_cons_succ, ih, List.take_succ_cons,
        List.flatten_cons, run_append]

end Line

namespace ConnectionScript

/-- The events of the line that a step of a script is. -/
def Step.events (limit index : Nat) (s : State) : Step → List LineEvent
  | .connect => [.connect (.caller s.asked)]
  | .finish plan attempt => (s.line.finishEvent? plan attempt).toList
  | .stop => [.stop]
  | .look => []
  | .wait during =>
    let waiter := Waiter.caller (limit + index)
    .connect waiter :: eventsOf (s.line.connect waiter).1 during
  | .fault cause tolerant => [.fault (cause s.line.connection.generation) tolerant]

/-- The events that the steps of a script are, step by step. -/
def blocksFrom (timeout : Span) (limit index : Nat) (s : State) : List Step → List (List LineEvent)
  | [] => []
  | step :: steps =>
    step.events limit index s ::
      blocksFrom timeout limit (index + 1) (play timeout limit index s step).1 steps

/-- The events that the steps of a rehearsal are, step by step. -/
def blocks (address : String) (timeout : Span) (steps : List Step) : List (List LineEvent) :=
  blocksFrom timeout steps.length 0 ⟨.offline address, 0⟩ steps

/-- What can be seen of the line after a step: what it has become, and who learned of an outcome. -/
def Scene.seen (scene : Scene) : Line × List (Nat × Outcome) :=
  (scene.line, scene.resolved)

/-- A step is played by a run of its events. -/
theorem play_eq_run (timeout : Span) (limit index : Nat) (s : State) (step : Step) :
    let played := play timeout limit index s step
    let run := s.line.run (step.events limit index s)
    played.1.line = run.1 ∧ played.2.seen = Prod.map id (callers limit) run := by
  cases step with
  | connect =>
    rw [Step.events, Line.run_singleton]
    exact ⟨rfl, rfl⟩
  | finish plan attempt =>
    rw [Step.events, ← Line.finishBy_eq]
    exact ⟨rfl, rfl⟩
  | stop =>
    rw [Step.events, Line.run_singleton]
    exact ⟨rfl, rfl⟩
  | look => exact ⟨rfl, rfl⟩
  | wait during => exact ⟨rfl, rfl⟩
  | fault cause tolerant =>
    rw [Step.events, Line.run_singleton]
    exact ⟨rfl, rfl⟩

theorem playFrom_seen (timeout : Span) (limit index : Nat) (s : State) (steps : List Step) :
    (playFrom timeout limit index s steps).map Scene.seen =
      (s.line.runs (blocksFrom timeout limit index s steps)).map
        (Prod.map id (callers limit)) := by
  induction steps generalizing index s with
  | nil => rfl
  | cons step steps ih =>
    obtain ⟨line, seen⟩ := play_eq_run timeout limit index s step
    rw [playFrom, blocksFrom, Line.runs, List.map_cons, List.map_cons, seen, ← line, ih]

/-- What can be seen in a rehearsal are the runs of its events, step by step. -/
theorem rehearse_seen (address : String) (timeout : Span) (steps : List Step) :
    (rehearse address timeout steps).map Scene.seen =
      ((Line.offline address).runs (blocks address timeout steps)).map
        (Prod.map id (callers steps.length)) :=
  playFrom_seen timeout steps.length 0 ⟨.offline address, 0⟩ steps

/-- Two ask for the connection, and learn of the outcome of the one attempt. -/
example :
    (rehearse "/run/alt.sock" ⟨0⟩ [.connect, .connect, .finish (.speak .v1) none]).map
      Scene.resolved = [[], [], [(0, .ok ()), (1, .ok ())]] := by
  decide

/-- The line that can be seen after a step is what all events up to there have made of it, and so it
is sound. -/
theorem line_of_rehearse {address : String} {timeout : Span} {steps : List Step} {k : Nat}
    {scene : Scene} (h : (rehearse address timeout steps)[k]? = some scene) :
    scene.line =
        ((Line.offline address).run ((blocks address timeout steps).take (k + 1)).flatten).1 ∧
      scene.line.Sound := by
  have seen : ((rehearse address timeout steps).map Scene.seen)[k]? = some scene.seen := by
    rw [List.getElem?_map, h]
    rfl
  rw [rehearse_seen, List.getElem?_map, Line.getElem?_runs] at seen
  cases block : (blocks address timeout steps)[k]? with
  | none =>
    rw [block] at seen
    cases seen
  | some events =>
    rw [block] at seen
    have line : _ = scene.line := congrArg Prod.fst (Option.some.inj seen)
    have run : scene.line =
        ((Line.offline address).run ((blocks address timeout steps).take (k + 1)).flatten).1 := by
      rw [List.take_add_one, block, Option.toList_some, List.flatten_append, Line.run_append,
        ← line]
      simp
    exact ⟨run, run ▸ (Line.sound_offline address).run _⟩

end ConnectionScript

end RuntimeMux
