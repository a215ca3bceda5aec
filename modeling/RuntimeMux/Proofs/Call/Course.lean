import RuntimeMux.Activity
import RuntimeMux.Connection.Line

/-!
# Courses of activities

The course of an activity about one runtime depends on what happens to its line in the meantime. Any
events may happen before every act, and what the line does not tell is answered from outside. So a law
for all courses is one for all interleavings.
-/

namespace RuntimeMux

/-- A line in the course of an activity, and what happens to it before each of the next acts. -/
structure Course where
  line : Line
  ahead : List (List LineEvent)

namespace Course

/-- What the course becomes by the time of the next act. -/
def pass (s : Course) : Course :=
  ⟨(s.line.run (s.ahead.headD [])).1, s.ahead.tail⟩

/-- Performs an act of an activity about one runtime. What its connection does not tell is answered
from outside. -/
def perform (outside : (a : Act) → a.Answer) : (a : Act) → StateM Course a.Answer
  | .connected _ => fun s => (s.pass.line.connection.isConnected, s.pass)
  | .link _ => fun s => (s.pass.line.connection.link?, s.pass)
  | .generation _ => fun s => (s.pass.line.connection.generation, s.pass)
  | .reconnect _ generation => fun s =>
    ((), { s.pass with line := (s.pass.line.reconnect generation).1 })
  | .kick _ => fun s => ((), { s.pass with line := s.pass.line.kick })
  | .await b => fun s => (outside (.await b), { s.pass with line := s.pass.line.kick })
  | a => fun s => (outside a, s.pass)

/-- Carries an activity out. -/
def carry {α : Type} (outside : (a : Act) → a.Answer) (t : Activity α) (s : Course) : α × Course :=
  (t.run (perform outside)).run s

variable {α β : Type} {outside : (a : Act) → a.Answer}

theorem carry_bind (t : Activity α) (f : α → Activity β) (s : Course) :
    s.carry outside (t >>= f) =
      (s.carry outside t).2.carry outside (f (s.carry outside t).1) := by
  rw [carry, Activity.run_bind, StateT.run_bind]
  rfl

@[simp]
theorem carry_pure (x : α) (s : Course) : s.carry outside (pure x : Activity α) = (x, s) := rfl

@[simp]
theorem carry_once (a : Act) (s : Course) :
    s.carry outside (Activity.once a) = perform outside a s := rfl

theorem carry_run_lift (t : Activity α) (s : Course) :
    s.carry outside (ExceptT.lift t : Handling α).run =
      (.ok (s.carry outside t).1, (s.carry outside t).2) := by
  rw [ExceptT.run_lift, ← bind_pure_comp, carry_bind, carry_pure]

theorem carry_run_bind (h : Handling α) (f : α → Handling β) (s : Course) :
    s.carry outside (h >>= f).run =
      match s.carry outside h.run with
      | (.ok x, t) => t.carry outside (f x).run
      | (.error fault, t) => (.error fault, t) := by
  rw [ExceptT.run_bind, carry_bind]
  generalize s.carry outside h.run = result
  obtain ⟨_ | _, t⟩ := result <;> rfl

theorem carry_run_tryCatch (h : Handling α) (f : Fault → Handling α) (s : Course) :
    s.carry outside (tryCatch h f).run =
      match s.carry outside h.run with
      | (.ok x, t) => (.ok x, t)
      | (.error fault, t) => t.carry outside (f fault).run := by
  rw [ExceptT.run_tryCatch, carry_bind]
  generalize s.carry outside h.run = result
  obtain ⟨_ | _, t⟩ := result <;> rfl

end Course

end RuntimeMux
