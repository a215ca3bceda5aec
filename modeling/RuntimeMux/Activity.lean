import RuntimeMux.Connection.Basic
import RuntimeMux.Backend

/-!
# Activities

What the proxy does for a call is a sequence of acts: it looks at connections, asks for them and
waits for them, sends calls to runtimes, and consults and updates the names of images. Which act
comes next depends on the answers to those before. An activity is such a sequence, without saying
what answers the acts; `run` supplies the answers. So the same activity serves callers, is rehearsed,
and is reasoned about for all answers at once.
-/

namespace RuntimeMux

/-- A call on its way to a runtime. -/
structure Rpc where
  path : String
  body : Wire.Bytes
  /-- How long the caller is willing to wait. -/
  deadline : Option Span
  deriving DecidableEq, Repr

/-- One thing that the proxy does for a call. -/
inductive Act where
  /-- Ask for a connection and wait for it, for a limited time. -/
  | await (b : Backend)
  /-- Ask for a connection without waiting for it. -/
  | kick (b : Backend)
  /-- Look whether there is a link in use. -/
  | connected (b : Backend)
  /-- Look up the link in use. -/
  | link (b : Backend)
  /-- Look up the current generation of a connection. -/
  | generation (b : Backend)
  /-- Take notice that the runtime was unavailable on the link of a generation. -/
  | reconnect (b : Backend) (generation : Nat)
  /-- Send a call on a link and wait for the response. -/
  | send (b : Backend) (link : Link) (rpc : Rpc)
  /-- Look up the name of an image. -/
  | nameOf (image : String)
  /-- Remember the name of an image. -/
  | record (image name : String)
  /-- Forget the name of an image. -/
  | forget (image : String)
  /-- Forget every image of a name. -/
  | forgetName (name : String)

/-- What answers an act. -/
@[reducible] def Act.Answer : Act → Type
  | .await _ => Except Fault Unit
  | .connected _ => Bool
  | .link _ => Option Link
  | .generation _ => Nat
  | .send _ _ _ => Except Status Wire.Bytes
  | .nameOf _ => Option String
  | .kick _ | .reconnect _ _ | .record _ _ | .forget _ | .forgetName _ => Unit

/-- A sequence of acts that ends with a value. -/
inductive Activity (α : Type) where
  | done (value : α)
  | act (a : Act) (next : a.Answer → Activity α)

namespace Activity

variable {α β γ : Type}

/-- Goes on with what follows from the value. -/
def andThen : Activity α → (α → Activity β) → Activity β
  | .done x, f => f x
  | .act a next, f => .act a fun answer => (next answer).andThen f

instance : Monad Activity where
  pure := .done
  bind := andThen

/-- The activity of one act. -/
def once (a : Act) : Activity a.Answer :=
  .act a .done

/-- Carries an activity out. -/
def run {m : Type → Type} [Monad m] (perform : (a : Act) → m a.Answer) : Activity α → m α
  | .done x => pure x
  | .act a next => do
    let answer ← perform a
    (next answer).run perform

/-! ### Laws -/

@[simp] theorem pure_bind (x : α) (f : α → Activity β) : (pure x : Activity α) >>= f = f x := rfl

@[simp] theorem done_bind (x : α) (f : α → Activity β) : (.done x : Activity α) >>= f = f x := rfl

@[simp] theorem act_bind (a : Act) (next : a.Answer → Activity α) (f : α → Activity β) :
    Activity.act a next >>= f = .act a fun answer => next answer >>= f := rfl

theorem bind_done (t : Activity α) : t >>= .done = t := by
  induction t with
  | done x => rfl
  | act a next ih => simp [ih]

theorem bind_assoc (t : Activity α) (f : α → Activity β) (g : β → Activity γ) :
    t >>= f >>= g = t >>= fun x => f x >>= g := by
  induction t with
  | done x => rfl
  | act a next ih => simp [ih]

instance : LawfulMonad Activity :=
  LawfulMonad.mk' Activity bind_done (fun _ _ => rfl) bind_assoc

theorem run_bind {m : Type → Type} [Monad m] [LawfulMonad m] (perform : (a : Act) → m a.Answer)
    (t : Activity α) (f : α → Activity β) :
    (t >>= f).run perform = t.run perform >>= fun x => (f x).run perform := by
  induction t with
  | done x => simp [run]
  | act a next ih => simp [run, ih]

end Activity

/-- An activity that may end with a fault. -/
abbrev Handling (α : Type) := ExceptT Fault Activity α

/-- The handling of one act. -/
def Handling.once (a : Act) : Handling a.Answer :=
  ExceptT.lift (Activity.once a)

/-- Waits for a connection. -/
def Handling.await (b : Backend) : Handling Unit :=
  ExceptT.mk (Activity.once (.await b))

end RuntimeMux
