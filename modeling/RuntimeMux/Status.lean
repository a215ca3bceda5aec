/-!
# Call statuses

A call that fails ends with a status: one of seventeen codes, each with a number on the wire, and a
message.
-/

namespace RuntimeMux

/-- The outcome class of a call. -/
inductive Code where
  | ok
  | cancelled
  | unknown
  | invalidArgument
  | deadlineExceeded
  | notFound
  | alreadyExists
  | permissionDenied
  | resourceExhausted
  | failedPrecondition
  | aborted
  | outOfRange
  | unimplemented
  | internal
  | unavailable
  | dataLoss
  | unauthenticated
  deriving DecidableEq, Repr

namespace Code

/-- Every code, in the order of their numbers. -/
def all : List Code :=
  [.ok, .cancelled, .unknown, .invalidArgument, .deadlineExceeded, .notFound, .alreadyExists,
   .permissionDenied, .resourceExhausted, .failedPrecondition, .aborted, .outOfRange,
   .unimplemented, .internal, .unavailable, .dataLoss, .unauthenticated]

/-- The number of a code on the wire. -/
def number : Code → Nat
  | .ok => 0
  | .cancelled => 1
  | .unknown => 2
  | .invalidArgument => 3
  | .deadlineExceeded => 4
  | .notFound => 5
  | .alreadyExists => 6
  | .permissionDenied => 7
  | .resourceExhausted => 8
  | .failedPrecondition => 9
  | .aborted => 10
  | .outOfRange => 11
  | .unimplemented => 12
  | .internal => 13
  | .unavailable => 14
  | .dataLoss => 15
  | .unauthenticated => 16

/-- The code of a number; a number that belongs to no code stands for an unknown outcome. -/
def ofNumber (n : Nat) : Code :=
  all[n]?.getD .unknown

@[simp] theorem ofNumber_number (c : Code) : ofNumber c.number = c := by
  cases c <;> rfl

end Code

/-- How a call ended: a code and the words that go with it. -/
structure Status where
  code : Code
  message : String
  deriving DecidableEq, Repr

end RuntimeMux
