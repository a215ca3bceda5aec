/-!
# Spans of time

A span counts nanoseconds. It is written in the largest unit of which it holds at least one, with
the decimals that are needed and no more.
-/

namespace RuntimeMux

/-- A length of time. -/
structure Span where
  /-- The number of nanoseconds. -/
  nanos : Nat
  deriving DecidableEq, Repr

namespace Span

/-! ### Units -/

def ofSeconds (n : Nat) : Span := ⟨n * 1000000000⟩

def ofMillis (n : Nat) : Span := ⟨n * 1000000⟩

def ofMicros (n : Nat) : Span := ⟨n * 1000⟩

/-- The whole seconds of a span. -/
def seconds (s : Span) : Nat := s.nanos / 1000000000

/-- The nanoseconds that exceed the whole seconds. -/
def subsecond (s : Span) : Nat := s.nanos % 1000000000

/-- The whole milliseconds of a span. -/
def millis (s : Span) : Nat := s.nanos / 1000000

theorem seconds_add_subsecond (s : Span) : s.seconds * 1000000000 + s.subsecond = s.nanos := by
  simp only [seconds, subsecond]; omega

/-! ### Text -/

/-- The decimals of `part / 10 ^ places`, without trailing zeros. -/
def decimals : Nat → Nat → List Char
  | 0, _ => []
  | places + 1, part =>
    if part = 0 then []
    else Char.ofNat (48 + part / Nat.pow 10 places) :: decimals places (part % Nat.pow 10 places)

/-- A whole number of units, its decimals behind a point if there are any, and the unit. -/
def inUnit (whole part places : Nat) (unit : String) : String :=
  let tail := decimals places part
  if tail.isEmpty then toString whole ++ unit
  else toString whole ++ "." ++ String.ofList tail ++ unit

/-- The span in its largest unit that is not zero. -/
def text (s : Span) : String :=
  if s.nanos ≥ 1000000000 then inUnit s.seconds s.subsecond 9 "s"
  else if s.nanos ≥ 1000000 then inUnit s.millis (s.nanos % 1000000) 6 "ms"
  else if s.nanos ≥ 1000 then inUnit (s.nanos / 1000) (s.nanos % 1000) 3 "µs"
  else inUnit s.nanos 0 0 "ns"

end Span

end RuntimeMux
