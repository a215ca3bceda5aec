/-!
# Punycode

A label of a domain name is written in ASCII whatever its characters are: first the ASCII characters
of the label, then, for every other one, how far to advance in the sequence of all pairs of a code
point and a place. The distances are numbers of variable length in base thirty-six, whose digits
adapt to the distances before.
-/

namespace RuntimeMux.Url.Punycode

/-- The digit of a number below thirty-six. -/
def digit (n : Nat) : Char :=
  if n < 26 then Char.ofNat (97 + n) else Char.ofNat (22 + n)

/-- The least digit that is followed by another one at the position `k`. -/
def threshold (k bias : Nat) : Nat :=
  if k ≤ bias + 1 then 1 else if bias + 26 ≤ k then 26 else k - bias

/-- Halves the distance until it is small, and tells how many digits that took. `fuel` bounds the
number of steps. -/
def settle : (fuel delta k : Nat) → Nat × Nat
  | 0, delta, k => (delta, k)
  | fuel + 1, delta, k => if 455 < delta then settle fuel (delta / 35) (k + 36) else (delta, k)

/-- The bias after a distance, of which there are `count` now. -/
def adapt (delta count : Nat) (first : Bool) : Nat :=
  let scaled := if first then delta / 700 else delta / 2
  let (rest, k) := settle delta (scaled + scaled / count) 0
  k + 36 * rest / (rest + 38)

/-- The digits of a distance. `fuel` bounds their number. -/
def distance (bias : Nat) : (fuel k q : Nat) → List Char
  | 0, _, _ => []
  | fuel + 1, k, q =>
    let t := threshold k bias
    if q < t then [digit q]
    else digit (t + (q - t) % (36 - t)) :: distance bias fuel (k + 36) ((q - t) / (36 - t))

/-- How far the encoding has come. -/
structure Progress where
  written : List Char
  delta : Nat
  bias : Nat
  /-- The number of characters that are written. -/
  count : Nat

/-- Passes a character of the label, looking for the code point `m`; `ascii` characters were written
at the start. -/
def Progress.pass (ascii m : Nat) (p : Progress) (c : Char) : Progress :=
  if c.toNat < m then { p with delta := p.delta + 1 }
  else if c.toNat = m then
    { written := p.written ++ distance p.bias (p.delta + 1) 36 p.delta
      delta := 0
      bias := adapt p.delta (p.count + 1) (p.count == ascii)
      count := p.count + 1 }
  else p

/-- Writes the characters of the label that have the code point `m`. The number beside the progress is
the least code point that may follow. -/
def Progress.advance (label : List Char) (ascii : Nat) (state : Progress × Nat) (m : Nat) :
    Progress × Nat :=
  let p := { state.1 with delta := state.1.delta + (m - state.2) * (state.1.count + 1) }
  let p := label.foldl (Progress.pass ascii m) p
  ({ p with delta := p.delta + 1 }, m + 1)

/-- The code points beyond ASCII in a label, each once and ascending. -/
def codes (label : List Char) : List Nat :=
  let wide := (label.filter fun c => 0x80 ≤ c.toNat).map Char.toNat
  (wide.mergeSort fun a b => decide (a ≤ b)).eraseDups

/-- The label in ASCII. -/
def encode (label : List Char) : List Char :=
  let ascii := label.filter fun c => c.toNat < 0x80
  let start : Progress := ⟨[], 0, 72, ascii.length⟩
  let run := (codes label).foldl (Progress.advance label ascii.length) (start, 0x80)
  ascii ++ (if ascii.isEmpty then [] else ['-']) ++ run.1.written

end RuntimeMux.Url.Punycode
