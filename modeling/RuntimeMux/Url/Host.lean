import RuntimeMux.Text.Number
import RuntimeMux.Text.Split
import RuntimeMux.Url.Fault
import RuntimeMux.Url.Percent

/-!
# Hosts

The host of a URL is an IPv6 address between brackets, an IPv4 address, or a name. A scheme with
domains takes its hosts for domain names: they are decoded and written in ASCII, as the `DomainNames`
at hand do it, and a name that ends in a number must be an IPv4 address. Other schemes take any name.
-/

namespace RuntimeMux.Url

/-- A host. -/
inductive Host where
  | name (name : String)
  | ipv4 (address : Nat)
  /-- Eight numbers of sixteen bits. -/
  | ipv6 (pieces : List Nat)
  deriving DecidableEq, Repr

/-! ### IPv4 addresses -/

/-- The value of digits in a base. -/
def numberIn? (base : Nat) (cs : List Char) : Option Nat :=
  cs.foldlM (fun n c => do
    let d ← Text.hexValue? c
    if d < base then some (base * n + d) else none) 0

/-- A part of an IPv4 address: decimal, octal after a zero, or hexadecimal after `0x`. -/
def ipv4Number? : List Char → Option Nat
  | [] => none
  | '0' :: 'x' :: cs | '0' :: 'X' :: cs => numberIn? 16 cs
  | '0' :: c :: cs => numberIn? 8 (c :: cs)
  | cs => numberIn? 10 cs

/-- The parts of a dotted name; a dot at the end is no separator. -/
def dottedParts (cs : List Char) : List (List Char) :=
  let parts := Text.pieces '.' cs
  if 1 < parts.length ∧ parts.getLast? = some [] then parts.dropLast else parts

/-- Whether a name ends in a number and so has to be an IPv4 address. -/
def endsInNumber (cs : List Char) : Bool :=
  match (dottedParts cs).getLast? with
  | none => false
  | some last =>
    (!last.isEmpty && last.all fun c => (Text.digitValue? c).isSome) || (ipv4Number? last).isSome

/-- What the parts of an IPv4 address count. -/
def ipv4Places : List Nat := [16777216, 65536, 256, 1]

/-- Reads an IPv4 address of one to four parts, the last of which fills what the others leave. -/
def ipv4? (cs : List Char) : Option Nat := do
  let parts := dottedParts cs
  if 4 < parts.length then none
  else
    let numbers ← parts.mapM ipv4Number?
    let last ← numbers.getLast?
    let front := numbers.dropLast
    let place ← ipv4Places[front.length]?
    if last < 256 * place ∧ front.all fun n => decide (n < 256) then
      some ((front.zip ipv4Places).foldl (fun n (part, place) => n + part * place) last)
    else none

/-- The text of an IPv4 address. -/
def ipv4Text (address : Nat) : String :=
  ".".intercalate (ipv4Places.map fun place => toString (address / place % 256))

/-! ### IPv6 addresses -/

/-- Reads a part of an IPv6 address: one to four hexadecimal digits. -/
def ipv6Piece? (cs : List Char) : Option Nat :=
  if cs.isEmpty ∨ 4 < cs.length then none else numberIn? 16 cs

/-- Reads the decimal numbers of an IPv4 address that ends an IPv6 address, as two pieces. -/
def ipv4Tail? (cs : List Char) : Option (List Nat) := do
  let parts := Text.pieces '.' cs
  let numbers ← parts.mapM fun p => do
    let n ← Text.digits? p
    if n < 256 ∧ (p.length = 1 ∨ p.head? ≠ some '0') then some n else none
  match numbers with
  | [a, b, c, d] => some [a * 256 + b, c * 256 + d]
  | _ => none

/-- Reads pieces between colons. The last one may be an IPv4 address. -/
def ipv6Pieces? (cs : List Char) : Option (List Nat) := do
  if cs.isEmpty then return []
  let parts := Text.pieces ':' cs
  let last ← parts.getLast?
  let front ← parts.dropLast.mapM ipv6Piece?
  if last.contains '.' then return front ++ (← ipv4Tail? last)
  else return front ++ [← ipv6Piece? last]

/-- What stands before and after the first double colon. -/
def cutDoubleColon? : List Char → Option (List Char × List Char)
  | ':' :: ':' :: rest => some ([], rest)
  | c :: rest => (cutDoubleColon? rest).map fun (before, after) => (c :: before, after)
  | [] => none

/-- Reads an IPv6 address. A double colon stands for as many zeros as are missing, at least one. -/
def ipv6? (cs : List Char) : Option (List Nat) := do
  match cutDoubleColon? cs with
  | none =>
    let pieces ← ipv6Pieces? cs
    if pieces.length = 8 then some pieces else none
  | some (before, after) =>
    if before.contains '.' then none
    else
      let front ← ipv6Pieces? before
      let back ← ipv6Pieces? after
      let missing := 8 - (front.length + back.length)
      if 0 < missing then some (front ++ List.replicate missing 0 ++ back) else none

/-- The number of zeros at the front. -/
def leadingZeros (pieces : List Nat) : Nat :=
  (pieces.takeWhile (· == 0)).length

/-- Where the longest run of zeros starts and how long it is; of several the first. -/
def longestZeros (pieces : List Nat) : Nat × Nat :=
  (List.range pieces.length).foldl
    (fun best i =>
      let n := leadingZeros (pieces.drop i)
      if best.2 < n then (i, n) else best)
    (0, 0)

/-- The pieces in hexadecimal, with colons between them. -/
def colonText (pieces : List Nat) : String :=
  ":".intercalate (pieces.map fun n => String.ofList (Text.hexNumber n))

/-- The text of an IPv6 address. The longest run of two zeros or more is left out. -/
def ipv6Text (pieces : List Nat) : String :=
  let (start, n) := longestZeros pieces
  if n < 2 then colonText pieces
  else colonText (pieces.take start) ++ "::" ++ colonText (pieces.drop (start + n))

/-! ### Domain names -/

/-- The characters that no host has. -/
def isForbiddenInHost (c : Char) : Bool :=
  ['\x00', '\t', '\n', '\r', ' ', '#', '/', ':', '<', '>', '?', '@', '[', '\\', ']', '^', '|'].contains c

/-- The characters that no domain name has. -/
def isForbiddenInDomain (c : Char) : Bool :=
  isForbiddenInHost c || c.toNat < 0x20 || c == '%' || c.toNat == 0x7f

/-- How names of domains are written in ASCII. The tables of Unicode that this takes are left to
whoever provides them. -/
class DomainNames where
  /-- The name in ASCII, unless no domain can have the name. -/
  toAscii? : List Char → Option (List Char)

/-- The domain name, in ASCII, that percent-encoded characters stand for. -/
def domain? [DomainNames] (cs : List Char) : Option (List Char) := do
  let text ← Wire.textOfBytes? (percentDecode cs)
  DomainNames.toAscii? text.toList

/-! ### Hosts -/

/-- What stands between brackets, if the characters start with one: an IPv6 address. -/
def bracketed? : List Char → Option (Except Fault Host)
  | '[' :: cs =>
    if cs.getLast? = some ']' then
      some (match ipv6? cs.dropLast with
        | some pieces => .ok (.ipv6 pieces)
        | none => .error .badIpv6)
    else some (.error .badIpv6)
  | _ => none

/-- Reads the host of a scheme with domains. -/
def domainHost [DomainNames] (cs : List Char) : Except Fault Host :=
  match bracketed? cs with
  | some result => result
  | none =>
    match domain? cs with
    | none => .error .badDomain
    | some name =>
      if name.isEmpty then .error .emptyHost
      else if endsInNumber name then
        match ipv4? name with
        | some address => .ok (.ipv4 address)
        | none => .error .badIpv4
      else .ok (.name (.ofList name))

/-- Reads the host of a scheme without domains. -/
def plainHost (cs : List Char) : Except Fault Host :=
  match bracketed? cs with
  | some result => result
  | none =>
    if cs.any isForbiddenInHost then .error .badHost
    else .ok (.name (.ofList (percentEncode isControl cs)))

/-- The text of a host. -/
def Host.text : Host → String
  | .name n => n
  | .ipv4 address => ipv4Text address
  | .ipv6 pieces => "[" ++ ipv6Text pieces ++ "]"

end RuntimeMux.Url
