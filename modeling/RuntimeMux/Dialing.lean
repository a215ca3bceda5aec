import RuntimeMux.Cri.RuntimeInfo
import RuntimeMux.Fault
import RuntimeMux.Response

/-!
# Dialing a runtime

The socket of a runtime need not be there from the start: it is looked for at regular intervals,
for as long as the settings allow. Once it is there, the runtime is asked for its version in one
revision after the other, and the first revision in which it answers is the one it is spoken to in.

Time passes only between two looks at the socket, and while a runtime keeps the proxy waiting.
-/

namespace RuntimeMux

/-- How patiently runtimes are dialed. -/
structure Dialing where
  /-- How long a runtime may take to answer. -/
  timeout : Span
  /-- The time between two looks at a socket. -/
  pollInterval : Span
  /-- After how many looks to give up; `none` stands for never. -/
  pollAttempts : Option Nat
  deriving DecidableEq, Repr

namespace Dialing

/-- The settings that hold unless others are made. -/
def ofTimeout (timeout : Span) : Dialing := ⟨timeout, .ofMillis 500, none⟩

/-- The settings in one line, for people who look for errors. -/
def text (d : Dialing) : String :=
  let attempts := match d.pollAttempts with
    | none => "None"
    | some n => "Some(" ++ toString n ++ ")"
  "UnixConnector \x7b timeout: " ++ d.timeout.text ++ ", poll_interval: " ++ d.pollInterval.text
    ++ ", poll_attempts: " ++ attempts ++ " \x7d"

/-! ### The socket -/

/-- After how many looks to give up, in the 32 bits in which looks are counted. -/
def limit (d : Dialing) : Option UInt32 :=
  d.pollAttempts.map .ofNat

/-- The looks in vain so far. -/
structure Tally where
  /-- Their number. -/
  inVain : Nat
  /-- Their number as the proxy counts them. The counter starts over when its 32 bits are used up. -/
  counted : UInt32
  deriving DecidableEq, Repr

namespace Tally

/-- There has been no look in vain. -/
def zero : Tally := ⟨0, 0⟩

/-- There has been one more look in vain. -/
def next (t : Tally) : Tally := ⟨t.inVain + 1, t.counted + 1⟩

/-- Whether as many looks have been counted as there may be. -/
def reaches (t : Tally) (limit : Option UInt32) : Bool :=
  limit.any fun n => decide (n ≤ t.counted)

end Tally

/-- What looking for a socket has come to. -/
inductive Search where
  /-- The socket was there after these looks in vain. -/
  | found (tally : Tally)
  /-- The search was given up after these looks, all in vain. -/
  | givenUp (tally : Tally)
  /-- These looks were in vain, and the search goes on. -/
  | unfinished (tally : Tally)
  deriving DecidableEq, Repr

namespace Search

/-- What one more look makes of a search, by whether it sees the socket. Once a search has ended, there
are no more looks. -/
def look (limit : Option UInt32) : Search → (there : Bool) → Search
  | .unfinished t, true => .found t
  | .unfinished t, false =>
    if t.next.reaches limit then .givenUp t.next else .unfinished t.next
  | ended, _ => ended

/-- How often the proxy has paused. It does so after every look in vain, unless it gives up. -/
def pauses : Search → Nat
  | .found t | .unfinished t => t.inVain
  | .givenUp t => t.inVain - 1

/-- Whether the socket is there or why it is no longer waited for. A search that goes on has not come
to either. -/
def verdict? : Search → Option (Except String Unit)
  | .found _ => some (.ok ())
  | .givenUp t => some (.error ("socket did not appear after " ++ toString t.counted ++ " attempts"))
  | .unfinished _ => none

end Search

/-- Looks for a socket. `looks` tells for each look, one after the other, whether the socket is
there. -/
def search (d : Dialing) (looks : List Bool) : Search :=
  looks.foldl (Search.look d.limit) (.unfinished .zero)

/-- What the wait for the socket at an address has come to, if it has ended. -/
def await? (d : Dialing) (address : String) (looks : List Bool) :
    Option (Except ConnectFault Unit) :=
  (d.search looks).verdict?.map fun verdict => verdict.mapError (ConnectFault.mk address)

/-! ### The revision -/

/-- The version of itself that the proxy announces. -/
def ownVersion : String := "0.1.0"

/-- The path that asks for the version in a revision. -/
def versionPath (r : Revision) : String :=
  r.methodPath "RuntimeService" "Version"

/-- How dialing a runtime went. -/
structure Report where
  /-- The revision of the runtime and what it calls itself, or why there is no connection. -/
  result : Except String (Revision × String)
  /-- The calls that were made, by path and body. -/
  calls : List (String × Wire.Bytes)
  /-- The time that it took. -/
  elapsed : Span

/-- Asks for the version in one revision after the other. `reason` is why none has been found. -/
def probe (timeout : Span) (respond : Revision → Response) (reason : String) :
    List Revision → Report
  | [] => ⟨.error ("no supported CRI revision (" ++ reason ++ ")"), [], ⟨0⟩⟩
  | r :: rest =>
    let call := (versionPath r, Wire.Message.encode ({ version := ownVersion } : Cri.VersionRequest))
    let wait : Nat := if respond r = .silence then timeout.nanos else 0
    match (Response.message (respond r).received : Except Status Cri.VersionResponse) with
    | .ok v => ⟨.ok (r, v.runtimeName ++ " " ++ v.runtimeVersion), [call], ⟨wait⟩⟩
    | .error status =>
      let later := probe timeout respond ("CRI " ++ r.name ++ ": " ++ status.message) rest
      { later with calls := call :: later.calls, elapsed := ⟨wait + later.elapsed.nanos⟩ }

/-- Dials a runtime. -/
def run (d : Dialing) (looks : List Bool) (respond : Revision → Response) : Report :=
  let search := d.search looks
  let waited := search.pauses * d.pollInterval.nanos
  match search.verdict? with
  | some (.ok ()) =>
    let report := probe d.timeout respond "no revisions to probe" Revision.probeOrder
    { report with elapsed := ⟨waited + report.elapsed.nanos⟩ }
  | some (.error reason) => ⟨.error reason, [], ⟨waited⟩⟩
  | none => ⟨.error "the socket is still missing", [], ⟨waited⟩⟩

/-- What is seen of a socket that appears after some time, or never. The looks end with the one that
sees it, or when the search is given up. -/
def looksAt (d : Dialing) (appears : Option Span) : List Bool :=
  let limit := d.limit.map fun n => max n.toNat 1
  let inVain := appears.map fun t => (t.nanos + d.pollInterval.nanos - 1) / d.pollInterval.nanos
  match inVain, limit with
  | some n, some l => if n < l then List.replicate n false ++ [true] else List.replicate l false
  | some n, none => List.replicate n false ++ [true]
  | none, some l => List.replicate l false
  | none, none => []

end Dialing

end RuntimeMux
