import RuntimeMux.Backend
import RuntimeMux.Dialing
import RuntimeMux.Settings.Datum
import RuntimeMux.Stream

/-!
# Settings

What can be set about the proxy, and how it is read from data. A number is cut to the width of its
setting. What is not given has a default value, and unknown data is ignored.
-/

namespace RuntimeMux

/-- What is logged, and where. -/
structure Logging where
  level : String
  filter : Option String
  file : Option String
  deriving DecidableEq, Repr

/-- The settings of the proxy. -/
structure Settings where
  /-- The socket to serve on. -/
  listen : String
  /-- The list of backends. -/
  connect : String
  /-- The port of streams, unless there is an address for them. -/
  streamPort : UInt16
  /-- The address of streams. -/
  streamUrl : Option String
  /-- How many seconds to wait for a runtime. -/
  connectionTimeout : UInt64
  /-- How many milliseconds there are between two looks at a socket. -/
  pollInterval : UInt64
  /-- After how many looks at a socket to give up. -/
  pollAttempts : Option UInt32
  logging : Logging
  deriving DecidableEq, Repr

namespace Settings

/-! ### Reading -/

/-- The setting under a key, read by `read`, or else the default. -/
def setting? {α : Type} (d : Datum) (key : String) (read : Datum → Option α) (default : Option α) :
    Option α :=
  match d.field? key with
  | some value => read value
  | none => default

/-- A text that need not be given. -/
def optionalText? : Datum → Option (Option String)
  | .nothing => some none
  | d => d.asText?.map some

/-- The level of what is logged, unless another is given. -/
def defaultLevel : String := "info"

/-- Reads what is logged, from a table or from a list in the order of the settings. -/
def logging? : Datum → Option Logging
  | .table fields => do
    let d := Datum.table fields
    let level ← setting? d "level" Datum.asText? defaultLevel
    let filter ← setting? d "filter" optionalText? (some none)
    let file ← setting? d "file" optionalText? (some none)
    return ⟨level, filter, file⟩
  | .list items => do
    let level ← items[0]?.elim (some defaultLevel) Datum.asText?
    let filter ← items[1]?.elim (some none) optionalText?
    let file ← items[2]?.elim (some none) optionalText?
    return ⟨level, filter, file⟩
  | _ => none

/-- Reads a number that need not be given. -/
def attempts? : Datum → Option (Option UInt32)
  | .nothing => some none
  | d => d.asNumber?.map fun n => some (.ofNat n)

/-- Reads settings. -/
def ofDatum? (d : Datum) : Option Settings := do
  let listen ← setting? d "listen" Datum.asText? none
  let connect ← setting? d "connect" Datum.asText? none
  let streamPort ← setting? d "stream_port" Datum.asNumber? (some 11250)
  let streamUrl ← setting? d "stream_url" optionalText? (some none)
  let connectionTimeout ← setting? d "connection_timeout_secs" Datum.asNumber? (some 30)
  let pollInterval ← setting? d "socket_poll_interval_ms" Datum.asNumber? (some 500)
  let pollAttempts ← setting? d "socket_poll_attempts" attempts? (some none)
  let logging ← setting? d "logging" logging? (some ⟨defaultLevel, none, none⟩)
  return {
    listen := listen
    connect := connect
    streamPort := .ofNat streamPort
    streamUrl := streamUrl
    connectionTimeout := .ofNat connectionTimeout
    pollInterval := .ofNat pollInterval
    pollAttempts := pollAttempts
    logging := logging }

/-- The data of the settings that hold unless others are made. -/
def defaults : List (String × Datum) :=
  [("listen", .text "/run/criproxy.sock"),
   ("connect", .text "/var/run/dockershim.sock"),
   ("stream_port", .integer 11250),
   ("connection_timeout_secs", .integer 30),
   ("socket_poll_interval_ms", .integer 500),
   ("logging", .table [("level", .text defaultLevel)])]

/-! ### Use -/

/-- The runtimes behind the proxy. -/
def backends (s : Settings) : Except Misconfiguration (List Backend) :=
  Backend.ofList s.connect

/-- How long to wait for a runtime. -/
def timeout (s : Settings) : Span :=
  .ofSeconds s.connectionTimeout.toNat

/-- How patiently runtimes are dialed. -/
def dialing (s : Settings) : Dialing where
  timeout := s.timeout
  pollInterval := .ofMillis s.pollInterval.toNat
  pollAttempts := s.pollAttempts.map UInt32.toNat

/-- Looks for a socket are limited by what is set. -/
@[simp] theorem limit_dialing (s : Settings) : s.dialing.limit = s.pollAttempts := by
  cases set : s.pollAttempts <;> simp [dialing, Dialing.limit, set]

/-- Where callers reach streams, if there is an address for them. -/
def streamBase? [Url.DomainNames] (s : Settings) : Option (Except Misconfiguration Url) :=
  s.streamUrl.map Stream.base

end Settings

end RuntimeMux
