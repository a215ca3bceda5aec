import RuntimeMux.Proofs.Settings.Layers

/-!
# The keys of settings

Every setting has a key of its own, under which the layers of data set it. A setting that is loaded is
read from what the highest layer sets its key to, and it has its default value if no layer does so. What
the layers set other keys to does not matter. The section of logging is no exception as long as all
layers leave it a table.
-/

namespace RuntimeMux.Settings

/-- The keys of the settings. -/
inductive Key where
  | listen
  | connect
  | streamPort
  | streamUrl
  | connectionTimeout
  | pollInterval
  | pollAttempts
  | level
  | filter
  | file
  deriving DecidableEq, Repr

namespace Key

/-- The values of a setting. -/
abbrev Value : Key → Type
  | .listen | .connect | .level => String
  | .streamPort => UInt16
  | .connectionTimeout | .pollInterval => UInt64
  | .pollAttempts => Option UInt32
  | .streamUrl | .filter | .file => Option String

/-- The way to a setting in the data of a layer. -/
def path : Key → List String
  | .listen => ["listen"]
  | .connect => ["connect"]
  | .streamPort => ["stream_port"]
  | .streamUrl => ["stream_url"]
  | .connectionTimeout => ["connection_timeout_secs"]
  | .pollInterval => ["socket_poll_interval_ms"]
  | .pollAttempts => ["socket_poll_attempts"]
  | .level => ["logging", "level"]
  | .filter => ["logging", "filter"]
  | .file => ["logging", "file"]

/-- The keys of the section of logging. -/
def logging : List Key := [.level, .filter, .file]

/-- A datum as a value of a setting. -/
def read? : (k : Key) → Datum → Option k.Value
  | .listen | .connect | .level => Datum.asText?
  | .streamPort => fun d => d.asNumber?.map .ofNat
  | .connectionTimeout | .pollInterval => fun d => d.asNumber?.map .ofNat
  | .pollAttempts => attempts?
  | .streamUrl | .filter | .file => optionalText?

/-- The value of a setting that no layer gives, if it may be left out. -/
def default? : (k : Key) → Option k.Value
  | .listen | .connect => none
  | .streamPort => some 11250
  | .connectionTimeout => some 30
  | .pollInterval => some 500
  | .pollAttempts => some none
  | .level => some defaultLevel
  | .streamUrl | .filter | .file => some none

/-- The value of a setting by what its key is set to, if it is set. -/
def from? (k : Key) (d? : Option Datum) : Option k.Value :=
  d?.elim k.default? k.read?

end Key

/-- The value of a setting. -/
def get (s : Settings) : (k : Key) → k.Value
  | .listen => s.listen
  | .connect => s.connect
  | .streamPort => s.streamPort
  | .streamUrl => s.streamUrl
  | .connectionTimeout => s.connectionTimeout
  | .pollInterval => s.pollInterval
  | .pollAttempts => s.pollAttempts
  | .level => s.logging.level
  | .filter => s.logging.filter
  | .file => s.logging.file

variable {d : Datum} {s : Settings} {layer : Layer} {layers : List Layer} {k : Key}

/-! ### Reading -/

theorem Key.read?_of_isCompound (h : d.IsCompound) : k.read? d = none := by
  cases d with
  | list items => cases k <;> rfl
  | table fields => cases k <;> rfl
  | _ => exact h.elim

theorem setting?_eq {α : Type} {key : String} {read : Datum → Option α} {default : Option α} :
    setting? d key read default = (d.at? [key]).elim default read := by
  rw [Datum.at?_singleton, setting?]
  cases d.field? key <;> rfl

theorem number_of_setting? {α : Type} {key : String} {default n : Nat} (f : Nat → α)
    (read : setting? d key Datum.asNumber? (some default) = some n) :
    (d.at? [key]).elim (some (f default)) (fun v => v.asNumber?.map f) = some (f n) := by
  rw [setting?_eq] at read
  cases here : d.at? [key] with
  | none =>
    rw [here] at read
    exact congrArg (Option.map f) read
  | some v =>
    rw [here] at read
    exact congrArg (Option.map f) read

/-- What is logged is read setting by setting, from a table or from nothing. -/
theorem of_setting?_logging {l : Logging}
    (table : ∀ v, d.field? "logging" = some v → v.IsTable)
    (read : setting? d "logging" logging? (some ⟨defaultLevel, none, none⟩) = some l) :
    Key.level.from? (d.at? ["logging", "level"]) = some l.level ∧
      Key.filter.from? (d.at? ["logging", "filter"]) = some l.filter ∧
      Key.file.from? (d.at? ["logging", "file"]) = some l.file := by
  have inside (key : String) : d.at? ["logging", key] =
      (d.field? "logging").bind (Datum.at? [key]) := Datum.at?_cons
  rw [setting?_eq, Datum.at?_singleton] at read
  rw [inside, inside, inside]
  cases here : d.field? "logging" with
  | none =>
    rw [here] at read
    obtain rfl := Option.some.inj read
    exact ⟨rfl, rfl, rfl⟩
  | some v =>
    obtain ⟨fields, rfl⟩ := Datum.isTable_iff.1 (table v here)
    rw [here] at read
    simp only [Option.elim_some, logging?, Option.bind_eq_bind, Option.bind_eq_some_iff,
      Option.pure_def, Option.some.injEq, setting?_eq] at read
    obtain ⟨level, hlevel, filter, hfilter, file, hfile, rfl⟩ := read
    exact ⟨hlevel, hfilter, hfile⟩

/-- Settings are read key by key, those of the section of logging if it is a table. -/
theorem get_of_ofDatum?
    (table : k ∈ Key.logging → ∀ v, d.field? "logging" = some v → v.IsTable)
    (read : ofDatum? d = some s) : k.from? (d.at? k.path) = some (s.get k) := by
  simp only [ofDatum?, Option.bind_eq_bind, Option.bind_eq_some_iff, Option.pure_def,
    Option.some.injEq] at read
  obtain ⟨listen, hlisten, connect, hconnect, port, hport, url, hurl, timeout, htimeout, interval,
    hinterval, attempts, hattempts, logging, hlogging, rfl⟩ := read
  cases k with
  | level => exact (of_setting?_logging (table (by decide)) hlogging).1
  | filter => exact (of_setting?_logging (table (by decide)) hlogging).2.1
  | file => exact (of_setting?_logging (table (by decide)) hlogging).2.2
  | streamPort => exact number_of_setting? UInt16.ofNat hport
  | connectionTimeout => exact number_of_setting? UInt64.ofNat htimeout
  | pollInterval => exact number_of_setting? UInt64.ofNat hinterval
  | listen => exact setting?_eq.symm.trans hlisten
  | connect => exact setting?_eq.symm.trans hconnect
  | streamUrl => exact setting?_eq.symm.trans hurl
  | pollAttempts => exact setting?_eq.symm.trans hattempts

end RuntimeMux.Settings
