import RuntimeMux.Settings.Basic
import RuntimeMux.Settings.Flags
import RuntimeMux.Toml.Document

/-!
# Layers of settings

Settings come from five layers, each of which overrides the ones before: the defaults, a file of the
system, a file that the command line names, the variables of the environment, and the command line
itself. The layers of data are merged before they are read.
-/

namespace RuntimeMux.Settings

/-- Why settings cannot be loaded. -/
inductive LoadFault where
  /-- The file that the command line names does not exist. -/
  | noFile (path : String)
  /-- A file is not a settings file. -/
  | badFile (path : String)
  /-- A setting does not have a value of its kind. -/
  | badSetting
  deriving DecidableEq, Repr

/-- What the caller is told about settings that cannot be loaded. -/
def LoadFault.message : LoadFault → String
  | .noFile path => "configuration error: configuration file " ++ Text.quoted path ++ " not found"
  | .badFile path => "configuration error: " ++ Text.quoted path ++ " is not a settings file"
  | .badSetting => "configuration error: a setting has a value of another kind"

/-! ### Files -/

/-- The settings file of the system. -/
def systemFile : String := "/etc/criproxy/config.toml"

/-- Whether a path names a settings file by its extension. What follows a dot at the front of a name is
no extension. -/
def isSettingsFile (path : String) : Bool :=
  let name := (Text.pieces '/' path.toList).getLastD []
  match Text.cutLast? '.' name with
  | some (stem, extension) => !stem.isEmpty && extension == "toml".toList
  | none => false

/-- The text of a settings file, whose extension may be left out. `textOf` knows the texts of the
files that exist. -/
def findFile (textOf : String → Option String) (path : String) : Except LoadFault String :=
  match textOf path with
  | some text => if isSettingsFile path then .ok text else .error (.noFile path)
  | none =>
    match textOf (path ++ ".toml") with
    | some text => .ok text
    | none => .error (.noFile path)

/-- The data in the text of a settings file. -/
def readLayer (path text : String) : Except LoadFault (List (String × Datum)) :=
  match Toml.read? text with
  | some fields => .ok fields
  | none => .error (.badFile path)

/-- The data in the file of the system, if it exists. -/
def systemLayer (textOf : String → Option String) :
    Except LoadFault (List (String × Datum)) :=
  match findFile textOf systemFile with
  | .ok text => readLayer systemFile text
  | .error _ => .ok []

/-- The data in the file that the command line names, if it names one. -/
def userLayer (textOf : String → Option String) (flags : Flags) :
    Except LoadFault (List (String × Datum)) :=
  match flags.config with
  | none => .ok []
  | some path => do readLayer path (← findFile textOf path)

/-! ### The environment -/

/-- What the names of variables start with, in lower case. -/
def variableLead : String := "criproxy_"

/-- The characters with a point for every two underscores. -/
def joinedByPoints : List Char → List Char
  | '_' :: '_' :: cs => '.' :: joinedByPoints cs
  | c :: cs => c :: joinedByPoints cs
  | [] => []

/-- The character in lower case. Of those beyond ASCII only the Kelvin sign becomes one of ASCII; the
others are in none of our keys, in either case. -/
def lowerChar (c : Char) : Char :=
  if c = '\u212a' then 'k' else c.toLower

/-- The key that a variable sets, if it is one of ours. -/
def keyOfVariable? (name : String) : Option String :=
  (Text.after? variableLead (.ofList (name.toList.map lowerChar))).map fun key =>
    .ofList (joinedByPoints key.toList)

example : keyOfVariable? "CRIPROXY_SOC\u212aET_POLL_ATTEMPTS" = some "socket_poll_attempts" := by
  decide +kernel

/-- The data in the variables of the environment. -/
def environmentLayer (environment : List (String × String)) : List (String × Datum) :=
  environment.filterMap fun (name, value) =>
    (keyOfVariable? name).map fun key => (key, .text value)

/-- The names of the variables that set something, in upper case. -/
def variableNames : List String :=
  ["LISTEN", "CONNECT", "STREAM_PORT", "STREAM_URL", "CONNECTION_TIMEOUT_SECS",
    "SOCKET_POLL_INTERVAL_MS", "SOCKET_POLL_ATTEMPTS", "LOGGING__LEVEL", "LOGGING__FILTER",
    "LOGGING__FILE", "LOG_FILTER"].map ("CRIPROXY_" ++ ·)

/-- The variable that stands in for the filter on the command line. -/
def filterVariable : String := "CRIPROXY_LOG_FILTER"

/-! ### All layers -/

/-- The data with a layer laid over it. -/
def layOver (layer : List (String × Datum)) (below : Datum) : Datum :=
  layer.foldl (fun d (key, value) => Datum.putAt value (pathOf key) d) below

/-- The settings with the command line laid over them. -/
def withFlags (s : Settings) (flags : Flags) : Settings :=
  { s with
    listen := flags.listen.getD s.listen
    connect := flags.connect.getD s.connect
    streamPort := flags.streamPort.getD s.streamPort
    streamUrl := flags.streamUrl.orElse fun () => s.streamUrl
    connectionTimeout := flags.connectionTimeout.getD s.connectionTimeout
    logging := {
      s.logging with
      filter := flags.logFilter.orElse fun () => s.logging.filter
      file := flags.logFile.orElse fun () => s.logging.file } }

/-- Loads settings. -/
def load (textOf : String → Option String) (environment : List (String × String))
    (flags : Flags) : Except LoadFault Settings := do
  let system ← systemLayer textOf
  let user ← userLayer textOf flags
  let data := layOver (environmentLayer environment)
    (layOver user (layOver system (layOver defaults .empty)))
  let some settings := ofDatum? data | throw .badSetting
  let filter := flags.logFilter.orElse fun () => environment.lookup filterVariable
  return settings.withFlags { flags with logFilter := filter }

end RuntimeMux.Settings
