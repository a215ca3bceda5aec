import RuntimeMux.Text.Number
import RuntimeMux.Text.Split

/-!
# The command line

The arguments of the program are options with a value and switches. A value is in the argument of its
option, behind an equals sign, or is the next argument. An option is looked at only when the argument
behind it has been recognised, so that an unknown argument is reported before a wrong value in front
of it.
-/

namespace RuntimeMux.Settings

/-- What the command line says. -/
structure Flags where
  /-- The file to read settings from. -/
  config : Option String := none
  listen : Option String := none
  connect : Option String := none
  streamPort : Option UInt16 := none
  streamUrl : Option String := none
  /-- In seconds. -/
  connectionTimeout : Option UInt64 := none
  /-- How often more words were asked for. -/
  verbose : UInt8 := 0
  logFilter : Option String := none
  logFile : Option String := none
  deriving DecidableEq, Repr

/-- Why a command line is not followed. -/
inductive UsageFault where
  /-- There is no such option, or a value without an option. -/
  | unknownArgument
  /-- A value is missing, or a path is empty. -/
  | invalidValue
  /-- A number is none, or out of range. -/
  | valueValidation
  /-- An option is given twice. -/
  | argumentConflict
  /-- A switch has a value. -/
  | tooManyValues
  /-- The caller asks for help. -/
  | help
  /-- The caller asks for the version. -/
  | version
  deriving DecidableEq, Repr

/-- What the caller is told about a command line that is not followed. -/
def UsageFault.message : UsageFault → String
  | .unknownArgument => "unexpected argument found"
  | .invalidValue => "a value is required but none was supplied"
  | .valueValidation => "invalid value for a number"
  | .argumentConflict => "an argument cannot be used multiple times"
  | .tooManyValues => "unexpected value for a flag"
  | .help => "Usage: criproxy [OPTIONS]"
  | .version => "criproxy 0.1.0"

/-- An option with a value. -/
inductive Setter where
  | config
  | listen
  | connect
  | streamPort
  | streamUrl
  | connectionTimeout
  | logFilter
  | logFile
  deriving DecidableEq, Repr

/-- A switch. -/
inductive Switch where
  | verbose
  | help
  | version
  deriving DecidableEq, Repr

/-- What can be given on the command line. -/
inductive FlagKind where
  | setter (setter : Setter)
  | switch (switch : Switch)

/-- The option or switch of a long name. -/
def longFlag? : String → Option FlagKind
  | "config" => some (.setter .config)
  | "listen" => some (.setter .listen)
  | "connect" => some (.setter .connect)
  | "stream-port" => some (.setter .streamPort)
  | "stream-url" => some (.setter .streamUrl)
  | "connection-timeout" => some (.setter .connectionTimeout)
  | "log-filter" => some (.setter .logFilter)
  | "log-file" => some (.setter .logFile)
  | "verbose" => some (.switch .verbose)
  | "help" => some (.switch .help)
  | "version" => some (.switch .version)
  | _ => none

/-- The option or switch of a single letter. -/
def shortFlag? : Char → Option FlagKind
  | 'c' => some (.setter .config)
  | 'v' => some (.switch .verbose)
  | 'h' => some (.switch .help)
  | 'V' => some (.switch .version)
  | _ => none

namespace Flags

/-! ### Values -/

/-- A path, which must not be empty. -/
def path (value : String) : Except UsageFault String :=
  if value.isEmpty then .error .invalidValue else .ok value

/-- A port. Zero may have a minus sign. -/
def port (value : String) : Except UsageFault UInt16 :=
  let number := match value.toList with
    | '-' :: digits => (Text.digits? digits).filter (· == 0)
    | cs => Text.unsigned? 65535 cs
  match number with
  | some n => .ok (.ofNat n)
  | none => .error .valueValidation

/-- A number of seconds. -/
def seconds (value : String) : Except UsageFault UInt64 :=
  match Text.unsigned? (UInt64.size - 1) value.toList with
  | some n => .ok (.ofNat n)
  | none => .error .valueValidation

/-- A value that has not been given before. -/
def fresh {α : Type} (before : Option α) (value : Except UsageFault α) :
    Except UsageFault (Option α) :=
  if before.isSome then .error .argumentConflict else value.map some

/-- The flags with the value of an option. -/
def set (f : Flags) (value : String) : Setter → Except UsageFault Flags
  | .config => return { f with config := ← fresh f.config (path value) }
  | .listen => return { f with listen := ← fresh f.listen (path value) }
  | .connect => return { f with connect := ← fresh f.connect (.ok value) }
  | .streamPort => return { f with streamPort := ← fresh f.streamPort (port value) }
  | .streamUrl => return { f with streamUrl := ← fresh f.streamUrl (.ok value) }
  | .connectionTimeout =>
    return { f with connectionTimeout := ← fresh f.connectionTimeout (seconds value) }
  | .logFilter => return { f with logFilter := ← fresh f.logFilter (.ok value) }
  | .logFile => return { f with logFile := ← fresh f.logFile (path value) }

/-- The flags with a switch turned on. The count of words stops at its greatest value. -/
def turnOn (f : Flags) : Switch → Except UsageFault Flags
  | .verbose => .ok { f with verbose := if f.verbose = 255 then 255 else f.verbose + 1 }
  | .help => .error .help
  | .version => .error .version

/-! ### Arguments -/

/-- How far a command line has been read. -/
structure Progress where
  flags : Flags
  /-- The last option, with its value if that was an argument of its own. -/
  open? : Option (Setter × Option String)

namespace Progress

/-- The flags with the last option looked at. -/
def close (p : Progress) : Except UsageFault Flags :=
  match p.open? with
  | none => .ok p.flags
  | some (_, none) => .error .invalidValue
  | some (setter, some value) => p.flags.set value setter

/-- Takes an option, with its value if it is in the same argument. -/
def takeSetter (p : Progress) (setter : Setter) (attached : Option String) :
    Except UsageFault Progress := do
  let flags ← p.close
  match attached with
  | some value => return ⟨← flags.set value setter, none⟩
  | none => return ⟨flags, some (setter, none)⟩

/-- Takes a switch. -/
def takeSwitch (p : Progress) (switch : Switch) : Except UsageFault Progress := do
  return ⟨← (← p.close).turnOn switch, none⟩

/-- Takes an argument with a long name. -/
def takeLong (p : Progress) (name : String) (attached : Option String) :
    Except UsageFault Progress :=
  match longFlag? name with
  | none => .error .unknownArgument
  | some (.setter setter) => p.takeSetter setter attached
  | some (.switch switch) =>
    if attached.isSome then .error .tooManyValues else p.takeSwitch switch

/-- Takes letters, of which the first one with a value takes the rest for it. -/
def takeShort (p : Progress) : List Char → Except UsageFault Progress
  | [] => .ok p
  | c :: cs =>
    match shortFlag? c with
    | none => .error .unknownArgument
    | some (.switch switch) => do takeShort (← p.takeSwitch switch) cs
    | some (.setter setter) =>
      match cs with
      | [] => p.takeSetter setter none
      | '=' :: value => p.takeSetter setter (some (.ofList value))
      | value => p.takeSetter setter (some (.ofList value))

/-- Takes a value. -/
def takeValue (p : Progress) (value : String) : Except UsageFault Progress :=
  match p.open? with
  | some (setter, none) => .ok { p with open? := some (setter, some value) }
  | _ => .error .unknownArgument

/-- Takes an argument. -/
def take (p : Progress) (argument : String) : Except UsageFault Progress :=
  match argument.toList with
  | '-' :: '-' :: cs =>
    match Text.cutFirst? '=' cs with
    | some (name, value) => p.takeLong (.ofList name) (some (.ofList value))
    | none => p.takeLong (.ofList cs) none
  | '-' :: c :: cs => p.takeShort (c :: cs)
  | _ => p.takeValue argument

/-- Takes arguments to the end. Two hyphens say that only values follow, of which there are none. -/
def takeAll (p : Progress) : List String → Except UsageFault Flags
  | [] => p.close
  | argument :: rest =>
    if argument = "--" then if rest.isEmpty then p.close else .error .unknownArgument
    else do takeAll (← p.take argument) rest

end Progress

/-- The flags of a command line. -/
def ofArguments (arguments : List String) : Except UsageFault Flags :=
  Progress.takeAll ⟨{}, none⟩ arguments

end Flags

end RuntimeMux.Settings
