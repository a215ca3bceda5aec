import RuntimeMux.Settings.Load
import RuntimeMux.Startup
import RuntimeMux.Url.DomainName

/-!
# The program

The program reads the command line, the environment and the settings files, and goes through the
start of the proxy up to the point where it would serve. It reports why the proxy does not start, or
which runtimes it would serve. Only the reading and printing is done here.
-/

namespace RuntimeMux.Program

open Settings (Flags UsageFault)

/-- The text of a file, if the file can be read. -/
def readText? (path : String) : IO (Option String) := do
  try
    return some (← IO.FS.readFile path)
  catch _ =>
    return none

/-- The texts of those settings files that can be read, by their paths. -/
def readTexts (flags : Flags) : IO (List (String × String)) := do
  let paths := Settings.systemFile :: flags.config.toList.flatMap fun path => [path, path ++ ".toml"]
  paths.filterMapM fun path => do
    return (← readText? path).map fun text => (path, text)

/-- The variables of the environment that set something. -/
def readEnvironment : IO (List (String × String)) :=
  Settings.variableNames.filterMapM fun name => do
    return (← IO.getEnv name).map fun value => (name, value)

/-- The runtimes of a router, one in a line. -/
def summary (r : Router) : String :=
  "\n".intercalate (r.backends.map fun b => b.scope.display ++ " at " ++ b.address)

/-- Goes through the start of the proxy, and returns the code that the program ends with. -/
def start (flags : Flags) : IO UInt32 := do
  let texts ← readTexts flags
  match Settings.load (fun path => texts.lookup path) (← readEnvironment) flags with
  | .error fault =>
    IO.eprintln (chainText [fault.message])
    return 1
  | .ok settings =>
    match settings.start none fun _ => true with
    | .error fault =>
      IO.eprintln (chainText fault.chain)
      return 1
    | .ok router =>
      IO.println (summary router)
      return 0

/-- Reports why a command line is not followed. -/
def refuse (fault : UsageFault) : IO UInt32 := do
  if fault = .help ∨ fault = .version then
    IO.println fault.message
    return 0
  else
    IO.eprintln ("error: " ++ fault.message)
    return 2

end RuntimeMux.Program

/-- Runs the program. -/
def main (arguments : List String) : IO UInt32 :=
  match RuntimeMux.Settings.Flags.ofArguments arguments with
  | .error fault => RuntimeMux.Program.refuse fault
  | .ok flags => RuntimeMux.Program.start flags
