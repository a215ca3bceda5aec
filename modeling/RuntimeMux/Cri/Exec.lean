import RuntimeMux.Wire.Message

/-!
# Messages about commands in containers

Running a command to its end, and asking for a stream to one.
-/

namespace RuntimeMux.Cri

open Wire

/-- Runs a command in a container and waits for its end. -/
structure ExecSyncRequest where
  containerId : String := ""
  cmd : List String := []
  timeout : Int64 := 0

instance : Message ExecSyncRequest where
  name := "ExecSyncRequest"
  blank := {}
  fields := [.one 1 "container_id" (·.containerId) fun x m => { m with containerId := x },
    .texts 2 "cmd" (·.cmd) fun x m => { m with cmd := x },
    .one 3 "timeout" (·.timeout) fun x m => { m with timeout := x }]

/-- What a command wrote, and how it ended. -/
structure ExecSyncResponse where
  stdout : Wire.Bytes := []
  stderr : Wire.Bytes := []
  exitCode : Int32 := 0

instance : Message ExecSyncResponse where
  name := "ExecSyncResponse"
  blank := {}
  fields := [.one 1 "stdout" (·.stdout) fun x m => { m with stdout := x },
    .one 2 "stderr" (·.stderr) fun x m => { m with stderr := x },
    .one 3 "exit_code" (·.exitCode) fun x m => { m with exitCode := x }]

/-- Asks for a stream to a new command in a container. -/
structure ExecRequest where
  containerId : String := ""
  cmd : List String := []
  tty : Bool := false
  stdin : Bool := false
  stdout : Bool := false
  stderr : Bool := false

instance : Message ExecRequest where
  name := "ExecRequest"
  blank := {}
  fields := [.one 1 "container_id" (·.containerId) fun x m => { m with containerId := x },
    .texts 2 "cmd" (·.cmd) fun x m => { m with cmd := x },
    .one 3 "tty" (·.tty) fun x m => { m with tty := x },
    .one 4 "stdin" (·.stdin) fun x m => { m with stdin := x },
    .one 5 "stdout" (·.stdout) fun x m => { m with stdout := x },
    .one 6 "stderr" (·.stderr) fun x m => { m with stderr := x }]

/-- Where the stream to the command is served. -/
structure ExecResponse where
  url : String := ""

instance : Message ExecResponse where
  name := "ExecResponse"
  blank := {}
  fields := [.one 1 "url" (·.url) fun x m => { m with url := x }]

/-- Asks for a stream to the main command of a container. -/
structure AttachRequest where
  containerId : String := ""
  stdin : Bool := false
  tty : Bool := false
  stdout : Bool := false
  stderr : Bool := false

instance : Message AttachRequest where
  name := "AttachRequest"
  blank := {}
  fields := [.one 1 "container_id" (·.containerId) fun x m => { m with containerId := x },
    .one 2 "stdin" (·.stdin) fun x m => { m with stdin := x },
    .one 3 "tty" (·.tty) fun x m => { m with tty := x },
    .one 4 "stdout" (·.stdout) fun x m => { m with stdout := x },
    .one 5 "stderr" (·.stderr) fun x m => { m with stderr := x }]

/-- Where the stream to the command is served. -/
structure AttachResponse where
  url : String := ""

instance : Message AttachResponse where
  name := "AttachResponse"
  blank := {}
  fields := [.one 1 "url" (·.url) fun x m => { m with url := x }]

end RuntimeMux.Cri
