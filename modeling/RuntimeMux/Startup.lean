import RuntimeMux.Router
import RuntimeMux.Settings.Basic

/-!
# Starting the proxy

Before calls are served, the backends are read, the address of streams is found, the router is set
up, and the socket is bound. What goes wrong first ends the attempt. It is reported as a chain of
messages, from what could not be done to why.
-/

namespace RuntimeMux

/-- Why the proxy does not start. -/
inductive StartFault where
  | backends (fault : Fault)
  | stream (fault : Fault)
  | router (fault : Fault)
  | serving (fault : Fault)
  deriving DecidableEq, Repr

namespace StartFault

/-- What could not be done. -/
def context : StartFault → String
  | .backends _ => "Invalid backend list"
  | .stream _ => "Can't get stream url"
  | .router _ => "Error initializing CRI proxy"
  | .serving _ => "Serving failed"

/-- Why it could not be done. -/
def fault : StartFault → Fault
  | .backends f | .stream f | .router f | .serving f => f

/-- The messages of a fault. The refusal of the operating system is a message of its own. -/
def chain (f : StartFault) : List String :=
  f.context :: f.fault.message ::
    match f.fault with
    | .system reason => [reason]
    | _ => []

end StartFault

/-- A chain of messages in lines: the first one, and what it was caused by. Several causes are
numbered. -/
def chainText : List String → String
  | [] => ""
  | [message] => "Error: " ++ message
  | [message, cause] => "Error: " ++ message ++ "\n\nCaused by:\n    " ++ cause
  | message :: causes =>
    let numbered := causes.mapIdx fun i cause => "\n    " ++ toString i ++ ": " ++ cause
    "Error: " ++ message ++ "\n\nCaused by:" ++ String.join numbered

/-! ### Binding the socket -/

/-- Why a path cannot be followed. -/
inductive PathFault where
  /-- The path, or a name on it, is too long. -/
  | tooLong
  /-- A directory on the way does not exist. -/
  | missing
  deriving DecidableEq, Repr

/-- The words of the operating system for a path that cannot be followed. -/
def PathFault.message : PathFault → String
  | .tooLong => "File name too long (os error 36)"
  | .missing => "No such file or directory (os error 2)"

/-- How many bytes a path has room for. -/
def pathRoom : Nat := 4095

/-- How many bytes a name on a path has room for. -/
def nameRoom : Nat := 255

/-- How many bytes the path of a socket has room for. -/
def socketPathRoom : Nat := 107

/-- Follows names from the place that is reached by `before`. The last name need not exist. -/
def followNames (isDirectory : String → Bool) (before : String) : List String → Option PathFault
  | [] => none
  | name :: rest =>
    if nameRoom < name.utf8ByteSize then some .tooLong
    else if rest.isEmpty then none
    else if name.isEmpty || isDirectory (before ++ name) then
      followNames isDirectory (before ++ name ++ "/") rest
    else some .missing

/-- Follows a path up to its last name. `isDirectory` knows the directories that exist. -/
def followPath (isDirectory : String → Bool) (path : String) : Option PathFault :=
  if pathRoom < path.utf8ByteSize then some .tooLong
  else followNames isDirectory "" ((Text.pieces '/' path.toList).map String.ofList)

/-- Why a socket cannot be bound, if it cannot. A stale socket at the path is removed first, which
fails only if a name is too long. -/
def bindRefusal? (isDirectory : String → Bool) (path : String) : Option String :=
  match followPath isDirectory path with
  | some .tooLong => some PathFault.tooLong.message
  | followed =>
    if socketPathRoom < path.utf8ByteSize then some "path must be shorter than SUN_LEN"
    else followed.map PathFault.message

/-! ### Starting -/

namespace Settings

/-- The address of streams: the one that the settings have, or else the one of the node, if that is
known. -/
def streamBase [Url.DomainNames] (s : Settings) (node : Option Url.Host) :
    Except Misconfiguration Url :=
  match s.streamBase?, node with
  | some base, _ => base
  | none, some host => Stream.ofNode host s.streamPort
  | none, none => .error (.other "can't get stream url: unable to determine node address")

/-- Sets up the router and binds the socket. -/
def start [Url.DomainNames] (s : Settings) (node : Option Url.Host)
    (isDirectory : String → Bool) : Except StartFault Router := do
  let backends ← s.backends.mapError fun e => .backends (.config e)
  let stream ← (s.streamBase node).mapError fun e => .stream (.config e)
  let router ← (Router.ofBackends stream backends).mapError fun e => .router (.config e)
  match bindRefusal? isDirectory s.listen with
  | some reason => .error (.serving (.system reason))
  | none => .ok router

end Settings

end RuntimeMux
