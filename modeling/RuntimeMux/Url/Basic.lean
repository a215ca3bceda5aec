import RuntimeMux.Url.Host

/-!
# URLs

A URL has a scheme and a path, and may have an authority, a query and a fragment. All parts are kept
as they are written, that is percent-encoded, without the default port of the scheme, and without
dots in the path. So there is one text of a URL, and `text` is it.
-/

namespace RuntimeMux

/-- Who is in charge of what a URL names. -/
structure Authority where
  /-- A user name, with a password behind a colon if there is one. -/
  userInfo : String
  /-- The host, if it is not empty. -/
  host : Option Url.Host
  /-- The port, if it is not the default one. -/
  port : Option Nat
  deriving DecidableEq, Repr

/-- The path of a URL. -/
inductive UrlPath where
  /-- Segments with a slash in front of each. -/
  | segments (segments : List String)
  /-- A text that has no segments. -/
  | plain (text : String)
  deriving DecidableEq, Repr

/-- A URL. -/
structure Url where
  scheme : String
  authority : Option Authority
  path : UrlPath
  query : Option String
  fragment : Option String
  deriving DecidableEq, Repr

/-- The text of an authority. -/
def Authority.text (a : Authority) : String :=
  (if a.userInfo.isEmpty then "" else a.userInfo ++ "@") ++ (a.host.elim "" Url.Host.text)
    ++ (a.port.elim "" fun n => ":" ++ toString n)

/-- The text of a path. -/
def UrlPath.text : UrlPath → String
  | .segments list => String.join (list.map fun s => "/" ++ s)
  | .plain words => words

/-- The segments of a path. -/
def UrlPath.toSegments : UrlPath → List String
  | .segments list => list
  | .plain _ => []

namespace Url

/-- The kinds of schemes that differ in how the rest is read. -/
inductive SchemeKind where
  /-- The scheme of local files. -/
  | file
  /-- A scheme with domains. Backslashes are taken for slashes. -/
  | special
  /-- Any other scheme. -/
  | other
  deriving DecidableEq, Repr

/-- The kind of a scheme. -/
def schemeKind (scheme : String) : SchemeKind :=
  if scheme = "file" then .file
  else if ["http", "https", "ws", "wss", "ftp"].contains scheme then .special
  else .other

/-- Whether a scheme of the kind takes backslashes for slashes. -/
def SchemeKind.isSpecial (k : SchemeKind) : Bool :=
  k != .other

/-- The port that a scheme has by default. -/
def defaultPort? (scheme : String) : Option Nat :=
  if scheme = "http" ∨ scheme = "ws" then some 80
  else if scheme = "https" ∨ scheme = "wss" then some 443
  else if scheme = "ftp" then some 21
  else none

/-- Whether a URL has a host. -/
def hasHost (u : Url) : Bool :=
  u.authority.any fun a => a.host.isSome

/-! ### Text -/

/-- The text of a URL. -/
def text (u : Url) : String :=
  u.scheme ++ ":" ++ (u.authority.elim "" fun a => "//" ++ a.text) ++ u.path.text
    ++ (u.query.elim "" fun q => "?" ++ q) ++ (u.fragment.elim "" fun f => "#" ++ f)

end Url

end RuntimeMux
