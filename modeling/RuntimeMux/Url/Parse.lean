import RuntimeMux.Url.Basic

/-!
# Reading URLs

A text is cleared of blanks at its ends and of tabs and line breaks everywhere, and is then read from
left to right: scheme, authority, path, query, fragment. A text without a scheme is no URL, but it
can be joined to one, of which it takes what it lacks.
-/

namespace RuntimeMux.Url

/-! ### Pieces of the text -/

/-- The characters of a text that count. -/
def cleared (text : String) : List Char :=
  let isEdge (c : Char) : Bool := c.toNat ≤ 0x20
  let cs := ((text.toList.dropWhile isEdge).reverse.dropWhile isEdge).reverse
  cs.filter fun c => c ≠ '\t' ∧ c ≠ '\n' ∧ c ≠ '\r'

/-- Whether a character can stand in a scheme, and which one it is there. -/
def schemeChar? (c : Char) : Option Char :=
  if ('a' ≤ c ∧ c ≤ 'z') ∨ ('0' ≤ c ∧ c ≤ '9') ∨ c = '+' ∨ c = '-' ∨ c = '.' then some c
  else if 'A' ≤ c ∧ c ≤ 'Z' then some (Char.ofNat (c.toNat + 32))
  else none

/-- The characters of a scheme, and what follows the colon behind it. -/
def schemeRest? : List Char → Option (List Char × List Char)
  | [] => none
  | c :: cs =>
    if c = ':' then some ([], cs)
    else do
      let d ← schemeChar? c
      let (scheme, rest) ← schemeRest? cs
      return (d :: scheme, rest)

/-- The scheme at the front, which starts with a letter, and what follows it. -/
def scheme? (cs : List Char) : Option (String × List Char) :=
  if cs.head?.any Char.isAlpha then
    (schemeRest? cs).map fun (scheme, rest) => (String.ofList scheme, rest)
  else none

/-- Whether a character is a slash, for a scheme of the kind. -/
def isSlash (kind : SchemeKind) (c : Char) : Bool :=
  c == '/' || (kind.isSpecial && c == '\\')

/-- Whether a character is a slash or a backslash. -/
def isAnySlash (c : Char) : Bool :=
  c == '/' || c == '\\'

/-- Whether a character ends an authority. -/
def endsAuthority (kind : SchemeKind) (c : Char) : Bool :=
  isSlash kind c || c == '?' || c == '#'

/-! ### Authority -/

/-- The user name and password, percent-encoded. An empty password goes with its colon. -/
def userInfo (cs : List Char) : String :=
  let encode (part : List Char) : String := .ofList (percentEncode encodedInUserInfo part)
  match Text.cutFirst? ':' cs with
  | none => encode cs
  | some (user, password) =>
    if password.isEmpty then encode user else encode user ++ ":" ++ encode password

/-- Splits an authority at its last `@`. -/
def userAndHost (kind : SchemeKind) (cs : List Char) : Except Fault (String × List Char) :=
  let authority := cs.takeWhile fun c => !endsAuthority kind c
  let rest := cs.drop authority.length
  match Text.cutLast? '@' authority with
  | none => .ok ("", cs)
  | some (user, host) =>
    if user.isEmpty ∧ host.isEmpty ∧ !rest.isEmpty then .error .emptyHost
    else .ok (userInfo user, host ++ rest)

/-- The characters of a host, up to what ends it: a colon outside brackets, or the end of the
authority. -/
def takeHost (kind : SchemeKind) (inBrackets : Bool) : List Char → List Char × List Char
  | [] => ([], [])
  | c :: cs =>
    if (c = ':' ∧ !inBrackets) ∨ endsAuthority kind c then ([], c :: cs)
    else
      let now := if c = '[' then true else if c = ']' then false else inBrackets
      let (host, rest) := takeHost kind now cs
      (c :: host, rest)

/-- Reads a port: digits up to what ends the authority. -/
def readPort (scheme : String) (cs : List Char) : Except Fault (Option Nat × List Char) :=
  let digits := cs.takeWhile fun c => (Text.digitValue? c).isSome
  let rest := cs.drop digits.length
  if rest.head?.any fun c => !(isAnySlash c || c == '?' || c == '#') then .error .badPort
  else
    match Text.digits? digits with
    | none => .ok (none, rest)
    | some n =>
      if 65535 < n then .error .badPort
      else .ok (if defaultPort? scheme = some n then none else some n, rest)

/-- Reads a port behind a colon, if there is a colon. -/
def readColonPort (scheme : String) : List Char → Except Fault (Option Nat × List Char)
  | ':' :: cs => readPort scheme cs
  | cs => .ok (none, cs)

/-- Reads the host that stands between the user and the rest. Only a scheme without domains can do
without it, and then there is no user and no port. -/
def readHost [DomainNames] (kind : SchemeKind) (user : String) (host rest : List Char) :
    Except Fault (Option Host) :=
  if kind.isSpecial then
    if host.isEmpty then .error .emptyHost else some <$> domainHost host
  else if host.isEmpty then
    if rest.head? = some ':' ∨ !user.isEmpty then .error .emptyHost else .ok none
  else some <$> plainHost host

/-- Reads an authority of a scheme that is not the one of files, and gives what follows it. -/
def readAuthority [DomainNames] (scheme : String) (cs : List Char) :
    Except Fault (Authority × List Char) := do
  let kind := schemeKind scheme
  let (user, cs) ← userAndHost kind cs
  let (hostChars, cs) := takeHost kind false cs
  let host ← readHost kind user hostChars cs
  let (port, cs) ← readColonPort scheme cs
  return (⟨user, host, port⟩, cs)

/-! ### Drives -/

/-- Whether a segment names a drive: a letter and a colon or bar. -/
def isDrive : List Char → Bool
  | [c, d] => c.isAlpha && (d == ':' || d == '|')
  | _ => false

/-- Whether the characters start with a drive, and either end or go on behind a slash or a mark. -/
def startsWithDrive : List Char → Bool
  | c :: d :: rest =>
    isDrive [c, d] && rest.head?.all fun e => isAnySlash e || e == '?' || e == '#'
  | _ => false

/-- Whether a segment of a URL is a drive with a colon. -/
def isDriveName (s : String) : Bool :=
  isDrive s.toList && s.toList.getLast? == some ':'

/-! ### Path -/

/-- A segment that stands for the place itself. -/
def isDot (segment : List Char) : Bool :=
  let s := segment.map Char.toLower
  s == ['.'] || s == ['%', '2', 'e']

/-- A segment that stands for the place above. -/
def isDoubleDot (segment : List Char) : Bool :=
  let s := segment.map Char.toLower
  s == ['.', '.'] || s == ['.', '%', '2', 'e'] || s == ['%', '2', 'e', '.'] ||
    s == ['%', '2', 'e', '%', '2', 'e']

/-- The characters between slashes. -/
def splitSegments (kind : SchemeKind) (cs : List Char) : List (List Char) :=
  Text.pieces '/' (cs.map fun c => if isSlash kind c then '/' else c)

/-- The place above. There is no way out of a drive. -/
def above (place : List String) : List String :=
  if place.getLast?.any fun s => startsWithDrive s.toList then place else place.dropLast

/-- What is written for the characters of a segment. A drive at the root of a file is written with a
colon. -/
def segmentText (kind : SchemeKind) (place : List String) (segment : List Char) : String :=
  if kind = .file ∧ place = [] ∧ isDrive segment then .ofList (segment.take 1 ++ [':'])
  else .ofList (percentEncode encodedInPath segment)

/-- Goes from a place along segments. A dot stays, a double dot goes up, and at the end both leave
an empty segment. -/
def walk (kind : SchemeKind) (place : List String) : List (List Char) → List String
  | [] => place
  | [last] =>
    if isDoubleDot last then above place ++ [""]
    else if isDot last then place ++ [""]
    else place ++ [segmentText kind place last]
  | segment :: rest =>
    if isDoubleDot segment then walk kind (above place) rest
    else if isDot segment then walk kind place rest
    else walk kind (place ++ [segmentText kind place segment]) rest

/-- The path of a file has no empty segments at its front. -/
def tidied (kind : SchemeKind) (path : List String) : List String :=
  if kind = .file then
    let rest := path.dropWhile String.isEmpty
    if rest.isEmpty then [""] else rest
  else path

/-- What stands before a query or fragment, and the rest. -/
def takePath (cs : List Char) : List Char × List Char :=
  let path := cs.takeWhile fun c => c ≠ '?' ∧ c ≠ '#'
  (path, cs.drop path.length)

/-! ### Query and fragment -/

/-- The text of a fragment. -/
def fragmentText (cs : List Char) : String :=
  .ofList (percentEncode encodedInFragment cs)

/-- Completes a URL by the query and the fragment that follow. -/
def withTail (u : Url) (cs : List Char) : Url :=
  match cs with
  | '?' :: cs =>
    let query := cs.takeWhile (· ≠ '#')
    let special := (schemeKind u.scheme).isSpecial
    let u := { u with query := some (.ofList (percentEncode (encodedInQuery special) query)) }
    match cs.drop query.length with
    | _ :: fragment => { u with fragment := some (fragmentText fragment) }
    | [] => { u with fragment := none }
  | '#' :: fragment => { u with query := none, fragment := some (fragmentText fragment) }
  | _ => { u with query := none, fragment := none }

/-- The segments up to a query or fragment. -/
def segmentsOf (kind : SchemeKind) (cs : List Char) : List (List Char) :=
  splitSegments kind (takePath cs).1

/-- The URL of an authority that has a path, with the tail that follows. -/
def withSegments (scheme : String) (authority : Option Authority) (path : List String)
    (cs : List Char) : Url :=
  let path := tidied (schemeKind scheme) path
  withTail ⟨scheme, authority, .segments path, none, none⟩ (takePath cs).2

/-- The URL that goes from a place of an authority along what follows. -/
def withPath (scheme : String) (authority : Option Authority) (place : List String)
    (cs : List Char) : Url :=
  let kind := schemeKind scheme
  withSegments scheme authority (walk kind place (segmentsOf kind cs)) cs

/-- What follows the slash at the root of a path, which may be left out. -/
def belowRoot (kind : SchemeKind) : List Char → List Char
  | [] => []
  | c :: rest => if isSlash kind c then rest else c :: rest

/-- The URL of an authority and what follows it. Only a scheme without domains has empty paths. -/
def withRootPath (scheme : String) (authority : Authority) (cs : List Char) : Url :=
  let kind := schemeKind scheme
  if !kind.isSpecial ∧ cs.head?.all fun c => c = '?' ∨ c = '#' then
    withTail ⟨scheme, some authority, .segments [], none, none⟩ cs
  else withPath scheme (some authority) [] (belowRoot kind cs)

/-- The URL of an authority at the front, and of what follows it. -/
def ofAuthority [DomainNames] (scheme : String) (cs : List Char) : Except Fault Url := do
  let (authority, rest) ← readAuthority scheme cs
  return withRootPath scheme authority rest

/-! ### Files -/

/-- The authority of files without a host. -/
def noHost : Authority := ⟨"", none, none⟩

/-- The URL of a file on a host. What is on a drive has no host. -/
def fileOn (host : Host) (cs : List Char) : Url :=
  let below := belowRoot .file cs
  let path := walk .file [] (segmentsOf .file below)
  let authority := if path.head?.any isDriveName then noHost else ⟨"", some host, none⟩
  withSegments "file" (some authority) path below

/-- The URL of a file behind two slashes, with the host first. A drive is no host, and a local host
is none. -/
def fileOnHost [DomainNames] (cs : List Char) : Except Fault Url := do
  let name := cs.takeWhile fun c => !endsAuthority .file c
  let rest := cs.drop name.length
  if isDrive name then return withPath "file" (some noHost) [] cs
  else if name.isEmpty then return withPath "file" (some noHost) [] rest
  else
    match ← domainHost name with
    | .name "localhost" => return withPath "file" (some noHost) [] rest
    | host => return fileOn host rest

/-- The base with the tail that follows, and with its own query if there is only a fragment. -/
def joinTail (base : Url) (cs : List Char) : Url :=
  match cs with
  | '#' :: fragment => { base with fragment := some (fragmentText fragment) }
  | [] => { base with fragment := none }
  | _ => withTail base cs

/-- The URL of a file behind a single slash: on the drive of the base, or else on its host. -/
def fileBelow (base : Option Url) (cs : List Char) : Url :=
  let ofBase := base.filter fun _ => !startsWithDrive cs
  match (ofBase.bind fun b => b.path.toSegments.head?).filter isDriveName with
  | some drive => withPath "file" (some noHost) [drive] cs
  | none => withPath "file" (some ((ofBase.bind Url.authority).getD noHost)) [] cs

/-- What is written behind a drive that is not at the root goes on with its segment. A dot stays
there. -/
def behindDrive (drive : List Char) : List (List Char) → List (List Char)
  | [] => [drive]
  | [last] =>
    if isDoubleDot last then [drive]
    else if isDot last then [drive, []]
    else [drive ++ last]
  | segment :: rest =>
    if isDot segment ∨ isDoubleDot segment then drive :: rest else (drive ++ segment) :: rest

/-- Joins what follows to the directory of a file. A drive is a directory. -/
def fileBeside (base : Url) (cs : List Char) : Url :=
  let path := base.path.toSegments
  let segments := segmentsOf .file cs
  let segments :=
    match path.getLast?.filter isDriveName with
    | none => segments
    | some drive =>
      if path.length = 1 then drive.toList :: segments else behindDrive drive.toList segments
  withSegments "file" base.authority (walk .file path.dropLast segments) cs

/-- Joins what follows to a file. A drive at the front leaves the base. -/
def fileNear (base : Url) (cs : List Char) : Url :=
  match cs with
  | [] | '?' :: _ | '#' :: _ => joinTail base cs
  | _ => if startsWithDrive cs then withPath "file" (some noHost) [] cs else fileBeside base cs

/-- Reads what follows the scheme of a file, or joins it to a base that is a file. The slashes at the
front tell whether there is a host. -/
def readFile [DomainNames] (base : Option Url) (cs : List Char) : Except Fault Url :=
  match (cs.takeWhile isAnySlash).length with
  | 0 => .ok (base.elim (withPath "file" (some noHost) [] cs) fun u => u.fileNear cs)
  | 1 => .ok (fileBelow base cs.tail)
  | _ => fileOnHost (cs.drop 2)

/-! ### The whole -/

/-- Reads a URL from its scheme and what follows it. -/
def ofScheme [DomainNames] (scheme : String) (cs : List Char) : Except Fault Url :=
  match schemeKind scheme with
  | .file => readFile none cs
  | .special => ofAuthority scheme (cs.dropWhile isAnySlash)
  | .other =>
    match cs with
    | '/' :: '/' :: rest => ofAuthority scheme rest
    | '/' :: rest => .ok (withPath scheme none [] rest)
    | _ =>
      let (path, rest) := takePath cs
      .ok (withTail ⟨scheme, none, .plain (.ofList (percentEncode isControl path)), none, none⟩ rest)

/-- Reads a URL. -/
def parse [DomainNames] (text : String) : Except Fault Url :=
  match scheme? (cleared text) with
  | some (scheme, rest) => ofScheme scheme rest
  | none => .error .noBase

/-! ### Joining -/

/-- Joins characters without a scheme to a base that is no file. -/
def joinOther [DomainNames] (base : Url) (cs : List Char) : Except Fault Url :=
  match cs with
  | [] | '?' :: _ | '#' :: _ => .ok (joinTail base cs)
  | '/' :: '/' :: rest => ofAuthority base.scheme rest
  | a :: rest =>
    if isAnySlash a then
      if rest.head?.any isAnySlash then ofAuthority base.scheme (rest.dropWhile isAnySlash)
      else .ok (withPath base.scheme base.authority [] rest)
    else .ok (withPath base.scheme base.authority base.path.toSegments.dropLast cs)

/-- Joins characters without a scheme to a base. -/
def joinRest [DomainNames] (base : Url) (cs : List Char) : Except Fault Url :=
  if base.scheme = "file" then readFile (some base) cs else joinOther base cs

/-- Joins a text to a base. A text with the scheme of the base is read as one without a scheme if the
scheme has domains and no authority follows, or is the one of files. -/
def join [DomainNames] (base : Url) (text : String) : Except Fault Url :=
  let cs := cleared text
  match scheme? cs with
  | some (scheme, rest) =>
    let slashes := (rest.takeWhile isAnySlash).length
    let kind := schemeKind scheme
    if scheme = base.scheme ∧ (kind = .file ∨ kind = .special ∧ slashes < 2) then joinRest base rest
    else ofScheme scheme rest
  | none =>
    match base.path, cs with
    | .plain _, '#' :: _ => .ok (joinTail base cs)
    | .plain _, _ => .error .opaqueBase
    | .segments _, _ => joinRest base cs

end RuntimeMux.Url
