import RuntimeMux.Text.Hex

/-!
# Tokens of settings files

A settings file is cut into tokens: marks, words, strings in quotes, blanks, comments and line ends.
A carriage return counts only in front of a line feed, with which it is one line end.
-/

namespace RuntimeMux.Toml

/-- A token. -/
inductive Token where
  /-- Blanks between other tokens on a line. -/
  | blank (characters : List Char)
  | newline
  | comment
  /-- A character that stands for itself. -/
  | mark (character : Char)
  /-- Letters, digits, hyphens and underscores. -/
  | word (characters : List Char)
  /-- A text in quotes, which may have several lines if there are three quotes. -/
  | text (value : String) (multiline : Bool)
  deriving DecidableEq, Repr

/-! ### Characters -/

/-- The characters with line ends of one character. -/
def unifyLineEnds : List Char → List Char
  | '\r' :: '\n' :: cs => '\n' :: unifyLineEnds cs
  | c :: cs => c :: unifyLineEnds cs
  | [] => []

/-- Whether a character is a blank. -/
def isBlank (c : Char) : Bool :=
  c == ' ' || c == '\t'

/-- Whether a character can stand in a word. -/
def isWordChar (c : Char) : Bool :=
  c.isAlphanum || c == '-' || c == '_'

/-- Whether a character can stand in a comment. -/
def isCommentChar (c : Char) : Bool :=
  c == '\t' || 0x20 ≤ c.toNat

/-- Whether a character can stand in a string. -/
def isTextChar (c : Char) : Bool :=
  isCommentChar c && c.toNat != 0x7f

/-- Whether a character is a mark. -/
def isMark (c : Char) : Bool :=
  ['=', '.', ',', ':', '+', '\x7b', '\x7d', '[', ']'].contains c

/-! ### Strings -/

/-- How the characters of a string are taken. -/
inductive Taking where
  /-- As they are. -/
  | plainly
  /-- As they are, but without a line end that comes first. -/
  | fromStart
  /-- Only blanks up to a line end are allowed, and left out. -/
  | toLineEnd
  /-- Blanks and line ends are left out. -/
  | afterLineEnd
  deriving DecidableEq

/-- The character of a code point in hexadecimal digits. -/
def codePoint? (digits : List Char) : Option Char := do
  let n ← digits.foldlM (fun n c => return 16 * n + (← Text.hexValue? c)) 0
  if n.isValidChar then some (Char.ofNat n) else none

/-- The character that a letter behind a backslash stands for. -/
def escape? : Char → Option Char
  | '"' => some '"'
  | '\\' => some '\\'
  | 'b' => some '\x08'
  | 'f' => some '\x0c'
  | 'n' => some '\n'
  | 'r' => some '\r'
  | 't' => some '\t'
  | _ => none

/-- Reads a string up to its closing quotes, of which there are three if it has several lines; up to
two more belong to the string. Only double quotes allow escapes. -/
def readText? (quote : Char) (multiline : Bool) : Taking → List Char → Option (List Char × List Char)
  | _, [] => none
  | taking, c :: cs =>
    let keep (d : Char) (rest : Option (List Char × List Char)) : Option (List Char × List Char) :=
      rest.map fun (text, rest) => (d :: text, rest)
    if taking = .toLineEnd then
      if isBlank c then readText? quote multiline .toLineEnd cs
      else if c = '\n' then readText? quote multiline .afterLineEnd cs
      else none
    else if taking = .afterLineEnd ∧ (isBlank c ∨ c = '\n') then
      readText? quote multiline .afterLineEnd cs
    else if c = '\n' then
      if !multiline then none
      else if taking = .fromStart then readText? quote multiline .plainly cs
      else keep '\n' (readText? quote multiline .plainly cs)
    else if c = quote then
      if !multiline then some ([], cs)
      else if cs.take 2 = [quote, quote] then
        let extra := ((cs.drop 2).takeWhile (· == quote)).take 2
        some (extra, cs.drop (2 + extra.length))
      else keep quote (readText? quote multiline .plainly cs)
    else if c = '\\' ∧ quote = '"' then
      match cs with
      | 'u' :: a :: b :: c :: d :: rest => do
        keep (← codePoint? [a, b, c, d]) (readText? quote multiline .plainly rest)
      | 'U' :: a :: b :: c :: d :: e :: f :: g :: h :: rest => do
        keep (← codePoint? [a, b, c, d, e, f, g, h]) (readText? quote multiline .plainly rest)
      | e :: rest =>
        match escape? e with
        | some d => keep d (readText? quote multiline .plainly rest)
        | none =>
          if multiline ∧ e = '\n' then readText? quote multiline .afterLineEnd rest
          else if multiline ∧ isBlank e then readText? quote multiline .toLineEnd rest
          else none
      | [] => none
    else if isTextChar c then keep c (readText? quote multiline .plainly cs)
    else none

/-- Reads a string behind its first quote. -/
def readString? (quote : Char) (cs : List Char) : Option (Token × List Char) :=
  match cs with
  | a :: b :: rest =>
    if a = quote ∧ b = quote then
      (readText? quote true .fromStart rest).map fun (t, rest) => (.text (.ofList t) true, rest)
    else if a = quote then some (.text "" false, b :: rest)
    else (readText? quote false .plainly cs).map fun (t, rest) => (.text (.ofList t) false, rest)
  | _ =>
    (readText? quote false .plainly cs).map fun (t, rest) => (.text (.ofList t) false, rest)

/-! ### All tokens -/

/-- Reads the token at the front. -/
def readToken? : List Char → Option (Token × List Char)
  | [] => none
  | c :: cs =>
    if c = '\n' then some (.newline, cs)
    else if isBlank c then
      let blanks := cs.takeWhile isBlank
      some (.blank (c :: blanks), cs.drop blanks.length)
    else if c = '#' then some (.comment, cs.dropWhile isCommentChar)
    else if isMark c then some (.mark c, cs)
    else if c = '"' ∨ c = '\x27' then readString? c cs
    else if isWordChar c then
      let word := cs.takeWhile isWordChar
      some (.word (c :: word), cs.drop word.length)
    else none

/-- Reads tokens to the end. Every token takes a character at least, so that as much `fuel` as there
are characters is enough. -/
def readTokens? : (fuel : Nat) → List Char → Option (List Token)
  | _, [] => some []
  | 0, _ :: _ => none
  | fuel + 1, cs => do
    let (token, rest) ← readToken? cs
    let tokens ← readTokens? fuel rest
    return token :: tokens

/-- The tokens of a text, which may start with a byte order mark. -/
def tokens? (text : String) : Option (List Token) :=
  let cs := unifyLineEnds text.toList
  let cs := if cs.head? = some '\ufeff' then cs.tail else cs
  readTokens? cs.length cs

/-- The characters of a token that is not in quotes. -/
def Token.characters : Token → List Char
  | .blank cs | .word cs => cs
  | .mark c => [c]
  | .newline => ['\n']
  | .comment => ['#']
  | .text t _ => t.toList

end RuntimeMux.Toml
