import RuntimeMux.Text.Hex
import RuntimeMux.Text.Split

/-!
# Content digests

An image may be referred to by the digest of its content, written as the name of a hash algorithm,
a colon and the lower-case hexadecimal hash. A digest says nothing about the runtime that holds the
image.
-/

namespace RuntimeMux.Digest

/-- The number of hexadecimal digits in a hash of a known algorithm. -/
def hashLength? (algorithm : List Char) : Option Nat :=
  if algorithm = "sha256".toList then some 64
  else if algorithm = "sha384".toList then some 96
  else if algorithm = "sha512".toList then some 128
  else none

/-- Whether the characters are a hash that is `size` digits long: they take as many bytes, none of them
is an upper-case letter, and they can be read as hexadecimal text. -/
def isHash (size : Nat) (cs : List Char) : Bool :=
  (String.ofList cs).utf8ByteSize == size && !cs.any Char.isUpper &&
    (Text.bytesOfHex? (.ofList cs)).isSome

/-- Whether the characters form a digest. -/
def recognises (cs : List Char) : Bool :=
  match Text.cutFirst? ':' cs with
  | none => false
  | some (algorithm, hash) =>
    match hashLength? algorithm with
    | none => false
    | some size => isHash size hash

end RuntimeMux.Digest

namespace RuntimeMux

/-- Whether a reference is a content digest. -/
def isDigest (reference : String) : Bool :=
  Digest.recognises reference.toList

end RuntimeMux
