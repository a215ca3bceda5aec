import RuntimeMux.Misconfiguration
import RuntimeMux.Url.Parse

/-!
# Addresses of streams

A runtime may answer with the address of a stream that lacks the host. Callers reach the streams of
the runtimes at a configured address, to which such an answer is joined. An address that is complete
stays as it is, character by character.
-/

namespace RuntimeMux.Stream

open Url (DomainNames)

/-- The address that streams are configured to be at. It must have a host. -/
def base [DomainNames] (text : String) : Except Misconfiguration Url :=
  match Url.parse text with
  | .error fault => .error (.badStreamUrl fault)
  | .ok url => if url.hasHost then .ok url else .error (.streamUrlWithoutHost text)

/-- The address of streams on a node, at a port. -/
def ofNode [DomainNames] (host : Url.Host) (port : UInt16) : Except Misconfiguration Url :=
  match Url.parse ("http://" ++ host.text ++ ":" ++ toString port) with
  | .error fault => .error (.badStreamUrl fault)
  | .ok url => .ok url

/-- The address that callers get for a stream. -/
def fix [DomainNames] (base : Url) (address : String) : String :=
  match Url.parse address with
  | .error .noBase =>
    if address.isEmpty then address
    else
      match base.join address with
      | .ok url => url.text
      | .error _ => address
  | _ => address

end RuntimeMux.Stream
