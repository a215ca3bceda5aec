import RuntimeMux.Status
import RuntimeMux.Text.Utf8
import RuntimeMux.Url.Percent
import RuntimeMux.Wire.Message

/-!
# Responses

A runtime responds to a call with the bytes of a message or with a status, or not at all. The message
of a status travels percent-encoded, but percent signs of its own are not encoded, so that one in
front of two digits is lost on the way.
-/

namespace RuntimeMux

/-- How a runtime responds to a call. -/
inductive Response where
  | answer (body : Wire.Bytes)
  | refusal (status : Status)
  /-- There is no response. -/
  | silence
  deriving DecidableEq, Repr

/-- What arrives of a status. Without a fault there should have been an answer. -/
def Status.received (s : Status) : Status :=
  if s.code = .ok then ⟨.internal, "Missing response message."⟩
  else
    let bytes := Url.percentDecode s.message.toList
    match Text.Utf8.malformed? bytes with
    | some m => ⟨.unknown, "Error deserializing status message header: " ++ m.text⟩
    | none => { s with message := (Wire.textOfBytes? bytes).getD s.message }

namespace Response

/-- The status of a call that took too long. -/
def timedOut : Status := ⟨.deadlineExceeded, "backend call timed out"⟩

/-- What arrives of a response. -/
def received : Response → Except Status Wire.Bytes
  | .answer body => .ok body
  | .refusal status => .error status.received
  | .silence => .error timedOut

/-- The message in what arrived of a response. -/
def message {M : Type} [Wire.Message M] : Except Status Wire.Bytes → Except Status M
  | .ok body =>
    match Wire.Message.decode body with
    | .ok m => .ok m
    | .error failure => .error ⟨.internal, failure.text⟩
  | .error status => .error status

end Response

end RuntimeMux
