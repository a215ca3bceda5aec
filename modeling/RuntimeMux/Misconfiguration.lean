import RuntimeMux.Text.Quoted
import RuntimeMux.Url.Fault

/-!
# Misconfiguration

What can be wrong with the configuration of the proxy.
-/

namespace RuntimeMux

/-- What is wrong with a configuration. -/
inductive Misconfiguration where
  /-- A runtime is listed under the empty id. -/
  | emptyId
  /-- The id of a runtime holds a separator. -/
  | separatorInId (id : String)
  /-- No runtime is listed. -/
  | noBackend
  /-- The first runtime has an id. -/
  | namedFirst
  /-- A later runtime has no id. -/
  | primaryLater
  /-- Two runtimes have one id. -/
  | duplicateId (id : String)
  /-- The address of streams is not a URL. -/
  | badStreamUrl (fault : Url.Fault)
  /-- The address of streams has no host. -/
  | streamUrlWithoutHost (url : String)
  /-- Something else, in words. -/
  | other (words : String)
  deriving DecidableEq, Repr

/-- The description of a misconfiguration. -/
def Misconfiguration.text : Misconfiguration → String
  | .emptyId => "empty runtime namespace id"
  | .separatorInId id =>
    "runtime namespace id " ++ Text.quoted id ++ " may not contain \"__\" or '/'"
  | .noBackend => "no sockets specified to connect to"
  | .namedFirst => "the first runtime should be primary (no namespace id)"
  | .primaryLater => "only the first runtime should be primary (no namespace id)"
  | .duplicateId id => "duplicate runtime namespace id " ++ Text.quoted id
  | .badStreamUrl fault => "invalid stream url: " ++ fault.text
  | .streamUrlWithoutHost url => "invalid stream url " ++ Text.quoted url ++ ": no host"
  | .other words => words

end RuntimeMux
