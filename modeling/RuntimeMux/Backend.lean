import RuntimeMux.Scope
import RuntimeMux.Text.Blank

/-!
# Backends

A backend is a runtime behind the proxy: its scope and the address of its socket. Backends are
configured as a list of addresses, separated by commas; all but the first have the id of their scope
and a colon in front.
-/

namespace RuntimeMux

/-- A runtime behind the proxy. -/
structure Backend where
  scope : Scope
  address : String
  deriving DecidableEq

namespace Backend

/-- Reads one entry of a list: an address, with or without an id in front. -/
def ofEntry (entry : String) : Except Misconfiguration Backend :=
  match Text.splitFirst? ':' entry with
  | none => .ok ⟨.primary, entry⟩
  | some (id, address) => do
    let scope ← Scope.named? id
    return ⟨scope, address⟩

/-- The entries of a list: what stands between commas, without the blanks around it, unless nothing
is left. -/
def entries (list : String) : List String :=
  ((Text.pieces ',' list.toList).map fun p => String.ofList (Text.trimChars p)).filter
    fun entry => !entry.isEmpty

/-- Reads a list of backends. -/
def ofList (list : String) : Except Misconfiguration (List Backend) :=
  (entries list).mapM ofEntry

end Backend

end RuntimeMux
