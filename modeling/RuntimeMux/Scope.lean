import RuntimeMux.Digest
import RuntimeMux.Misconfiguration
import RuntimeMux.TextMap

/-!
# Scopes

Every runtime but the primary one has a scope of its own, named by an id. What such a runtime calls
a pod sandbox, a container or an image is qualified by the id of its scope before a caller sees it:
an id by `{id}__`, an image name by `{id}/`. The qualifier is taken off again to find the runtime
that a later call belongs to. The scope of the primary runtime qualifies nothing, and a digest is
the same in every scope.
-/

namespace RuntimeMux

/-- The annotation of a pod sandbox that names the runtime to create it on. -/
def targetAnnotation : String := "kubernetes.io/target-runtime"

/-- Whether a text can name a scope: it is not empty and holds no separator. -/
def isScopeId (text : String) : Bool :=
  !text.isEmpty && !Text.occursIn ['_', '_'] text.toList && !text.toList.contains '/'

/-- The id of a scope. -/
structure ScopeId where
  text : String
  valid : isScopeId text = true
  deriving DecidableEq

/-- The scope of a runtime. -/
inductive Scope where
  | primary
  | named (id : ScopeId)
  deriving DecidableEq

namespace Scope

/-- The scope of the given id, unless the id is empty or holds a separator. -/
def named? (id : String) : Except Misconfiguration Scope :=
  if valid : isScopeId id = true then .ok (.named ⟨id, valid⟩)
  else if id.isEmpty then .error .emptyId
  else .error (.separatorInId id)

/-- The id of a scope; the primary one has the empty id. -/
def id : Scope → String
  | .primary => ""
  | .named id => id.text

/-- Whether a scope is that of the primary runtime. -/
def isPrimary : Scope → Bool
  | .primary => true
  | .named _ => false

/-- A scope in messages to people. -/
def display : Scope → String
  | .primary => "<primary>"
  | .named id => id.text

/-! ### Ids of pod sandboxes and containers -/

/-- The id that callers see for an object that its runtime calls `object`. -/
def qualifyId : Scope → String → String
  | .primary, object => object
  | .named id, object => id.text ++ "__" ++ object

/-- What the runtime of a scope calls the object that callers see as `object`, if it is the runtime
of that object. The primary scope takes every object. -/
def ownId? : Scope → String → Option String
  | .primary, object => some object
  | .named id, object => Text.after? (id.text ++ "__") object

/-! ### Images -/

/-- The reference that callers see for an image that its runtime calls `image`. -/
def qualifyImage : Scope → String → String
  | .primary, image => image
  | .named id, image =>
    if image.isEmpty || isDigest image then image else id.text ++ "/" ++ image

/-- What the runtime of a scope calls the image that callers see as `image`, if it is the runtime
of that image. The primary scope takes every image. -/
def ownImage? : Scope → String → Option String
  | .primary, image => some image
  | .named id, image => Text.after? (id.text ++ "/") image

/-! ### New pod sandboxes -/

/-- Whether a pod sandbox with these annotations is to be created in a scope: the one that the
annotation names, and the primary one without it. -/
def isTarget (annotations : TextMap) : Scope → Bool
  | .primary => (annotations.get? targetAnnotation).isNone
  | .named id => annotations.get? targetAnnotation == some id.text

@[simp] theorem ownId?_qualifyId (s : Scope) (object : String) :
    s.ownId? (s.qualifyId object) = some object := by
  cases s <;> simp [ownId?, qualifyId]

theorem named?_eq_ok_iff {id : String} {s : Scope} :
    named? id = .ok s ↔ ∃ valid, s = .named ⟨id, valid⟩ := by
  simp only [named?]
  split
  next valid => simp [valid, eq_comm]
  next invalid => split <;> simp [invalid]

end Scope

end RuntimeMux
