import RuntimeMux.Backend
import RuntimeMux.Digest
import RuntimeMux.Stream

/-!
# Routers

A router knows the runtimes behind the proxy: the primary one and the named ones, no two of which
share a scope. It tells which runtime an id or the name of an image belongs to, and what that runtime
calls it. Whatever carries the qualifier of no named runtime belongs to the primary one.
-/

namespace RuntimeMux

namespace Backend

/-- Whether a backend is the primary one. -/
def isPrimary (b : Backend) : Bool :=
  b.scope.isPrimary

/-- What is wrong with the backends after the first, when others have the scopes `seen`. -/
def laterProblem? (seen : List Scope) : List Backend → Option Misconfiguration
  | [] => none
  | b :: bs =>
    if b.scope = .primary then some .primaryLater
    else if b.scope ∈ seen then some (.duplicateId b.scope.id)
    else laterProblem? (b.scope :: seen) bs

/-- Nothing is wrong with the backends after the first if all are named and no two share a scope. -/
theorem laterProblem?_eq_none_iff {seen : List Scope} {bs : List Backend} :
    laterProblem? seen bs = none ↔
      (∀ b ∈ bs, b.scope ≠ .primary ∧ b.scope ∉ seen) ∧ (bs.map scope).Nodup := by
  induction bs generalizing seen with
  | nil => simp [laterProblem?]
  | cons b bs ih =>
    simp only [laterProblem?]
    split
    next h => simp [h]
    next hp =>
      split
      next h => simp [h]
      next hs =>
        rw [ih]
        simp only [List.mem_cons, not_or, forall_eq_or_imp, hp, hs, not_false_eq_true, and_self,
          true_and, ne_eq, List.map_cons, List.nodup_cons, List.mem_map, not_exists, not_and]
        constructor
        · rintro ⟨h, hn⟩
          exact ⟨fun c hc => ⟨(h c hc).1, (h c hc).2.2⟩, fun c hc => (h c hc).2.1, hn⟩
        · rintro ⟨h, hb, hn⟩
          exact ⟨fun c hc => ⟨(h c hc).1, hb c hc, (h c hc).2⟩, hn⟩

end Backend

/-- The runtimes behind the proxy, and where callers reach their streams. -/
structure Router where
  primary : Backend
  /-- The other runtimes, in the order in which they are configured. -/
  named : List Backend
  /-- The address that incomplete addresses of streams are joined to. -/
  stream : Url
  primary_scope : primary.scope = .primary
  named_scope : ∀ b ∈ named, b.scope ≠ .primary
  /-- No two runtimes share a scope. -/
  nodup : (named.map Backend.scope).Nodup

namespace Router

/-- The router of a list of backends, the first of which must be primary, and no other one. -/
def ofBackends (stream : Url) : List Backend → Except Misconfiguration Router
  | [] => .error .noBackend
  | first :: rest =>
    if hp : first.scope = .primary then
      match h : Backend.laterProblem? [] rest with
      | some problem => .error problem
      | none =>
        have hrest := Backend.laterProblem?_eq_none_iff.1 h
        .ok {
          primary := first
          named := rest
          stream := stream
          primary_scope := hp
          named_scope := fun b hb => (hrest.1 b hb).1
          nodup := hrest.2 }
    else .error .namedFirst

/-- All runtimes, in the order in which they are configured. -/
def backends (r : Router) : List Backend :=
  r.primary :: r.named

/-! ### Owners -/

/-- The runtime that an object belongs to, and what that runtime calls the object. -/
def ownerOfId (r : Router) (id : String) : Backend × String :=
  (r.named.findSome? fun b => (b.scope.ownId? id).map fun own => (b, own)).getD (r.primary, id)

/-- The runtime that the name of an image belongs to, and what that runtime calls the image. -/
def ownerOfName (r : Router) (name : String) : Backend × String :=
  (r.named.findSome? fun b => (b.scope.ownImage? name).map fun own => (b, own)).getD
    (r.primary, name)

/-- The runtime that a reference to an image belongs to, and what that runtime calls the image.
`known` is the last known name of the image, which tells the runtime of a digest. -/
def ownerOfImage (r : Router) (known : Option String) (reference : String) : Backend × String :=
  if isDigest reference then
    ((known.map fun name => (r.ownerOfName name).1).getD r.primary, reference)
  else r.ownerOfName reference

/-- The runtime to create a pod sandbox with these annotations on. -/
def target? (r : Router) (annotations : TextMap) : Option Backend :=
  r.backends.find? fun b => b.scope.isTarget annotations

/-- The router of a list of backends has these backends, in this order. -/
theorem backends_ofBackends {stream : Url} {bs : List Backend} {r : Router}
    (h : ofBackends stream bs = .ok r) : r.backends = bs := by
  cases bs with
  | nil => cases h
  | cons first rest =>
    simp only [ofBackends] at h
    split at h
    · split at h
      · cases h
      · cases h; rfl
    · cases h

end Router

end RuntimeMux
