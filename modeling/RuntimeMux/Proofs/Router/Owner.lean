import RuntimeMux.Proofs.Scope.Qualifier
import RuntimeMux.Router

/-!
# Owners of qualified ids

The owner of an id is the first named runtime whose qualifier is in front of it. So a runtime gets its
own objects back unless a runtime in front of it intercepts them. For all objects of all runtimes this
is so exactly if no scope is named like another one with `_` behind, in whatever order they stand.
-/

namespace RuntimeMux

namespace Router

variable {r : Router} {before after : List Backend} {b : Backend}

/-- The first named runtime that takes a text, and what it takes it for. Everything else is the
primary one's. -/
def ownerBy (r : Router) (own? : Scope → String → Option String) (text : String) :
    Backend × String :=
  (r.named.findSome? fun b => (own? b.scope text).map fun own => (b, own)).getD (r.primary, text)

theorem own?_ownerBy (r : Router) {own? : Scope → String → Option String} {text : String}
    (whole : own? .primary text = some text) :
    (r.ownerBy own? text).1 ∈ r.backends ∧
      own? (r.ownerBy own? text).1.scope text = some (r.ownerBy own? text).2 := by
  rw [ownerBy]
  cases hf : r.named.findSome? fun b => (own? b.scope text).map fun own => (b, own) with
  | none => simp [backends, r.primary_scope, whole]
  | some owner =>
    obtain ⟨b, hb, found⟩ := List.exists_of_findSome?_eq_some hf
    obtain ⟨own, hown, rfl⟩ := Option.map_eq_some_iff.1 found
    exact ⟨List.mem_cons_of_mem _ hb, hown⟩

theorem ownerBy_of_unqualified {own? : Scope → String → Option String} {text : String}
    (unqualified : ∀ b ∈ r.named, own? b.scope text = none) :
    r.ownerBy own? text = (r.primary, text) := by
  have none : (r.named.findSome? fun b => (own? b.scope text).map fun own => (b, own)) = none :=
    List.findSome?_eq_none_iff.2 fun b hb => by rw [unqualified b hb]; rfl
  rw [ownerBy, none]
  rfl

/-- The runtime of an object is one of the runtimes, and calls the object by its own id. -/
theorem ownId?_ownerOfId (r : Router) (object : String) :
    (r.ownerOfId object).1 ∈ r.backends ∧
      (r.ownerOfId object).1.scope.ownId? object = some (r.ownerOfId object).2 :=
  own?_ownerBy r (show Scope.ownId? .primary object = some object from rfl)

theorem ownerOfId_injective (r : Router) : Function.Injective r.ownerOfId := by
  intro object other same
  have owns := Scope.ownId?_eq_some_iff.1 (r.ownId?_ownerOfId object).2
  have owned := Scope.ownId?_eq_some_iff.1 (r.ownId?_ownerOfId other).2
  rw [owns, owned, same]

/-- An object that no named runtime takes belongs to the primary one. -/
theorem ownerOfId_of_unqualified {object : String}
    (unqualified : ∀ b ∈ r.named, b.scope.ownId? object = none) :
    r.ownerOfId object = (r.primary, object) :=
  ownerBy_of_unqualified unqualified

/-- The runtime of a name of an image is one of the runtimes, and has a name of its own for it. -/
theorem ownImage?_ownerOfName (r : Router) (name : String) :
    (r.ownerOfName name).1 ∈ r.backends ∧
      (r.ownerOfName name).1.scope.ownImage? name = some (r.ownerOfName name).2 :=
  own?_ownerBy r (show Scope.ownImage? .primary name = some name from rfl)

/-- A name that no named runtime takes belongs to the primary one. -/
theorem ownerOfName_of_unqualified {name : String}
    (unqualified : ∀ b ∈ r.named, b.scope.ownImage? name = none) :
    r.ownerOfName name = (r.primary, name) :=
  ownerBy_of_unqualified unqualified

/-- The runtime of an image is one of the runtimes, and has a name of its own for it, unless it is
known by its digest. -/
theorem ownImage?_ownerOfImage (r : Router) (known : Option String) (reference : String) :
    (r.ownerOfImage known reference).1 ∈ r.backends ∧
      ((r.ownerOfImage known reference).1.scope.ownImage? reference =
          some (r.ownerOfImage known reference).2 ∨
        isDigest reference = true ∧ (r.ownerOfImage known reference).2 = reference) := by
  rw [ownerOfImage]
  split
  next digest =>
    refine ⟨?_, Or.inr ⟨digest, rfl⟩⟩
    cases known with
    | none => exact List.mem_cons_self
    | some name => exact (r.ownImage?_ownerOfName name).1
  next =>
    obtain ⟨mem, owns⟩ := r.ownImage?_ownerOfName reference
    exact ⟨mem, Or.inl owns⟩

theorem nodup_backends (r : Router) : r.backends.Nodup := by
  refine List.nodup_cons.2 ⟨fun mem => r.named_scope r.primary mem r.primary_scope, ?_⟩
  exact List.Pairwise.of_map Backend.scope (fun _ _ hne same => hne (congrArg _ same)) r.nodup

theorem scope_ne_of_mem_before (hr : r.named = before ++ b :: after) {c : Backend}
    (hc : c ∈ before) : c.scope ≠ b.scope := by
  have nodup := r.nodup
  simp only [hr, List.map_append, List.map_cons, List.nodup_append] at nodup
  exact nodup.2.2 c.scope (List.mem_map_of_mem hc) b.scope List.mem_cons_self

/-- A runtime that takes an id gets it exactly if none in front of it takes it. -/
theorem ownerOfId_eq_iff (hr : r.named = before ++ b :: after) {object own : String}
    (hb : b.scope.ownId? object = some own) :
    r.ownerOfId object = (b, own) ↔ ∀ c ∈ before, c.scope.ownId? object = none := by
  simp only [ownerOfId, hr, List.findSome?_append, List.findSome?_cons, hb, Option.map_some]
  constructor
  · intro h c hc
    cases hf : before.findSome? fun d => (d.scope.ownId? object).map fun o => (d, o) with
    | none =>
      rw [List.findSome?_eq_none_iff] at hf
      simpa using hf c hc
    | some owner =>
      -- the owner would be `b`, and stand in front of itself
      obtain ⟨l₁, d, l₂, rfl, hd, -⟩ := List.findSome?_eq_some_iff.1 hf
      simp only [Option.map_eq_some_iff] at hd
      obtain ⟨o, -, rfl⟩ := hd
      simp only [hf, Option.some_or, Option.getD_some, Prod.mk.injEq] at h
      exact absurd (congrArg Backend.scope h.1) (scope_ne_of_mem_before hr (by simp))
  · intro h
    have hf : (before.findSome? fun d => (d.scope.ownId? object).map fun o => (d, o)) = none := by
      rw [List.findSome?_eq_none_iff]
      intro c hc
      simp [h c hc]
    simp [hf]

/-- A named runtime gets the object back that it calls `object`, exactly if no runtime in front of it
intercepts the object. -/
theorem ownerOfId_qualifyId_eq_iff (hr : r.named = before ++ b :: after) (object : String) :
    r.ownerOfId (b.scope.qualifyId object) = (b, object) ↔
      ∀ c ∈ before, ¬ c.scope.Intercepts b.scope object := by
  rw [ownerOfId_eq_iff hr (b.scope.ownId?_qualifyId object)]
  have hb : b.scope ≠ .primary := r.named_scope b (by simp [hr])
  have key : ∀ c ∈ before, c.scope.ownId? (b.scope.qualifyId object) = none ↔
      ¬ c.scope.Intercepts b.scope object := fun c hc =>
    Scope.ownId?_qualifyId_eq_none_iff (r.named_scope c (by simp [hr, hc])) hb
      (scope_ne_of_mem_before hr hc)
  exact ⟨fun h c hc => (key c hc).1 (h c hc), fun h c hc => (key c hc).2 (h c hc)⟩

end Router

namespace Backend

/-- Whether no named runtime has the id of another one with `_` behind. -/
def Separated (bs : List Backend) : Prop :=
  ∀ b ∈ bs, ∀ c ∈ bs, b.scope ≠ .primary → c.scope.id ≠ b.scope.id ++ "_"

/-- The primary runtime has no id that another one could differ from. -/
theorem separated_cons_iff {b : Backend} {bs : List Backend} (hb : b.scope = .primary) :
    Separated (b :: bs) ↔ Separated bs := by
  constructor
  · intro h c hc d hd
    exact h c (by simp [hc]) d (by simp [hd])
  · intro h c hc d hd hne
    rcases List.mem_cons.1 hc with rfl | hc
    · exact absurd hb hne
    rcases List.mem_cons.1 hd with rfl | hd
    · intro heq
      have := congrArg String.toList heq
      simp [hb, Scope.id] at this
    · exact h c hc d hd hne

end Backend

namespace Router

/-- All named runtimes get all their objects back exactly if their ids are separated. -/
theorem forall_ownerOfId_qualifyId_iff (r : Router) :
    (∀ b ∈ r.named, ∀ object, r.ownerOfId (b.scope.qualifyId object) = (b, object)) ↔
      Backend.Separated r.named := by
  constructor
  · intro h b hb c hc _ heq
    obtain ⟨before, after, hr⟩ := List.append_of_mem hb
    rw [hr, List.mem_append, List.mem_cons] at hc
    rcases hc with hc | rfl | hc
    · -- `c` stands in front of `b` and takes its object `_`
      have := (ownerOfId_qualifyId_eq_iff hr "_").1 (h b hb "_") c hc
      exact this (Or.inr ⟨heq, "", rfl⟩)
    · have := congrArg String.toList heq
      simp at this
    · -- `b` stands in front of `c` and takes all its objects
      obtain ⟨between, rest, rfl⟩ := List.append_of_mem hc
      have hr : r.named = (before ++ b :: between) ++ c :: rest := by simp [hr]
      have := (ownerOfId_qualifyId_eq_iff hr "").1 (h c (by simp [hr]) "") b (by simp)
      exact this (Or.inl heq)
  · intro h b hb object
    obtain ⟨before, after, hr⟩ := List.append_of_mem hb
    rw [ownerOfId_qualifyId_eq_iff hr]
    rintro c hc (heq | ⟨heq, -⟩)
    · exact h c (by simp [hr, hc]) b hb (r.named_scope c (by simp [hr, hc])) heq
    · exact h b hb c (by simp [hr, hc]) (r.named_scope b hb) heq

/-- Which objects the runtimes of an accepted list get back: all named runtimes get all of theirs
exactly if the ids are separated, and one runtime gets one object exactly if no named runtime in front
of it intercepts the object. -/
theorem ownerOfId_qualifyId_iff {stream : Url} {bs : List Backend} {r : Router}
    (h : ofBackends stream bs = .ok r) :
    ((∀ b ∈ bs, b.scope ≠ .primary → ∀ object,
        r.ownerOfId (b.scope.qualifyId object) = (b, object)) ↔ Backend.Separated bs) ∧
    ∀ before b after, bs = before ++ b :: after → b.scope ≠ .primary → ∀ object,
      (r.ownerOfId (b.scope.qualifyId object) = (b, object) ↔
        ∀ c ∈ before, c.scope ≠ .primary → ¬ c.scope.Intercepts b.scope object) := by
  obtain rfl := backends_ofBackends h
  have named : ∀ b ∈ r.backends, b.scope ≠ .primary → b ∈ r.named := by
    intro b hb hne
    rcases List.mem_cons.1 hb with rfl | hb
    · exact absurd r.primary_scope hne
    · exact hb
  refine ⟨?_, ?_⟩
  · rw [backends, Backend.separated_cons_iff r.primary_scope, ← forall_ownerOfId_qualifyId_iff]
    constructor
    · intro all b hb
      exact all b (List.mem_cons_of_mem _ hb) (r.named_scope b hb)
    · intro all b hb hne
      exact all b (named b hb hne)
  · intro before b after hbs hne object
    cases before with
    | nil =>
      obtain ⟨rfl, -⟩ : r.primary = b ∧ r.named = after := by simpa [backends] using hbs
      exact absurd r.primary_scope hne
    | cons first before =>
      obtain ⟨rfl, hr⟩ : r.primary = first ∧ r.named = before ++ b :: after := by
        simpa [backends] using hbs
      rw [ownerOfId_qualifyId_eq_iff hr]
      constructor
      · intro all c hc hcne
        rcases List.mem_cons.1 hc with rfl | hc
        · exact absurd r.primary_scope hcne
        · exact all c hc
      · intro all c hc
        exact all c (List.mem_cons_of_mem _ hc) (r.named_scope c (by simp [hr, hc]))

/-- With the ids `alt` and `other`, an object whose own id looks qualified comes back as it is. -/
theorem ownerOfId_qualifyId_separated :
    ∃ r, ofBackends ⟨"http", none, .plain "", none, none⟩
        [⟨.primary, "/run/primary.sock"⟩, ⟨.named ⟨"alt", by decide⟩, "/run/alt.sock"⟩,
          ⟨.named ⟨"other", by decide⟩, "/run/other.sock"⟩] = .ok r ∧
      r.ownerOfId (Scope.qualifyId (.named ⟨"other", by decide⟩) "alt__c1") =
        (⟨.named ⟨"other", by decide⟩, "/run/other.sock"⟩, "alt__c1") := by
  obtain ⟨r, h⟩ : ∃ r, ofBackends ⟨"http", none, .plain "", none, none⟩
      [⟨.primary, "/run/primary.sock"⟩, ⟨.named ⟨"alt", by decide⟩, "/run/alt.sock"⟩,
        ⟨.named ⟨"other", by decide⟩, "/run/other.sock"⟩] = .ok r := ⟨_, rfl⟩
  have separated : Backend.Separated r.backends := by
    rw [backends_ofBackends h]
    unfold Backend.Separated
    decide
  exact ⟨r, h, (ownerOfId_qualifyId_iff h).1.2 (backends_ofBackends h ▸ separated)
    ⟨.named ⟨"other", by decide⟩, "/run/other.sock"⟩ (by decide) (by decide) "alt__c1"⟩

/-- With the ids `alt` and `alt_`, the object `x` of the latter is taken for `_x` of the former. -/
theorem ownerOfId_qualifyId_intercepted :
    ∃ r, ofBackends ⟨"http", none, .plain "", none, none⟩
        [⟨.primary, "/run/primary.sock"⟩, ⟨.named ⟨"alt", by decide⟩, "/run/alt.sock"⟩,
          ⟨.named ⟨"alt_", by decide⟩, "/run/alt_.sock"⟩] = .ok r ∧
      r.ownerOfId (Scope.qualifyId (.named ⟨"alt_", by decide⟩) "x") =
        (⟨.named ⟨"alt", by decide⟩, "/run/alt.sock"⟩, "_x") ∧
      r.ownerOfId (Scope.qualifyId (.named ⟨"alt_", by decide⟩) "x") ≠
        (⟨.named ⟨"alt_", by decide⟩, "/run/alt_.sock"⟩, "x") :=
  ⟨_, rfl, by decide, by decide⟩

end Router

end RuntimeMux
