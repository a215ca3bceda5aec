import RuntimeMux.Scope

/-!
# Qualified ids of two scopes

A qualified id is read back by the qualifier in front of it, so it matters when two scopes qualify two
ids to the same text. The ids of scopes hold no `__`, but one may end with the `_` that the separator
begins with. This is the only way for two scopes to meet: then the id of one is the id of the other
followed by `_`, and the objects differ by a `_` in front.
-/

namespace RuntimeMux

theorem Text.occursIn_iff_isInfix {part cs : List Char} :
    Text.occursIn part cs = true ↔ part <:+: cs := by
  induction cs with
  | nil => simp [Text.occursIn]
  | cons c cs ih =>
    simp only [Text.occursIn, Bool.or_eq_true, ih, List.infix_cons_iff, Option.isSome_iff_exists,
      Text.dropLead?_eq_some_iff]
    constructor
    · rintro (⟨rest, h⟩ | h)
      · exact Or.inl ⟨rest, h.symm⟩
      · exact Or.inr h
    · rintro (⟨rest, h⟩ | h)
      · exact Or.inl ⟨rest, h.symm⟩
      · exact Or.inr h

/-- Whether a text is an id that a runtime can have. -/
def IsId (text : String) : Prop :=
  text ≠ "" ∧ ¬ ['_', '_'] <:+: text.toList ∧ '/' ∉ text.toList

instance (text : String) : Decidable (IsId text) :=
  inferInstanceAs (Decidable (_ ∧ _ ∧ _))

theorem isScopeId_iff {text : String} : isScopeId text = true ↔ IsId text := by
  simp [isScopeId, IsId, ← Text.occursIn_iff_isInfix, and_assoc]

namespace ScopeId

theorem isId (i : ScopeId) : IsId i.text :=
  isScopeId_iff.1 i.valid

theorem text_ne_empty (i : ScopeId) : i.text ≠ "" :=
  i.isId.1

theorem not_separator_isInfix (i : ScopeId) : ¬ ['_', '_'] <:+: i.text.toList :=
  i.isId.2.1

theorem slash_notMem (i : ScopeId) : '/' ∉ i.text.toList :=
  i.isId.2.2

theorem text_injective {i j : ScopeId} (h : i.text = j.text) : i = j := by
  cases i
  cases j
  simpa using h

/-- A separator after the beginning of an id, read as one that comes `a` later. -/
private theorem separator_cases {s a x y : List Char} (hs : ¬ ['_', '_'] <:+: s ++ a)
    (h : '_' :: '_' :: x = a ++ '_' :: '_' :: y) :
    (a = [] ∧ x = y) ∨ (a = ['_'] ∧ x = '_' :: y) := by
  match a with
  | [] => exact Or.inl ⟨rfl, by simpa using h⟩
  | [c] =>
    obtain ⟨rfl, hx⟩ : '_' = c ∧ x = '_' :: y := by simpa using h
    exact Or.inr ⟨rfl, hx⟩
  | c :: d :: a =>
    -- the id would go on with a whole separator
    obtain ⟨rfl, rfl, -⟩ : '_' = c ∧ '_' = d ∧ x = a ++ '_' :: '_' :: y := by simpa using h
    exact absurd ⟨s, a, by simp⟩ hs

private theorem separated_eq_iff {i j : ScopeId} {x y : List Char} :
    i.text.toList ++ '_' :: '_' :: x = j.text.toList ++ '_' :: '_' :: y ↔
      (i.text.toList = j.text.toList ∧ x = y) ∨
      (i.text.toList = j.text.toList ++ ['_'] ∧ y = '_' :: x) ∨
      (j.text.toList = i.text.toList ++ ['_'] ∧ x = '_' :: y) := by
  constructor
  · intro h
    rcases List.append_eq_append_iff.1 h with ⟨a, hj, hx⟩ | ⟨a, hi, hy⟩
    · rcases separator_cases (hj ▸ j.not_separator_isInfix) hx with ⟨rfl, rfl⟩ | ⟨rfl, rfl⟩
      · exact Or.inl ⟨by simpa using hj.symm, rfl⟩
      · exact Or.inr (Or.inr ⟨hj, rfl⟩)
    · rcases separator_cases (hi ▸ i.not_separator_isInfix) hy with ⟨rfl, rfl⟩ | ⟨rfl, rfl⟩
      · exact Or.inl ⟨by simpa using hi, rfl⟩
      · exact Or.inr (Or.inl ⟨hi, rfl⟩)
  · rintro (⟨h, rfl⟩ | ⟨h, rfl⟩ | ⟨h, rfl⟩) <;> simp [h]

end ScopeId

namespace Scope

theorem exists_eq_named {s : Scope} (hs : s ≠ .primary) : ∃ i, s = named i := by
  cases s with
  | primary => exact absurd rfl hs
  | named i => exact ⟨i, rfl⟩

/-- Two ids are qualified to one text by two scopes only if they are the same in the same scope, or
if one scope is named like the other with `_` behind, and the object of the other has `_` in front. -/
theorem qualifyId_eq_iff {i j : ScopeId} {x y : String} :
    (named i).qualifyId x = (named j).qualifyId y ↔
      (i = j ∧ x = y) ∨ (i.text = j.text ++ "_" ∧ y = "_" ++ x) ∨
      (j.text = i.text ++ "_" ∧ x = "_" ++ y) := by
  have chars : (named i).qualifyId x = (named j).qualifyId y ↔
      i.text.toList ++ '_' :: '_' :: x.toList = j.text.toList ++ '_' :: '_' :: y.toList := by
    rw [← String.toList_inj]
    simp [qualifyId]
  rw [chars, ScopeId.separated_eq_iff]
  have text (k l : ScopeId) : k.text.toList = l.text.toList ++ ['_'] ↔ k.text = l.text ++ "_" := by
    rw [← String.toList_inj]
    simp
  have object (u v : String) : u.toList = '_' :: v.toList ↔ u = "_" ++ v := by
    rw [← String.toList_inj]
    simp
  have same : i.text.toList = j.text.toList ↔ i = j :=
    ⟨fun h => ScopeId.text_injective (String.toList_inj.1 h), fun h => h ▸ rfl⟩
  rw [text, text, object, object, same, String.toList_inj]

theorem ownId?_eq_some_iff {s : Scope} {object own : String} :
    s.ownId? object = some own ↔ object = s.qualifyId own := by
  cases s with
  | primary => simp [ownId?, qualifyId]
  | named id => simp [ownId?, qualifyId, Text.after?_eq_some_iff]

/-- Whether an id that a scope has qualified is taken for an id of another scope: the other scope is
named like it up to a `_` at the end, or it is named so and the object has `_` in front. -/
def Intercepts (other s : Scope) (object : String) : Prop :=
  s.id = other.id ++ "_" ∨ (other.id = s.id ++ "_" ∧ ∃ rest, object = "_" ++ rest)

/-- Another named scope takes a qualified id for its own exactly if it intercepts it. -/
theorem ownId?_qualifyId_eq_none_iff {other s : Scope} (ho : other ≠ .primary) (hs : s ≠ .primary)
    (hne : other ≠ s) {object : String} :
    other.ownId? (s.qualifyId object) = none ↔ ¬ other.Intercepts s object := by
  obtain ⟨i, rfl⟩ := exists_eq_named hs
  obtain ⟨j, rfl⟩ := exists_eq_named ho
  have hij : i ≠ j := fun h => hne (h ▸ rfl)
  rw [Option.eq_none_iff_forall_ne_some]
  simp only [ne_eq, ownId?_eq_some_iff, qualifyId_eq_iff, hij, false_and, false_or, Intercepts, id]
  constructor
  · rintro h (hi | ⟨hj, rest, hobject⟩)
    · exact h ("_" ++ object) (Or.inl ⟨hi, rfl⟩)
    · exact h rest (Or.inr ⟨hj, hobject⟩)
  · rintro h own (⟨hi, -⟩ | ⟨hj, hobject⟩)
    · exact h (Or.inl hi)
    · exact h (Or.inr ⟨hj, own, hobject⟩)

end Scope

end RuntimeMux
