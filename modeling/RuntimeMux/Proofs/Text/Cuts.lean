import Mathlib.Data.List.Basic
import RuntimeMux.Text.Split

/-!
# Cuts of text

Cutting a text at every occurrence of a character, or at the first one, in terms of the library's
operations on lists.
-/

namespace RuntimeMux.Text

theorem pieces_eq_splitOn (mark : Char) (cs : List Char) : pieces mark cs = cs.splitOn mark := by
  induction cs with
  | nil => rfl
  | cons c cs ih =>
    rw [pieces, List.splitOn_cons_eq_if_modifyHead, ih]
    simp only [beq_iff_eq]
    split
    · rfl
    · cases hs : cs.splitOn mark with
      | nil => exact absurd hs (List.splitOn_ne_nil mark cs)
      | cons p ps => rfl

/-- A text is cut at the first `mark` if there is one. -/
theorem cutFirst?_eq (mark : Char) (cs : List Char) :
    cutFirst? mark cs =
      if mark ∈ cs then some (cs.takeWhile (· ≠ mark), (cs.dropWhile (· ≠ mark)).tail)
      else none := by
  induction cs with
  | nil => rfl
  | cons c cs ih =>
    rw [cutFirst?, ih]
    by_cases hc : c = mark
    · simp [hc]
    · have : mark ≠ c := fun h => hc h.symm
      by_cases hm : mark ∈ cs <;> simp [hc, hm, this]

/-- What is cut at a character that the parts do not have falls into these parts. -/
theorem pieces_intercalate {mark : Char} {parts : List (List Char)}
    (apart : ∀ p ∈ parts, mark ∉ p) (ne : parts ≠ []) :
    pieces mark ([mark].intercalate parts) = parts := by
  rw [pieces_eq_splitOn, List.splitOn_intercalate mark apart ne]

theorem intercalate_pieces (mark : Char) (cs : List Char) :
    [mark].intercalate (pieces mark cs) = cs := by
  rw [pieces_eq_splitOn, List.intercalate_splitOn]

/-- A piece has only characters of the whole, and not the one that it is cut at. -/
theorem of_mem_pieces {mark c : Char} {cs p : List Char} (hp : p ∈ pieces mark cs) (hc : c ∈ p) :
    c ∈ cs ∧ c ≠ mark := by
  induction cs generalizing p with
  | nil =>
    obtain rfl := List.mem_singleton.1 hp
    cases hc
  | cons d cs ih =>
    rw [pieces] at hp
    split at hp
    next =>
      rcases List.mem_cons.1 hp with rfl | hp
      · cases hc
      · exact (ih hp hc).imp_left (List.mem_cons_of_mem d)
    next differs =>
      split at hp
      next none => exact absurd none (by simp [pieces_eq_splitOn])
      next first rest eq =>
        rw [eq] at ih
        rcases List.mem_cons.1 hp with rfl | hp
        · rcases List.mem_cons.1 hc with rfl | hc
          · exact ⟨List.mem_cons_self, differs⟩
          · exact (ih List.mem_cons_self hc).imp_left (List.mem_cons_of_mem d)
        · exact (ih (List.mem_cons_of_mem first hp) hc).imp_left (List.mem_cons_of_mem d)

theorem of_mem_intercalate {mark c : Char} {parts : List (List Char)}
    (h : c ∈ [mark].intercalate parts) : c = mark ∨ ∃ p ∈ parts, c ∈ p := by
  induction parts with
  | nil => cases h
  | cons p parts ih =>
    cases parts with
    | nil => exact .inr ⟨p, List.mem_cons_self, by simpa using h⟩
    | cons q parts =>
      rw [List.intercalate_cons_cons] at h
      simp only [List.mem_append, List.mem_singleton] at h
      rcases h with (h | h) | h
      · exact .inr ⟨p, List.mem_cons_self, h⟩
      · exact .inl h
      · exact (ih h).imp_right fun ⟨r, mem, hc⟩ => ⟨r, List.mem_cons_of_mem p mem, hc⟩

theorem pieces_ne_nil (mark : Char) (cs : List Char) : pieces mark cs ≠ [] := by
  rw [pieces_eq_splitOn]
  exact List.splitOn_ne_nil mark cs

/-- What is taken while the characters have a property ends where the first one does not. -/
theorem takeWhile_append_of_head? {p : Char → Bool} {cs rest : List Char}
    (front : ∀ c ∈ cs, p c = true) (back : ∀ c ∈ rest.head?, p c = false) :
    (cs ++ rest).takeWhile p = cs := by
  rw [List.takeWhile_append_of_pos front]
  cases rest with
  | nil => simp
  | cons c rest => simp [back c rfl]

end RuntimeMux.Text
