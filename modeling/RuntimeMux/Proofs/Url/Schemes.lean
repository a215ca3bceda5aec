import Mathlib.Data.Bool.AllAny
import Mathlib.Tactic.SplitIfs
import RuntimeMux.Proofs.Results
import RuntimeMux.Url.Parse

/-!
# Schemes

A text is cleared before it is read, which visible characters survive, and its scheme is read back
from what is written of it. A text lacks a base exactly if it has no scheme: no other part of a URL
is missed in this way.
-/

namespace RuntimeMux.Url

variable {scheme : String} {c d : Char} {cs rest : List Char}

/-! ### Clearing -/

/-- Clearing stops at the first visible character. -/
theorem dropWhile_of_visible (ne : cs ≠ []) (h : ∀ c ∈ cs, 0x20 < c.toNat) (rest : List Char) :
    ((cs ++ rest).dropWhile fun c => decide (c.toNat ≤ 0x20)) = cs ++ rest := by
  cases cs with
  | nil => exact absurd rfl ne
  | cons c cs =>
    have visible := h c List.mem_cons_self
    rw [List.cons_append, List.dropWhile_cons, if_neg (by simpa using visible)]

theorem filter_of_visible (h : ∀ c ∈ cs, 0x20 < c.toNat) :
    cs.filter (fun c => c ≠ '\t' ∧ c ≠ '\n' ∧ c ≠ '\r') = cs := by
  refine List.filter_eq_self.2 fun c mem => ?_
  have visible := h c mem
  rw [decide_eq_true_iff]
  refine ⟨?_, ?_, ?_⟩
  all_goals
    rintro rfl
    exact absurd visible (by decide)

/-- Visible characters at the front stay there when a text is cleared. -/
theorem exists_cleared_append {lead : String} (ne : lead ≠ "")
    (visible : ∀ c ∈ lead.toList, 0x20 < c.toNat) (text : String) :
    ∃ rest, cleared (lead ++ text) = lead.toList ++ rest := by
  have ne : lead.toList ≠ [] := by simpa using ne
  have front := dropWhile_of_visible ne visible text.toList
  have last := dropWhile_of_visible (by simpa using ne)
    (fun c mem => visible c (List.mem_reverse.1 mem)) []
  rw [List.append_nil] at last
  obtain ⟨rest, back⟩ : ∃ rest, ((lead ++ text).toList.reverse.dropWhile
      fun c => decide (c.toNat ≤ 0x20)).reverse = lead.toList ++ rest := by
    rw [String.toList_append, List.reverse_append, List.dropWhile_append]
    -- Either nothing is left of the rest, or the lead is not reached.
    split_ifs
    · exact ⟨[], by rw [last, List.reverse_reverse, List.append_nil]⟩
    · exact ⟨_, by rw [List.reverse_append, List.reverse_reverse]⟩
  rw [← String.toList_append] at front
  refine ⟨rest.filter fun c => c ≠ '\t' ∧ c ≠ '\n' ∧ c ≠ '\r', ?_⟩
  simp only [cleared, front, back, List.filter_append, filter_of_visible visible]

/-- There is nothing to clear a text from that has visible characters only. -/
theorem cleared_eq_self {text : String} (h : ∀ c ∈ text.toList, 0x20 < c.toNat) :
    cleared text = text.toList := by
  by_cases empty : text = ""
  · rw [empty]
    rfl
  · have front := dropWhile_of_visible (by simpa using empty) h []
    have back := dropWhile_of_visible (by simpa using empty)
      (fun c mem => h c (List.mem_reverse.1 mem)) []
    rw [List.append_nil] at front back
    simp only [cleared, front, back, List.reverse_reverse, filter_of_visible h]

/-! ### Schemes -/

/-- Whether a URL can have the scheme. -/
structure IsScheme (scheme : String) : Prop where
  head : scheme.toList.head?.any Char.isAlpha = true
  chars : ∀ c ∈ scheme.toList, schemeChar? c = some c

theorem schemeChar?_upper : ∀ n < 26,
    schemeChar? (Char.ofNat (97 + n)) = some (Char.ofNat (97 + n)) ∧
    (Char.ofNat (97 + n)).isAlpha = true := by
  decide

/-- A character of a scheme stays as it is, and it is a letter if it was one. -/
theorem of_schemeChar? (h : schemeChar? c = some d) :
    schemeChar? d = some d ∧ (c.isAlpha = true → d.isAlpha = true) := by
  unfold schemeChar? at h
  split_ifs at h with plain upper
  · obtain rfl := Option.some.inj h
    exact ⟨by rw [schemeChar?, if_pos plain], id⟩
  · obtain rfl := Option.some.inj h
    simp only [Char.le_def, UInt32.le_iff_toNat_le] at upper
    obtain ⟨n, hn⟩ := Nat.exists_eq_add_of_le (show 65 ≤ c.toNat from upper.1)
    have : c.toNat ≤ 90 := upper.2
    have letter := schemeChar?_upper n (by omega)
    have same : c.toNat + 32 = 97 + n := by omega
    rw [same]
    exact ⟨letter.1, fun _ => letter.2⟩

theorem plain_of_schemeChar? (h : schemeChar? c = some c) : 0x20 < c.toNat ∧ c ≠ ':' := by
  refine ⟨?_, ?_⟩
  · unfold schemeChar? at h
    split_ifs at h with plain upper
    · simp only [Char.le_def, UInt32.le_iff_toNat_le] at plain
      rcases plain with ⟨low, -⟩ | ⟨low, -⟩ | rfl | rfl | rfl
      · exact Nat.lt_of_lt_of_le (by decide) low
      · exact Nat.lt_of_lt_of_le (by decide) low
      · decide
      · decide
      · decide
    · simp only [Char.le_def, UInt32.le_iff_toNat_le] at upper
      exact Nat.lt_of_lt_of_le (by decide) upper.1
  · rintro rfl
    exact absurd h (by decide)

theorem schemeRest?_append (h : ∀ c ∈ cs, schemeChar? c = some c) (rest : List Char) :
    schemeRest? (cs ++ ':' :: rest) = some (cs, rest) := by
  induction cs with
  | nil => simp [schemeRest?]
  | cons c cs ih =>
    obtain ⟨hc, hcs⟩ := List.forall_mem_cons.1 h
    simp [schemeRest?, (plain_of_schemeChar? hc).2, hc, ih hcs]

/-- A scheme is read back, and what follows its colon is left. -/
theorem scheme?_append (h : IsScheme scheme) (rest : List Char) :
    scheme? (scheme.toList ++ ':' :: rest) = some (scheme, rest) := by
  have head : (scheme.toList ++ ':' :: rest).head?.any Char.isAlpha = true := by
    have := h.head
    cases hs : scheme.toList with
    | nil => simp [hs] at this
    | cons c cs => simpa [hs] using this
  rw [scheme?, if_pos head, schemeRest?_append h.chars]
  simp

theorem of_schemeRest? {chars : List Char} (h : schemeRest? cs = some (chars, rest)) :
    (∀ c ∈ chars, schemeChar? c = some c) ∧
      (cs.head?.any Char.isAlpha = true → chars.head?.any Char.isAlpha = true) := by
  induction cs generalizing chars with
  | nil => cases h
  | cons c cs ih =>
    rw [schemeRest?] at h
    split_ifs at h with colon
    · obtain ⟨rfl, rfl⟩ := Prod.mk.inj (Option.some.inj h)
      have noLetter : (':').isAlpha = false := by decide
      refine ⟨List.forall_mem_nil _, fun alpha => ?_⟩
      simp [colon, noLetter] at alpha
    · simp only [Option.bind_eq_bind, Option.bind_eq_some_iff, Prod.exists, Option.pure_def,
        Option.some.injEq, Prod.mk.injEq] at h
      obtain ⟨d, hd, chars, rest, read, rfl, rfl⟩ := h
      obtain ⟨stays, alpha⟩ := of_schemeChar? hd
      exact ⟨List.forall_mem_cons.2 ⟨stays, (ih read).1⟩, by simpa using alpha⟩

theorem isScheme_of_scheme? (h : scheme? cs = some (scheme, rest)) : IsScheme scheme := by
  unfold scheme? at h
  split_ifs at h with head
  simp only [Option.map_eq_some_iff, Prod.exists, Prod.mk.injEq] at h
  obtain ⟨chars, _, read, rfl, -⟩ := h
  obtain ⟨stay, alpha⟩ := of_schemeRest? read
  exact ⟨by simpa using alpha head, by simpa using stay⟩

theorem schemeKind_eq_file_iff : schemeKind scheme = .file ↔ scheme = "file" := by
  unfold schemeKind
  split_ifs <;> simp_all

theorem isScheme_file : IsScheme "file" where
  head := by decide
  chars := List.all_iff_forall_prop.1 (by decide)

/-! ### Faults -/

theorem bind_ne_noBase {α β : Type} {result : Except Fault α} {f : α → Except Fault β}
    (first : result ≠ .error .noBase) (rest : ∀ x, f x ≠ .error .noBase) :
    result >>= f ≠ .error .noBase := by
  cases result with
  | error fault => exact fun same => first (congrArg Except.error (Except.error.inj same))
  | ok x => exact rest x

theorem bracketed?_ne_noBase (cs : List Char) : bracketed? cs ≠ some (.error .noBase) := by
  unfold bracketed?
  split
  · split_ifs
    · split <;> simp
    · simp
  · simp

theorem plainHost_ne_noBase (cs : List Char) : plainHost cs ≠ .error .noBase := by
  unfold plainHost
  split
  next result brackets => exact fun same => bracketed?_ne_noBase cs (brackets.trans (same ▸ rfl))
  next => split_ifs <;> simp

variable [DomainNames]

theorem domainHost_ne_noBase (cs : List Char) : domainHost cs ≠ .error .noBase := by
  unfold domainHost
  split
  next result brackets => exact fun same => bracketed?_ne_noBase cs (brackets.trans (same ▸ rfl))
  next =>
    split
    · simp
    · split_ifs
      · simp
      · split <;> simp
      · simp

theorem readAuthority_ne_noBase (scheme : String) (cs : List Char) :
    readAuthority scheme cs ≠ .error .noBase := by
  have host {result : Except Fault Host} (h : result ≠ .error .noBase) :
      some <$> result ≠ .error .noBase := by
    cases result with
    | error fault => exact fun same => h (congrArg Except.error (Except.error.inj same))
    | ok host => nofun
  refine bind_ne_noBase ?_ fun (user, cs) => bind_ne_noBase ?_ fun host =>
    bind_ne_noBase ?_ fun (port, cs) => nofun
  · unfold userAndHost
    dsimp only
    split
    · simp
    · split_ifs <;> simp
  · unfold readHost
    split_ifs
    · simp
    · exact host (domainHost_ne_noBase _)
    · simp
    · simp
    · exact host (plainHost_ne_noBase _)
  · unfold readColonPort readPort
    dsimp only
    split
    · split_ifs
      · simp
      · split
        · simp
        · split_ifs <;> simp
    · simp

theorem fileOnHost_ne_noBase (cs : List Char) : fileOnHost cs ≠ .error .noBase := by
  unfold fileOnHost
  dsimp only
  split_ifs
  · nofun
  · nofun
  · refine bind_ne_noBase (domainHost_ne_noBase _) fun host => ?_
    split <;> nofun

theorem readFile_ne_noBase (base : Option Url) (cs : List Char) :
    readFile base cs ≠ .error .noBase := by
  unfold readFile
  split
  · nofun
  · nofun
  · exact fileOnHost_ne_noBase _

/-- A text with a scheme does not lack a base. -/
theorem ofScheme_ne_noBase (scheme : String) (cs : List Char) :
    ofScheme scheme cs ≠ .error .noBase := by
  have authority (cs : List Char) : ofAuthority scheme cs ≠ .error .noBase :=
    bind_ne_noBase (readAuthority_ne_noBase scheme cs) fun _ => nofun
  unfold ofScheme
  split
  · exact readFile_ne_noBase _ _
  · exact authority _
  · split
    · exact authority _
    · simp
    · simp

/-- A text lacks a base exactly if it has no scheme. -/
theorem parse_eq_noBase_iff {text : String} :
    parse text = .error .noBase ↔ scheme? (cleared text) = none := by
  unfold parse
  split
  next scheme rest read => simp [read, ofScheme_ne_noBase]
  next none => simp [none]

end RuntimeMux.Url
