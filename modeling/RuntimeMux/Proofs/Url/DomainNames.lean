import RuntimeMux.Proofs.Url.Hosts
import RuntimeMux.Url.DomainName

/-!
# The names of domains that the proxy is run with

They are lawful. Mapping leaves neither capital letters nor characters beyond ASCII: these are encoded,
and what they are encoded with is in lower case. A name in which there is nothing to map or to encode
stays as it is.
-/

namespace RuntimeMux.Url

variable {c : Char} {cs name label : List Char}

/-! ### Characters of domain names -/

theorem domainChar_eq_self (ascii : c.toNat < 0x80) (lower : ¬(0x41 ≤ c.toNat ∧ c.toNat ≤ 0x5a)) :
    domainChar c = c := by
  have plain : (if 0xff01 ≤ c.toNat ∧ c.toNat ≤ 0xff5e then c.toNat - 0xfee0
      else if c.toNat = 0x3002 ∨ c.toNat = 0xff61 then 0x2e else c.toNat) = c.toNat := by
    rw [if_neg (by omega), if_neg (by omega)]
  simp only [domainChar, plain]
  rw [if_neg lower, if_neg (by omega), if_neg (by omega), if_neg (by omega), if_neg (by omega),
    Char.ofNat_toNat]

theorem domainChar_not_upper (c : Char) :
    ¬(0x41 ≤ (domainChar c).toNat ∧ (domainChar c).toNat ≤ 0x5a) := by
  have valid : c.toNat.isValidChar := c.valid
  unfold domainChar
  extract_lets n plain lower
  have same : (Char.ofNat lower).toNat = lower := by
    have valid : lower.isValidChar := by
      unfold Nat.isValidChar at valid ⊢
      simp only [lower, plain, n]
      split_ifs <;> omega
    rw [Char.ofNat, dif_pos valid]
    rfl
  rw [same]
  simp only [lower, plain, n]
  split_ifs <;> omega

theorem isUpper_iff : c.isUpper = true ↔ 0x41 ≤ c.toNat ∧ c.toNat ≤ 0x5a := by
  have letters : c.isUpper = true ↔ 'A' ≤ c ∧ c ≤ 'Z' := decide_eq_true_iff
  rw [letters]
  exact and_congr UInt32.le_iff_toNat_le UInt32.le_iff_toNat_le

theorem domainChar_of_isDomainChar (h : isDomainChar c = true) : domainChar c = c := by
  obtain ⟨ascii, -, upper⟩ := isDomainChar_iff.1 h
  refine domainChar_eq_self ascii ?_
  rw [← isUpper_iff, upper]
  decide

/-- A character that no domain name maps to another one can stand in it. -/
theorem isDomainChar_domainChar (ascii : (domainChar c).toNat < 0x80)
    (allowed : isForbiddenInDomain (domainChar c) = false) :
    isDomainChar (domainChar c) = true := by
  refine isDomainChar_iff.2 ⟨ascii, allowed, ?_⟩
  rw [← Bool.not_eq_true, isUpper_iff]
  exact domainChar_not_upper c

/-! ### Labels in ASCII -/

namespace Punycode

/-- The digits of distances. -/
def digits : List Char := "abcdefghijklmnopqrstuvwxyz0123456789".toList

theorem digit_mem_digits : ∀ n < 36, digit n ∈ digits := by
  decide

theorem threshold_bounds (k bias : Nat) : 0 < threshold k bias ∧ threshold k bias ≤ 26 := by
  unfold threshold
  split_ifs <;> omega

theorem mem_digits_of_mem_distance {bias fuel k q : Nat} (h : c ∈ distance bias fuel k q) :
    c ∈ digits := by
  induction fuel generalizing k q with
  | zero => cases h
  | succ fuel ih =>
    obtain ⟨low, high⟩ := threshold_bounds k bias
    rw [distance] at h
    split at h
    next last =>
      obtain rfl := List.mem_singleton.1 h
      exact digit_mem_digits q (by omega)
    next =>
      rcases List.mem_cons.1 h with rfl | h
      · have := Nat.mod_lt (q - threshold k bias) (y := 36 - threshold k bias) (by omega)
        exact digit_mem_digits _ (by omega)
      · exact ih h

theorem mem_digits_of_mem_pass {ascii m : Nat} {p : Progress} {d : Char}
    (written : ∀ c ∈ p.written, c ∈ digits) : ∀ c ∈ (p.pass ascii m d).written, c ∈ digits := by
  unfold Progress.pass
  split_ifs
  · exact written
  · exact List.forall_mem_append.2 ⟨written, fun c => mem_digits_of_mem_distance⟩
  · exact written

theorem mem_digits_of_mem_foldl {ascii m : Nat} {p : Progress}
    (written : ∀ c ∈ p.written, c ∈ digits) :
    ∀ c ∈ (label.foldl (Progress.pass ascii m) p).written, c ∈ digits := by
  induction label generalizing p with
  | nil => exact written
  | cons d label ih => exact ih (mem_digits_of_mem_pass written)

/-- A label in ASCII has its own characters that are in ASCII, hyphens and digits. -/
theorem of_mem_encode (h : c ∈ encode label) :
    (c ∈ label ∧ c.toNat < 0x80) ∨ c = '-' ∨ c ∈ digits := by
  have run : ∀ (codes : List Nat) (ascii : Nat) (state : Progress × Nat),
      (∀ c ∈ state.1.written, c ∈ digits) →
      ∀ c ∈ (codes.foldl (Progress.advance label ascii) state).1.written, c ∈ digits := by
    intro codes ascii
    induction codes with
    | nil => exact fun state written => written
    | cons m codes ih =>
      intro state written
      exact ih _ (mem_digits_of_mem_foldl written)
  unfold encode at h
  rcases List.mem_append.1 h with h | h
  · rcases List.mem_append.1 h with h | h
    · exact .inl (by simpa using h)
    · split_ifs at h
      · cases h
      · exact .inr (.inl (List.mem_singleton.1 h))
  · exact .inr (.inr (run _ _ _ (List.forall_mem_nil _) c h))

end Punycode

/-! ### Domain names -/

theorem isDomainChar_of_mem_commonName? (h : commonName? cs = some name) (mem : c ∈ name) :
    isDomainChar c = true := by
  simp only [commonName?, Option.ite_none_right_eq_some, Option.some.injEq, List.all_eq_true] at h
  obtain ⟨labels, rfl⟩ := h
  rcases Text.of_mem_intercalate mem with rfl | ⟨p, hp, hc⟩
  · decide
  · obtain ⟨label, hlabel, rfl⟩ := List.mem_map.1 hp
    have allowed : ∀ c ∈ label, c.toNat < 0x80 → isDomainChar c = true := by
      intro c hc ascii
      obtain ⟨d, -, rfl⟩ := List.mem_map.1 (Text.of_mem_pieces hlabel hc).1
      have valid := labels label hlabel
      simp only [isLabel, Bool.and_eq_true, List.all_eq_true, Bool.not_eq_true'] at valid
      exact isDomainChar_domainChar ascii (valid.1 _ hc).1
    unfold asciiLabel at hc
    split at hc
    next ascii =>
      simp only [List.all_eq_true, decide_eq_true_eq] at ascii
      exact allowed c hc (ascii c hc)
    next =>
      -- The ASCII characters of the label are kept, and all others become digits.
      have digits : ∀ c ∈ Punycode.digits, isDomainChar c = true :=
        List.all_iff_forall_prop.1 (by decide)
      have lead : ∀ c ∈ ['x', 'n', '-', '-'], isDomainChar c = true :=
        List.all_iff_forall_prop.1 (by decide)
      rcases List.mem_append.1 hc with hc | hc
      · exact lead c hc
      · rcases Punycode.of_mem_encode hc with ⟨hc, ascii⟩ | rfl | hc
        · exact allowed c hc ascii
        · decide
        · exact digits c hc

theorem unprintable_outside : ∀ p ∈ Text.unprintableRanges, p.2 < 0x21 ∨ 0x7f ≤ p.1 := by
  decide +kernel

theorem combining_outside : ∀ p ∈ Text.combiningRanges, 0x7f ≤ p.1 := by
  decide +kernel

theorem isLabel_of_isDomainChar (h : ∀ c ∈ label, isDomainChar c = true) :
    isLabel label = true := by
  have printable : ∀ c ∈ label, Text.inRanges Text.unprintableRanges c.toNat = false := by
    intro c hc
    have visible := visible_of_isDomainChar (h c hc)
    simp only [Text.inRanges, List.any_eq_false, decide_eq_true_eq, Prod.forall]
    intro low high mem
    have : high < 0x21 ∨ 0x7f ≤ low := unprintable_outside (low, high) mem
    omega
  have apart : ∀ c ∈ label, Text.inRanges Text.combiningRanges c.toNat = false := by
    intro c hc
    have visible := visible_of_isDomainChar (h c hc)
    simp only [Text.inRanges, List.any_eq_false, decide_eq_true_eq, Prod.forall]
    intro low high mem
    have : 0x7f ≤ low := combining_outside (low, high) mem
    omega
  simp only [isLabel, Bool.and_eq_true, List.all_eq_true, Bool.not_eq_true', Option.any_eq_false]
  refine ⟨fun c hc => ⟨(isDomainChar_iff.1 (h c hc)).2.1, printable c hc⟩, fun c hc => ?_⟩
  simpa using apart c (List.mem_of_mem_head? hc)

/-- A name of characters that domain names have stays as it is. -/
theorem commonName?_eq_self (h : ∀ c ∈ cs, isDomainChar c = true) : commonName? cs = some cs := by
  have same : cs.map domainChar = cs :=
    (List.map_congr_left fun c hc => domainChar_of_isDomainChar (h c hc)).trans (List.map_id cs)
  have chars : ∀ p ∈ Text.pieces '.' cs, ∀ c ∈ p, isDomainChar c = true :=
    fun p hp c hc => h c (Text.of_mem_pieces hp hc).1
  have labels : (Text.pieces '.' cs).all isLabel = true :=
    List.all_eq_true.2 fun p hp => isLabel_of_isDomainChar (chars p hp)
  have ascii : (Text.pieces '.' cs).map asciiLabel = Text.pieces '.' cs := by
    refine (List.map_congr_left (g := id) fun p hp => ?_).trans (List.map_id _)
    rw [asciiLabel, if_pos, id]
    simp only [List.all_eq_true, decide_eq_true_eq]
    exact fun c hc => (isDomainChar_iff.1 (chars p hp c hc)).1
  simp only [commonName?, same, labels, if_true, ascii, Text.intercalate_pieces]

theorem isDomainChar_of_isDigit (h : c = '.' ∨ c.isDigit = true) : isDomainChar c = true := by
  rcases h with rfl | digit
  · decide
  · have digits : ∀ n < 0x80, (Char.ofNat n).isDigit = true →
        isDomainChar (Char.ofNat n) = true := by decide
    have high : c.toNat < 0x80 := lt_of_le_of_lt (Char.isDigit_iff_toNat.1 digit).2 (by decide)
    have := digits c.toNat high
    rw [Char.ofNat_toNat] at this
    exact this digit

instance : LawfulDomainNames where
  isDomainChar_of_mem h _ mem := isDomainChar_of_mem_commonName? h mem
  toAscii?_of_toAscii? h := commonName?_eq_self fun _ mem => isDomainChar_of_mem_commonName? h mem
  toAscii?_of_digits h := commonName?_eq_self fun c hc => isDomainChar_of_isDigit (h c hc)

end RuntimeMux.Url
