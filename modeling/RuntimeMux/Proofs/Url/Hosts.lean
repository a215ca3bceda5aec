import Mathlib.Tactic.SplitIfs
import RuntimeMux.Proofs.Url.Addresses
import RuntimeMux.Proofs.Url.Encoding

/-!
# Hosts

The text of a host is read back as the host, both as a domain name and as a name of any kind. What a
name has been turned into when it was read is not turned into anything else: a domain name is then
in lower case and in ASCII, whatever it was before, and it does not end in a number. Of the tables
that domain names are mapped by, `LawfulDomainNames` is all that is used.
-/

namespace RuntimeMux.Url

variable {c : Char} {cs name label : List Char} {host : Host}

/-! ### Characters of domain names -/

/-- Whether a character can stand in a domain name that has been read. -/
def isDomainChar (c : Char) : Bool :=
  c.toNat < 0x80 && !isForbiddenInDomain c && !c.isUpper

theorem isDomainChar_iff : isDomainChar c = true ↔
    c.toNat < 0x80 ∧ isForbiddenInDomain c = false ∧ c.isUpper = false := by
  simp [isDomainChar, and_assoc]

theorem ne_of_forbidden {d : Char} (forbidden : isForbiddenInHost d = true)
    (h : isForbiddenInHost c = false) : c ≠ d := by
  rintro rfl
  exact Bool.noConfusion (forbidden.symm.trans h)

theorem visible_of_allowed (h : isForbiddenInHost c = false) (plain : isControl c = false) :
    0x20 < c.toNat :=
  visible_of_plain plain (ne_of_forbidden (by decide) h)

theorem isForbiddenInHost_of_isDomainChar (h : isDomainChar c = true) :
    isForbiddenInHost c = false := by
  have allowed := (isDomainChar_iff.1 h).2.1
  simp only [isForbiddenInDomain, Bool.or_eq_false_iff] at allowed
  exact allowed.1.1.1

theorem visible_of_isDomainChar (h : isDomainChar c = true) : 0x20 < c.toNat ∧ c.toNat < 0x7f := by
  obtain ⟨ascii, allowed, -⟩ := isDomainChar_iff.1 h
  simp only [isForbiddenInDomain, Bool.or_eq_false_iff, decide_eq_false_iff_not,
    beq_eq_false_iff_ne] at allowed
  obtain ⟨⟨⟨allowed, low⟩, -⟩, high⟩ := allowed
  have plain : isControl c = false := by
    simp only [isControl, Bool.or_eq_false_iff, decide_eq_false_iff_not]
    omega
  exact ⟨visible_of_allowed allowed plain, by omega⟩

/-! ### Domain names -/

/-- What names of domains are written as in ASCII, whatever the tables are: the characters that domains
have, in lower case, which stay as they are when they are mapped again. -/
class LawfulDomainNames [DomainNames] : Prop where
  /-- A mapped name has only characters that can stand in a domain name. -/
  isDomainChar_of_mem : ∀ {cs name : List Char}, DomainNames.toAscii? cs = some name →
    ∀ c ∈ name, isDomainChar c = true
  /-- A mapped name is mapped to itself. -/
  toAscii?_of_toAscii? : ∀ {cs name : List Char}, DomainNames.toAscii? cs = some name →
    DomainNames.toAscii? name = some name
  /-- Digits and dots are mapped to themselves. -/
  toAscii?_of_digits : ∀ {cs : List Char}, (∀ c ∈ cs, c = '.' ∨ c.isDigit = true) →
    DomainNames.toAscii? cs = some cs

/-- A name without a percent sign is mapped as it is. -/
theorem domain?_of_notMem [DomainNames] (percent : '%' ∉ cs) :
    domain? cs = DomainNames.toAscii? cs := by
  simp [domain?, percentDecode_of_notMem percent]

theorem isDomainChar_of_mem_domain? [DomainNames] [LawfulDomainNames] (h : domain? cs = some name)
    (mem : c ∈ name) : isDomainChar c = true := by
  obtain ⟨text, -, mapped⟩ := Option.bind_eq_some_iff.1 h
  exact LawfulDomainNames.isDomainChar_of_mem mapped c mem

/-- A domain name that has been read stays as it is. -/
theorem domain?_of_domain? [DomainNames] [LawfulDomainNames] (h : domain? cs = some name) :
    domain? name = some name := by
  have percent : '%' ∉ name :=
    fun mem => absurd (isDomainChar_of_mem_domain? h mem) (by decide)
  obtain ⟨text, -, mapped⟩ := Option.bind_eq_some_iff.1 h
  rw [domain?_of_notMem percent, LawfulDomainNames.toAscii?_of_toAscii? mapped]

/-! ### Hosts -/

/-- Whether a scheme with domains can have the host. -/
def Host.IsDomain [DomainNames] : Host → Prop
  | .name n => n ≠ "" ∧ domain? n.toList = some n.toList ∧ endsInNumber n.toList = false
  | .ipv4 address => address < 2 ^ 32
  | .ipv6 pieces => IsIpv6 pieces

/-- Whether a scheme without domains can have the host. -/
def Host.IsPlain : Host → Prop
  | .name n => n ≠ "" ∧ ∀ c ∈ n.toList, isForbiddenInHost c = false ∧ isControl c = false
  | .ipv4 _ => False
  | .ipv6 pieces => IsIpv6 pieces

theorem bracketed?_of_ne (h : ∀ c ∈ cs, c ≠ '[') : bracketed? cs = none := by
  unfold bracketed?
  split
  · exact absurd rfl (h '[' List.mem_cons_self)
  · rfl

theorem bracketed?_text {pieces : List Nat} (h : IsIpv6 pieces) :
    bracketed? (Host.text (.ipv6 pieces)).toList = some (.ok (.ipv6 pieces)) := by
  simp [Host.text, bracketed?, ipv6?_ipv6Text h]

theorem of_bracketed? (h : bracketed? cs = some (.ok host)) :
    ∃ pieces, host = .ipv6 pieces ∧ IsIpv6 pieces := by
  unfold bracketed? at h
  split at h
  next =>
    split at h
    · split at h
      next pieces read =>
        obtain rfl := Except.ok.inj (Option.some.inj h)
        exact ⟨pieces, rfl, isIpv6_of_ipv6? read⟩
      next => cases h
    · cases h
  next => cases h

theorem isDomain_of_domainHost [DomainNames] [LawfulDomainNames] (h : domainHost cs = .ok host) :
    host.IsDomain := by
  unfold domainHost at h
  split at h
  next result brackets =>
    subst h
    obtain ⟨pieces, rfl, isIpv6⟩ := of_bracketed? brackets
    exact isIpv6
  next =>
    split at h
    · cases h
    next name read =>
      split_ifs at h with empty number
      · split at h
        next address valid =>
          obtain rfl := Except.ok.inj h
          exact ipv4?_lt valid
        next => cases h
      · obtain rfl := Except.ok.inj h
        refine ⟨?_, ?_, ?_⟩
        · simpa [← String.toList_inj] using empty
        · simpa using domain?_of_domain? read
        · simpa using number

theorem isDigit_of_mem_ipv4Text {address : Nat} (h : c ∈ (ipv4Text address).toList) :
    c = '.' ∨ c.isDigit = true := by
  rw [toList_ipv4Text] at h
  rcases Text.of_mem_intercalate h with rfl | ⟨p, hp, hc⟩
  · exact .inl rfl
  · obtain ⟨n, -, rfl⟩ := List.mem_map.1 hp
    exact .inr (Nat.isDigit_of_mem_toDigits (by decide) (by decide) hc)

/-- An IPv4 address is a domain name that stays as it is. -/
theorem domain?_ipv4Text [DomainNames] [LawfulDomainNames] (address : Nat) :
    domain? (ipv4Text address).toList = some (ipv4Text address).toList := by
  have percent : '%' ∉ (ipv4Text address).toList :=
    fun mem => absurd (isDigit_of_mem_ipv4Text mem) (by decide)
  rw [domain?_of_notMem percent,
    LawfulDomainNames.toAscii?_of_digits fun c => isDigit_of_mem_ipv4Text]

/-- A host of a scheme with domains is read back from its text. -/
theorem domainHost_text [DomainNames] [LawfulDomainNames] (h : host.IsDomain) :
    domainHost host.text.toList = .ok host := by
  have plain {cs : List Char} (read : domain? cs = some cs) : bracketed? cs = none :=
    bracketed?_of_ne fun c hc => ne_of_forbidden (by decide)
      (isForbiddenInHost_of_isDomainChar (isDomainChar_of_mem_domain? read hc))
  cases host with
  | name n =>
    obtain ⟨ne, read, number⟩ := h
    have ne : n.toList.isEmpty = false := by simpa using ne
    simp [domainHost, Host.text, plain read, read, ne, number]
  | ipv4 address =>
    have read := domain?_ipv4Text address
    have ends := endsInNumber_ipv4Text address
    have ne : (ipv4Text address).toList.isEmpty = false := by
      rw [List.isEmpty_eq_false_iff]
      intro empty
      rw [empty] at ends
      exact absurd ends (by decide)
    simp [domainHost, Host.text, plain read, read, ne, ends, ipv4?_ipv4Text h]
  | ipv6 pieces => simp [domainHost, bracketed?_text h]

theorem isPlain_of_plainHost (ne : cs ≠ []) (h : plainHost cs = .ok host) : host.IsPlain := by
  unfold plainHost at h
  split at h
  next result brackets =>
    subst h
    obtain ⟨pieces, rfl, isIpv6⟩ := of_bracketed? brackets
    exact isIpv6
  next =>
    split_ifs at h with forbidden
    obtain rfl := Except.ok.inj h
    refine ⟨?_, ?_⟩
    · simpa [← String.toList_inj, percentEncode_eq_nil_iff] using ne
    · intro c hc
      rw [String.toList_ofList] at hc
      refine ⟨?_, encoded_eq_false_of_mem sparesEscapes_isControl hc⟩
      have escape : ∀ c ∈ escapes, isForbiddenInHost c = false :=
        List.all_iff_forall_prop.1 (by decide)
      have allowed : ∀ c ∈ cs, isForbiddenInHost c = false := by simpa using forbidden
      exact (mem_percentEncode hc).elim (escape c) fun h => allowed c h.1

/-- A host of a scheme without domains is read back from its text. -/
theorem plainHost_text (h : host.IsPlain) : plainHost host.text.toList = .ok host := by
  cases host with
  | name n =>
    obtain ⟨-, chars⟩ := h
    have brackets : bracketed? n.toList = none :=
      bracketed?_of_ne fun c hc => ne_of_forbidden (by decide) (chars c hc).1
    have allowed : n.toList.any isForbiddenInHost = false :=
      List.any_eq_false.2 fun c hc => by simp [(chars c hc).1]
    simp [plainHost, Host.text, brackets, allowed, percentEncode_eq_self fun c hc => (chars c hc).2]
  | ipv4 address => exact h.elim
  | ipv6 pieces => simp [plainHost, bracketed?_text h]

/-! ### The text of a host -/

/-- The texts that hosts have: visible characters that are allowed in hosts, or the characters of an
IPv6 address between brackets. -/
inductive IsHostText : List Char → Prop
  | name {text : List Char} (ne : text ≠ [])
      (allowed : ∀ c ∈ text, isForbiddenInHost c = false ∧ 0x20 < c.toNat) : IsHostText text
  | brackets {text : List Char} (inner : ∀ c ∈ text, c = ':' ∨ c ∈ hexDigits) :
      IsHostText ('[' :: text ++ [']'])

theorem isHostText_ipv6 (pieces : List Nat) : IsHostText (Host.text (.ipv6 pieces)).toList := by
  have inner : ∀ c ∈ (ipv6Text pieces).toList, c = ':' ∨ c ∈ hexDigits := by
    intro c hc
    unfold ipv6Text at hc
    split at hc
    split_ifs at hc
    · exact of_mem_colonText hc
    · simp only [String.toList_append, List.mem_append] at hc
      rcases hc with (hc | hc) | hc
      · exact of_mem_colonText hc
      · exact .inl (by simpa using hc)
      · exact of_mem_colonText hc
  simpa [Host.text] using IsHostText.brackets inner

theorem Host.IsDomain.isHostText [DomainNames] [LawfulDomainNames] (h : host.IsDomain) :
    IsHostText host.text.toList := by
  have visible {cs : List Char} (read : domain? cs = some cs) :
      ∀ c ∈ cs, isForbiddenInHost c = false ∧ 0x20 < c.toNat := by
    intro c hc
    have isDomainChar := isDomainChar_of_mem_domain? read hc
    exact ⟨isForbiddenInHost_of_isDomainChar isDomainChar, (visible_of_isDomainChar isDomainChar).1⟩
  cases host with
  | name n => exact .name (by simpa [Host.text] using h.1) (visible h.2.1)
  | ipv4 address =>
    refine .name ?_ (visible (domain?_ipv4Text address))
    intro empty
    have ends := endsInNumber_ipv4Text address
    rw [show (ipv4Text address).toList = [] from empty] at ends
    exact absurd ends (by decide)
  | ipv6 pieces => exact isHostText_ipv6 pieces

theorem Host.IsPlain.isHostText (h : host.IsPlain) : IsHostText host.text.toList := by
  cases host with
  | name n =>
    refine .name (by simpa [Host.text] using h.1) fun c hc => ?_
    obtain ⟨allowed, plain⟩ := h.2 c hc
    exact ⟨allowed, visible_of_allowed allowed plain⟩
  | ipv4 address => exact h.elim
  | ipv6 pieces => exact isHostText_ipv6 pieces

end RuntimeMux.Url
