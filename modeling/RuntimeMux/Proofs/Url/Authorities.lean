import RuntimeMux.Proofs.Results
import RuntimeMux.Proofs.Url.Hosts
import RuntimeMux.Url.Parse

/-!
# Authorities

The text of an authority is read back as the authority, whatever path, query or fragment follows it.
`IsAuthority` says which authorities a URL can have: these are the ones that reading gives. Their
texts have none of the characters that end an authority, and the last `@` is the one behind the user
name.
-/

namespace RuntimeMux.Url

variable {kind : SchemeKind} {scheme user : String} {a : Authority} {host : Host}
  {port : Option Nat} {c : Char} {cs rest : List Char} {n : Nat}

/-! ### Where an authority ends -/

/-- What can stand behind an authority: nothing, or a path, a query or a fragment. -/
def FollowsAuthority (rest : List Char) : Prop :=
  ∀ c ∈ rest.head?, c = '/' ∨ c = '?' ∨ c = '#'

/-- Whether a character can stand in an authority. -/
def StaysInAuthority (c : Char) : Prop :=
  0x20 < c.toNat ∧ ∀ kind, endsAuthority kind c = false

theorem endsAuthority_of_follows (h : FollowsAuthority (c :: rest)) (kind : SchemeKind) :
    endsAuthority kind c = true := by
  rcases h c rfl with rfl | rfl | rfl <;> cases kind <;> decide

theorem endsAuthority_eq_false (h : c ≠ '/' ∧ c ≠ '\\' ∧ c ≠ '?' ∧ c ≠ '#') :
    endsAuthority kind c = false := by
  simp [endsAuthority, isSlash, h]

theorem endsAuthority_of_allowed (h : isForbiddenInHost c = false) :
    endsAuthority kind c = false :=
  endsAuthority_eq_false ⟨ne_of_forbidden (by decide) h, ne_of_forbidden (by decide) h,
    ne_of_forbidden (by decide) h, ne_of_forbidden (by decide) h⟩

/-- What addresses are written with can stand in an authority. -/
theorem stays_of_mem_hexDigits (h : c ∈ '[' :: ']' :: ':' :: hexDigits) :
    StaysInAuthority c ∧ c ≠ '@' := by
  have plain : ∀ c ∈ '[' :: ']' :: ':' :: hexDigits,
      (0x20 < c.toNat ∧ c ≠ '/' ∧ c ≠ '\\' ∧ c ≠ '?' ∧ c ≠ '#') ∧ c ≠ '@' :=
    List.all_iff_forall_prop.1 (by decide)
  obtain ⟨⟨visible, plain⟩, mark⟩ := plain c h
  exact ⟨⟨visible, fun kind => endsAuthority_eq_false plain⟩, mark⟩

theorem takeWhile_authority (stays : ∀ c ∈ cs, StaysInAuthority c) (follows : FollowsAuthority rest)
    (kind : SchemeKind) : ((cs ++ rest).takeWhile fun c => !endsAuthority kind c) = cs := by
  refine Text.takeWhile_append_of_head? (fun c hc => by simp [(stays c hc).2 kind]) fun c hc => ?_
  cases rest with
  | nil => cases hc
  | cons d rest =>
    obtain rfl : d = c := Option.some.inj hc
    simp [endsAuthority_of_follows follows kind]

/-! ### Users -/

/-- Whether a text can be a user name with a password. -/
structure IsUserInfo (user : String) : Prop where
  stays : userInfo user.toList = user
  chars : ∀ c ∈ user.toList, c = ':' ∨ encodedInUserInfo c = false

theorem isUserInfo_empty : IsUserInfo "" where
  stays := by decide
  chars := by simp

theorem plain_of_encodedInUserInfo (h : encodedInUserInfo c = false) :
    StaysInAuthority c ∧ c ≠ '@' ∧ c ≠ ':' := by
  simp only [encodedInUserInfo, encodedInPath, encodedInFragment, List.contains_eq_mem,
    Bool.or_eq_false_iff, decide_eq_false_iff_not, List.mem_cons, List.not_mem_nil, or_false,
    not_or] at h
  obtain ⟨⟨⟨plain, space, -⟩, hash, query, -⟩, slash, colon, -, -, mark, -, backslash, -⟩ := h
  have ends (kind : SchemeKind) : endsAuthority kind c = false :=
    endsAuthority_eq_false ⟨slash, backslash, query, hash⟩
  exact ⟨⟨visible_of_plain plain space, ends⟩, mark, colon⟩

/-- What users are read as is read as it is. -/
theorem isUserInfo_userInfo (cs : List Char) : IsUserInfo (userInfo cs) := by
  have noColon (part : List Char) : ':' ∉ percentEncode encodedInUserInfo part :=
    fun mem => absurd (encoded_eq_false_of_mem sparesEscapes_inUserInfo mem) (by decide)
  have twice (part : List Char) := percentEncode_percentEncode sparesEscapes_inUserInfo part
  have single (part : List Char) :
      IsUserInfo (.ofList (percentEncode encodedInUserInfo part)) := by
    have whole : Text.cutFirst? ':' (percentEncode encodedInUserInfo part) = none := by
      rw [Text.cutFirst?_eq, if_neg (noColon part)]
    refine ⟨by simp [userInfo, whole, twice], fun c hc => .inr ?_⟩
    rw [String.toList_ofList] at hc
    exact encoded_eq_false_of_mem sparesEscapes_inUserInfo hc
  unfold userInfo
  dsimp only
  split
  next => exact single cs
  next user password _ =>
    split_ifs with empty
    · exact single user
    · have ne : (percentEncode encodedInUserInfo password).isEmpty = false := by
        rw [List.isEmpty_eq_false_iff, ne_eq, percentEncode_eq_nil_iff]
        simpa using empty
      have cut : Text.cutFirst? ':' (percentEncode encodedInUserInfo user ++
          ':' :: percentEncode encodedInUserInfo password) =
          some (percentEncode encodedInUserInfo user, percentEncode encodedInUserInfo password) :=
        Text.cutFirst?_eq_some_iff.2 ⟨rfl, noColon user⟩
      refine ⟨?_, fun c hc => ?_⟩
      · simp [userInfo, cut, ne, twice]
      · simp only [String.toList_append, String.toList_ofList, List.mem_append] at hc
        rcases hc with (hc | hc) | hc
        · exact .inr (encoded_eq_false_of_mem sparesEscapes_inUserInfo hc)
        · exact .inl (by simpa using hc)
        · exact .inr (encoded_eq_false_of_mem sparesEscapes_inUserInfo hc)

theorem IsUserInfo.stays_of_mem (h : IsUserInfo user) (mem : c ∈ user.toList) :
    StaysInAuthority c := by
  rcases h.chars c mem with rfl | plain
  · exact ⟨by decide, fun kind => by cases kind <;> decide⟩
  · exact (plain_of_encodedInUserInfo plain).1

theorem isUserInfo_of_userAndHost (h : userAndHost kind cs = .ok (user, rest)) :
    IsUserInfo user := by
  unfold userAndHost at h
  dsimp only at h
  split at h
  · obtain ⟨rfl, -⟩ := Prod.mk.inj (Except.ok.inj h)
    exact isUserInfo_empty
  · split_ifs at h
    obtain ⟨rfl, -⟩ := Prod.mk.inj (Except.ok.inj h)
    exact isUserInfo_userInfo _

/-! ### Hosts -/

theorem IsHostText.stays_of_mem (h : IsHostText cs) (mem : c ∈ cs) :
    StaysInAuthority c ∧ c ≠ '@' := by
  cases h with
  | name ne allowed =>
    obtain ⟨allowed, visible⟩ := allowed c mem
    exact ⟨⟨visible, fun kind => endsAuthority_of_allowed allowed⟩,
      ne_of_forbidden (by decide) allowed⟩
  | brackets inner =>
    refine stays_of_mem_hexDigits ?_
    simp only [List.mem_append, List.mem_cons, List.not_mem_nil, or_false] at mem ⊢
    rcases mem with (rfl | mem) | rfl
    · exact .inl rfl
    · exact .inr (.inr (inner c mem))
    · exact .inr (.inl rfl)

theorem IsHostText.ne_nil (h : IsHostText cs) : cs ≠ [] := by
  cases h with
  | name ne => exact ne
  | brackets => simp

/-- A host is taken up to where no host goes on. -/
theorem takeHost_append (h : IsHostText cs) (stops : takeHost kind false rest = ([], rest)) :
    takeHost kind false (cs ++ rest) = (cs, rest) := by
  have names : ∀ {cs : List Char}, (∀ c ∈ cs, isForbiddenInHost c = false) →
      takeHost kind false (cs ++ rest) = (cs, rest) := by
    intro cs allowed
    induction cs with
    | nil => exact stops
    | cons c cs ih =>
      obtain ⟨hc, allowed⟩ := List.forall_mem_cons.1 allowed
      have ends : endsAuthority kind c = false := endsAuthority_of_allowed hc
      have colon : c ≠ ':' := ne_of_forbidden (by decide) hc
      have opening : c ≠ '[' := ne_of_forbidden (by decide) hc
      simp [takeHost, ends, colon, opening, ih allowed]
  -- Between brackets a colon does not end the host.
  have inBrackets : ∀ {cs : List Char}, (∀ c ∈ cs, c = ':' ∨ c ∈ hexDigits) →
      takeHost kind true (cs ++ ']' :: rest) = (cs ++ [']'], rest) := by
    intro cs inner
    induction cs with
    | nil => simp [takeHost, endsAuthority_eq_false, stops]
    | cons c cs ih =>
      obtain ⟨hc, inner⟩ := List.forall_mem_cons.1 inner
      have mem : c ∈ ':' :: hexDigits := List.mem_cons.2 hc
      have unbracketed : ∀ c ∈ ':' :: hexDigits, c ≠ '[' ∧ c ≠ ']' :=
        List.all_iff_forall_prop.1 (by decide)
      obtain ⟨opening, closing⟩ := unbracketed c mem
      have ends : endsAuthority kind c = false := (stays_of_mem_hexDigits
        (List.mem_cons_of_mem _ (List.mem_cons_of_mem _ mem))).1.2 kind
      simp [takeHost, ends, opening, closing, ih inner]
  cases h with
  | name ne allowed => exact names fun c hc => (allowed c hc).1
  | brackets inner =>
    simp [takeHost, endsAuthority_eq_false, inBrackets inner]

/-! ### Ports -/

/-- Whether a URL of the scheme can have the port. -/
def IsPort (scheme : String) (n : Nat) : Prop :=
  n ≤ 65535 ∧ defaultPort? scheme ≠ some n

/-- The characters of a port and its colon. -/
def portChars (port : Option Nat) : List Char :=
  port.elim [] fun n => ':' :: Nat.toDigits 10 n

theorem digit_of_mem_toDigits (h : c ∈ Nat.toDigits 10 n) : c.isDigit = true :=
  Nat.isDigit_of_mem_toDigits (by decide) (by decide) h

theorem of_mem_portChars (h : c ∈ portChars port) : StaysInAuthority c ∧ c ≠ '@' := by
  cases port with
  | none => cases h
  | some n =>
    refine stays_of_mem_hexDigits (List.mem_cons_of_mem _ (List.mem_cons_of_mem _ ?_))
    exact List.mem_cons.2 <| (List.mem_cons.1 h).imp_right
      (mem_hexDigits_of_mem_toDigits (by decide) (by decide))

theorem readPort_toDigits (h : IsPort scheme n) (follows : FollowsAuthority rest) :
    readPort scheme (Nat.toDigits 10 n ++ rest) = .ok (some n, rest) := by
  have digits : ((Nat.toDigits 10 n ++ rest).takeWhile fun c => (Text.digitValue? c).isSome) =
      Nat.toDigits 10 n := by
    refine Text.takeWhile_append_of_head? ?_ fun c hc => ?_
    · exact fun c hc => Text.isSome_digitValue?_iff.2 (digit_of_mem_toDigits hc)
    · rcases follows c hc with rfl | rfl | rfl <;> decide
  have read : Text.digits? (Nat.toDigits 10 n) = some n :=
    Text.digits?_eq_some_iff.2 ⟨Nat.toDigits_ne_nil, fun _ => digit_of_mem_toDigits,
      (Nat.ofDigitChars_toDigits (by decide) (by decide)).symm⟩
  have ends : (rest.head?.any fun c => !(isAnySlash c || c == '?' || c == '#')) = false := by
    rw [Option.any_eq_false]
    intro c hc
    rcases follows c hc with rfl | rfl | rfl <;> decide
  simp only [readPort, digits, List.drop_left, ends, read]
  simp [h.1, h.2]

theorem readColonPort_portChars (h : ∀ n ∈ port, IsPort scheme n)
    (follows : FollowsAuthority rest) :
    readColonPort scheme (portChars port ++ rest) = .ok (port, rest) := by
  cases port with
  | none =>
    show readColonPort scheme rest = _
    unfold readColonPort
    split
    next => rcases follows ':' rfl with h | h | h <;> cases h
    next => rfl
  | some n => exact readPort_toDigits (h n rfl) follows

theorem takeHost_portChars (follows : FollowsAuthority rest) :
    takeHost kind false (portChars port ++ rest) = ([], portChars port ++ rest) := by
  cases port with
  | none =>
    cases rest with
    | nil => rfl
    | cons c rest => simp [portChars, takeHost, endsAuthority_of_follows follows kind]
  | some n => simp [portChars, takeHost]

theorem isPort_of_readPort (h : readPort scheme cs = .ok (port, rest)) :
    ∀ n ∈ port, IsPort scheme n := by
  unfold readPort at h
  dsimp only at h
  split_ifs at h
  split at h
  · obtain ⟨rfl, -⟩ := Prod.mk.inj (Except.ok.inj h)
    exact nofun
  · next n _ =>
    split_ifs at h with large default
    · obtain ⟨rfl, -⟩ := Prod.mk.inj (Except.ok.inj h)
      exact nofun
    · obtain ⟨rfl, -⟩ := Prod.mk.inj (Except.ok.inj h)
      rintro _ ⟨⟩
      exact ⟨by omega, default⟩

theorem isPort_of_readColonPort (h : readColonPort scheme cs = .ok (port, rest)) :
    ∀ n ∈ port, IsPort scheme n := by
  unfold readColonPort at h
  split at h
  · exact isPort_of_readPort h
  · obtain ⟨rfl, -⟩ := Prod.mk.inj (Except.ok.inj h)
    exact nofun

/-! ### Authorities -/

/-- The characters of a host. -/
def hostChars (host : Option Host) : List Char :=
  host.elim [] fun host => host.text.toList

theorem toList_text (a : Authority) : a.text.toList =
    (if a.userInfo = "" then [] else a.userInfo.toList ++ ['@']) ++
      (hostChars a.host ++ portChars a.port) := by
  have host : (a.host.elim "" Host.text).toList = hostChars a.host := by cases a.host <;> rfl
  have port : (a.port.elim "" fun n => ":" ++ toString n).toList = portChars a.port := by
    cases a.port with
    | none => rfl
    | some n => simp [portChars]
  rw [Authority.text, String.toList_append, String.toList_append, host, port, List.append_assoc]
  congr 1
  by_cases empty : a.userInfo = "" <;> simp [empty]

/-- Whether a scheme of the kind can have the host. -/
def SchemeKind.Allows [DomainNames] : SchemeKind → Host → Prop
  | .other, host => host.IsPlain
  | _, host => host.IsDomain

/-- Whether a URL of the scheme can have the authority. -/
structure IsAuthority [DomainNames] (scheme : String) (a : Authority) : Prop where
  user : IsUserInfo a.userInfo
  host : ∀ host ∈ a.host, (schemeKind scheme).Allows host
  /-- Without a host there is nothing else. -/
  bare : a.host = none → a.userInfo = "" ∧ a.port = none ∧ schemeKind scheme ≠ .special
  port : ∀ n ∈ a.port, IsPort scheme n
  /-- Files have hosts only, and the local one is none. -/
  file : schemeKind scheme = .file →
    a.userInfo = "" ∧ a.port = none ∧ a.host ≠ some (.name "localhost")

variable [DomainNames] [LawfulDomainNames]

theorem SchemeKind.Allows.isHostText (h : kind.Allows host) : IsHostText host.text.toList := by
  cases kind with
  | other => exact Host.IsPlain.isHostText h
  | file | special => exact Host.IsDomain.isHostText h

theorem IsAuthority.of_mem_host (h : IsAuthority scheme a)
    (mem : c ∈ hostChars a.host ++ portChars a.port) : StaysInAuthority c ∧ c ≠ '@' := by
  rcases List.mem_append.1 mem with mem | mem
  · obtain ⟨user, host, port⟩ := a
    cases host with
    | none => cases mem
    | some host => exact (h.host host rfl).isHostText.stays_of_mem mem
  · exact of_mem_portChars mem

theorem IsAuthority.stays_of_mem (h : IsAuthority scheme a) (mem : c ∈ a.text.toList) :
    StaysInAuthority c := by
  rw [toList_text, List.mem_append] at mem
  rcases mem with mem | mem
  · split_ifs at mem
    · cases mem
    · rcases List.mem_append.1 mem with mem | mem
      · exact h.user.stays_of_mem mem
      · obtain rfl := List.mem_singleton.1 mem
        exact ⟨by decide, fun kind => by cases kind <;> decide⟩
  · exact (h.of_mem_host mem).1

theorem IsAuthority.toList_text_ne_nil (h : IsAuthority scheme a) (host : a.host ≠ none) :
    a.text.toList ≠ [] := by
  obtain ⟨name, some⟩ := Option.ne_none_iff_exists'.1 host
  have ne := (h.host name some).isHostText.ne_nil
  simp [toList_text, hostChars, some, ne]

theorem userAndHost_text (h : IsAuthority scheme a) (follows : FollowsAuthority rest) :
    userAndHost kind (a.text.toList ++ rest) =
      .ok (a.userInfo, hostChars a.host ++ (portChars a.port ++ rest)) := by
  have mark : '@' ∉ hostChars a.host ++ portChars a.port :=
    fun mem => (h.of_mem_host mem).2 rfl
  simp only [userAndHost, takeWhile_authority (fun _ => h.stays_of_mem) follows kind,
    List.drop_left]
  by_cases empty : a.userInfo = ""
  · have text : a.text.toList = hostChars a.host ++ portChars a.port := by
      rw [toList_text, if_pos empty, List.nil_append]
    rw [text, Text.cutLast?_eq_none_iff.2 mark, empty, List.append_assoc]
  · have text : a.text.toList =
        a.userInfo.toList ++ '@' :: (hostChars a.host ++ portChars a.port) := by
      rw [toList_text, if_neg empty, List.append_assoc, List.singleton_append]
    have ne : a.userInfo.toList.isEmpty = false := by simpa using empty
    rw [text, Text.cutLast?_eq_some_iff.2 ⟨rfl, mark⟩]
    simp [ne, h.user.stays]

theorem takeHost_text (h : IsAuthority scheme a) (follows : FollowsAuthority rest) :
    takeHost kind false (hostChars a.host ++ (portChars a.port ++ rest)) =
      (hostChars a.host, portChars a.port ++ rest) := by
  obtain ⟨user, host, port⟩ := a
  cases host with
  | none => exact takeHost_portChars follows
  | some host => exact takeHost_append (h.host host rfl).isHostText (takeHost_portChars follows)

theorem readHost_text (h : IsAuthority scheme a) (noFile : schemeKind scheme ≠ .file)
    (follows : FollowsAuthority rest) :
    readHost (schemeKind scheme) a.userInfo (hostChars a.host) (portChars a.port ++ rest) =
      .ok a.host := by
  obtain ⟨user, host, port⟩ := a
  cases host with
  | none =>
    obtain ⟨rfl, rfl, noSpecial⟩ := h.bare rfl
    have colon : rest.head? ≠ some ':' := by
      intro head
      rcases follows ':' head with h | h | h <;> cases h
    cases kind : schemeKind scheme with
    | file => exact absurd kind noFile
    | special => exact absurd kind noSpecial
    | other => simp [readHost, SchemeKind.isSpecial, hostChars, portChars, colon]
  | some host =>
    have allowed := h.host host rfl
    have ne : host.text ≠ "" := by simpa using allowed.isHostText.ne_nil
    cases kind : schemeKind scheme with
    | file => exact absurd kind noFile
    | special =>
      rw [kind] at allowed
      simp [readHost, SchemeKind.isSpecial, hostChars, ne, domainHost_text allowed]
    | other =>
      rw [kind] at allowed
      simp [readHost, SchemeKind.isSpecial, hostChars, ne, plainHost_text allowed]

/-- An authority is read back from its text, and what follows it is left. -/
theorem readAuthority_text (h : IsAuthority scheme a) (noFile : schemeKind scheme ≠ .file)
    (follows : FollowsAuthority rest) :
    readAuthority scheme (a.text.toList ++ rest) = .ok (a, rest) := by
  simp only [readAuthority, userAndHost_text h follows, takeHost_text h follows,
    readHost_text h noFile follows, readColonPort_portChars h.port follows, bind, Except.bind,
    pure, Except.pure]

theorem of_readHost {host? : Option Host} (h : readHost kind user cs rest = .ok host?) :
    (∀ host ∈ host?, kind.Allows host) ∧
      (host? = none → user = "" ∧ rest.head? ≠ some ':' ∧ kind ≠ .special) := by
  unfold readHost at h
  split_ifs at h with special empty empty follows
  · cases read : domainHost cs with
    | error fault =>
      rw [read] at h
      cases h
    | ok host =>
      rw [read] at h
      obtain rfl := Except.ok.inj h
      refine ⟨?_, nofun⟩
      rintro _ ⟨⟩
      cases kind with
      | other => cases special
      | file | special => exact isDomain_of_domainHost read
  · obtain rfl := Except.ok.inj h
    refine ⟨nofun, fun _ => ?_⟩
    simp only [not_or, Bool.not_eq_true', Bool.not_eq_false, String.isEmpty_iff] at follows
    exact ⟨follows.2, follows.1, by rintro rfl; exact special rfl⟩
  · cases read : plainHost cs with
    | error fault =>
      rw [read] at h
      cases h
    | ok host =>
      rw [read] at h
      obtain rfl := Except.ok.inj h
      refine ⟨?_, nofun⟩
      rintro _ ⟨⟩
      cases kind with
      | other => exact isPlain_of_plainHost (by simpa using empty) read
      | file | special => exact absurd rfl special

/-- What is read as an authority is one. -/
theorem isAuthority_of_readAuthority (h : readAuthority scheme cs = .ok (a, rest))
    (noFile : schemeKind scheme ≠ .file) : IsAuthority scheme a := by
  simp only [readAuthority, bind_eq_ok_iff, Prod.exists] at h
  obtain ⟨user, behind, readUser, host, readHost, port, _, readPort, same⟩ := h
  obtain ⟨rfl, -⟩ := Prod.mk.inj (Except.ok.inj same)
  obtain ⟨allowed, bare⟩ := of_readHost readHost
  refine ⟨isUserInfo_of_userAndHost readUser, allowed, fun none => ?_,
    isPort_of_readColonPort readPort, fun file => absurd file noFile⟩
  obtain ⟨noUser, noColon, noSpecial⟩ := bare none
  refine ⟨noUser, ?_, noSpecial⟩
  unfold readColonPort at readPort
  split at readPort
  next colon => exact absurd (by rw [colon]; rfl) noColon
  next => exact (Prod.mk.inj (Except.ok.inj readPort)).1.symm

end RuntimeMux.Url
