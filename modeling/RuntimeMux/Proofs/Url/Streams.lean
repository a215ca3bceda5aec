import RuntimeMux.Proofs.Url.Absolute
import RuntimeMux.Proofs.Url.DomainNames
import RuntimeMux.Startup

/-!
# Addresses of streams

An address without a scheme is joined to the address that streams are at: the configured one, or
else the one of the node. What comes of it is absolute and has the scheme of that address, so that
it stays as it is when it is joined again; every other address stays as it is in the first place.
Joining is the one of URLs: an address that starts with a slash takes the place of the path of the
base, and is not put behind it. All of this holds for any lawful names of domains.
-/

namespace RuntimeMux.Stream

open Url

variable {s : Settings} {node : Option Host} {scheme : String} {base : Url} {c : Char}
  {words : List String}

/-! ### Bases -/

theorem isScheme_http : IsScheme "http" where
  head := by decide
  chars := List.all_iff_forall_prop.1 (by decide)

section

variable [DomainNames] [LawfulDomainNames]

theorem of_base {text : String} (accepted : Stream.base text = .ok base) :
    base.hasHost = true ∧ IsAbsolute base.scheme base := by
  unfold Stream.base at accepted
  split at accepted
  · cases accepted
  next url parsed =>
    split_ifs at accepted with host
    obtain rfl := Except.ok.inj accepted
    exact ⟨host, isAbsolute_of_parse parsed host⟩

theorem of_ofNode {host : Host} {port : UInt16} (accepted : ofNode host port = .ok base) :
    base.hasHost = true ∧ IsAbsolute base.scheme base := by
  unfold ofNode at accepted
  split at accepted
  · cases accepted
  next url parsed =>
    obtain rfl := Except.ok.inj accepted
    rw [String.append_assoc, String.append_assoc] at parsed
    obtain ⟨rest, chars⟩ := exists_cleared_append (by decide : "http://" ≠ "")
      (List.all_iff_forall_prop.1 (by decide)) (host.text ++ (":" ++ toString port))
    have read := scheme?_append isScheme_http ('/' :: '/' :: rest)
    obtain ⟨isAbsolute, hasHost⟩ :=
      isAbsolute_of_parse_special (chars ▸ read) (by decide) parsed
    exact ⟨hasHost, isAbsolute.scheme_eq ▸ isAbsolute⟩

/-- What streams are at is absolute and has a host, be it configured or the address of the node. -/
theorem of_streamBase (accepted : s.streamBase node = .ok base) :
    base.hasHost = true ∧ IsAbsolute base.scheme base := by
  unfold Settings.streamBase Settings.streamBase? at accepted
  cases configured : s.streamUrl with
  | some text =>
    rw [configured] at accepted
    exact of_base accepted
  | none =>
    rw [configured] at accepted
    cases node with
    | some host => exact of_ofNode accepted
    | none => cases accepted

end

/-! ### Stable addresses -/

section

variable [DomainNames]

/-- An address stays as it is unless it lacks a base and there is something to join. -/
theorem fix_eq_self {address : String} (h : address = "" ∨ parse address ≠ .error .noBase) :
    fix base address = address := by
  unfold fix
  split
  next noBase =>
    rcases h with rfl | based
    · rfl
    · exact absurd noBase based
  next => rfl

/-- An address that lacks a base is joined to the base. -/
theorem fix_of_join_eq_ok {address : String} {url : Url} (ne : address ≠ "")
    (noBase : parse address = .error .noBase) (joined : base.join address = .ok url) :
    fix base address = url.text := by
  simp [fix, noBase, ne, joined]

/-- What cannot be joined stays as it is. -/
theorem fix_of_join_eq_error {address : String} {fault : Url.Fault} (ne : address ≠ "")
    (noBase : parse address = .error .noBase) (failed : base.join address = .error fault) :
    fix base address = address := by
  simp [fix, noBase, ne, failed]

variable [LawfulDomainNames]

/-- An address that lacks a base becomes an absolute URL with the scheme of the base, or stays as it
is when it cannot be joined. -/
theorem fix_of_noBase (accepted : s.streamBase node = .ok base) {address : String}
    (ne : address ≠ "") (noBase : parse address = .error .noBase) :
    (∃ url, base.join address = .ok url ∧ fix base address = url.text ∧
      parse (fix base address) = .ok url.reread ∧ url.reread.scheme = base.scheme) ∨
    (∃ fault, base.join address = .error fault) ∧ fix base address = address := by
  cases joined : base.join address with
  | error fault => exact .inr ⟨⟨fault, rfl⟩, fix_of_join_eq_error ne noBase joined⟩
  | ok url =>
    have fixed : fix base address = url.text := fix_of_join_eq_ok ne noBase joined
    have isAbsolute : IsAbsolute base.scheme url :=
      (of_streamBase accepted).2.join (parse_eq_noBase_iff.1 noBase) joined
    exact .inl ⟨url, rfl, fixed, fixed ▸ parse_text isAbsolute,
      (reread_scheme url).trans isAbsolute.scheme_eq⟩

theorem fix_fix (accepted : s.streamBase node = .ok base) (address : String) :
    fix base (fix base address) = fix base address := by
  by_cases lacks : address ≠ "" ∧ parse address = .error .noBase
  · rcases fix_of_noBase accepted lacks.1 lacks.2 with ⟨url, -, -, parsed, -⟩ | ⟨-, same⟩
    · exact fix_eq_self (.inr (by rw [parsed]; nofun))
    · rw [same, same]
  · have same : fix base address = address := by
      refine fix_eq_self ?_
      by_contra neither
      exact lacks (by simpa [not_or] using neither)
    rw [same, same]

/-- Addresses that are empty, complete or faulty stay as they are. Another one becomes an absolute
URL with the scheme of the base, or stays as it is when it cannot be joined. In no case is there
anything left to fix. What it becomes is read as the URL that was joined, which only a drive parts
from its host. -/
theorem fix_stable (accepted : s.streamBase node = .ok base) (address : String) :
    (address = "" ∨ (∃ url, parse address = .ok url) ∨
        (∃ fault, parse address = .error fault ∧ fault ≠ .noBase) → fix base address = address) ∧
      (address ≠ "" → parse address = .error .noBase →
        (∃ url, base.join address = .ok url ∧ fix base address = url.text ∧
          parse (fix base address) = .ok url.reread ∧ url.reread.scheme = base.scheme) ∨
        (∃ fault, base.join address = .error fault) ∧ fix base address = address) ∧
      fix base (fix base address) = fix base address := by
  refine ⟨fun h => fix_eq_self ?_, fix_of_noBase accepted, fix_fix accepted address⟩
  rcases h with empty | ⟨url, parsed⟩ | ⟨fault, parsed, other⟩
  · exact .inl empty
  · exact .inr (by rw [parsed]; nofun)
  · exact .inr (by rw [parsed]; exact fun same => other (Except.error.inj same))

end

/-- Settings with an address for streams. -/
def settingsAt (address : String) : Settings where
  listen := "/run/proxy.sock"
  connect := "/run/primary.sock"
  streamPort := 11250
  streamUrl := some address
  connectionTimeout := 30
  pollInterval := 500
  pollAttempts := none
  logging := ⟨Settings.defaultLevel, none, none⟩

/-- An address for streams that has a path. -/
def nodeWithPath : Url :=
  ⟨"http", some ⟨"", some (.name "node"), some 11250⟩, .segments ["stream"], none, none⟩

theorem streamBase_nodeWithPath :
    (settingsAt "http://node:11250/stream").streamBase none = .ok nodeWithPath := by
  decide +kernel

/-- An address for streams on a drive of a host. -/
def driveOnHost : Url :=
  ⟨"file", some ⟨"", some (.name "host"), none⟩, .segments ["C:", "x"], none, none⟩

theorem streamBase_driveOnHost :
    (settingsAt "file://host//C:/x").streamBase none = .ok driveOnHost := by
  decide +kernel

/-- An address without a scheme and with a blank in it is joined once and for all, also beside a drive,
where it is read without the host. -/
theorem fix_stable_joined :
    fix nodeWithPath "../exec/a b" = "http://node:11250/exec/a%20b" ∧
      fix nodeWithPath (fix nodeWithPath "../exec/a b") = fix nodeWithPath "../exec/a b" ∧
      fix driveOnHost "a b" = "file://host/C:/a%20b" ∧
      fix driveOnHost (fix driveOnHost "a b") = fix driveOnHost "a b" :=
  ⟨by decide +kernel, (fix_stable streamBase_nodeWithPath "../exec/a b").2.2,
    by decide +kernel, (fix_stable streamBase_driveOnHost "a b").2.2⟩

/-! ### Plain addresses -/

/-- Whether a text is a word of letters and digits, hyphens and underscores. -/
def IsWord (word : String) : Prop :=
  word ≠ "" ∧ ∀ c ∈ word.toList, c.isAlphanum = true ∨ c = '-' ∨ c = '_'

/-- Words with a slash in front of each. -/
def address (words : List String) : String :=
  String.join (words.map fun word => "/" ++ word)

/-- The text without a slash at its end. -/
def withoutSlash (text : String) : String :=
  if text.toList.getLast? = some '/' then .ofList text.toList.dropLast else text

/-- The characters of words have no other meaning in paths. -/
theorem plain_of_isWord {word : String} (h : IsWord word) (mem : c ∈ word.toList) :
    encodedInPath c = false ∧ isAnySlash c = false ∧ c.toLower ≠ '.' ∧ c.toLower ≠ '%' :=
  plain_of_isAlphanum (h.2 c mem)

theorem isSegment_of_isWord {kind : SchemeKind} {word : String} (h : IsWord word) :
    IsSegment kind word := by
  obtain ⟨c, cs, chars⟩ := List.exists_cons_of_ne_nil (show word.toList ≠ [] by simpa using h.1)
  obtain ⟨-, -, dot, percent⟩ := plain_of_isWord h (chars ▸ List.mem_cons_self : c ∈ word.toList)
  obtain ⟨dot, doubleDot⟩ := not_dot_of_head dot percent cs
  refine ⟨fun c mem => ?_, chars ▸ dot, chars ▸ doubleDot⟩
  obtain ⟨encoded, slash, -⟩ := plain_of_isWord h mem
  exact ⟨encoded, isSlash_of_isAnySlash slash⟩

theorem address_eq_text (words : List String) : address words = (UrlPath.segments words).text :=
  rfl

theorem isPath_of_isWord {kind : SchemeKind} (ne : words ≠ []) (h : ∀ w ∈ words, IsWord w) :
    IsPath kind words where
  segments w hw := isSegment_of_isWord (h w hw)
  ne_nil _ := ne
  tidy _ head := absurd rfl (h "" (List.mem_of_mem_head? head)).1

/-- What a word stands behind is no slash. -/
theorem head?_intercalate (ne : words ≠ []) (h : ∀ w ∈ words, IsWord w) :
    (['/'].intercalate (words.map String.toList)).head?.any isAnySlash = false := by
  obtain ⟨word, rest, rfl⟩ := List.exists_cons_of_ne_nil ne
  have isWord := h word List.mem_cons_self
  obtain ⟨c, cs, chars⟩ := List.exists_cons_of_ne_nil
    (show word.toList ≠ [] by simpa using isWord.1)
  have slash := (plain_of_isWord isWord (chars ▸ List.mem_cons_self : c ∈ word.toList)).2.1
  cases rest with
  | nil => simpa [chars] using slash
  | cons next rest => simpa [chars] using slash

/-- Words start with no drive. -/
theorem startsWithDrive_words (h : ∀ w ∈ words, IsWord w) :
    startsWithDrive (['/'].intercalate (words.map String.toList)) = false := by
  have plain : ∀ c ∈ ['/'].intercalate (words.map String.toList), c ≠ ':' ∧ c ≠ '|' := by
    intro c hc
    rcases Text.of_mem_intercalate hc with rfl | ⟨p, hp, hc⟩
    · decide
    · obtain ⟨w, hw, rfl⟩ := List.mem_map.1 hp
      refine ⟨?_, ?_⟩
      all_goals
        rintro rfl
        exact absurd ((h w hw).2 _ hc) (by decide)
  unfold startsWithDrive
  split
  next c d rest chars =>
    obtain ⟨colon, bar⟩ := plain d (by rw [chars]; simp)
    simp [isDrive, colon, bar]
  next => rfl

/-- The drive that the path of a file starts with. -/
def drive? (base : Url) : Option String :=
  if base.scheme = "file" then base.path.toSegments.head?.filter isDriveName else none

/-- What stands for the root of a base: the drive of a file, and else the scheme and the
authority. -/
def rootText (base : Url) : String :=
  (drive? base).elim base.siteText fun drive => "file:///" ++ drive

/-- Words beneath the root of a base. -/
def beneath (base : Url) (words : List String) : Url :=
  match drive? base with
  | some drive => ⟨"file", some noHost, .segments (drive :: words), none, none⟩
  | none => ⟨base.scheme, base.authority, .segments words, none, none⟩

theorem text_beneath (base : Url) (words : List String) :
    (beneath base words).text = rootText base ++ address words := by
  unfold beneath rootText
  cases drive? base with
  | some drive =>
    rw [← String.toList_inj, toList_text_url]
    simp [behindChars, tailChars, siteText, noHost, Authority.text, address, UrlPath.text]
  | none =>
    rw [← String.toList_inj, toList_text_url]
    simp [behindChars, tailChars, siteText, address_eq_text]

theorem withPath_words {authority : Option Authority} {place : List String} (ne : words ≠ [])
    (h : ∀ w ∈ words, IsWord w) :
    withPath scheme authority place (['/'].intercalate (words.map String.toList)) =
      ⟨scheme, authority, .segments (tidied (schemeKind scheme) (place ++ words)), none, none⟩ := by
  have isPath : IsPath (schemeKind scheme) words := isPath_of_isWord ne h
  have noDrive : ∀ w ∈ words.head?, isDrive w.toList = false := by
    intro w hw
    rw [← Bool.not_eq_true, isDrive_iff]
    rintro ⟨c, d, chars, -, mark⟩
    have word := (h w (List.mem_of_mem_head? hw)).2 d (by rw [chars]; simp)
    rcases mark with rfl | rfl <;> exact absurd word (by decide)
  have behind : ['/'].intercalate (words.map String.toList) =
      ['/'].intercalate (words.map String.toList) ++ tailChars none none := by simp [tailChars]
  rw [behind, withPath_intercalate isPath.segments ne (fun _ _ => noDrive) (isTail_none _)]

/-! ### What there is of the base -/

/-- Without a slash at the end there is still what ends in none. -/
theorem exists_withoutSlash {text site : String} {behind : List Char}
    (whole : text.toList = site.toList ++ behind) (noSlash : site.toList.getLast? ≠ some '/') :
    ∃ rest, (withoutSlash text).toList = site.toList ++ rest := by
  unfold withoutSlash
  split_ifs with slash
  · rcases List.eq_nil_or_concat behind with rfl | ⟨rest, last, rfl⟩
    · rw [whole, List.append_nil] at slash
      exact absurd slash noSlash
    · rw [String.toList_ofList, whole, List.concat_eq_append, ← List.append_assoc,
        List.dropLast_concat]
      exact ⟨rest, rfl⟩
  · exact ⟨behind, whole⟩

theorem withoutSlash_eq_iff {text site : String} {behind : List Char}
    (whole : text.toList = site.toList ++ behind) (noSlash : site.toList.getLast? ≠ some '/') :
    withoutSlash text = site ↔ behind = [] ∨ behind = ['/'] := by
  unfold withoutSlash
  split_ifs with slash
  · have ends : text.toList.dropLast ++ ['/'] = site.toList ++ behind := by
      rw [← whole]
      exact List.dropLast_append_getLast? '/' slash
    rw [← String.toList_inj, String.toList_ofList]
    constructor
    · intro same
      rw [same] at ends
      exact .inr (List.append_cancel_left ends).symm
    · rintro (rfl | rfl)
      · rw [whole, List.append_nil] at slash
        exact absurd slash noSlash
      · exact List.append_cancel_right ends
  · rw [← String.toList_inj, whole]
    constructor
    · exact fun same => .inl (List.append_right_eq_self.1 same)
    · rintro (rfl | rfl)
      · exact List.append_nil _
      · exact absurd (by simp [whole]) slash

theorem tailChars_eq_nil_iff {query fragment : Option String} :
    tailChars query fragment = [] ↔ query = none ∧ fragment = none := by
  cases query <;> cases fragment <;> simp [tailChars]

theorem intercalate_eq_nil_iff {word : String} :
    ['/'].intercalate ((word :: words).map String.toList) = [] ↔ word = "" ∧ words = [] := by
  cases words <;> simp

/-! ### Words behind a base -/

section

variable [DomainNames]

/-- Nothing or a slash stands behind the authority of a base without a path, query and fragment. -/
theorem behindChars_iff (isAbsolute : IsAbsolute scheme base) :
    base.behindChars = [] ∨ base.behindChars = ['/'] ↔
      (base.path = .segments [] ∨ base.path = .segments [""]) ∧ base.query = none ∧
        base.fragment = none := by
  obtain ⟨path, segments⟩ : ∃ path, base.path = .segments path := by
    cases isAbsolute
    exact ⟨_, rfl⟩
  rw [behindChars, segments, ← tailChars_eq_nil_iff]
  cases path with
  | nil =>
    have noSlash : tailChars base.query base.fragment ≠ ['/'] := by
      intro slash
      have mark := @of_head?_tailChars '/' base.query base.fragment (by rw [slash]; rfl)
      exact absurd mark (by decide)
    simp [UrlPath.text, noSlash]
  | cons word rest =>
    have whole : '/' :: ['/'].intercalate ((word :: rest).map String.toList) ++
        tailChars base.query base.fragment = ['/'] ↔
        (word = "" ∧ rest = []) ∧ tailChars base.query base.fragment = [] := by
      rw [List.cons_append, List.cons.injEq, List.append_eq_nil_iff, intercalate_eq_nil_iff]
      exact and_iff_right rfl
    rw [toList_text_cons, whole]
    simp

/-- An address of words is no URL on its own. -/
theorem parse_address (ne : words ≠ []) (h : ∀ w ∈ words, IsWord w) :
    cleared (address words) = '/' :: ['/'].intercalate (words.map String.toList) ∧
      parse (address words) = .error .noBase := by
  obtain ⟨word, rest, rfl⟩ := List.exists_cons_of_ne_nil ne
  have visible : ∀ c ∈ (address (word :: rest)).toList, 0x20 < c.toNat :=
    fun c mem => visible_of_mem_path (isPath_of_isWord ne h : IsPath .other _) mem
  have chars : cleared (address (word :: rest)) =
      '/' :: ['/'].intercalate ((word :: rest).map String.toList) := by
    rw [cleared_eq_self visible, address_eq_text, toList_text_cons]
  have noLetter : ('/').isAlpha = false := by decide
  refine ⟨chars, ?_⟩
  unfold parse
  rw [chars]
  simp [scheme?, noLetter]

/-- A single slash leads to the root of the base. -/
theorem joinOther_slash (base : Url) {rest : List Char}
    (single : rest.head?.any isAnySlash = false) :
    joinOther base ('/' :: rest) = .ok (withPath base.scheme base.authority [] rest) := by
  unfold joinOther
  split
  next same => cases same
  next same => cases same
  next same => cases same
  next same =>
    obtain ⟨-, rfl⟩ := List.cons.inj same
    exact absurd single (by simp [isAnySlash])
  next same =>
    obtain ⟨rfl, rfl⟩ := List.cons.inj same
    simp [isAnySlash, single]

/-- Words are joined to the root of a file. -/
theorem readFile_words (isAbsolute : IsAbsolute "file" base) (ne : words ≠ [])
    (h : ∀ w ∈ words, IsWord w) :
    readFile (some base) ('/' :: ['/'].intercalate (words.map String.toList)) =
      .ok (beneath base words) := by
  have single : (('/' :: ['/'].intercalate (words.map String.toList)).takeWhile isAnySlash).length =
      1 := by
    have head := head?_intercalate ne h
    cases chars : ['/'].intercalate (words.map String.toList) with
    | nil => rfl
    | cons c cs =>
      rw [chars] at head
      simpa [isAnySlash] using head
  have kind : schemeKind "file" = .file := by decide
  have tidy : tidied .file words = words := (isPath_of_isWord ne h).tidied_eq_self
  have below : readFile (some base) ('/' :: ['/'].intercalate (words.map String.toList)) =
      .ok (fileBelow (some base) (['/'].intercalate (words.map String.toList))) := by
    simp only [readFile, single, List.tail_cons]
  obtain ⟨a, authority, -⟩ := isAbsolute.exists_authority
  rw [below, fileBelow, startsWithDrive_words h, beneath, drive?, if_pos isAbsolute.scheme_eq]
  simp only [Bool.not_false, Option.filter_some, if_true, Option.bind_some, authority,
    Option.getD_some, isAbsolute.scheme_eq]
  cases first : base.path.toSegments.head?.filter isDriveName with
  | some drive =>
    have empty : drive ≠ "" := by
      rintro rfl
      exact absurd (Option.mem_filter_iff.1 first).2 (by decide)
    simp only [withPath_words ne h, kind]
    simp [tidied, empty]
  | none => simp only [withPath_words ne h, kind, List.nil_append, tidy]

/-- Words are joined to the root of a base. -/
theorem join_address (isAbsolute : IsAbsolute scheme base) (ne : words ≠ [])
    (h : ∀ w ∈ words, IsWord w) : base.join (address words) = .ok (beneath base words) := by
  obtain ⟨chars, noBase⟩ := parse_address ne h
  rw [isAbsolute.join_eq (parse_eq_noBase_iff.1 noBase), chars, joinRest, isAbsolute.scheme_eq]
  split_ifs with file
  · subst file
    exact readFile_words isAbsolute ne h
  · have other : schemeKind scheme ≠ .file := mt schemeKind_eq_file_iff.1 file
    have tidy : tidied (schemeKind scheme) words = words :=
      (isPath_of_isWord ne h).tidied_eq_self
    rw [joinOther_slash base (head?_intercalate ne h), beneath, drive?, isAbsolute.scheme_eq,
      if_neg file, withPath_words ne h, List.nil_append, tidy]

/-- Words are put behind the root of the base. -/
theorem fix_address (isAbsolute : IsAbsolute scheme base) (ne : words ≠ [])
    (h : ∀ w ∈ words, IsWord w) : fix base (address words) = rootText base ++ address words := by
  obtain ⟨chars, noBase⟩ := parse_address ne h
  have nonempty : address words ≠ "" := by
    intro empty
    rw [empty] at chars
    cases chars
  rw [fix_of_join_eq_ok nonempty noBase (join_address isAbsolute ne h), text_beneath]

variable [LawfulDomainNames]

/-- The authority of a base with a host starts with a character that is no slash. -/
theorem exists_authority_cons (isAbsolute : IsAbsolute scheme base) (host : base.hasHost = true) :
    ∃ c cs, c ≠ '/' ∧ (∀ d ∈ c :: cs, d ≠ '/') ∧
      base.siteText.toList = base.scheme.toList ++ [':', '/', '/'] ++ c :: cs := by
  obtain ⟨a, authority, isAuthority⟩ := isAbsolute.exists_authority
  have ne : a.text.toList ≠ [] := by
    refine isAuthority.toList_text_ne_nil fun none => ?_
    simp [hasHost, authority, none] at host
  have slash : ∀ d ∈ a.text.toList, d ≠ '/' := by
    rintro d mem rfl
    exact absurd ((isAuthority.stays_of_mem mem).2 .other) (by decide)
  obtain ⟨c, cs, chars⟩ := List.exists_cons_of_ne_nil ne
  rw [chars] at slash
  exact ⟨c, cs, slash c List.mem_cons_self, slash, by simp [siteText, authority, chars]⟩

/-- A base ends in no slash before its path starts. -/
theorem getLast?_siteText (isAbsolute : IsAbsolute scheme base) (host : base.hasHost = true) :
    base.siteText.toList.getLast? ≠ some '/' := by
  obtain ⟨c, cs, -, noSlash, site⟩ := exists_authority_cons isAbsolute host
  rw [site, List.getLast?_append_of_ne_nil _ (List.cons_ne_nil c cs)]
  exact fun last => noSlash '/' (List.mem_of_getLast? last) rfl

/-- The whole base starts with its host, and so with no drive, even without a slash at the end. -/
theorem drive_ne_withoutSlash (isAbsolute : IsAbsolute "file" base) (host : base.hasHost = true)
    (drive : String) : "file:///" ++ drive ≠ withoutSlash base.text := by
  obtain ⟨c, cs, slash, -, site⟩ := exists_authority_cons isAbsolute host
  obtain ⟨rest, behind⟩ := exists_withoutSlash (toList_text_url base)
    (getLast?_siteText isAbsolute host)
  intro same
  rw [← String.toList_inj, behind, site, isAbsolute.scheme_eq, String.toList_append] at same
  have first : '/' :: drive.toList = c :: (cs ++ rest) := by
    simpa using same
  exact slash (List.cons.inj first).1.symm

/-- Words are put behind the root of the base: the drive of a file, and else the scheme and the
authority. This is what stands behind the whole base, without a slash at the end, if it has no path,
no query and no fragment, and only then. -/
theorem fix_words (accepted : s.streamBase node = .ok base) (ne : words ≠ [])
    (h : ∀ w ∈ words, IsWord w) :
    fix base (address words) = rootText base ++ address words ∧
      (fix base (address words) = withoutSlash base.text ++ address words ↔
        (base.path = .segments [] ∨ base.path = .segments [""]) ∧ base.query = none ∧
          base.fragment = none) := by
  obtain ⟨host, isAbsolute⟩ := of_streamBase accepted
  have fixed : fix base (address words) = rootText base ++ address words :=
    fix_address isAbsolute ne h
  refine ⟨fixed, ?_⟩
  rw [fixed, String.append_left_inj, rootText]
  cases on : drive? base with
  | none =>
    rw [Option.elim_none, eq_comm, withoutSlash_eq_iff (toList_text_url base)
      (getLast?_siteText isAbsolute host), behindChars_iff isAbsolute]
  | some drive =>
    rw [drive?, Option.ite_none_right_eq_some] at on
    obtain ⟨file, on⟩ := on
    obtain ⟨head, name⟩ := Option.mem_filter_iff.1 on
    rw [Option.elim_some]
    refine iff_of_false (drive_ne_withoutSlash (file ▸ isAbsolute) host drive) ?_
    rintro ⟨none | root, -⟩
    · simp [none, UrlPath.toSegments] at head
    · simp only [root, UrlPath.toSegments, List.head?_cons, Option.mem_some] at head
      subst head
      exact absurd name (by decide)

end

theorem isWord_exec : ∀ w ∈ ["exec", "abc"], IsWord w := by
  simp only [List.forall_mem_cons]
  exact ⟨⟨by decide, List.all_iff_forall_prop.1 (by decide)⟩,
    ⟨by decide, List.all_iff_forall_prop.1 (by decide)⟩, List.forall_mem_nil _⟩

/-- A base with a path: the path goes, whatever the words are. Of a file the drive stays, and the host
goes instead. -/
theorem fix_words_roots :
    (∀ w ∈ ["exec", "abc"], IsWord w) ∧
      fix nodeWithPath (address ["exec", "abc"]) = rootText nodeWithPath ++ address ["exec", "abc"] ∧
      rootText nodeWithPath = "http://node:11250" ∧
      fix driveOnHost (address ["exec", "abc"]) = rootText driveOnHost ++ address ["exec", "abc"] ∧
      rootText driveOnHost = "file:///C:" :=
  ⟨isWord_exec, (fix_words streamBase_nodeWithPath (List.cons_ne_nil _ _) isWord_exec).1,
    by decide +kernel, (fix_words streamBase_driveOnHost (List.cons_ne_nil _ _) isWord_exec).1,
    by decide +kernel⟩

/-- A slash at the front leads to the root: with the path of a base before it, the address would be
`http://node:11250/stream/exec/abc`. -/
theorem not_fix_eq_append :
    ¬∀ (s : Settings) (node : Option Host) (base : Url) (words : List String),
    s.streamBase node = .ok base → words ≠ [] → (∀ w ∈ words, IsWord w) →
      fix base (address words) = withoutSlash base.text ++ address words := by
  intro appended
  have same := appended _ _ _ ["exec", "abc"] streamBase_nodeWithPath
    (List.cons_ne_nil _ _) isWord_exec
  exact absurd same (by decide +kernel)

end RuntimeMux.Stream
