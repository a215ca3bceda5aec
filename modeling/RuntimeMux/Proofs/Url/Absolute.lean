import RuntimeMux.Proofs.Url.Authorities
import RuntimeMux.Proofs.Url.Paths
import RuntimeMux.Proofs.Url.Schemes

/-!
# Absolute URLs

A URL with an authority is read back from its text: `parse_text`. `IsAbsolute` says which URLs these
are, and every way to read or to join gives such a URL if there is an authority at all. So what is
written of a URL that was read is stable, however oddly the text was written that it was read from.
Only a file on a host may have come to a drive, and is then read back without the host: `reread`.
-/

namespace RuntimeMux.Url

variable {scheme : String} {a : Authority} {path place : List String}
  {query fragment : Option String} {u base : Url} {c d : Char} {cs rest : List Char}
  {host : Host}

/-! ### Texts -/

/-- The text of an absolute URL up to the end of the authority. -/
def siteText (u : Url) : String :=
  u.scheme ++ ":" ++ (u.authority.elim "" fun a => "//" ++ a.text)

/-- The characters behind the authority. -/
def behindChars (u : Url) : List Char :=
  u.path.text.toList ++ tailChars u.query u.fragment

theorem toList_text_url (u : Url) : u.text.toList = u.siteText.toList ++ u.behindChars := by
  obtain ⟨scheme, authority, path, query, fragment⟩ := u
  cases query <;> cases fragment <;> simp [text, siteText, behindChars, tailChars]

theorem followsAuthority_behind (path : List String) (query fragment : Option String) :
    FollowsAuthority ((UrlPath.segments path).text.toList ++ tailChars query fragment) := by
  intro c hc
  cases path with
  | nil => exact .inr (of_head?_tailChars (by simpa [UrlPath.text] using hc))
  | cons s rest =>
    rw [toList_text_cons] at hc
    exact .inl (Option.some.inj hc).symm

theorem visible_of_mem_tailChars {kind : SchemeKind} (h : IsTail kind query fragment)
    (mem : c ∈ tailChars query fragment) : 0x20 < c.toNat := by
  rcases List.mem_append.1 mem with mem | mem
  · cases query with
    | none => cases mem
    | some q =>
      rcases List.mem_cons.1 mem with rfl | mem
      · decide
      · have plain := h.query q rfl c mem
        simp only [encodedInQuery, List.contains_eq_mem, Bool.or_eq_false_iff,
          decide_eq_false_iff_not, List.mem_cons, not_or] at plain
        exact visible_of_plain plain.1.1 plain.1.2.1
  · cases fragment with
    | none => cases mem
    | some f =>
      rcases List.mem_cons.1 mem with rfl | mem
      · decide
      · have plain := h.fragment f rfl c mem
        simp only [encodedInFragment, List.contains_eq_mem, Bool.or_eq_false_iff,
          decide_eq_false_iff_not, List.mem_cons, not_or] at plain
        exact visible_of_plain plain.1 plain.2.1

theorem visible_of_mem_path {kind : SchemeKind} (h : IsPath kind path)
    (mem : c ∈ (UrlPath.segments path).text.toList) : 0x20 < c.toNat := by
  cases path with
  | nil => cases mem
  | cons s rest =>
    rw [toList_text_cons] at mem
    rcases List.mem_cons.1 mem with rfl | mem
    · decide
    · rcases Text.of_mem_intercalate mem with rfl | ⟨p, hp, hc⟩
      · decide
      · obtain ⟨s, hs, rfl⟩ := List.mem_map.1 hp
        exact ((h.segments s hs).plain hc).1

theorem isDrive_of_isHostText (h : IsHostText cs) : isDrive cs = false := by
  unfold isDrive
  split
  next c d =>
    rw [Bool.and_eq_false_iff]
    generalize whole : [c, d] = text at h
    cases h with
    | name ne allowed =>
      subst whole
      have differs {e : Char} (forbidden : isForbiddenInHost e = true) : d ≠ e :=
        ne_of_forbidden forbidden (allowed d (by simp)).1
      have colon : d ≠ ':' := differs (by decide)
      have bar : d ≠ '|' := differs (by decide)
      exact .inr (by simp [colon, bar])
    | brackets inner =>
      obtain ⟨rfl, -⟩ := List.cons.inj whole
      exact .inl (by decide)
  next => rfl

/-! ### Reading back -/

/-- What the text of an absolute URL is read as: the URL itself, but for a file on a host that came to
a drive, which goes without the host then. -/
def reread (u : Url) : Url :=
  match u.path with
  | .segments (s :: rest) =>
    if u.scheme = "file" ∧ u.hasHost ∧ isDrive s.toList then
      { u with authority := some noHost, path := .segments (segmentText .file [] s.toList :: rest) }
    else u
  | _ => u

@[simp] theorem reread_scheme (u : Url) : u.reread.scheme = u.scheme := by
  unfold reread
  split
  · split_ifs <;> rfl
  · rfl

theorem reread_eq_self (h : u.scheme = "file" → u.hasHost = true →
    ∀ s ∈ u.path.toSegments.head?, isDrive s.toList = false) : u.reread = u := by
  unfold reread
  split
  next s rest path =>
    refine if_neg ?_
    rintro ⟨file, host, drive⟩
    exact Bool.noConfusion ((h file host s (by simp [path, UrlPath.toSegments])).symm.trans drive)
  next => rfl

/-- A path, a query and a fragment are read back behind an authority. -/
theorem withRootPath_text (noFile : schemeKind scheme ≠ .file)
    (isPath : IsPath (schemeKind scheme) path)
    (isTail : IsTail (schemeKind scheme) query fragment) :
    withRootPath scheme a ((UrlPath.segments path).text.toList ++ tailChars query fragment) =
      ⟨scheme, some a, .segments path, query, fragment⟩ := by
  cases path with
  | nil =>
    have other : schemeKind scheme = .other := by
      by_contra kind
      exact isPath.ne_nil kind rfl
    have mark : (tailChars query fragment).head?.all fun c => decide (c = '?' ∨ c = '#') := by
      rw [Option.all_eq_true]
      exact fun c hc => decide_eq_true (of_head?_tailChars hc)
    rw [withRootPath]
    simp only [UrlPath.text, List.map_nil, String.join_nil, String.toList_empty, List.nil_append]
    rw [if_pos ⟨by simp [other, SchemeKind.isSpecial], mark⟩]
    exact withTail_tailChars isTail
  | cons s rest =>
    rw [toList_text_cons, List.cons_append, withRootPath]
    have slash : isSlash (schemeKind scheme) '/' = true := by simp [isSlash]
    rw [if_neg (by simp), belowRoot, if_pos slash]
    rw [withPath_intercalate isPath.segments (List.cons_ne_nil s rest)
      (fun file => absurd file noFile) isTail, List.nil_append, isPath.tidied_eq_self]

theorem tidied_empty_cons (path : List String) : tidied .file ("" :: path) = tidied .file path := by
  simp [tidied]

/-- The path of a file without a host is read back. -/
theorem withPath_text (isPath : IsPath .file path) (isTail : IsTail .file query fragment) :
    withPath "file" (some noHost) []
        ((UrlPath.segments path).text.toList ++ tailChars query fragment) =
      ⟨"file", some noHost, .segments path, query, fragment⟩ := by
  have segments : ∀ s ∈ "" :: path, IsSegment .file s :=
    List.forall_mem_cons.2 ⟨isSegment_empty _, isPath.segments⟩
  -- The slash at the front is one behind an empty segment.
  have chars : (UrlPath.segments path).text.toList =
      ['/'].intercalate (("" :: path).map String.toList) := by
    cases path with
    | nil => exact absurd rfl (isPath.ne_nil (by decide))
    | cons s rest =>
      rw [toList_text_cons]
      simp
  have kind : schemeKind "file" = .file := by decide
  rw [chars, withPath_intercalate (kind.symm ▸ segments) (List.cons_ne_nil _ _) (fun _ _ s head => ?_)
    (kind.symm ▸ isTail), kind, List.nil_append, tidied_empty_cons, isPath.tidied_eq_self]
  obtain rfl := Option.some.inj head
  decide

theorem isDriveName_segmentText {s : String} (h : IsSegment .file s) :
    isDriveName (segmentText .file [] s.toList) = isDrive s.toList := by
  by_cases drive : isDrive s.toList = true
  · obtain ⟨c, d, chars, letter, mark⟩ := isDrive_iff.1 drive
    rw [drive, chars, segmentText_drive letter mark]
    simp [isDriveName, isDrive, letter]
  · rw [Bool.not_eq_true] at drive
    rw [h.segmentText_eq fun _ _ => drive, isDriveName, drive, Bool.false_and]

/-- The path of a file on a host is read back, unless it leads to a drive. -/
theorem fileOn_text (isPath : IsPath .file path) (isTail : IsTail .file query fragment) :
    fileOn host ((UrlPath.segments path).text.toList ++ tailChars query fragment) =
      reread ⟨"file", some ⟨"", some host, none⟩, .segments path, query, fragment⟩ := by
  cases path with
  | nil => exact absurd rfl (isPath.ne_nil (by decide))
  | cons s rest =>
    obtain ⟨hs, hrest⟩ := List.forall_mem_cons.1 isPath.segments
    have walked : walk .file [] ((s :: rest).map String.toList) =
        segmentText .file [] s.toList :: rest := by
      rw [List.map_cons, walk_cons hs.dot hs.doubleDot, List.nil_append,
        walk_toList hrest fun _ root => absurd root (by simp), List.singleton_append]
    have below (cs : List Char) : belowRoot .file ('/' :: cs) = cs := by simp [belowRoot, isSlash]
    have kind : schemeKind "file" = .file := by decide
    replace isTail : IsTail (schemeKind "file") query fragment := kind.symm ▸ isTail
    rw [toList_text_cons, List.cons_append, fileOn, below,
      segmentsOf_intercalate isPath.segments (List.cons_ne_nil _ _), walked,
      withSegments_intercalate _ _ isPath.segments isTail, kind]
    simp only [List.head?_cons, Option.any_some, isDriveName_segmentText hs, reread, hasHost,
      Option.isSome_some, true_and]
    split_ifs with drive
    · have tidy : tidied .file (segmentText .file [] s.toList :: rest) =
          segmentText .file [] s.toList :: rest := by
        obtain ⟨c, d, chars, letter, mark⟩ := isDrive_iff.1 drive
        rw [chars, segmentText_drive letter mark]
        simp [tidied]
      rw [tidy]
    · rw [hs.segmentText_eq fun _ _ => by simpa using drive, isPath.tidied_eq_self]

/-! ### Behind a drive -/

theorem forall_mem_behindDrive {P : List Char → Prop} {drive : List Char}
    {segments : List (List Char)} (hdrive : P drive) (empty : P [])
    (hsegments : ∀ segment ∈ segments, P segment ∧ P (drive ++ segment)) :
    ∀ segment ∈ behindDrive drive segments, P segment := by
  unfold behindDrive
  split
  · simpa using hdrive
  next last =>
    obtain ⟨hlast, -⟩ := List.forall_mem_cons.1 hsegments
    split_ifs
    · simpa using hdrive
    · simp [hdrive, empty]
    · simpa using hlast.2
  next segment rest _ =>
    obtain ⟨hsegment, hrest⟩ := List.forall_mem_cons.1 hsegments
    split_ifs
    · exact List.forall_mem_cons.2 ⟨hdrive, fun s hs => (hrest s hs).1⟩
    · exact List.forall_mem_cons.2 ⟨hsegment.2, fun s hs => (hrest s hs).1⟩

theorem behindDrive_ne_nil (drive : List Char) (segments : List (List Char)) :
    behindDrive drive segments ≠ [] := by
  unfold behindDrive
  split
  · simp
  · split_ifs <;> simp
  · split_ifs <;> simp

/-! ### The URLs that are read -/


/-- The URLs of a scheme that have an authority: these are the ones that reading can give. -/
inductive IsAbsolute [DomainNames] (scheme : String) : Url → Prop
  | mk {a : Authority} {path : List String} {query fragment : Option String}
      (isScheme : IsScheme scheme) (isAuthority : IsAuthority scheme a)
      (isPath : IsPath (schemeKind scheme) path)
      (isTail : IsTail (schemeKind scheme) query fragment) :
      IsAbsolute scheme ⟨scheme, some a, .segments path, query, fragment⟩

variable [DomainNames]

theorem IsAbsolute.scheme_eq (h : IsAbsolute scheme u) : u.scheme = scheme := by
  cases h
  rfl

theorem IsAbsolute.isScheme (h : IsAbsolute scheme u) : IsScheme scheme := by
  cases h
  assumption

theorem IsAbsolute.exists_authority (h : IsAbsolute scheme u) :
    ∃ a, u.authority = some a ∧ IsAuthority scheme a := by
  cases h
  exact ⟨_, rfl, by assumption⟩

theorem isAuthority_noHost : IsAuthority "file" noHost where
  user := isUserInfo_empty
  host := nofun
  bare _ := ⟨rfl, rfl, by decide⟩
  port := nofun
  file _ := ⟨rfl, rfl, nofun⟩

theorem isAuthority_of_isDomain (domain : host.IsDomain) (noLocal : host ≠ .name "localhost") :
    IsAuthority "file" ⟨"", some host, none⟩ where
  user := isUserInfo_empty
  host := by
    rintro _ ⟨⟩
    exact domain
  bare := nofun
  port := nofun
  file _ := ⟨rfl, rfl, fun same => noLocal (Option.some.inj same)⟩

theorem IsAbsolute.mem_toSegments {u : Url} (h : IsAbsolute scheme u) :
    ∀ s ∈ u.path.toSegments, IsSegment (schemeKind scheme) s := by
  obtain ⟨-, -, isPath, -⟩ := h
  exact isPath.segments

/-- Segments behind an authority are an absolute URL. -/
theorem isAbsolute_withSegments (isScheme : IsScheme scheme) (isAuthority : IsAuthority scheme a)
    (segments : ∀ s ∈ path, IsSegment (schemeKind scheme) s) (ne : path ≠ []) (cs : List Char) :
    IsAbsolute scheme (withSegments scheme (some a) path cs) := by
  obtain ⟨path, query, fragment, same, isPath, isTail⟩ := exists_withSegments (some a) segments ne cs
  rw [same]
  exact .mk isScheme isAuthority isPath isTail

/-- Going along what follows keeps the scheme and the authority. -/
theorem isAbsolute_withPath (isScheme : IsScheme scheme) (isAuthority : IsAuthority scheme a)
    (hplace : ∀ s ∈ place, IsSegment (schemeKind scheme) s) (cs : List Char) :
    IsAbsolute scheme (withPath scheme (some a) place cs) :=
  isAbsolute_withSegments isScheme isAuthority
    (isSegment_of_mem_walk hplace fun _ mem _ => isSlash_of_mem_segmentsOf mem)
    (walk_ne_nil (segmentsOf_ne_nil _ cs)) cs

theorem isAbsolute_withRootPath (isScheme : IsScheme scheme) (isAuthority : IsAuthority scheme a)
    (cs : List Char) : IsAbsolute scheme (withRootPath scheme a cs) := by
  unfold withRootPath
  dsimp only
  split_ifs with bare
  · have other : schemeKind scheme = .other := by
      cases kind : schemeKind scheme <;> simp_all [SchemeKind.isSpecial]
    obtain ⟨query, fragment, same, isTail⟩ :=
      exists_withTail ⟨scheme, some a, .segments [], none, none⟩ cs
    rw [same]
    exact .mk isScheme isAuthority
      ⟨List.forall_mem_nil _, fun special => absurd other special, fun file => by simp [other] at file⟩
      isTail
  · exact isAbsolute_withPath isScheme isAuthority (List.forall_mem_nil _) _

/-- A file without a host. -/
theorem isAbsolute_withNoHost (hplace : ∀ s ∈ place, IsSegment .file s) (cs : List Char) :
    IsAbsolute "file" (withPath "file" (some noHost) place cs) :=
  isAbsolute_withPath isScheme_file isAuthority_noHost hplace cs

theorem isAbsolute_fileOn (isAuthority : IsAuthority "file" ⟨"", some host, none⟩)
    (cs : List Char) : IsAbsolute "file" (fileOn host cs) := by
  have segments (below : List Char) : ∀ s ∈ walk .file [] (segmentsOf .file below),
      IsSegment (schemeKind "file") s :=
    isSegment_of_mem_walk (List.forall_mem_nil _) fun _ mem _ => isSlash_of_mem_segmentsOf mem
  have ne (below : List Char) : walk .file [] (segmentsOf .file below) ≠ [] :=
    walk_ne_nil (segmentsOf_ne_nil .file below)
  unfold fileOn
  dsimp only
  split_ifs
  · exact isAbsolute_withSegments isScheme_file isAuthority_noHost (segments _) (ne _) _
  · exact isAbsolute_withSegments isScheme_file isAuthority (segments _) (ne _) _

theorem IsAbsolute.joinTail (h : IsAbsolute scheme base) (cs : List Char) :
    IsAbsolute scheme (base.joinTail cs) := by
  obtain ⟨isScheme, isAuthority, isPath, isTail⟩ := h
  unfold Url.joinTail
  split
  · refine .mk isScheme isAuthority isPath ⟨isTail.query, ?_⟩
    rintro _ ⟨⟩
    exact isFragment_fragmentText _
  · exact .mk isScheme isAuthority isPath ⟨isTail.query, nofun⟩
  next =>
    obtain ⟨query, fragment, same, isTail⟩ := exists_withTail ⟨scheme, _, _, _, _⟩ cs
    rw [same]
    exact .mk isScheme isAuthority isPath isTail

theorem isAbsolute_fileBelow {base : Option Url} (h : ∀ u ∈ base, IsAbsolute "file" u)
    (cs : List Char) : IsAbsolute "file" (fileBelow base cs) := by
  unfold fileBelow
  dsimp only
  -- What counts of the base is absolute as well.
  replace h : ∀ u ∈ base.filter fun _ => !startsWithDrive cs, IsAbsolute "file" u :=
    fun u mem => h u (Option.mem_filter_iff.1 mem).1
  generalize base.filter _ = ofBase at h ⊢
  split
  next drive first =>
    refine isAbsolute_withNoHost (List.forall_mem_singleton.2 ?_) cs
    obtain ⟨u, mem, head⟩ := Option.bind_eq_some_iff.1 (Option.mem_filter_iff.1 first).1
    exact (h u mem).mem_toSegments drive (List.mem_of_mem_head? head)
  next =>
    cases ofBase with
    | none => exact isAbsolute_withNoHost (List.forall_mem_nil _) cs
    | some u =>
      obtain ⟨a, authority, isAuthority⟩ := (h u rfl).exists_authority
      simp only [Option.bind_some, authority, Option.getD_some]
      exact isAbsolute_withPath isScheme_file isAuthority (List.forall_mem_nil _) cs

theorem IsAbsolute.fileBeside (h : IsAbsolute "file" base) (cs : List Char) :
    IsAbsolute "file" (base.fileBeside cs) := by
  have hpath : ∀ s ∈ base.path.toSegments, IsSegment .file s := h.mem_toSegments
  obtain ⟨a, authority, isAuthority⟩ := h.exists_authority
  have own : ∀ segment ∈ segmentsOf .file cs, ∀ c ∈ segment, isSlash .file c = false :=
    fun _ mem _ => isSlash_of_mem_segmentsOf mem
  have whole {segments : List (List Char)} (ne : segments ≠ [])
      (slashes : ∀ segment ∈ segments, ∀ c ∈ segment, isSlash .file c = false) :
      IsAbsolute "file" (withSegments "file" base.authority
        (walk .file base.path.toSegments.dropLast segments) cs) := by
    rw [authority]
    exact isAbsolute_withSegments isScheme_file isAuthority
      (isSegment_of_mem_walk (fun s hs => hpath s (List.dropLast_subset _ hs)) slashes)
      (walk_ne_nil ne) cs
  unfold Url.fileBeside
  dsimp only
  split
  next => exact whole (segmentsOf_ne_nil _ _) own
  next drive last =>
    have mem := List.mem_of_getLast? (Option.mem_filter_iff.1 last).1
    have hdrive : ∀ c ∈ drive.toList, isSlash .file c = false :=
      fun c hc => ((hpath drive mem).chars c hc).2
    split_ifs
    · exact whole (by simp) (List.forall_mem_cons.2 ⟨hdrive, own⟩)
    · refine whole (behindDrive_ne_nil _ _) (forall_mem_behindDrive hdrive nofun fun s hs => ?_)
      exact ⟨own s hs, List.forall_mem_append.2 ⟨hdrive, own s hs⟩⟩

theorem IsAbsolute.fileNear (h : IsAbsolute "file" base) (cs : List Char) :
    IsAbsolute "file" (base.fileNear cs) := by
  unfold Url.fileNear
  split
  · exact h.joinTail _
  · exact h.joinTail _
  · exact h.joinTail _
  · split_ifs
    · exact isAbsolute_withNoHost (List.forall_mem_nil _) cs
    · exact h.fileBeside cs

theorem readFile_slashes (base : Option Url) (cs : List Char) :
    readFile base ('/' :: '/' :: cs) = fileOnHost cs := by
  have slash : isAnySlash '/' = true := rfl
  simp [readFile, slash]

theorem IsAbsolute.join_eq {text : String} (h : IsAbsolute scheme base)
    (relative : scheme? (cleared text) = none) :
    base.join text = base.joinRest (cleared text) := by
  cases h
  simp only [Url.join, relative]

variable [LawfulDomainNames]

theorem isAbsolute_of_ofAuthority (isScheme : IsScheme scheme) (noFile : scheme ≠ "file")
    (h : ofAuthority scheme cs = .ok u) : IsAbsolute scheme u := by
  obtain ⟨⟨a, rest⟩, read, same⟩ := bind_eq_ok_iff.1 h
  obtain rfl := Except.ok.inj same
  exact isAbsolute_withRootPath isScheme
    (isAuthority_of_readAuthority read (mt schemeKind_eq_file_iff.1 noFile)) rest

theorem isAbsolute_of_fileOnHost (h : fileOnHost cs = .ok u) : IsAbsolute "file" u := by
  have noHost (cs : List Char) := isAbsolute_withNoHost (List.forall_mem_nil _) cs
  unfold fileOnHost at h
  dsimp only at h
  split_ifs at h
  · obtain rfl := Except.ok.inj h
    exact noHost _
  · obtain rfl := Except.ok.inj h
    exact noHost _
  · obtain ⟨host, read, h⟩ := bind_eq_ok_iff.1 h
    split at h
    · obtain rfl := Except.ok.inj h
      exact noHost _
    next noLocal =>
      obtain rfl := Except.ok.inj h
      exact isAbsolute_fileOn (isAuthority_of_isDomain (isDomain_of_domainHost read) noLocal) _

/-- What is read of a file is absolute, be it joined to a base or not. -/
theorem isAbsolute_of_readFile {base : Option Url} (hbase : ∀ u ∈ base, IsAbsolute "file" u)
    (h : readFile base cs = .ok u) : IsAbsolute "file" u := by
  unfold readFile at h
  split at h
  · obtain rfl := Except.ok.inj h
    cases base with
    | none => exact isAbsolute_withNoHost (List.forall_mem_nil _) cs
    | some base => exact (hbase base rfl).fileNear cs
  · obtain rfl := Except.ok.inj h
    exact isAbsolute_fileBelow hbase _
  · exact isAbsolute_of_fileOnHost h

/-- What is read from a scheme and what follows it is absolute, unless it has no authority. -/
theorem isAbsolute_of_ofScheme (isScheme : IsScheme scheme) (h : ofScheme scheme cs = .ok u)
    (authority : u.authority.isSome = true) : IsAbsolute scheme u := by
  have noFile (kind : schemeKind scheme ≠ .file) : scheme ≠ "file" :=
    mt schemeKind_eq_file_iff.2 kind
  unfold ofScheme at h
  split at h
  next file =>
    obtain rfl := schemeKind_eq_file_iff.1 file
    exact isAbsolute_of_readFile (by simp) h
  next special => exact isAbsolute_of_ofAuthority isScheme (noFile (by simp [special])) h
  next other =>
    split at h
    · exact isAbsolute_of_ofAuthority isScheme (noFile (by simp [other])) h
    next rest _ =>
      obtain rfl := Except.ok.inj h
      rw [withPath, withSegments, withTail_authority] at authority
      cases authority
    next =>
      obtain rfl := Except.ok.inj h
      rw [withTail_authority] at authority
      cases authority

/-- A URL that was read and has a host is absolute. -/
theorem isAbsolute_of_parse {text : String} (h : parse text = .ok u) (host : u.hasHost = true) :
    IsAbsolute u.scheme u := by
  have authority : u.authority.isSome = true := by
    cases ha : u.authority with
    | none => simp [hasHost, ha] at host
    | some a => rfl
  unfold parse at h
  split at h
  next scheme rest read =>
    have isAbsolute := isAbsolute_of_ofScheme (isScheme_of_scheme? read) h authority
    rwa [isAbsolute.scheme_eq]
  next => cases h

/-- A URL that was read and has a scheme with domains is absolute and has a host. -/
theorem isAbsolute_of_parse_special {text : String}
    (read : scheme? (cleared text) = some (scheme, rest)) (special : schemeKind scheme = .special)
    (h : parse text = .ok u) :
    IsAbsolute scheme u ∧ u.hasHost = true := by
  have noFile : scheme ≠ "file" := by
    rintro rfl
    cases special
  simp only [parse, read, ofScheme, special] at h
  have isAbsolute := isAbsolute_of_ofAuthority (isScheme_of_scheme? read) noFile h
  obtain ⟨a, authority, isAuthority⟩ := isAbsolute.exists_authority
  have host : a.host ≠ none := fun none => (isAuthority.bare none).2.2 special
  exact ⟨isAbsolute, by simpa [hasHost, authority, Option.isSome_iff_ne_none] using host⟩

/-! ### The URLs that are joined -/

theorem IsAbsolute.joinOther (h : IsAbsolute scheme base) (noFile : scheme ≠ "file")
    (joined : base.joinOther cs = .ok u) : IsAbsolute scheme u := by
  have isScheme := h.isScheme
  have beside {place : List String} (hplace : ∀ s ∈ place, IsSegment (schemeKind scheme) s)
      (cs : List Char) :
      IsAbsolute scheme (withPath base.scheme base.authority place cs) := by
    obtain ⟨a, authority, isAuthority⟩ := h.exists_authority
    rw [h.scheme_eq, authority]
    exact isAbsolute_withPath isScheme isAuthority hplace cs
  unfold Url.joinOther at joined
  -- The cases are the ways in which a text without a scheme can start.
  split at joined
  · obtain rfl := Except.ok.inj joined
    exact h.joinTail _
  · obtain rfl := Except.ok.inj joined
    exact h.joinTail _
  · obtain rfl := Except.ok.inj joined
    exact h.joinTail _
  · exact isAbsolute_of_ofAuthority isScheme noFile (h.scheme_eq ▸ joined)
  · split_ifs at joined
    · exact isAbsolute_of_ofAuthority isScheme noFile (h.scheme_eq ▸ joined)
    · obtain rfl := Except.ok.inj joined
      exact beside (List.forall_mem_nil _) _
    · obtain rfl := Except.ok.inj joined
      exact beside (fun s hs => h.mem_toSegments s (List.dropLast_subset _ hs)) _

/-- What is joined to an absolute URL is one of the same scheme, unless it has a scheme itself. -/
theorem IsAbsolute.join {text : String} (h : IsAbsolute scheme base)
    (relative : scheme? (cleared text) = none) (joined : base.join text = .ok u) :
    IsAbsolute scheme u := by
  rw [h.join_eq relative, joinRest, h.scheme_eq] at joined
  split_ifs at joined with file
  · subst file
    refine isAbsolute_of_readFile (fun u mem => ?_) joined
    obtain rfl := Option.some.inj mem
    exact h
  · exact h.joinOther file joined

/-! ### The URLs that are written -/

/-- The URL of a file is read back from what follows its scheme and two slashes. -/
theorem fileOnHost_text (isAuthority : IsAuthority "file" a) (isPath : IsPath .file path)
    (isTail : IsTail .file query fragment) :
    fileOnHost (a.text.toList ++
        ((UrlPath.segments path).text.toList ++ tailChars query fragment)) =
      .ok (reread ⟨"file", some a, .segments path, query, fragment⟩) := by
  have follows := followsAuthority_behind path query fragment
  have taken := takeWhile_authority (fun _ => isAuthority.stays_of_mem) follows .file
  obtain ⟨noUser, noPort, noLocal⟩ := isAuthority.file rfl
  have chars : a.text.toList = hostChars a.host := by
    simp [toList_text, noUser, noPort, portChars]
  rw [chars] at taken ⊢
  obtain ⟨user, host, port⟩ := a
  obtain rfl : user = "" := noUser
  obtain rfl : port = none := noPort
  dsimp only at taken ⊢
  simp only [fileOnHost, taken, List.drop_left]
  cases host with
  | none =>
    have same : reread ⟨"file", some noHost, .segments path, query, fragment⟩ = _ :=
      reread_eq_self fun _ host => by simp [hasHost, noHost] at host
    exact congrArg Except.ok ((withPath_text isPath isTail).trans same.symm)
  | some host =>
    have domain : host.IsDomain := isAuthority.host host rfl
    have drive : isDrive (hostChars (some host)) = false := isDrive_of_isHostText domain.isHostText
    have ne : (hostChars (some host)).isEmpty = false :=
      List.isEmpty_eq_false_iff.2 domain.isHostText.ne_nil
    have read : domainHost (hostChars (some host)) = .ok host := domainHost_text domain
    rw [drive, ne, read, if_neg (by simp), if_neg (by simp)]
    dsimp only [bind, Except.bind]
    split
    · exact absurd rfl noLocal
    · exact congrArg Except.ok (fileOn_text isPath isTail)

theorem ofAuthority_text (noFile : schemeKind scheme ≠ .file) (isAuthority : IsAuthority scheme a)
    (isPath : IsPath (schemeKind scheme) path)
    (isTail : IsTail (schemeKind scheme) query fragment) :
    ofAuthority scheme (a.text.toList ++
        ((UrlPath.segments path).text.toList ++ tailChars query fragment)) =
      .ok ⟨scheme, some a, .segments path, query, fragment⟩ := by
  rw [ofAuthority, readAuthority_text isAuthority noFile (followsAuthority_behind _ _ _)]
  dsimp only [bind, Except.bind]
  rw [withRootPath_text noFile isPath isTail]
  rfl

/-- The authority of a scheme with domains does not start with a slash, and is not empty. -/
theorem dropWhile_isAnySlash_text (special : schemeKind scheme = .special)
    (isAuthority : IsAuthority scheme a) (rest : List Char) :
    (a.text.toList ++ rest).dropWhile isAnySlash = a.text.toList ++ rest := by
  have stays : ∀ c ∈ a.text.toList, StaysInAuthority c := fun _ => isAuthority.stays_of_mem
  have ne : a.text.toList ≠ [] :=
    isAuthority.toList_text_ne_nil fun none => (isAuthority.bare none).2.2 special
  cases chars : a.text.toList with
  | nil => exact absurd chars ne
  | cons c cs =>
    have ends := (stays c (by rw [chars]; exact List.mem_cons_self)).2 .special
    have slash : isAnySlash c = false := by
      simp only [endsAuthority, isSlash, SchemeKind.isSpecial, Bool.or_eq_false_iff] at ends
      simpa [isAnySlash] using ends.1.1
    rw [List.cons_append, List.dropWhile_cons, if_neg (by simp [slash])]

theorem ofScheme_text (h : IsAbsolute scheme u) :
    ofScheme scheme ('/' :: '/' :: ((u.authority.elim [] fun a => a.text.toList) ++
      u.behindChars)) = .ok u.reread := by
  obtain ⟨isScheme, isAuthority, isPath, isTail⟩ := h
  simp only [Option.elim, behindChars, ofScheme]
  have same (kind : schemeKind scheme ≠ .file) (u : Url) (hu : u.scheme = scheme) : u.reread = u :=
    reread_eq_self fun file => absurd (schemeKind_eq_file_iff.2 (hu.symm.trans file)) kind
  cases kind : schemeKind scheme with
  | file =>
    obtain rfl := schemeKind_eq_file_iff.1 kind
    exact (readFile_slashes none _).trans (fileOnHost_text isAuthority isPath isTail)
  | special =>
    have slashes := dropWhile_isAnySlash_text kind isAuthority
    simp only [List.dropWhile_cons, show isAnySlash '/' = true from rfl, if_true, slashes]
    rw [same (by simp [kind]) _ rfl]
    exact ofAuthority_text (by simp [kind]) isAuthority isPath isTail
  | other =>
    rw [same (by simp [kind]) _ rfl]
    exact ofAuthority_text (by simp [kind]) isAuthority isPath isTail

theorem IsAbsolute.visible_of_mem (h : IsAbsolute scheme u) (mem : c ∈ u.text.toList) :
    0x20 < c.toNat := by
  rw [toList_text_url, List.mem_append] at mem
  obtain ⟨isScheme, isAuthority, isPath, isTail⟩ := h
  rcases mem with mem | mem
  · simp only [siteText, Option.elim, String.toList_append, List.mem_append] at mem
    rcases mem with (mem | mem) | mem | mem
    · exact (plain_of_schemeChar? (isScheme.chars c mem)).1
    · obtain rfl := List.mem_singleton.1 mem
      decide
    · have slash : ∀ c ∈ "//".toList, 0x20 < c.toNat := List.all_iff_forall_prop.1 (by decide)
      exact slash c mem
    · exact (isAuthority.stays_of_mem mem).1
  · rcases List.mem_append.1 mem with mem | mem
    · exact visible_of_mem_path isPath mem
    · exact visible_of_mem_tailChars isTail mem

/-- An absolute URL is read back from its text. -/
theorem parse_text (h : IsAbsolute scheme u) : parse u.text = .ok u.reread := by
  have chars : u.text.toList = scheme.toList ++ ':' :: ('/' :: '/' ::
      ((u.authority.elim [] fun a => a.text.toList) ++ u.behindChars)) := by
    rw [toList_text_url]
    cases h
    simp [siteText]
  simp only [parse, cleared_eq_self fun _ => h.visible_of_mem, chars, scheme?_append h.isScheme,
    ofScheme_text h]

end RuntimeMux.Url
