import RuntimeMux.Proofs.Url.Encoding
import RuntimeMux.Proofs.Text.Cuts
import RuntimeMux.Url.Parse

/-!
# Paths, queries and fragments

What a URL has behind its authority is read back from its text. `IsSegment`, `IsPath` and `IsTail`
say what it can be: these are the segments that a walk along a path leaves, and the queries and
fragments that are read. A segment that is encoded is not a dot, even one that is written as a
percent sign and two digits, unless it was a dot before: only a dot has the byte of a dot.
-/

namespace RuntimeMux.Url

variable {kind : SchemeKind} {scheme : String} {authority : Option Authority} {c : Char}
  {cs segment rest : List Char} {path place : List String}

/-! ### Dots -/

/-- The segments that stand for the place itself or the place above. -/
def dotWords : List (List Char) :=
  [".", "%2e", "..", ".%2e", "%2e.", "%2e%2e"].map String.toList

theorem mem_dotWords_iff :
    segment.map Char.toLower ∈ dotWords ↔ isDot segment = true ∨ isDoubleDot segment = true := by
  simp [dotWords, isDot, isDoubleDot, or_assoc]

/-- A percent sign of these segments is the one of an encoded dot. -/
theorem take_of_head?_drop : ∀ w ∈ dotWords, ∀ n < 7, (w.drop n).head? = some '%' →
    (w.drop n).take 3 = ['%', '2', 'e'] := by
  decide

theorem eq_dot_of_mem_dotWords {as bs : List Char} {a b : Char}
    (h : as ++ '%' :: a :: b :: bs ∈ dotWords) : a = '2' ∧ b = 'e' := by
  have short : ∀ w ∈ dotWords, w.length < 7 := by decide
  have := short _ h
  have three := take_of_head?_drop _ h as.length
    (by simp only [List.length_append] at this; omega) (by simp)
  simpa using three

theorem toLower_upperHexDigit : ∀ n < 16,
    ((upperHexDigit n).toLower = '2' → n = 2) ∧ ((upperHexDigit n).toLower = 'e' → n = 14) := by
  decide

theorem bytesOfText_dots (n : Nat) :
    Wire.bytesOfText (.ofList (List.replicate n '.')) = List.replicate n 0x2e := by
  induction n with
  | zero => rfl
  | succ n ih =>
    have append (s t : String) : Wire.bytesOfText (s ++ t) =
        Wire.bytesOfText s ++ Wire.bytesOfText t := by simp [Wire.bytesOfText]
    rw [List.replicate_succ, List.replicate_succ, String.ofList_cons, append, ih]
    rfl

/-- Only a dot has the byte of a dot and no other. -/
theorem exists_byte_ne (h : c ≠ '.') :
    ∃ b ∈ Wire.bytesOfText (String.singleton c), b ≠ 0x2e := by
  by_contra none
  push Not at none
  obtain ⟨n, dots⟩ : ∃ n, Wire.bytesOfText (String.singleton c) = List.replicate n 0x2e :=
    ⟨_, List.eq_replicate_of_mem none⟩
  rw [← bytesOfText_dots] at dots
  have same := congrArg Wire.textOfBytes? dots
  simp only [Wire.textOfBytes?_bytesOfText, Option.some.injEq] at same
  have same : [c] = List.replicate n '.' := by simpa using congrArg String.toList same
  exact h (List.eq_of_mem_replicate (same ▸ List.mem_singleton_self c))

/-- A segment that is encoded as one that stands for a place stands for it. -/
theorem percentEncode_eq_self_of_mem_dotWords
    (h : (percentEncode encodedInPath cs).map Char.toLower ∈ dotWords) :
    percentEncode encodedInPath cs = cs := by
  refine percentEncode_eq_self fun c mem => ?_
  by_contra encoded
  rw [Bool.not_eq_false] at encoded
  obtain ⟨before, after, rfl⟩ := List.append_of_mem mem
  have dot : c ≠ '.' := by
    rintro rfl
    exact absurd encoded (by decide)
  -- Of a byte that is not the one of a dot, the digits are not those of an encoded dot.
  obtain ⟨b, hb, other⟩ := exists_byte_ne dot
  obtain ⟨front, back, bytes⟩ := List.append_of_mem hb
  have whole : percentEncode encodedInPath (before ++ c :: after) =
      percentEncode encodedInPath before ++ (front.flatMap percentByte ++ (percentByte b ++
        (back.flatMap percentByte ++ percentEncode encodedInPath after))) := by
    rw [percentEncode_append]
    simp [percentEncode, encoded, bytes]
  rw [whole, List.map_append, List.map_append, List.map_append, percentByte, List.map_cons,
    List.map_cons, List.map_singleton, ← List.append_assoc] at h
  obtain ⟨first, second⟩ := eq_dot_of_mem_dotWords h
  have := b.toNat_lt
  have high := (toLower_upperHexDigit (b.toNat / 16) (by omega)).1 first
  have low := (toLower_upperHexDigit (b.toNat % 16) (by omega)).2 second
  exact other (UInt8.toNat_inj.1 (show b.toNat = 46 by omega))

/-! ### Segments -/

/-- Whether a path of a URL of the kind can have the segment. -/
structure IsSegment (kind : SchemeKind) (s : String) : Prop where
  chars : ∀ c ∈ s.toList, encodedInPath c = false ∧ isSlash kind c = false
  dot : isDot s.toList = false
  doubleDot : isDoubleDot s.toList = false

theorem isSegment_empty (kind : SchemeKind) : IsSegment kind "" where
  chars := by simp
  dot := by decide
  doubleDot := by decide

/-- What is encoded is a segment, if it has no slashes and does not stand for a place. -/
theorem isSegment_percentEncode (slashes : ∀ c ∈ segment, isSlash kind c = false)
    (dot : isDot segment = false) (doubleDot : isDoubleDot segment = false) :
    IsSegment kind (.ofList (percentEncode encodedInPath segment)) := by
  have words : segment.map Char.toLower ∉ dotWords := by
    simp [mem_dotWords_iff, dot, doubleDot]
  have encoded : (percentEncode encodedInPath segment).map Char.toLower ∉ dotWords :=
    fun mem => words (percentEncode_eq_self_of_mem_dotWords mem ▸ mem)
  simp only [mem_dotWords_iff, not_or, Bool.not_eq_true] at encoded
  refine ⟨fun c hc => ?_, by simpa using encoded.1, by simpa using encoded.2⟩
  rw [String.toList_ofList] at hc
  have escape : ∀ c ∈ escapes, isSlash kind c = false := by
    cases kind <;> exact List.all_iff_forall_prop.1 (by decide)
  exact ⟨encoded_eq_false_of_mem sparesEscapes_inPath hc,
    (mem_percentEncode hc).elim (escape c) fun h => slashes c h.1⟩

theorem isSlash_of_mem_splitSegments (mem : segment ∈ splitSegments kind cs) (hc : c ∈ segment) :
    isSlash kind c = false := by
  obtain ⟨hc, noSlash⟩ := Text.of_mem_pieces mem hc
  obtain ⟨d, -, rfl⟩ := List.mem_map.1 hc
  split_ifs at noSlash ⊢ with slash
  · exact absurd rfl noSlash
  · simpa using slash

/-- Segments that are put together with slashes are found again. -/
theorem splitSegments_intercalate (h : ∀ s ∈ path, IsSegment kind s) (ne : path ≠ []) :
    splitSegments kind (['/'].intercalate (path.map String.toList)) = path.map String.toList := by
  have chars : ∀ p ∈ path.map String.toList, ∀ c ∈ p, isSlash kind c = false := by
    intro p hp c hc
    obtain ⟨s, hs, rfl⟩ := List.mem_map.1 hp
    exact ((h s hs).chars c hc).2
  have same : (['/'].intercalate (path.map String.toList)).map
      (fun c => if isSlash kind c then '/' else c) =
      ['/'].intercalate (path.map String.toList) := by
    refine (List.map_congr_left (g := id) fun c hc => ?_).trans (List.map_id _)
    rcases Text.of_mem_intercalate hc with rfl | ⟨p, hp, hc⟩
    · simp
    · simp [chars p hp c hc]
  rw [splitSegments, same, Text.pieces_intercalate _ (by simpa using ne)]
  intro p hp slash
  exact absurd (chars p hp '/' slash) (by simp [isSlash])

/-! ### Drives -/

theorem plain_ofNat : ∀ n < 0x80, ((Char.ofNat n).isAlphanum = true ∨ Char.ofNat n = '-' ∨
      Char.ofNat n = '_') →
    encodedInPath (Char.ofNat n) = false ∧ isAnySlash (Char.ofNat n) = false ∧
      (Char.ofNat n).toLower ≠ '.' ∧ (Char.ofNat n).toLower ≠ '%' := by
  decide +kernel

theorem toNat_lt_of_isAlphanum (h : c.isAlphanum = true) : c.toNat < 0x80 := by
  have kinds : (c.isUpper || c.isLower || c.isDigit) = true := h
  simp only [Bool.or_eq_true] at kinds
  rcases kinds with (upper | lower) | digit
  · have range : c.val ≥ 'A'.val ∧ c.val ≤ 'Z'.val := of_decide_eq_true upper
    exact Nat.lt_of_le_of_lt (UInt32.le_iff_toNat_le.1 range.2) (by decide)
  · have range : (decide (c.val ≥ 'a'.val) && decide (c.val ≤ 'z'.val)) = true := lower
    simp only [Bool.and_eq_true, decide_eq_true_eq] at range
    exact Nat.lt_of_le_of_lt (UInt32.le_iff_toNat_le.1 range.2) (by decide)
  · exact Nat.lt_of_le_of_lt (Char.isDigit_iff_toNat.1 digit).2 (by decide)

/-- Letters and digits, hyphens and underscores have no other meaning in paths. -/
theorem plain_of_isAlphanum (h : c.isAlphanum = true ∨ c = '-' ∨ c = '_') :
    encodedInPath c = false ∧ isAnySlash c = false ∧ c.toLower ≠ '.' ∧ c.toLower ≠ '%' := by
  have ascii : c.toNat < 0x80 := by
    rcases h with alphanum | rfl | rfl
    · exact toNat_lt_of_isAlphanum alphanum
    · decide
    · decide
  have plain := plain_ofNat c.toNat ascii
  rw [Char.ofNat_toNat] at plain
  exact plain h

theorem isSlash_of_isAnySlash (h : isAnySlash c = false) : isSlash kind c = false := by
  simp only [isAnySlash, Bool.or_eq_false_iff] at h
  simp [isSlash, h]

/-- A segment that starts with anything but a dot or percent sign does not stand for a place. -/
theorem not_dot_of_head (dot : c.toLower ≠ '.') (percent : c.toLower ≠ '%') (cs : List Char) :
    isDot (c :: cs) = false ∧ isDoubleDot (c :: cs) = false := by
  have heads : ∀ w ∈ dotWords, w.head? = some '.' ∨ w.head? = some '%' := by decide
  have words : (c :: cs).map Char.toLower ∉ dotWords := by
    intro mem
    rcases heads _ mem with head | head
    · exact dot (Option.some.inj head)
    · exact percent (Option.some.inj head)
  simpa only [mem_dotWords_iff, not_or, Bool.not_eq_true] using words

theorem isDrive_iff : isDrive segment = true ↔
    ∃ c d, segment = [c, d] ∧ c.isAlpha = true ∧ (d = ':' ∨ d = '|') := by
  unfold isDrive
  split
  next c d => simp
  next other =>
    refine ⟨nofun, ?_⟩
    rintro ⟨c, d, rfl, -⟩
    exact absurd rfl (other c d)

/-- A letter with a colon is a segment. -/
theorem isSegment_drive (h : c.isAlpha = true) : IsSegment kind (.ofList [c, ':']) := by
  have alphanum : c.isAlphanum = true := by simp [Char.isAlphanum, h]
  obtain ⟨encoded, slash, dot, percent⟩ := plain_of_isAlphanum (.inl alphanum)
  obtain ⟨dot, doubleDot⟩ := not_dot_of_head dot percent [':']
  refine ⟨?_, by simpa using dot, by simpa using doubleDot⟩
  rw [String.toList_ofList, List.forall_mem_cons, List.forall_mem_singleton]
  exact ⟨⟨encoded, isSlash_of_isAnySlash slash⟩, by decide, isSlash_of_isAnySlash (by decide)⟩

/-! ### Walks -/

/-- Only the first segment of a file is changed otherwise than by encoding. -/
theorem segmentText_eq (h : kind = .file → place = [] → isDrive segment = false) :
    segmentText kind place segment = .ofList (percentEncode encodedInPath segment) := by
  refine if_neg ?_
  rintro ⟨file, root, drive⟩
  exact Bool.noConfusion ((h file root).symm.trans drive)

theorem segmentText_drive {d : Char} (letter : c.isAlpha = true) (mark : d = ':' ∨ d = '|') :
    segmentText .file [] [c, d] = .ofList [c, ':'] :=
  if_pos ⟨rfl, rfl, isDrive_iff.2 ⟨c, d, rfl, letter, mark⟩⟩

/-- A segment of a URL stays as it is, but for a drive at the root of a file. -/
theorem IsSegment.segmentText_eq {s : String} (h : IsSegment kind s)
    (drive : kind = .file → place = [] → isDrive s.toList = false) :
    segmentText kind place s.toList = s := by
  rw [Url.segmentText_eq drive, percentEncode_eq_self fun c hc => (h.chars c hc).1,
    String.ofList_toList]

theorem isSegment_segmentText (slashes : ∀ c ∈ segment, isSlash kind c = false)
    (dot : isDot segment = false) (doubleDot : isDoubleDot segment = false) :
    IsSegment kind (segmentText kind place segment) := by
  unfold segmentText
  split_ifs with drive
  · obtain ⟨c, d, rfl, letter, -⟩ := isDrive_iff.1 drive.2.2
    exact isSegment_drive letter
  · exact isSegment_percentEncode slashes dot doubleDot

theorem mem_of_mem_above {s : String} (h : s ∈ above place) : s ∈ place := by
  unfold above at h
  split_ifs at h
  · exact h
  · exact List.dropLast_subset _ h

/-- A walk from segments along segments leaves segments. -/
theorem isSegment_of_mem_walk {segments : List (List Char)}
    (hplace : ∀ s ∈ place, IsSegment kind s)
    (hsegments : ∀ segment ∈ segments, ∀ c ∈ segment, isSlash kind c = false) :
    ∀ s ∈ walk kind place segments, IsSegment kind s := by
  have append {place : List String} {s : String} (hplace : ∀ s ∈ place, IsSegment kind s)
      (hs : IsSegment kind s) : ∀ t ∈ place ++ [s], IsSegment kind t :=
    List.forall_mem_append.2 ⟨hplace, List.forall_mem_singleton.2 hs⟩
  have up {place : List String} (hplace : ∀ s ∈ place, IsSegment kind s) :
      ∀ s ∈ above place, IsSegment kind s :=
    fun s hs => hplace s (mem_of_mem_above hs)
  induction segments generalizing place with
  | nil => exact hplace
  | cons segment rest ih =>
    obtain ⟨slashes, hrest⟩ := List.forall_mem_cons.1 hsegments
    -- The last segment is a case of its own: in the place of a dot it leaves an empty one.
    cases rest with
    | nil =>
      rw [walk]
      split_ifs with doubleDot dot
      · exact append (up hplace) (isSegment_empty kind)
      · exact append hplace (isSegment_empty kind)
      · exact append hplace (isSegment_segmentText slashes (by simpa using dot)
          (by simpa using doubleDot))
    | cons next rest =>
      rw [walk]
      · split_ifs with doubleDot dot
        · exact ih (up hplace) hrest
        · exact ih hplace hrest
        · exact ih (append hplace (isSegment_segmentText slashes (by simpa using dot)
            (by simpa using doubleDot))) hrest
      · exact List.cons_ne_nil _ _

theorem walk_ne_nil {segments : List (List Char)} (h : segments ≠ []) :
    walk kind place segments ≠ [] := by
  induction segments generalizing place with
  | nil => exact absurd rfl h
  | cons segment rest ih =>
    cases rest with
    | nil =>
      rw [walk]
      split_ifs <;> simp
    | cons next rest =>
      rw [walk]
      · split_ifs <;> exact ih (by simp)
      · exact List.cons_ne_nil _ _

/-- A walk goes down a segment that does not stand for a place. -/
theorem walk_cons {segments : List (List Char)} (dot : isDot segment = false)
    (doubleDot : isDoubleDot segment = false) :
    walk kind place (segment :: segments) =
      walk kind (place ++ [segmentText kind place segment]) segments := by
  cases segments with
  | nil => simp [walk, dot, doubleDot]
  | cons next rest => simp [walk, dot, doubleDot]

/-- A walk along segments of a URL goes down all of them, if the first one is no drive that is put
right. -/
theorem walk_toList (h : ∀ s ∈ path, IsSegment kind s)
    (drive : kind = .file → place = [] → ∀ s ∈ path.head?, isDrive s.toList = false) :
    walk kind place (path.map String.toList) = place ++ path := by
  induction path generalizing place with
  | nil => simp [walk]
  | cons s rest ih =>
    obtain ⟨hs, hrest⟩ := List.forall_mem_cons.1 h
    rw [List.map_cons, walk_cons hs.dot hs.doubleDot,
      hs.segmentText_eq fun file root => drive file root s rfl,
      ih hrest fun _ root => absurd root (by simp), List.append_assoc, List.singleton_append]

/-! ### Paths -/

/-- Whether a URL of the kind can have the path behind an authority. -/
structure IsPath (kind : SchemeKind) (path : List String) : Prop where
  segments : ∀ s ∈ path, IsSegment kind s
  ne_nil : kind ≠ .other → path ≠ []
  tidy : kind = .file → path.head? = some "" → path = [""]

theorem IsPath.tidied_eq_self (h : IsPath kind path) : tidied kind path = path := by
  unfold tidied
  split_ifs with file
  · cases path with
    | nil => exact absurd rfl (h.ne_nil (by simp [file]))
    | cons s rest =>
      by_cases empty : s = ""
      · subst empty
        rw [h.tidy file rfl]
        rfl
      · simp [empty]
  · rfl

theorem isPath_tidied (segments : ∀ s ∈ path, IsSegment kind s) (ne : path ≠ []) :
    IsPath kind (tidied kind path) := by
  unfold tidied
  by_cases file : kind = .file
  · rw [if_pos file]
    dsimp only
    split_ifs with empty
    · exact ⟨List.forall_mem_singleton.2 (isSegment_empty kind), fun _ => by simp,
        fun _ _ => rfl⟩
    · refine ⟨fun s hs => segments s (List.dropWhile_subset _ hs), fun _ => by simpa using empty,
        fun _ head => ?_⟩
      have := List.head?_dropWhile_not String.isEmpty path
      rw [head] at this
      cases this
  · rw [if_neg file]
    exact ⟨segments, fun _ => ne, fun h => absurd h file⟩

theorem toList_text_cons (s : String) (rest : List String) :
    (UrlPath.segments (s :: rest)).text.toList =
      '/' :: ['/'].intercalate ((s :: rest).map String.toList) := by
  induction rest generalizing s with
  | nil => simp [UrlPath.text]
  | cons next rest ih =>
    have ih := ih next
    simp only [UrlPath.text, String.toList_join, List.map_cons] at ih ⊢
    simp [ih]

/-! ### Queries and fragments -/

/-- Whether a URL of the kind can have the query and the fragment. -/
structure IsTail (kind : SchemeKind) (query fragment : Option String) : Prop where
  query : ∀ q ∈ query, ∀ c ∈ q.toList, encodedInQuery kind.isSpecial c = false
  fragment : ∀ f ∈ fragment, ∀ c ∈ f.toList, encodedInFragment c = false

/-- The characters of a query and a fragment, with what they start with. -/
def tailChars (query fragment : Option String) : List Char :=
  query.elim [] (fun q => '?' :: q.toList) ++ fragment.elim [] (fun f => '#' :: f.toList)

variable {u : Url} {query fragment : Option String}

theorem of_head?_tailChars (h : c ∈ (tailChars query fragment).head?) : c = '?' ∨ c = '#' := by
  cases query <;> cases fragment <;> simp_all [tailChars, eq_comm]

theorem fragmentText_eq_self {f : String} (h : ∀ c ∈ f.toList, encodedInFragment c = false) :
    fragmentText f.toList = f := by
  rw [fragmentText, percentEncode_eq_self h, String.ofList_toList]

/-- A query and a fragment are read back from their text. -/
theorem withTail_tailChars (h : IsTail (schemeKind u.scheme) query fragment) :
    withTail u (tailChars query fragment) = { u with query := query, fragment := fragment } := by
  cases query with
  | none =>
    cases fragment with
    | none => rfl
    | some f => simp [tailChars, withTail, fragmentText_eq_self (h.fragment f rfl)]
  | some q =>
    have chars := h.query q rfl
    have encoded := percentEncode_eq_self chars
    have taken {rest : List Char} (h : ∀ c ∈ rest.head?, c = '#') :
        (q.toList ++ rest).takeWhile (fun c => !decide (c = '#')) = q.toList := by
      refine Text.takeWhile_append_of_head? (fun c hc => ?_) fun c hc => by simp [h c hc]
      rw [Bool.not_eq_true', decide_eq_false_iff_not]
      rintro rfl
      exact absurd (chars _ hc) (by simp [encodedInQuery])
    cases fragment with
    | none =>
      have taken := taken (by simp : ∀ c ∈ [].head?, c = '#')
      rw [List.append_nil] at taken
      simp [tailChars, withTail, taken, encoded]
    | some f =>
      have taken := taken (by simp : ∀ c ∈ ('#' :: f.toList).head?, c = '#')
      simp [tailChars, withTail, taken, encoded, fragmentText_eq_self (h.fragment f rfl)]

theorem isTail_none (kind : SchemeKind) : IsTail kind none none :=
  ⟨nofun, nofun⟩

theorem isFragment_fragmentText (cs : List Char) :
    ∀ c ∈ (fragmentText cs).toList, encodedInFragment c = false := by
  intro c hc
  rw [fragmentText, String.toList_ofList] at hc
  exact encoded_eq_false_of_mem sparesEscapes_inFragment hc

/-- What a tail is read as is a query and a fragment, and the rest of the URL stays. -/
theorem exists_withTail (u : Url) (cs : List Char) : ∃ query fragment,
    withTail u cs = ⟨u.scheme, u.authority, u.path, query, fragment⟩ ∧
      IsTail (schemeKind u.scheme) query fragment := by
  have isQuery (cs : List Char) :
      ∀ c ∈ (String.ofList (percentEncode
          (encodedInQuery (schemeKind u.scheme).isSpecial) cs)).toList,
        encodedInQuery (schemeKind u.scheme).isSpecial c = false := by
    intro c hc
    rw [String.toList_ofList] at hc
    exact encoded_eq_false_of_mem (sparesEscapes_inQuery _) hc
  unfold withTail
  split
  next cs =>
    dsimp only
    split
    · refine ⟨_, _, rfl, ?_, ?_⟩
      · rintro _ ⟨⟩
        exact isQuery _
      · rintro _ ⟨⟩
        exact isFragment_fragmentText _
    · refine ⟨_, _, rfl, ?_, nofun⟩
      rintro _ ⟨⟩
      exact isQuery _
  next cs =>
    refine ⟨_, _, rfl, nofun, ?_⟩
    rintro _ ⟨⟩
    exact isFragment_fragmentText _
  next => exact ⟨none, none, rfl, isTail_none _⟩

theorem withTail_authority (u : Url) (cs : List Char) :
    (withTail u cs).authority = u.authority := by
  obtain ⟨_, _, same, -⟩ := exists_withTail u cs
  rw [same]

/-! ### Behind an authority -/

theorem takePath_append (path : ∀ c ∈ cs, c ≠ '?' ∧ c ≠ '#')
    (tail : ∀ c ∈ rest.head?, c = '?' ∨ c = '#') : takePath (cs ++ rest) = (cs, rest) := by
  have taken : (cs ++ rest).takeWhile (fun c => c ≠ '?' ∧ c ≠ '#') = cs := by
    refine Text.takeWhile_append_of_head? (fun c hc => by simpa using path c hc) fun c hc => ?_
    rcases tail c hc with rfl | rfl <;> decide
  simp only [takePath, taken, List.drop_left]

theorem IsSegment.plain {s : String} (h : IsSegment kind s) (mem : c ∈ s.toList) :
    0x20 < c.toNat ∧ c ≠ '?' ∧ c ≠ '#' := by
  have := (h.chars c mem).1
  simp only [encodedInPath, encodedInFragment, List.contains_eq_mem, Bool.or_eq_false_iff,
    decide_eq_false_iff_not, List.mem_cons, List.not_mem_nil, or_false, not_or] at this
  obtain ⟨⟨plain, space, -⟩, hash, query, -⟩ := this
  exact ⟨visible_of_plain plain space, query, hash⟩

theorem plain_of_mem_intercalate (h : ∀ s ∈ path, IsSegment kind s)
    (mem : c ∈ ['/'].intercalate (path.map String.toList)) : c ≠ '?' ∧ c ≠ '#' := by
  rcases Text.of_mem_intercalate mem with rfl | ⟨p, hp, hc⟩
  · decide
  · obtain ⟨s, hs, rfl⟩ := List.mem_map.1 hp
    exact ((h s hs).plain hc).2

/-- The segments in front of a query and a fragment are found again. -/
theorem segmentsOf_intercalate (h : ∀ s ∈ path, IsSegment kind s) (ne : path ≠ []) :
    segmentsOf kind (['/'].intercalate (path.map String.toList) ++ tailChars query fragment) =
      path.map String.toList := by
  rw [segmentsOf, takePath_append (fun c => plain_of_mem_intercalate h) fun _ => of_head?_tailChars,
    splitSegments_intercalate h ne]

/-- A query and a fragment are read back from the text behind a path. -/
theorem withSegments_intercalate (authority : Option Authority) (place : List String)
    (h : ∀ s ∈ path, IsSegment kind s) (isTail : IsTail (schemeKind scheme) query fragment) :
    withSegments scheme authority place
        (['/'].intercalate (path.map String.toList) ++ tailChars query fragment) =
      ⟨scheme, authority, .segments (tidied (schemeKind scheme) place), query, fragment⟩ := by
  rw [withSegments, takePath_append (fun c => plain_of_mem_intercalate h) fun _ => of_head?_tailChars]
  exact withTail_tailChars isTail

/-- Segments, a query and a fragment are read back from their text, behind a place. -/
theorem withPath_intercalate (h : ∀ s ∈ path, IsSegment (schemeKind scheme) s) (ne : path ≠ [])
    (drive : schemeKind scheme = .file → place = [] → ∀ s ∈ path.head?, isDrive s.toList = false)
    (isTail : IsTail (schemeKind scheme) query fragment) :
    withPath scheme authority place
        (['/'].intercalate (path.map String.toList) ++ tailChars query fragment) =
      ⟨scheme, authority, .segments (tidied (schemeKind scheme) (place ++ path)), query, fragment⟩ := by
  rw [withPath, segmentsOf_intercalate h ne, walk_toList h drive,
    withSegments_intercalate _ _ h isTail]

/-- Segments are a path with the query and the fragment that follow. -/
theorem exists_withSegments (authority : Option Authority)
    (segments : ∀ s ∈ path, IsSegment (schemeKind scheme) s) (ne : path ≠ []) (cs : List Char) :
    ∃ tidy query fragment,
      withSegments scheme authority path cs =
        ⟨scheme, authority, .segments tidy, query, fragment⟩ ∧
      IsPath (schemeKind scheme) tidy ∧ IsTail (schemeKind scheme) query fragment := by
  obtain ⟨query, fragment, tail, isTail⟩ := exists_withTail
    ⟨scheme, authority, .segments (tidied (schemeKind scheme) path), none, none⟩ (takePath cs).2
  exact ⟨_, query, fragment, tail, isPath_tidied segments ne, isTail⟩

theorem isSlash_of_mem_segmentsOf (mem : segment ∈ segmentsOf kind cs) (hc : c ∈ segment) :
    isSlash kind c = false :=
  isSlash_of_mem_splitSegments mem hc

theorem segmentsOf_ne_nil (kind : SchemeKind) (cs : List Char) : segmentsOf kind cs ≠ [] :=
  Text.pieces_ne_nil _ _

end RuntimeMux.Url
