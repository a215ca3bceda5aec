import Mathlib.Data.List.Forall2
import Mathlib.Data.List.Induction
import Mathlib.Data.List.TakeWhile
import Mathlib.Data.Nat.Digits.Defs
import RuntimeMux.Proofs.Text.Cuts
import RuntimeMux.Proofs.Text.Numbers
import RuntimeMux.Url.Host

/-!
# Addresses of hosts

The text of an IPv4 or IPv6 address is read back as the address. For IPv6 this is so although the
text leaves out the longest run of zeros: what is missing between the two parts that are written are
zeros, as many as belong there.
-/

namespace RuntimeMux.Url

/-- A list is read if all its elements are. -/
theorem mapM_eq_some_iff {α β : Type} {f : α → Option β} {xs : List α} {ys : List β} :
    xs.mapM f = some ys ↔ List.Forall₂ (fun x y => f x = some y) xs ys := by
  induction xs generalizing ys with
  | nil => simp [eq_comm]
  | cons x xs ih =>
    simp only [List.mapM_cons, Option.bind_eq_bind, Option.bind_eq_some_iff, ih, Option.pure_def,
      Option.some.injEq, List.forall₂_cons_left_iff]
    constructor
    · rintro ⟨y, hy, ys, hys, rfl⟩
      exact ⟨y, ys, hy, hys, rfl⟩
    · rintro ⟨y, ys, hy, hys, rfl⟩
      exact ⟨y, hy, ys, hys, rfl⟩

/-- A list is read back from what its elements are written as. -/
theorem mapM_map_eq_some {α β : Type} {read : β → Option α} {write : α → β} {xs : List α}
    (h : ∀ x ∈ xs, read (write x) = some x) : (xs.map write).mapM read = some xs := by
  rw [mapM_eq_some_iff, List.forall₂_map_left_iff, List.forall₂_same]
  exact h

theorem exists_of_mapM_eq_some {α β : Type} {f : α → Option β} {xs : List α} {ys : List β} {y : β}
    (h : xs.mapM f = some ys) (mem : y ∈ ys) : ∃ x ∈ xs, f x = some y := by
  induction mapM_eq_some_iff.1 h with
  | nil => cases mem
  | cons hxy rest ih =>
    rcases List.mem_cons.1 mem with rfl | mem
    · exact ⟨_, List.mem_cons_self, hxy⟩
    · obtain ⟨x, hx, hxy⟩ := ih (mapM_eq_some_iff.2 rest) mem
      exact ⟨x, List.mem_cons_of_mem _ hx, hxy⟩

/-! ### Numbers in a base -/

variable {base n : Nat} {c : Char} {cs : List Char}

theorem numberIn?_append_singleton (base : Nat) (cs : List Char) (c : Char) :
    numberIn? base (cs ++ [c]) = (numberIn? base cs).bind fun n => (Text.hexValue? c).bind fun d =>
      if d < base then some (base * n + d) else none := by
  simp [numberIn?, List.foldlM_append]

theorem numberIn?_lt (h : numberIn? base cs = some n) : n < base ^ cs.length := by
  induction cs using List.reverseRecOn generalizing n with
  | nil =>
    simp only [numberIn?, List.foldlM_nil, Option.pure_def, Option.some.injEq] at h
    simp [← h]
  | append_singleton cs c ih =>
    rw [numberIn?_append_singleton] at h
    simp only [Option.bind_eq_some_iff, Option.ite_none_right_eq_some, Option.some.injEq] at h
    obtain ⟨m, hm, d, -, hd, rfl⟩ := h
    calc base * m + d < base * (m + 1) := by
          rw [Nat.mul_add_one]
          omega
      _ ≤ base * base ^ cs.length := Nat.mul_le_mul_left _ (ih hm)
      _ = base ^ (cs ++ [c]).length := by
          rw [List.length_append, List.length_singleton, Nat.pow_succ']

theorem hexValue?_digitChar : ∀ d < 16, Text.hexValue? (Nat.digitChar d) = some d := by
  decide

/-- A number is read back from its digits. -/
theorem numberIn?_toDigits (low : 1 < base) (high : base ≤ 16) (n : Nat) :
    numberIn? base (Nat.toDigits base n) = some n := by
  induction n using Nat.strongRecOn with
  | ind n ih =>
    have last : ∀ d < base, Text.hexValue? (Nat.digitChar d) = some d :=
      fun d hd => hexValue?_digitChar d (by omega)
    rw [Nat.toDigits_eq_if low]
    split
    next small => simp [numberIn?, last n small, small]
    next large =>
      have smaller : n / base < n := Nat.div_lt_self (by omega) low
      have bounded : n % base < base := Nat.mod_lt n (by omega)
      rw [numberIn?_append_singleton, ih _ smaller, Option.bind_some, last _ bounded,
        Option.bind_some, if_pos bounded, Nat.div_add_mod]

/-- The digits of numbers in base sixteen. -/
def hexDigits : List Char := "0123456789abcdef".toList

theorem digitChar_mem_hexDigits : ∀ d < 16, Nat.digitChar d ∈ hexDigits := by
  decide

theorem mem_hexDigits_of_mem_toDigits (low : 1 < base) (high : base ≤ 16)
    (h : c ∈ Nat.toDigits base n) : c ∈ hexDigits := by
  induction n using Nat.strongRecOn with
  | ind n ih =>
    rw [Nat.toDigits_eq_if low] at h
    split at h
    next small =>
      obtain rfl := List.mem_singleton.1 h
      exact digitChar_mem_hexDigits n (by omega)
    next large =>
      rcases List.mem_append.1 h with h | h
      · exact ih _ (Nat.div_lt_self (by omega) low) h
      · obtain rfl := List.mem_singleton.1 h
        have bounded : n % base < base := Nat.mod_lt n (by omega)
        exact digitChar_mem_hexDigits _ (by omega)

theorem hexDigit_eq_digitChar : ∀ d < 16, Text.hexDigit d = Nat.digitChar d := by
  decide

theorem reverse_hexNumber_go {fuel : Nat} (h : n ≤ fuel) :
    (Text.hexNumber.go fuel n).reverse = Nat.toDigits 16 n := by
  induction fuel generalizing n with
  | zero =>
    obtain rfl : n = 0 := by omega
    decide
  | succ fuel ih =>
    rw [Text.hexNumber.go, Nat.toDigits_eq_if (by decide)]
    split
    next small => rw [hexDigit_eq_digitChar n small, List.reverse_singleton]
    next large =>
      rw [List.reverse_cons, ih (by omega), hexDigit_eq_digitChar _ (Nat.mod_lt _ (by decide))]

theorem hexNumber_eq_toDigits (n : Nat) : Text.hexNumber n = Nat.toDigits 16 n :=
  reverse_hexNumber_go le_rfl

/-! ### IPv4 addresses -/

/-- The four numbers of an IPv4 address. -/
def octets (address : Nat) : List Nat :=
  ipv4Places.map fun place => address / place % 256

theorem lt_of_mem_octets {address : Nat} (h : n ∈ octets address) : n < 256 := by
  obtain ⟨place, -, rfl⟩ := List.mem_map.1 h
  exact Nat.mod_lt _ (by decide)

theorem toList_ipv4Text (address : Nat) :
    (ipv4Text address).toList = ['.'].intercalate ((octets address).map (Nat.toDigits 10)) := by
  rw [ipv4Text, String.toList_intercalate, octets, List.map_map, List.map_map]
  congr 1
  refine List.map_congr_left fun place _ => ?_
  simp

theorem dot_notMem_toDigits (low : 1 < base) (high : base ≤ 16) (n : Nat) :
    '.' ∉ Nat.toDigits base n :=
  fun mem => absurd (mem_hexDigits_of_mem_toDigits low high mem) (by decide)

theorem dottedParts_ipv4Text (address : Nat) :
    dottedParts (ipv4Text address).toList = (octets address).map (Nat.toDigits 10) := by
  have parts : Text.pieces '.' (ipv4Text address).toList =
      (octets address).map (Nat.toDigits 10) := by
    rw [toList_ipv4Text, Text.pieces_intercalate]
    · intro p mem
      obtain ⟨n, -, rfl⟩ := List.mem_map.1 mem
      exact dot_notMem_toDigits (by decide) (by decide) n
    · simp [octets, ipv4Places]
  have last : ((octets address).map (Nat.toDigits 10)).getLast? ≠ some [] := by
    simp [octets, ipv4Places, Nat.toDigits_ne_nil]
  rw [dottedParts, parts, if_neg (fun h => last h.2)]

theorem ipv4Number?_toDigits : ∀ n < 256, ipv4Number? (Nat.toDigits 10 n) = some n := by
  decide +kernel

theorem ipv4?_ipv4Text {address : Nat} (h : address < 2 ^ 32) :
    ipv4? (ipv4Text address).toList = some address := by
  have numbers : ((octets address).map (Nat.toDigits 10)).mapM ipv4Number? =
      some (octets address) :=
    mapM_map_eq_some fun n mem => ipv4Number?_toDigits n (lt_of_mem_octets mem)
  have last : address % 256 < 256 := Nat.mod_lt _ (by decide)
  simp only [ipv4?, dottedParts_ipv4Text, numbers]
  simp [octets, ipv4Places, Nat.mod_lt]
  omega

/-- Numbers in front of the last one leave room for it. The places are variables so that their
powers of 256 are not unfolded. -/
theorem foldl_places_lt {places ns : List Nat} {p q r place last : Nat} (hp : p = 256 * q)
    (hq : q = 256 * r) (hr : r = 256) (whole : places = [p, q, r, 1])
    (hplace : places[ns.length]? = some place) (small : last < 256 * place)
    (front : ∀ n ∈ ns, n < 256) :
    (ns.zip places).foldl (fun n (part, place) => n + part * place) last < 256 * p := by
  subst whole
  rcases ns with _ | ⟨a, _ | ⟨b, _ | ⟨c, _ | ⟨d, ns⟩⟩⟩⟩
  · obtain rfl : p = place := Option.some.inj hplace
    exact small
  · obtain rfl : q = place := Option.some.inj hplace
    have ha := front a (by simp)
    simp only [List.zip_cons_cons, List.zip_nil_left, List.foldl_cons, List.foldl_nil]
    subst hr hq hp
    omega
  · obtain rfl : r = place := Option.some.inj hplace
    have ha := front a (by simp)
    have hb := front b (by simp)
    simp only [List.zip_cons_cons, List.zip_nil_left, List.foldl_cons, List.foldl_nil]
    subst hr hq hp
    omega
  · obtain rfl : 1 = place := Option.some.inj hplace
    have ha := front a (by simp)
    have hb := front b (by simp)
    have hc := front c (by simp)
    simp only [List.zip_cons_cons, List.zip_nil_left, List.foldl_cons, List.foldl_nil]
    subst hr hq hp
    omega
  · cases hplace

theorem ipv4?_lt {address : Nat} (h : ipv4? cs = some address) : address < 2 ^ 32 := by
  simp only [ipv4?, Option.bind_eq_bind, Option.ite_none_left_eq_some, Option.bind_eq_some_iff,
    Option.ite_none_right_eq_some, Option.some.injEq] at h
  obtain ⟨-, numbers, -, last, -, place, hplace, ⟨small, front⟩, rfl⟩ := h
  exact foldl_places_lt (q := 65536) (r := 256) rfl rfl rfl rfl hplace small (by simpa using front)

theorem endsInNumber_ipv4Text (address : Nat) :
    endsInNumber (ipv4Text address).toList = true := by
  have last : ((octets address).map (Nat.toDigits 10)).getLast? =
      some (Nat.toDigits 10 (address % 256)) := by
    simp [octets, ipv4Places]
  rw [endsInNumber, dottedParts_ipv4Text, last]
  simp only [Bool.or_eq_true, Bool.and_eq_true, Bool.not_eq_true', List.isEmpty_eq_false_iff,
    List.all_eq_true, Text.isSome_digitValue?_iff]
  exact .inl ⟨Nat.toDigits_ne_nil, fun c => Nat.isDigit_of_mem_toDigits (by decide) (by decide)⟩

/-! ### IPv6 addresses -/

/-- Whether numbers are the pieces of an IPv6 address. -/
structure IsIpv6 (pieces : List Nat) : Prop where
  length : pieces.length = 8
  small : ∀ n ∈ pieces, n < 65536

variable {pieces : List Nat} {parts : List (List Char)}

theorem mem_hexDigits_of_mem_hexNumber (h : c ∈ Text.hexNumber n) : c ∈ hexDigits := by
  rw [hexNumber_eq_toDigits] at h
  exact mem_hexDigits_of_mem_toDigits (by decide) le_rfl h

theorem hexNumber_ne_nil (n : Nat) : Text.hexNumber n ≠ [] := by
  rw [hexNumber_eq_toDigits]
  exact Nat.toDigits_ne_nil

theorem ipv6Piece?_hexNumber (h : n < 65536) : ipv6Piece? (Text.hexNumber n) = some n := by
  have ne := hexNumber_ne_nil n
  rw [hexNumber_eq_toDigits] at ne ⊢
  have short : (Nat.toDigits 16 n).length ≤ 4 := Nat.toDigits_length 16 n 4 (by decide) h
  rw [ipv6Piece?, if_neg (by simp [ne, short]), numberIn?_toDigits (by decide) le_rfl]

theorem toList_colonText (pieces : List Nat) :
    (colonText pieces).toList = [':'].intercalate (pieces.map Text.hexNumber) := by
  rw [colonText, String.toList_intercalate, List.map_map]
  congr 1
  exact List.map_congr_left fun n _ => String.toList_ofList

theorem of_mem_colonText (h : c ∈ (colonText pieces).toList) : c = ':' ∨ c ∈ hexDigits := by
  rw [toList_colonText] at h
  refine (Text.of_mem_intercalate h).imp_right fun ⟨p, mem, hc⟩ => ?_
  obtain ⟨n, -, rfl⟩ := List.mem_map.1 mem
  exact mem_hexDigits_of_mem_hexNumber hc

/-- Parts between colons: none of them is empty, and none has a colon itself. -/
def AreColonParts (parts : List (List Char)) : Prop :=
  ∀ p ∈ parts, p ≠ [] ∧ ':' ∉ p

theorem areColonParts_hexNumber (pieces : List Nat) :
    AreColonParts (pieces.map Text.hexNumber) := by
  intro p mem
  obtain ⟨n, -, rfl⟩ := List.mem_map.1 mem
  exact ⟨hexNumber_ne_nil n,
    fun mem => absurd (mem_hexDigits_of_mem_hexNumber mem) (by decide)⟩

theorem ipv6Pieces?_colonText (small : ∀ n ∈ pieces, n < 65536) :
    ipv6Pieces? (colonText pieces).toList = some pieces := by
  rcases List.eq_nil_or_concat pieces with rfl | ⟨front, last, rfl⟩
  · rfl
  · rw [List.concat_eq_append] at small ⊢
    have parts := areColonParts_hexNumber (front ++ [last])
    have cut : Text.pieces ':' (colonText (front ++ [last])).toList =
        front.map Text.hexNumber ++ [Text.hexNumber last] := by
      rw [toList_colonText, Text.pieces_intercalate (fun p mem => (parts p mem).2) (by simp)]
      simp
    have ne : (colonText (front ++ [last])).toList.isEmpty = false := by
      rw [List.isEmpty_eq_false_iff]
      intro empty
      rw [empty] at cut
      have lasts := congrArg List.getLast? cut
      simp only [Text.pieces, List.getLast?_singleton, List.getLast?_concat,
        Option.some.injEq] at lasts
      exact hexNumber_ne_nil last lasts.symm
    have plain : '.' ∉ Text.hexNumber last :=
      fun mem => absurd (mem_hexDigits_of_mem_hexNumber mem) (by decide)
    have read : (front.map Text.hexNumber).mapM ipv6Piece? = some front :=
      mapM_map_eq_some fun n mem => ipv6Piece?_hexNumber (small n (List.mem_append_left _ mem))
    have readLast := ipv6Piece?_hexNumber (small last (List.mem_append_right _ (.head _)))
    simp [ipv6Pieces?, ne, cut, read, plain, readLast]

/-! #### The double colon -/

theorem cutDoubleColon?_cons_of_ne (h : c ≠ ':') (cs : List Char) :
    cutDoubleColon? (c :: cs) =
      (cutDoubleColon? cs).map fun (before, after) => (c :: before, after) := by
  rw [cutDoubleColon?.eq_def]
  split
  next same =>
    obtain ⟨rfl, -⟩ := List.cons.inj same
    exact absurd rfl h
  next same =>
    obtain ⟨rfl, rfl⟩ := List.cons.inj same
    rfl
  next same => cases same

theorem cutDoubleColon?_colon_cons (h : c ≠ ':') (cs : List Char) :
    cutDoubleColon? (':' :: c :: cs) =
      (cutDoubleColon? (c :: cs)).map fun (before, after) => (':' :: before, after) := by
  rw [cutDoubleColon?.eq_def]
  split
  next same =>
    obtain ⟨rfl, -⟩ := List.cons.inj (List.cons.inj same).2
    exact absurd rfl h
  next same =>
    obtain ⟨rfl, rfl⟩ := List.cons.inj same
    rfl
  next same => cases same

theorem cutDoubleColon?_append (h : ':' ∉ cs) (rest : List Char) :
    cutDoubleColon? (cs ++ rest) =
      (cutDoubleColon? rest).map fun (before, after) => (cs ++ before, after) := by
  induction cs with
  | nil => simp
  | cons c cs ih =>
    obtain ⟨hc, hcs⟩ := List.ne_and_not_mem_of_not_mem_cons h
    rw [List.cons_append, cutDoubleColon?_cons_of_ne hc.symm, ih hcs, Option.map_map]
    rfl

/-- Parts between colons are passed over. -/
theorem cutDoubleColon?_intercalate_append (h : AreColonParts parts) (rest : List Char) :
    cutDoubleColon? ([':'].intercalate parts ++ rest) =
      (cutDoubleColon? rest).map fun (before, after) =>
        ([':'].intercalate parts ++ before, after) := by
  induction parts with
  | nil => simp
  | cons p parts ih =>
    obtain ⟨⟨ne, plain⟩, h⟩ := List.forall_mem_cons.1 h
    cases parts with
    | nil => simpa using cutDoubleColon?_append plain rest
    | cons q parts =>
      have ih := ih h
      obtain ⟨c, cs, hq⟩ := List.exists_cons_of_ne_nil (h q List.mem_cons_self).1
      have hc : c ≠ ':' := by
        rintro rfl
        exact (h q List.mem_cons_self).2 (hq ▸ List.mem_cons_self)
      obtain ⟨tail, htail⟩ : ∃ tail, [':'].intercalate (q :: parts) = c :: tail := by
        cases parts with
        | nil => exact ⟨cs, by simpa using hq⟩
        | cons r parts => exact ⟨cs ++ ':' :: [':'].intercalate (r :: parts), by simp [hq]⟩
      rw [htail] at ih
      rw [List.intercalate_cons_cons, htail, List.append_assoc, List.append_assoc,
        cutDoubleColon?_append plain, List.singleton_append, List.cons_append,
        cutDoubleColon?_colon_cons hc, ← List.cons_append, ih, Option.map_map, Option.map_map]
      simp [Function.comp_def]

/-! #### The longest zeros -/

theorem drop_eq_zeros_append (h : n ≤ leadingZeros pieces) :
    pieces = List.replicate n 0 ++ pieces.drop n := by
  have front : pieces.take n = List.replicate n 0 := by
    have zeros : ∀ m ∈ pieces.takeWhile (· == 0), m = 0 := by
      intro m mem
      simpa using List.mem_takeWhile_imp mem
    have isPrefix : pieces.take n = (pieces.takeWhile (· == 0)).take n := by
      conv_lhs => rw [← List.takeWhile_append_dropWhile (p := (· == 0)) (l := pieces)]
      exact List.take_append_of_le_length h
    rw [isPrefix, List.eq_replicate_iff]
    exact ⟨by rw [List.length_take]; exact min_eq_left h,
      fun m mem => zeros m (List.mem_of_mem_take mem)⟩
  rw [← front, List.take_append_drop]

/-- Where the longest run of zeros starts, there are as many zeros as it has. -/
theorem longestZeros_le (pieces : List Nat) :
    (longestZeros pieces).2 ≤ leadingZeros (pieces.drop (longestZeros pieces).1) := by
  have step : ∀ (places : List Nat) (best : Nat × Nat), best.2 ≤ leadingZeros (pieces.drop best.1) →
      let best := places.foldl (fun best i =>
        let n := leadingZeros (pieces.drop i)
        if best.2 < n then (i, n) else best) best
      best.2 ≤ leadingZeros (pieces.drop best.1) := by
    intro places
    induction places with
    | nil => exact fun best h => h
    | cons i places ih =>
      intro best h
      refine ih _ ?_
      dsimp only
      split
      · exact le_rfl
      · exact h
  exact step _ _ (Nat.zero_le _)

/-- The text of an IPv6 address is read back. -/
theorem ipv6?_ipv6Text (h : IsIpv6 pieces) : ipv6? (ipv6Text pieces).toList = some pieces := by
  obtain ⟨start, n, run⟩ : ∃ start n, longestZeros pieces = (start, n) := ⟨_, _, rfl⟩
  have zeros := longestZeros_le pieces
  rw [run] at zeros
  by_cases short : n < 2
  · have whole : cutDoubleColon? (colonText pieces).toList = none := by
      have cut := cutDoubleColon?_intercalate_append (areColonParts_hexNumber pieces) []
      rw [List.append_nil] at cut
      rw [toList_colonText, cut]
      rfl
    have text : ipv6Text pieces = colonText pieces := by simp [ipv6Text, run, short]
    rw [text]
    simp [ipv6?, whole, ipv6Pieces?_colonText h.small, h.length]
  · have split : pieces =
        pieces.take start ++ List.replicate n 0 ++ pieces.drop (start + n) := by
      conv_lhs => rw [← List.take_append_drop start pieces, drop_eq_zeros_append zeros]
      rw [List.append_assoc, List.drop_drop]
    have text : (ipv6Text pieces).toList = (colonText (pieces.take start)).toList ++
        ':' :: ':' :: (colonText (pieces.drop (start + n))).toList := by
      simp [ipv6Text, run, short]
    have cut : cutDoubleColon? (ipv6Text pieces).toList =
        some ((colonText (pieces.take start)).toList,
          (colonText (pieces.drop (start + n))).toList) := by
      rw [text, toList_colonText,
        cutDoubleColon?_intercalate_append (areColonParts_hexNumber (pieces.take start))]
      simp [cutDoubleColon?]
    have front : ipv6Pieces? (colonText (pieces.take start)).toList = some (pieces.take start) :=
      ipv6Pieces?_colonText fun m mem => h.small m (List.mem_of_mem_take mem)
    have back : ipv6Pieces? (colonText (pieces.drop (start + n))).toList =
        some (pieces.drop (start + n)) :=
      ipv6Pieces?_colonText fun m mem => h.small m (List.mem_of_mem_drop mem)
    have plain : '.' ∉ (colonText (pieces.take start)).toList := fun mem =>
      (of_mem_colonText mem).elim (absurd · (by decide)) (absurd · (by decide))
    have missing : 8 - ((pieces.take start).length + (pieces.drop (start + n)).length) = n := by
      have := congrArg List.length split
      simp only [List.length_append, List.length_replicate, h.length] at this
      omega
    simp only [ipv6?, cut, front, back, Option.bind_eq_bind, Option.bind_some, List.contains_eq_mem,
      plain, decide_false, Bool.false_eq_true, if_false, missing]
    rw [if_pos (by omega), ← split]

/-! #### What is read -/

theorem ipv6Piece?_lt (h : ipv6Piece? cs = some n) : n < 65536 := by
  simp only [ipv6Piece?, Option.ite_none_left_eq_some, not_or, not_lt] at h
  obtain ⟨⟨-, short⟩, number⟩ := h
  calc n < 16 ^ cs.length := numberIn?_lt number
    _ ≤ 16 ^ 4 := Nat.pow_le_pow_right (by decide) short

theorem ipv4Tail?_lt (h : ipv4Tail? cs = some pieces) : ∀ n ∈ pieces, n < 65536 := by
  simp only [ipv4Tail?, Option.bind_eq_bind, Option.bind_eq_some_iff] at h
  obtain ⟨numbers, read, h⟩ := h
  have small : ∀ n ∈ numbers, n < 256 := by
    intro n mem
    obtain ⟨p, -, hp⟩ := exists_of_mapM_eq_some read mem
    simp only [Option.bind_eq_some_iff, Option.ite_none_right_eq_some, Option.some.injEq] at hp
    obtain ⟨m, -, ⟨hm, -⟩, rfl⟩ := hp
    exact hm
  split at h
  next a b c d =>
    obtain rfl := Option.some.inj h
    simp only [List.forall_mem_cons] at small ⊢
    exact ⟨by omega, by omega, nofun⟩
  next => cases h

theorem ipv6Pieces?_lt (h : ipv6Pieces? cs = some pieces) : ∀ n ∈ pieces, n < 65536 := by
  rw [ipv6Pieces?] at h
  split at h
  next =>
    obtain rfl := Option.some.inj h
    exact nofun
  next =>
    simp only [Option.bind_eq_bind, Option.bind_eq_some_iff] at h
    obtain ⟨last, -, front, read, h⟩ := h
    have small : ∀ n ∈ front, n < 65536 := by
      intro n mem
      obtain ⟨p, -, hp⟩ := exists_of_mapM_eq_some read mem
      exact ipv6Piece?_lt hp
    split at h
    · obtain ⟨tail, htail, same⟩ := Option.bind_eq_some_iff.1 h
      obtain rfl := Option.some.inj same
      exact List.forall_mem_append.2 ⟨small, ipv4Tail?_lt htail⟩
    · obtain ⟨n, hn, same⟩ := Option.bind_eq_some_iff.1 h
      obtain rfl := Option.some.inj same
      exact List.forall_mem_append.2 ⟨small, List.forall_mem_singleton.2 (ipv6Piece?_lt hn)⟩

/-- What is read as an IPv6 address has eight pieces of sixteen bits. -/
theorem isIpv6_of_ipv6? (h : ipv6? cs = some pieces) : IsIpv6 pieces := by
  rw [ipv6?] at h
  split at h
  next =>
    simp only [Option.bind_eq_bind, Option.bind_eq_some_iff, Option.ite_none_right_eq_some,
      Option.some.injEq] at h
    obtain ⟨_, read, length, rfl⟩ := h
    exact ⟨length, ipv6Pieces?_lt read⟩
  next before after _ =>
    split at h
    next => cases h
    next =>
      simp only [Option.bind_eq_bind, Option.bind_eq_some_iff, Option.ite_none_right_eq_some,
        Option.some.injEq] at h
      obtain ⟨front, hfront, back, hback, missing, rfl⟩ := h
      refine ⟨?_, ?_⟩
      · simp only [List.length_append, List.length_replicate]
        omega
      · refine List.forall_mem_append.2 ⟨List.forall_mem_append.2 ⟨ipv6Pieces?_lt hfront, ?_⟩,
          ipv6Pieces?_lt hback⟩
        intro n mem
        rw [List.eq_of_mem_replicate mem]
        decide

end RuntimeMux.Url
