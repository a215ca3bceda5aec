import Mathlib.Algebra.Order.BigOperators.Group.List
import Mathlib.Algebra.Order.Group.Nat
import RuntimeMux.Proofs.Wire.Contents

/-!
# Fields that are read back

What spells a field of a message puts the value of the field into any message without one that it is
read into, field by field on the wire, and leaves the other fields as they are. There is one law for
each kind of fields. A message also takes no more bytes than another message if none of its fields
does.
-/

namespace RuntimeMux.TextMap

/-! ### Maps in any order -/

theorem eq_of_entries {a b : TextMap} (h : a.entries = b.entries) : a = b := by
  cases a
  cases b
  cases h
  rfl

theorem perm_insertEntry {key : String} (value : String) {l : List (String × String)}
    (fresh : ∀ e ∈ l, e.1 ≠ key) : (insertEntry key value l).Perm ((key, value) :: l) := by
  induction l with
  | nil => exact .refl _
  | cons e l ih =>
    obtain ⟨first, rest⟩ := List.forall_mem_cons.1 fresh
    simp only [insertEntry, if_neg first.symm]
    split
    · exact .refl _
    · exact ((ih rest).cons e).trans (.swap ..)

/-- The order in which entries with distinct keys are put into a map does not matter. -/
theorem ofList_eq_of_perm {entries : List (String × String)} {m : TextMap}
    (same : entries.Perm m.entries) : ofList entries = m := by
  have inserted (l : List (String × String)) (acc : TextMap)
      (distinct : (acc.entries ++ l).Pairwise fun a b => a.1 ≠ b.1) :
      (l.foldl (fun n e => n.insert e.1 e.2) acc).entries.Perm (acc.entries ++ l) := by
    induction l generalizing acc with
    | nil => simp
    | cons e l ih =>
      have fresh : ∀ d ∈ acc.entries, d.1 ≠ e.1 := fun d hd =>
        (List.pairwise_append.1 distinct).2.2 d hd e List.mem_cons_self
      have put : (acc.insert e.1 e.2).entries.Perm (e :: acc.entries) := perm_insertEntry e.2 fresh
      have moved : ((acc.insert e.1 e.2).entries ++ l).Perm (acc.entries ++ e :: l) :=
        (put.append_right l).trans List.perm_middle.symm
      exact (ih _ (moved.symm.pairwise distinct Ne.symm)).trans moved
  have distinct : entries.Pairwise fun a b => a.1 ≠ b.1 :=
    same.symm.pairwise (m.ascending.imp String.ne_of_lt) Ne.symm
  refine eq_of_entries (List.Perm.eq_of_pairwise ?_ (ofList entries).ascending m.ascending
    ((inserted entries .empty distinct).trans same))
  exact fun a b _ _ lt gt => absurd gt (String.lt_asymm lt)

end RuntimeMux.TextMap

namespace RuntimeMux.Wire

/-! ### Lengths -/

namespace Field

variable {M : Type} {tag : Nat} {name : String} {m n : M}

/-- A shorter text takes no more bytes. -/
theorem length_write_one_le {get : M → String} {set : String → M → M}
    (shorter : (get m).utf8ByteSize ≤ (get n).utf8ByteSize)
    (short : ((Field.one tag name get set).write n).length < UInt64.size) :
    ((Field.one tag name get set).write m).length ≤
      ((Field.one tag name get set).write n).length := by
  have size (text : String) : (bytesOfText text).length = text.utf8ByteSize := rfl
  simp only [Field.one, Scalar.isBlank, Scalar.write] at short ⊢
  split
  next => simp
  next hm =>
    have hn : ¬ (get n).isEmpty = true := by
      simp only [String.isEmpty, beq_iff_eq] at hm ⊢
      omega
    simp only [if_neg hn, List.length_append] at short ⊢
    have := length_le_delimit (bytesOfText (get n))
    have := length_delimit_le (a := bytesOfText (get m)) (b := bytesOfText (get n))
      (by rwa [size, size]) (by omega)
    omega

/-- A message takes no more bytes than another one if its part does. -/
theorem length_write_message_le {N : Type} [Message N] {get : M → Option N}
    {set : Option N → M → M} {f : N → N} (part : get m = (get n).map f)
    (shorter : ∀ x, get n = some x → (Message.encode x).length < UInt64.size →
      (Message.encode (f x)).length ≤ (Message.encode x).length)
    (short : ((Field.message tag name get set).write n).length < UInt64.size) :
    ((Field.message tag name get set).write m).length ≤
      ((Field.message tag name get set).write n).length := by
  simp only [Field.message, part] at short ⊢
  cases hx : get n with
  | none => simp
  | some x =>
    simp only [hx, Option.map_some, List.length_append] at short ⊢
    have := length_le_delimit (Message.encode x)
    have := length_delimit_le (shorter x hx (by omega)) (by omega)
    omega

end Field

variable {M : Type} [Message M]

theorem Message.length_write_le {f : Field M} (declared : f ∈ fields) (m : M) :
    (f.write m).length ≤ (encode m).length := by
  rw [encode, List.flatMap_def]
  have part : f.write m ∈ fields.map fun g => g.write m := List.mem_map_of_mem declared
  exact (List.sublist_flatten_of_mem part).length_le

/-- A message takes no more bytes than another one if none of its fields does. -/
theorem Message.length_encode_le {m n : M} (short : (encode n).length < UInt64.size)
    (shorter : ∀ f ∈ fields, (f.write n).length < UInt64.size →
      (f.write m).length ≤ (f.write n).length) :
    (encode m).length ≤ (encode n).length := by
  simp only [encode, List.length_flatMap]
  exact List.sum_le_sum fun f hf =>
    shorter f hf (Nat.lt_of_le_of_lt (length_write_le hf n) short)

/-! ### Declared fields -/

/-- A field is the one that its tag stands for. -/
structure Field.Declared (f : Field M) : Prop where
  low : 0 < f.tag
  high : f.tag < 536870912
  found : (Message.fields (M := M)).find? (fun g => g.tag == f.tag) = some f

/-- Fields are told apart by their tags. -/
theorem Field.find?_eq {M : Type} {fs : List (Field M)} (distinct : (fs.map Field.tag).Nodup)
    {f : Field M} (mem : f ∈ fs) : fs.find? (fun g => g.tag == f.tag) = some f := by
  induction fs with
  | nil => cases mem
  | cons g fs ih =>
    obtain ⟨fresh, distinct⟩ := List.nodup_cons.1 distinct
    rcases List.mem_cons.1 mem with rfl | mem
    · exact List.find?_cons_of_pos (beq_self_eq_true _)
    · have other : g.tag ≠ f.tag := fun same => fresh (same ▸ List.mem_map_of_mem mem)
      rw [List.find?_cons_of_neg (by simpa using other)]
      exact ih distinct mem

/-- The laws of a part that can be read and set. -/
structure Lens {σ α : Type} (get : σ → α) (set : α → σ → σ) : Prop where
  set_get : ∀ s, set (get s) s = s := by exact fun _ => rfl
  get_set : ∀ x s, get (set x s) = x := by exact fun _ _ => rfl
  set_set : ∀ x y s, set y (set x s) = set y s := by exact fun _ _ _ => rfl

/-- Parts in a row are added to a list one after the other. -/
theorem Chains.list {σ α : Type} {R : Bytes → σ → σ → Prop} (chains : Chains R)
    {part : α → Bytes → Prop} {get : σ → List α} {set : List α → σ → σ} {s : σ}
    (lens : Lens get set) (vacant : get s = [])
    (once : ∀ (t : σ) (x : α) (bytes : Bytes), bytes.length < UInt64.size → part x bytes →
      R bytes t (set (get t ++ [x]) t))
    {xs : List α} {bytes : Bytes} (short : bytes.length < UInt64.size) (parts : InRow part xs bytes) :
    R bytes s (set xs s) := by
  have reads := chains.row (fun ys => set ys s) (fun ys x => ys ++ [x])
    (fun ys x bytes spells fits => by
      simpa only [lens.get_set, lens.set_set] using once (set ys s) x bytes fits spells)
    parts short []
  rwa [← vacant, lens.set_get, vacant, List.foldl_append_eq_append, List.nil_append,
    ← List.flatMap_def, List.flatMap_singleton'] at reads

namespace ReadsFields

variable {f : Field M} {tag budget : Nat} {name : String} {kind : Kind} {bytes : Bytes} {m acc : M}

/-- A value of a field is merged. -/
theorem merge (f : Field M) (declared : f.Declared) (laid : Key.Announces 1 ⟨f.tag, kind⟩ bytes)
    (merges : ∀ rest, f.merge budget kind (bytes ++ rest) acc = .ok (m, rest)) :
    ReadsFields (Message.mergeField budget) (Key.encode ⟨f.tag, kind⟩ ++ bytes) acc m := by
  refine .once ⟨_, bytes, Key.spells_encode declared.low declared.high, laid, rfl⟩
    (.once ?_ fun rest => ?_)
  · simp [Key.encode, Varint.encode_ne_nil]
  · have key := Key.decode_encode ⟨f.tag, kind⟩ (bytes ++ rest) declared.low declared.high
    rw [List.append_assoc, Message.mergeField, key]
    simp only [bind, Except.bind, declared.found, merges]
    rfl

/-- A field that holds one value. -/
theorem one {α : Type} [Scalar α] [LawfulScalar α] {get : M → α} {set : α → M → M}
    (declared : (Field.one tag name get set).Declared) (lens : Lens get set)
    (vacant : get acc = Scalar.blank) (short : bytes.length < UInt64.size)
    (spells : (Field.one tag name get set).spells m bytes) :
    ReadsFields (Message.mergeField budget) bytes acc (set (get m) acc) := by
  obtain rfl : bytes = (Field.one tag name get set).write m := spells
  simp only [Field.one] at short ⊢
  split
  next hb =>
    rw [LawfulScalar.eq_blank _ hb, ← vacant, lens.set_get]
    exact .nil acc
  next hb =>
    rw [if_neg hb, List.length_append] at short
    have laid := LawfulScalar.announces (get m) tag (by omega)
    refine merge (Field.one tag name get set) declared laid fun rest => ?_
    have read := LawfulScalar.read_write (get m) rest (by omega)
    simp only [Field.one, expectKind, if_true, bind, Except.bind, read]
    rfl

/-! ### Lists of values -/

/-- A field that holds any number of texts. -/
theorem texts {get : M → List String} {set : List String → M → M}
    (declared : (Field.texts tag name get set).Declared) (lens : Lens get set)
    (vacant : get acc = []) (short : bytes.length < UInt64.size)
    (spells : (Field.texts tag name get set).spells m bytes) :
    ReadsFields (Message.mergeField budget) bytes acc (set (get m) acc) := by
  obtain rfl : bytes = (Field.texts tag name get set).write m := spells
  refine chains.list lens vacant ?_ short (.flatMap (fun _ => rfl) (get m))
  rintro n text _ fits rfl
  rw [List.length_append] at fits
  have laid := LawfulScalar.announces text tag (by omega)
  refine merge (Field.texts tag name get set) declared laid fun rest => ?_
  have read := LawfulScalar.read_write text rest (by omega)
  simp only [Field.texts, expectKind, if_true, bind, Except.bind, read]
  rfl

/-- A field that holds any number of integers. -/
theorem packed {α : Type} [Scalar α] [LawfulScalar α] {get : M → List α} {set : List α → M → M}
    (declared : (Field.packed tag name get set).Declared) (lens : Lens get set)
    (vacant : get acc = []) (short : bytes.length < UInt64.size)
    (spells : (Field.packed tag name get set).spells m bytes) :
    ReadsFields (Message.mergeField budget) bytes acc (set (get m) acc) := by
  obtain rfl : bytes = (Field.packed tag name get set).write m := spells
  simp only [Field.packed] at short ⊢
  split
  next hb =>
    rw [List.isEmpty_iff.1 hb, ← vacant, lens.set_get]
    exact .nil acc
  next hb =>
    have shorter := length_le_delimit ((get m).flatMap Scalar.write)
    rw [if_neg hb, List.length_append] at short
    have fits : ((get m).flatMap Scalar.write).length < UInt64.size := by omega
    have laid := Key.announces_delimit tag fits
    refine merge (Field.packed tag name get set) declared laid fun rest => ?_
    simp only [Field.packed, if_true]
    refine Reads.readContents_delimit ?contents fits rest
    refine Reads.chains.list lens vacant ?_ fits (.flatMap (fun _ => rfl) (get m))
    rintro n x _ fits rfl
    refine .once (LawfulScalar.write_ne_nil x) fun rest => ?_
    have read := LawfulScalar.read_write x rest fits
    simp only [read, bind, Except.bind]
    rfl

end ReadsFields

/-! ### Messages within messages -/

/-- Messages come back from what spells them, within the budget. -/
def Message.Readable (N : Type) [Message N] (budget : Nat) : Prop :=
  ∀ (x : N) (bytes : Bytes), bytes.length < UInt64.size → Spells x bytes →
    Reads (mergeField budget) bytes blank x

namespace ReadsFields

variable {N : Type} [Message N] {tag budget : Nat} {name : String} {bytes : Bytes} {m acc : M}

/-- A message within another one is read behind its length. -/
theorem part {x : N} (readable : Message.Readable N budget) (short : bytes.length < UInt64.size)
    (spells : Field.spellsPart tag x bytes) :
    ∃ after, bytes = Key.encode ⟨tag, .delimited⟩ ++ after ∧
      Key.Announces 1 ⟨tag, .delimited⟩ after ∧ ∀ rest,
        readContents (Message.mergeField budget) (after ++ rest) Message.blank = .ok (x, rest) := by
  obtain ⟨contents, spells, rfl⟩ := spells
  have fits := length_le_delimit contents
  rw [List.length_append] at short
  exact ⟨_, rfl, Key.announces_delimit tag (by omega),
    (readable x contents (by omega) spells).readContents_delimit (by omega)⟩

/-- A field that may hold a message. -/
theorem message {get : M → Option N} {set : Option N → M → M}
    (declared : (Field.message tag name get set).Declared) (lens : Lens get set)
    (vacant : get acc = none) (readable : Message.Readable N budget)
    (short : bytes.length < UInt64.size) (spells : (Field.message tag name get set).spells m bytes) :
    ReadsFields (Message.mergeField (budget + 1)) bytes acc (set (get m) acc) := by
  simp only [Field.message] at spells
  cases hx : get m with
  | none =>
    simp only [hx] at spells
    rw [spells, ← vacant, lens.set_get]
    exact .nil acc
  | some x =>
    simp only [hx] at spells
    obtain ⟨after, rfl, laid, read⟩ := part readable short spells
    refine merge (Field.message tag name get set) declared laid fun rest => ?_
    simp only [Field.message, expectKind, if_true, bind, Except.bind, vacant, Option.getD_none, read]
    rfl

/-- A field that holds any number of messages. -/
theorem messages {get : M → List N} {set : List N → M → M}
    (declared : (Field.messages tag name get set).Declared) (lens : Lens get set)
    (vacant : get acc = []) (readable : Message.Readable N budget)
    (short : bytes.length < UInt64.size)
    (spells : (Field.messages tag name get set).spells m bytes) :
    ReadsFields (Message.mergeField (budget + 1)) bytes acc (set (get m) acc) := by
  refine chains.list lens vacant ?_ short spells
  intro n x bytes fits spells
  obtain ⟨after, rfl, laid, read⟩ := part readable fits spells
  refine merge (Field.messages tag name get set) declared laid fun rest => ?_
  simp only [Field.messages, expectKind, if_true, bind, Except.bind, read]
  rfl

end ReadsFields

/-! ### Maps -/

namespace Reads

variable {budget : Nat}

/-- A part of a map entry, which is left out if it is empty. -/
theorem entryPart {text : String} {s t : String × String} (tag : Nat) (blank : text = "" → s = t)
    (short : (if text.isEmpty then []
      else Key.encode ⟨tag, .delimited⟩ ++ Scalar.write text).length < UInt64.size)
    (merges : ∀ rest, Scalar.read (Scalar.write text ++ rest) = .ok (text, rest) →
      Field.mergeEntry budget (Key.encode ⟨tag, .delimited⟩ ++ (Scalar.write text ++ rest)) s =
        .ok (t, rest)) :
    Reads (Field.mergeEntry budget)
      (if text.isEmpty then [] else Key.encode ⟨tag, .delimited⟩ ++ Scalar.write text) s t := by
  split
  next hb =>
    rw [blank (by simpa using hb)]
    exact .nil t
  next hb =>
    rw [if_neg hb, List.length_append] at short
    refine .once ?_ fun rest => ?_
    · simp [Key.encode, Varint.encode_ne_nil]
    · rw [List.append_assoc]
      exact merges rest (LawfulScalar.read_write text rest (by omega))

theorem entry (budget : Nat) (e : String × String)
    (short : (Field.writeEntry e).length < UInt64.size) :
    Reads (Field.mergeEntry budget) (Field.writeEntry e) ("", "") e := by
  obtain ⟨key, value⟩ := e
  simp only [Field.writeEntry, List.length_append] at short
  have first : Reads (Field.mergeEntry budget) _ ("", "") (key, "") :=
    entryPart 1 (by simp +contextual) (Nat.lt_of_le_of_lt (Nat.le_add_right ..) short)
      fun rest read => by
        have decoded := Key.decode_encode ⟨1, .delimited⟩ (Scalar.write key ++ rest) (by decide)
          (by decide)
        simp only [Field.mergeEntry, decoded, bind, Except.bind, if_true, expectKind, read]
        rfl
  have second : Reads (Field.mergeEntry budget) _ (key, "") (key, value) :=
    entryPart 2 (by simp +contextual) (Nat.lt_of_le_of_lt (Nat.le_add_left ..) short)
      fun rest read => by
        have decoded := Key.decode_encode ⟨2, .delimited⟩ (Scalar.write value ++ rest) (by decide)
          (by decide)
        simp only [Field.mergeEntry, decoded, bind, Except.bind, if_true, expectKind, read]
        rfl
  exact first.append second

end Reads

/-- A field that holds a map. -/
theorem ReadsFields.map {tag budget : Nat} {name : String} {bytes : Bytes} {m acc : M}
    {get : M → TextMap} {set : TextMap → M → M}
    (declared : (Field.map tag name get set).Declared) (lens : Lens get set)
    (vacant : get acc = .empty) (short : bytes.length < UInt64.size)
    (spells : (Field.map tag name get set).spells m bytes) :
    ReadsFields (Message.mergeField (budget + 1)) bytes acc (set (get m) acc) := by
  obtain ⟨entries, same, rfl⟩ := spells
  have reads : ReadsFields (Message.mergeField (budget + 1)) _ _ _ :=
    chains.row (fun n => set n acc) (fun n e => n.insert e.1 e.2) ?inserts
      (.flatMap (fun _ => rfl) entries) short .empty
  case inserts =>
    rintro n e _ rfl fits
    have shorter := length_le_delimit (Field.writeEntry e)
    rw [List.length_append] at fits
    have short : (Field.writeEntry e).length < UInt64.size := by omega
    have laid := Key.announces_delimit tag short
    refine merge (Field.map tag name get set) declared laid fun rest => ?_
    have read := (Reads.entry budget e short).readContents_delimit short rest
    simp only [Field.map, bind, Except.bind, read, lens.get_set, lens.set_set]
    rfl
  rwa [← vacant, lens.set_get, vacant, ← TextMap.ofList, TextMap.ofList_eq_of_perm same] at reads

/-- A message that has been read to its end has been decoded. -/
theorem Message.decode_of_reads {bytes : Bytes} {m : M}
    (reads : Reads (mergeField budget) bytes blank m) : decode bytes = .ok m := by
  have whole : readUntil 0 (mergeField budget) bytes.length (bytes ++ []) blank = .ok (m, []) :=
    reads.readUntil_eq [] (by simp)
  rw [List.append_nil] at whole
  rw [decode, whole]
  rfl

end RuntimeMux.Wire
