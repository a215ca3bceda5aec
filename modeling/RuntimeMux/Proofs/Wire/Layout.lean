import Mathlib.Tactic.Ring
import RuntimeMux.Wire.Message

/-!
# Fields on the wire

Whatever its type declares, a message is written as fields in a row: each one is a key and a value of
the kind that the key announces, and a group holds fields again. Numbers may be spelled with more bytes
than they need. A field that is laid out like this is skipped as a whole, whatever follows it, so that
bytes are cut into fields in one way only.
-/

namespace RuntimeMux.Wire

theorem InRow.imp {α : Type} {part more : α → Bytes → Prop} {xs : List α} {bytes : Bytes}
    (row : InRow part xs bytes) (h : ∀ x bytes, part x bytes → more x bytes) :
    InRow more xs bytes := by
  induction row with
  | nil => exact .nil
  | cons first _ ih => exact .cons (h _ _ first) ih

/-! ### Numbers -/

namespace Varint

/-- Bytes are the groups of seven bits of a number, the lowest first, and there are at most `room`
bytes. All but the last have the top bit set. -/
inductive Groups : (room n : Nat) → Bytes → Prop
  | last {room : Nat} {b : UInt8} (low : b.toNat < 128) : Groups (room + 1) b.toNat [b]
  | more {room n : Nat} {b : UInt8} {bytes : Bytes} (high : 128 ≤ b.toNat)
      (rest : Groups room n bytes) : Groups (room + 1) (b.toNat % 128 + n * 128) (b :: bytes)

/-- Bytes are a varint of a number, which fits a word. -/
structure Spells (n : Nat) (bytes : Bytes) : Prop where
  groups : Groups 10 n bytes
  fits : n < UInt64.size

theorem Groups.ne_nil {room n : Nat} {bytes : Bytes} (h : Groups room n bytes) : bytes ≠ [] := by
  cases h <;> exact List.cons_ne_nil _ _

/-- A number is read from its groups, if the last byte that it may take has room for it. -/
theorem Groups.read_append {room n : Nat} {bytes : Bytes} (h : Groups (room + 1) n bytes)
    (fits : n < 2 * 128 ^ room) (weight value : Nat) (rest : Bytes) :
    read (room + 1) weight value (bytes ++ rest) = some (value + n * weight, rest) := by
  induction room generalizing n bytes weight value with
  | zero =>
    cases h with
    | last low =>
      simp only [List.cons_append, List.nil_append, read, if_pos low]
      rw [if_neg (by omega), Nat.mod_eq_of_lt low]
    | more _ rest => cases rest
  | succ room ih =>
    cases h with
    | last low =>
      simp only [List.cons_append, List.nil_append, read, if_pos low]
      rw [if_neg (by omega), Nat.mod_eq_of_lt low]
    | @more _ n b bytes high groups =>
      rw [List.cons_append, read, if_neg (by omega), ih groups (by rw [Nat.pow_succ] at fits; omega)]
      congr 2
      ring

theorem groups_write {more n : Nat} (fits : n < 2 * 128 ^ more) :
    Groups (more + 1) n (write more n) := by
  induction more generalizing n with
  | zero =>
    have byte : (UInt8.ofNat n).toNat = n := by rw [UInt8.toNat_ofNat']; omega
    have last : Groups 1 (UInt8.ofNat n).toNat [UInt8.ofNat n] := .last (by omega)
    rwa [byte] at last
  | succ more ih =>
    rw [write]
    split
    next low =>
      have byte : (UInt8.ofNat n).toNat = n := by rw [UInt8.toNat_ofNat']; omega
      have last : Groups (more + 2) (UInt8.ofNat n).toNat [UInt8.ofNat n] := .last (by omega)
      rwa [byte] at last
    next high =>
      have byte : (UInt8.ofNat (128 + n % 128)).toNat = 128 + n % 128 := by
        rw [UInt8.toNat_ofNat']; omega
      have rest : Groups (more + 1) (n / 128) (write more (n / 128)) :=
        ih (by rw [Nat.pow_succ] at fits; omega)
      have whole := Groups.more (b := UInt8.ofNat (128 + n % 128)) (by omega) rest
      rwa [byte, show (128 + n % 128) % 128 + n / 128 * 128 = n by omega] at whole

theorem spells_encode (word : UInt64) : Spells word.toNat (encode word) where
  groups := groups_write (Nat.lt_of_lt_of_le word.toNat_lt (by decide))
  fits := word.toNat_lt

theorem spells_encode_ofNat {n : Nat} (fits : n < UInt64.size) : Spells n (encode (.ofNat n)) := by
  have spells := spells_encode (.ofNat n)
  rwa [UInt64.toNat_ofNat_of_lt' fits] at spells

namespace Spells

variable {n : Nat} {bytes : Bytes}

theorem decode_append (h : Spells n bytes) (rest : Bytes) :
    decode (bytes ++ rest) = .ok (.ofNat n, rest) := by
  have short : n < 2 * 128 ^ 9 := Nat.lt_of_lt_of_le h.fits (by decide)
  rw [decode, h.groups.read_append short 1 0 rest]
  simp

end Spells

end Varint

/-! ### Fields -/

namespace Key

/-- Bytes are a varint of a key, the tag of which is in range. -/
structure Spells (key : Key) (bytes : Bytes) : Prop where
  low : 0 < key.tag
  high : key.tag < 536870912
  number : Varint.Spells (key.tag * 8 + key.kind.number) bytes

theorem spells_encode {key : Key} (low : 0 < key.tag) (high : key.tag < 536870912) :
    key.Spells key.encode := by
  have kind := key.kind.number_lt
  have fits : key.tag * 8 + key.kind.number < UInt64.size := by simp only [UInt64.size]; omega
  exact ⟨low, high, Varint.spells_encode_ofNat fits⟩

theorem Spells.decode_append {key : Key} {bytes : Bytes} (h : key.Spells bytes) (rest : Bytes) :
    Key.decode (bytes ++ rest) = .ok (key, rest) := by
  have kind := key.kind.number_lt
  have high := h.high
  have number : (UInt64.ofNat (key.tag * 8 + key.kind.number)).toNat =
      key.tag * 8 + key.kind.number := UInt64.toNat_ofNat_of_lt' h.number.fits
  have mod : (key.tag * 8 + key.kind.number) % 8 = key.kind.number := by omega
  have div : (key.tag * 8 + key.kind.number) / 8 = key.tag := by omega
  simp only [decode, h.number.decode_append, bind, Except.bind, number, mod, div,
    Kind.ofNumber?_number]
  rw [if_neg (by omega), if_neg (by have := h.low; omega)]

/-- Bytes are a value that a key announces. Groups are nested less than `depth` deep in it. -/
def Announces : (depth : Nat) → Key → Bytes → Prop
  | 0, _, _ => False
  | depth + 1, key, bytes =>
    match key.kind with
    | .varint => ∃ n, Varint.Spells n bytes
    | .fixed32 => bytes.length = 4
    | .fixed64 => bytes.length = 8
    | .delimited =>
      ∃ length contents, Varint.Spells contents.length length ∧ bytes = length ++ contents
    | .startGroup =>
      ∃ keys fields stop,
        InRow (fun (inner : Key) field =>
          ∃ head value, inner.Spells head ∧ Announces depth inner value ∧ field = head ++ value)
          keys fields ∧
        Spells ⟨key.tag, .endGroup⟩ stop ∧ bytes = fields ++ stop
    | .endGroup => False

/-- Bytes are a field: a key and a value that it announces. -/
def Heads (depth : Nat) (key : Key) (field : Bytes) : Prop :=
  ∃ head value, key.Spells head ∧ key.Announces depth value ∧ field = head ++ value

end Key

/-! ### Skipping -/

theorem dropBytes_append {n : Nat} {bytes : Bytes} (all : bytes.length = n) (rest : Bytes) :
    dropBytes n (bytes ++ rest) = .ok rest := by
  rw [dropBytes, if_pos (by simp [all]), List.drop_left' all]

/-- The fields of a group are skipped up to its end, if each of them is. -/
theorem skipGroup_append {skip : Key → Bytes → Except Failure Bytes} {tag fuel : Nat}
    {keys : List Key} {fields stop : Bytes}
    (row : InRow (fun key field => ∃ head value, key.Spells head ∧ key.kind ≠ .endGroup ∧
      field = head ++ value ∧ ∀ rest, skip key (value ++ rest) = .ok rest) keys fields)
    (ends : Key.Spells ⟨tag, .endGroup⟩ stop) (rest : Bytes)
    (enough : fields.length < fuel) :
    skipGroup skip tag fuel (fields ++ (stop ++ rest)) = .ok rest := by
  induction row generalizing fuel with
  | nil =>
    obtain ⟨fuel, rfl⟩ : ∃ n, fuel = n + 1 := ⟨fuel - 1, by simp at enough; omega⟩
    simp [skipGroup, ends.decode_append, bind, Except.bind]
  | @cons key _ field fields first _ ih =>
    obtain ⟨head, value, spells, inner, rfl, skips⟩ := first
    have some : 0 < head.length := List.length_pos_iff.2 spells.number.groups.ne_nil
    simp only [List.length_append] at enough
    obtain ⟨fuel, rfl⟩ : ∃ n, fuel = n + 1 := ⟨fuel - 1, by omega⟩
    simp only [List.append_assoc, skipGroup, spells.decode_append, bind, Except.bind,
      if_neg inner, skips]
    exact ih (by omega)

namespace Key

variable {depth budget : Nat} {key : Key} {value : Bytes}

theorem Announces.kind_ne (h : key.Announces depth value) : key.kind ≠ .endGroup := by
  intro ends
  cases depth with
  | zero => exact h
  | succ depth => simp only [Announces, ends] at h

/-- A value is skipped by its kind, whatever follows it. -/
theorem Announces.skipField_append (h : key.Announces depth value) (deep : depth ≤ budget)
    (rest : Bytes) : skipField budget key (value ++ rest) = .ok rest := by
  induction depth generalizing budget key value rest with
  | zero => exact h.elim
  | succ depth ih =>
    obtain ⟨budget, rfl⟩ : ∃ n, budget = n + 1 := ⟨budget - 1, by omega⟩
    obtain ⟨tag, kind⟩ := key
    cases kind with
    | varint =>
      obtain ⟨n, spells⟩ := h
      simp [skipField, spells.decode_append, bind, Except.bind, pure, Except.pure]
    | fixed32 => exact dropBytes_append h rest
    | fixed64 => exact dropBytes_append h rest
    | delimited =>
      obtain ⟨length, contents, spells, rfl⟩ := h
      simp only [skipField, List.append_assoc, spells.decode_append, bind, Except.bind,
        UInt64.toNat_ofNat_of_lt' spells.fits]
      exact dropBytes_append rfl rest
    | startGroup =>
      obtain ⟨keys, fields, stop, row, ends, rfl⟩ := h
      have some : 0 < stop.length := List.length_pos_iff.2 ends.number.groups.ne_nil
      rw [skipField, List.append_assoc]
      refine skipGroup_append (row.imp ?_) ends rest (by simp only [List.length_append]; omega)
      rintro inner field ⟨head, value, spells, announces, rfl⟩
      exact ⟨head, value, spells, announces.kind_ne, rfl, ih announces (by omega)⟩
    | endGroup => exact h.elim

theorem announces_delimit (tag : Nat) {contents : Bytes} (short : contents.length < UInt64.size) :
    Announces 1 ⟨tag, .delimited⟩ (delimit contents) :=
  ⟨_, contents, Varint.spells_encode_ofNat short, rfl⟩

namespace Heads

variable {field later : Bytes}

theorem ne_nil (h : key.Heads depth field) : field ≠ [] := by
  obtain ⟨head, value, spells, -, rfl⟩ := h
  exact List.append_ne_nil_of_left_ne_nil spells.number.groups.ne_nil _

/-- Bytes are cut into fields in one way only. -/
theorem cut {key' : Key} {depth' : Nat} {field' later' : Bytes} (h : key.Heads depth field)
    (h' : key'.Heads depth' field') (same : field ++ later = field' ++ later') :
    field = field' ∧ later = later' := by
  -- both fields are skipped in the same way, so the same is left
  have skips {key : Key} {field : Bytes} {n : Nat} (h : key.Heads n field)
      (deep : n ≤ max depth depth') (rest : Bytes) :
      (Key.decode (field ++ rest)).bind (fun x => skipField (max depth depth') x.1 x.2) =
        .ok rest := by
    obtain ⟨head, value, spells, announces, rfl⟩ := h
    rw [List.append_assoc, spells.decode_append]
    exact announces.skipField_append deep rest
  have left := skips h (Nat.le_max_left ..) later
  rw [same, skips h' (Nat.le_max_right ..) later'] at left
  obtain rfl := Except.ok.inj left
  exact ⟨List.append_cancel_right same, rfl⟩

end Heads

end Key

end RuntimeMux.Wire
