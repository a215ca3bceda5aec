import RuntimeMux.Wire.Failure

/-!
# Variable-length integers

A word of sixty-four bits is written in groups of seven bits, the lowest first; every byte but the
last has its top bit set. Ten bytes hold any word, and of the tenth only the lowest bit is used.
Reading what was written gives the word back, whatever follows it.
-/

namespace RuntimeMux.Wire.Varint

/-- The bytes of `n`, at most `more + 1` of them. -/
def write : (more : Nat) → (n : Nat) → Bytes
  | 0, n => [UInt8.ofNat n]
  | more + 1, n =>
    if n < 128 then [UInt8.ofNat n]
    else UInt8.ofNat (128 + n % 128) :: write more (n / 128)

/-- The bytes of a word. -/
def encode (word : UInt64) : Bytes :=
  write 9 word.toNat

/-- Reads at most `more` bytes; the next one counts `weight`, and those before it amount to
`value`. The last byte that may be read has room for a single bit. -/
def read : (more weight value : Nat) → Bytes → Option (Nat × Bytes)
  | 0, _, _, _ => none
  | _ + 1, _, _, [] => none
  | more + 1, weight, value, b :: rest =>
    let value := value + b.toNat % 128 * weight
    if b.toNat < 128 then
      if more = 0 ∧ 2 ≤ b.toNat then none else some (value, rest)
    else read more (weight * 128) value rest

/-- Reads a word. -/
def decode (bytes : Bytes) : Except Failure (UInt64 × Bytes) :=
  match read 10 1 0 bytes with
  | some (n, rest) => .ok (UInt64.ofNat n, rest)
  | none => .error (.of .badVarint)

theorem write_ne_nil (more n : Nat) : write more n ≠ [] := by
  cases more with
  | zero => simp [write]
  | succ more => simp only [write]; split <;> simp

/-- Reading gives back what was written, for a number that fits the bytes left for it. -/
theorem read_write (more weight value n : Nat) (rest : Bytes) (h : n < 2 * Nat.pow 128 more) :
    read (more + 1) weight value (write more n ++ rest) = some (value + n * weight, rest) := by
  induction more generalizing weight value n with
  | zero =>
    have hn : n < 2 := by simpa using h
    have hb : (UInt8.ofNat n).toNat = n := by
      rw [UInt8.toNat_ofNat']; omega
    simp only [write, List.cons_append, List.nil_append, read, hb]
    rw [if_pos (by omega), if_neg (by omega), Nat.mod_eq_of_lt (by omega)]
  | succ more ih =>
    simp only [write]
    split
    next hlt =>
      have hb : (UInt8.ofNat n).toNat = n := by
        rw [UInt8.toNat_ofNat']; omega
      simp only [List.cons_append, List.nil_append, read, hb]
      rw [if_pos hlt, if_neg (by omega), Nat.mod_eq_of_lt hlt]
    next hge =>
      have hb : (UInt8.ofNat (128 + n % 128)).toNat = 128 + n % 128 := by
        rw [UInt8.toNat_ofNat']; omega
      rw [List.cons_append, read, hb, if_neg (by omega), ih]
      · congr 2
        have hmod : (128 + n % 128) % 128 = n % 128 := by omega
        rw [hmod, Nat.add_assoc, ← Nat.mul_assoc, Nat.mul_right_comm, ← Nat.add_mul]
        congr 2
        omega
      · have hp : Nat.pow 128 (more + 1) = Nat.pow 128 more * 128 := rfl
        omega

@[simp] theorem decode_encode (word : UInt64) (rest : Bytes) :
    decode (encode word ++ rest) = .ok (word, rest) := by
  have h : word.toNat < 2 * Nat.pow 128 9 := Nat.lt_of_lt_of_le word.toNat_lt (by decide)
  rw [decode, encode, read_write 9 1 0 word.toNat rest h]
  simp

end RuntimeMux.Wire.Varint
