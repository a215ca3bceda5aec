import RuntimeMux.Proofs.Settings.Precedence
import RuntimeMux.Proofs.Text.Numbers

/-!
# Numbers in settings

A number in the data of a layer is an integer, a text or a floating-point number. It is taken as a
number of sixty-four bits and then cut to the width of its setting, so that an integer beyond this
width becomes another one without a word. On the command line, the same integer is refused.
-/

namespace RuntimeMux

/-! ### Integers in data -/

/-- The integer that a decimal text stands for, which may have a sign. -/
def Text.integer? : List Char → Option Int
  | '+' :: cs => (digits? cs).map Nat.cast
  | '-' :: cs => (digits? cs).map fun (n : Nat) => -(n : Int)
  | cs => (digits? cs).map Nat.cast

/-- The absolute value of `mantissa * 2 ^ exponent`, if it is an integer. -/
def Decimal.magnitude? (mantissa : Nat) (exponent : Int) : Option Nat :=
  if 0 ≤ exponent then some (mantissa * 2 ^ exponent.toNat)
  else if mantissa % 2 ^ (-exponent).toNat = 0 then some (mantissa / 2 ^ (-exponent).toNat)
  else none

/-- The integer that a floating-point number is, if it is one. -/
def Decimal.Binary64.integer? : Binary64 → Option Int
  | .finite negative mantissa exponent =>
    (magnitude? mantissa exponent).map fun (n : Nat) => if negative then -(n : Int) else n
  | .infinite _ | .undefined => none

namespace Settings

/-- The integer that a datum gives. -/
def Datum.integer? : Datum → Option Int
  | .integer n => some n
  | .float x => x.integer?
  | .text t => Text.integer? t.toList
  | .nothing | .flag _ | .list _ | .table _ => none

/-- The integer that is kept of the one that a datum gives. A floating-point number is moved into the
range of sixty-four bits. -/
def Datum.kept (n : Int) : Datum → Int
  | .float _ => max 0 (min n largest)
  | _ => n

/-- The number of bits of a setting that is a number. -/
def Key.bits? : Key → Option Nat
  | .streamPort => some 16
  | .connectionTimeout | .pollInterval => some 64
  | .pollAttempts => some 32
  | .listen | .connect | .streamUrl | .level | .filter | .file => none

/-- The number in a setting. -/
def number? (s : Settings) : Key → Option Int
  | .streamPort => some s.streamPort.toNat
  | .connectionTimeout => some s.connectionTimeout.toNat
  | .pollInterval => some s.pollInterval.toNat
  | .pollAttempts => s.pollAttempts.map fun n => (n.toNat : Int)
  | .listen | .connect | .streamUrl | .level | .filter | .file => none

end Settings

variable {n : Int} {m bits limit : Nat} {cs : List Char}

namespace Text

/-- What is read of a text that stands for an integer is this integer. -/
theorem cast_of_unsigned? (stands : integer? cs = some n) (read : unsigned? limit cs = some m) :
    (m : Int) = n ∧ m ≤ limit := by
  unfold integer? at stands
  split at stands
  next cs =>
    obtain ⟨hm, small⟩ := unsigned?_plus.1 read
    rw [hm] at stands
    exact ⟨Option.some.inj stands, small⟩
  next cs =>
    have hm := ((unsigned?_of_head?_ne (by simp)).1 read).1
    have minus := (digits?_eq_some_iff.1 hm).2.1 '-' List.mem_cons_self
    exact absurd minus (by decide)
  next plain _ =>
    have unsigned : cs.head? ≠ some '+' := by
      intro head
      obtain ⟨rest, rfl⟩ := List.head?_eq_some_iff.1 head
      exact plain rest rfl
    obtain ⟨hm, small⟩ := (unsigned?_of_head?_ne unsigned).1 read
    rw [hm] at stands
    exact ⟨Option.some.inj stands, small⟩

/-- A text that stands for an integer starts with a digit or a sign, which come before all letters. -/
theorem head?_of_integer? (stands : integer? cs = some n) : ∃ c, cs.head? = some c ∧ c.toNat < 58 := by
  unfold integer? at stands
  split at stands
  next => exact ⟨'+', rfl, by decide⟩
  next => exact ⟨'-', rfl, by decide⟩
  next =>
    obtain ⟨m, hm, -⟩ := Option.map_eq_some_iff.1 stands
    obtain ⟨nonempty, digits, -⟩ := digits?_eq_some_iff.1 hm
    cases cs with
    | nil => exact absurd rfl nonempty
    | cons c cs =>
      have := (Char.isDigit_iff_toNat.1 (digits c List.mem_cons_self)).2
      exact ⟨c, rfl, Nat.lt_succ_of_le this⟩

end Text

namespace Decimal

/-- Rounding leaves an integer as it is. -/
theorem rounded_of_magnitude? {mantissa a : Nat} {exponent : Int}
    (whole : magnitude? mantissa exponent = some a) :
    (if 0 ≤ exponent then mantissa * Nat.pow 2 exponent.toNat
      else (2 * mantissa + Nat.pow 2 (-exponent).toNat) / (2 * Nat.pow 2 (-exponent).toNat)) = a := by
  unfold magnitude? at whole
  split at whole
  next upward =>
    rw [if_pos upward]
    exact Option.some.inj whole
  next downward =>
    rw [if_neg downward]
    split at whole
    next divides =>
      obtain ⟨q, rfl⟩ := Nat.dvd_of_mod_eq_zero divides
      have positive : 0 < 2 ^ (-exponent).toNat := Nat.two_pow_pos _
      rw [Nat.mul_div_cancel_left q positive] at whole
      obtain rfl := Option.some.inj whole
      calc (2 * (2 ^ (-exponent).toNat * q) + 2 ^ (-exponent).toNat) / (2 * 2 ^ (-exponent).toNat)
          = 2 ^ (-exponent).toNat * (2 * q + 1) / (2 ^ (-exponent).toNat * 2) := by
            congr 1 <;> ring
        _ = (2 * q + 1) / 2 := Nat.mul_div_mul_left _ _ positive
        _ = q := by omega
    next => cases whole

theorem Binary64.toNat_of_integer? {x : Binary64} (stands : x.integer? = some n) :
    (x.toNat limit : Int) = max 0 (min n limit) := by
  cases x with
  | infinite negative => cases stands
  | undefined => cases stands
  | finite negative mantissa exponent =>
    obtain ⟨a, whole, rfl⟩ := Option.map_eq_some_iff.1 stands
    cases negative with
    | true =>
      simp only [toNat, if_true]
      omega
    | false =>
      simp only [toNat, rounded_of_magnitude? whole, Bool.false_eq_true, if_false]
      omega

end Decimal

namespace Settings

/-- What comes before all letters does not become one in lower case. -/
theorem toLower_notMem : ∀ n < 58, (Char.ofNat n).toLower ∉ ['t', 'o', 'y', 'f', 'n'] := by
  decide +kernel

/-- No word stands for an integer. -/
theorem wordValue?_of_integer? {t : String} (stands : Text.integer? t.toList = some n) :
    Datum.wordValue? t = none := by
  obtain ⟨c, head, low⟩ := Text.head?_of_integer? stands
  have first := toLower_notMem c.toNat low
  rw [Char.ofNat_toNat] at first
  have other : ∀ word ∈ ["true", "on", "yes", "false", "off", "no"],
      String.ofList (t.toList.map Char.toLower) ≠ word := by
    intro word mem same
    have starts : ∀ word ∈ ["true", "on", "yes", "false", "off", "no"],
        word.toList.head?.any (· ∈ ['t', 'o', 'y', 'f', 'n']) = true := by decide
    have start := starts word mem
    rw [← same, String.toList_ofList, List.head?_map, head] at start
    exact first (of_decide_eq_true start)
  simp only [List.forall_mem_cons] at other
  simp [Datum.wordValue?, other]

/-- What is read of a datum that gives an integer is the integer that is kept of it. -/
theorem cast_of_asNumber? {d : Datum} (gives : d.integer? = some n) (read : d.asNumber? = some m) :
    (m : Int) = d.kept n ∧ ∀ t, d = .text t → n ≤ Datum.largest := by
  cases d with
  | integer i =>
    obtain rfl := Option.some.inj gives
    simp only [Datum.asNumber?] at read
    split at read
    next nonneg =>
      obtain rfl := Option.some.inj read
      exact ⟨Int.toNat_of_nonneg nonneg, nofun⟩
    next => cases read
  | float x =>
    obtain rfl := Option.some.inj read
    exact ⟨Decimal.Binary64.toNat_of_integer? gives, nofun⟩
  | text t =>
    simp only [Datum.asNumber?, wordValue?_of_integer? gives] at read
    obtain ⟨same, small⟩ := Text.cast_of_unsigned? gives read
    exact ⟨same, fun _ _ => same ▸ Int.ofNat_le.2 small⟩
  | _ => cases gives

/-- What a setting has room for is kept as it is. -/
theorem Datum.kept_of_lt (d : Datum) (narrow : bits ≤ 64) (nonneg : 0 ≤ n) (small : n < 2 ^ bits) :
    d.kept n = n := by
  cases d with
  | float x =>
    have room : (2 : Int) ^ bits ≤ 2 ^ 64 := by exact_mod_cast Nat.pow_le_pow_right (by decide) narrow
    simp only [kept, show largest = 18446744073709551615 from rfl]
    omega
  | _ => rfl

variable {textOf : String → Option String} {environment : List (String × String)}
  {arguments : List String} {layers : List Layer} {k : Key} {d : Datum} {s : Settings}

theorem cut_of_map {α : Type} {f : Nat → α} {v : α} {number : Option Nat} (valueOf : α → Option Int)
    (cut : ∀ m, valueOf (f m) = some ((m % 2 ^ bits : Nat) : Int)) (read : number.map f = some v) :
    ∃ m : Nat, number = some m ∧ valueOf v = some ((m : Int) % 2 ^ bits) := by
  obtain ⟨m, hm, rfl⟩ := Option.map_eq_some_iff.1 read
  refine ⟨m, hm, (cut m).trans ?_⟩
  push_cast
  rfl

/-- A number that is read is cut to the width of its setting. -/
theorem number?_of_read? (wide : k.bits? = some bits) (gives : d.integer? = some n)
    (read : k.read? d = some (s.get k)) :
    ∃ m : Nat, d.asNumber? = some m ∧ s.number? k = some ((m : Int) % 2 ^ bits) := by
  cases k with
  | listen | connect | streamUrl | level | filter | file => cases wide
  | streamPort =>
    obtain rfl := Option.some.inj wide
    exact cut_of_map (fun v : UInt16 => some v.toNat) (fun m => by rw [UInt16.toNat_ofNat']) read
  | connectionTimeout | pollInterval =>
    obtain rfl := Option.some.inj wide
    exact cut_of_map (fun v : UInt64 => some v.toNat) (fun m => by rw [UInt64.toNat_ofNat']) read
  | pollAttempts =>
    obtain rfl := Option.some.inj wide
    have given : d ≠ .nothing := by
      rintro rfl
      cases gives
    rw [show Key.pollAttempts.read? d = _ from attempts?.eq_2 d given] at read
    exact cut_of_map (fun v : Option UInt32 => v.map fun n => (n.toNat : Int))
      (fun m => by rw [Option.map_some, UInt32.toNat_ofNat']) read

/-- A number that is given as an integer is this integer, cut to the width of its setting: it is the
same exactly if the setting has room for it. A negative integer does not load, unless it is given as a
floating-point number, and neither does a text of more than sixty-four bits. -/
theorem number?_of_loads (loads : Loads textOf environment arguments layers s)
    (wide : k.bits? = some bits) (unset : k.given? arguments environment = none)
    (set : k.set? layers = some d) (gives : d.integer? = some n) :
    s.number? k = some (d.kept n % 2 ^ bits) ∧ 0 ≤ d.kept n ∧ (∀ t, d = .text t → n ≤ Datum.largest) ∧
      (s.number? k = some n ↔ 0 ≤ n ∧ n < 2 ^ bits) := by
  have narrow : bits ≤ 64 := by cases k <;> cases wide <;> decide
  have clear : k.Clear layers := by cases k <;> first | cases wide; done | exact nofun
  have read := get_of_loads loads clear
  rw [unset, set] at read
  obtain ⟨m, hm, value⟩ := number?_of_read? wide gives read.symm
  obtain ⟨same, small⟩ := cast_of_asNumber? gives hm
  rw [same] at value
  refine ⟨value, same ▸ Int.natCast_nonneg m, small, ?_⟩
  rw [value, Option.some.injEq]
  constructor
  · rintro cut
    have positive : (0 : Int) < 2 ^ bits := Int.pow_pos (by decide)
    exact ⟨cut ▸ Int.emod_nonneg _ positive.ne', cut ▸ Int.emod_lt_of_pos _ positive⟩
  · rintro ⟨nonneg, lt⟩
    rw [d.kept_of_lt narrow nonneg lt, Int.emod_eq_of_lt nonneg lt]

/-- A number that is given as text in a file is in the range of its setting, and stays as it is. -/
theorem number?_of_loads_attempts : ∃ layers s,
    Loads (onlyFile "socket_poll_attempts = \"7\"\n") [] ["--config", "config.toml"] layers s ∧
      ((Key.pollAttempts.set? layers).bind Datum.integer? = some 7) ∧
      s.number? .pollAttempts = some 7 := by
  obtain ⟨layers, s, loads, given, -⟩ : ∃ layers s,
      Loads (onlyFile "socket_poll_attempts = \"7\"\n") [] ["--config", "config.toml"] layers s ∧
        (Key.pollAttempts.set? layers).bind Datum.integer? = some 7 ∧ True :=
    exists_loads_of_any { config := some "config.toml" }
      (by decide +kernel) (by decide +kernel) (by decide +kernel)
  obtain ⟨d, set, gives⟩ := Option.bind_eq_some_iff.1 given
  have wide : Key.pollAttempts.bits? = some 32 := rfl
  obtain ⟨-, -, -, same⟩ := number?_of_loads loads wide rfl set gives
  exact ⟨layers, s, loads, given, same.2 (by decide)⟩

/-- A port beyond sixteen bits is cut if it is in a file, and is refused if it is on the command line.
-/
theorem port_cut :
    (∃ layers s, Loads (onlyFile "stream_port = 70000\n") [] ["--config", "config.toml"] layers s ∧
      (Key.streamPort.set? layers).bind Datum.integer? = some 70000 ∧
      s.number? .streamPort = some 4464) ∧
    Flags.ofArguments ["--stream-port", "70000"] = .error .valueValidation :=
  ⟨exists_loads_of_any { config := some "config.toml" }
    (by decide +kernel) (by decide +kernel) (by decide +kernel), by decide +kernel⟩

end Settings

end RuntimeMux
