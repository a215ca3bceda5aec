import Mathlib.Data.Nat.Find
import Mathlib.Data.Stream.Init
import RuntimeMux.Dialing

/-!
# Waiting for a socket

A limit of `n` looks for a socket is a limit of one look if `n` is zero. Up to this limit, the wait for
the socket ends with the first look that sees it, and if there is none, it ends with the last look that
the limit allows, and tells how many there were. The counter of looks has room for every limit. Without
a limit it starts over from time to time, which has no effect: the wait ends with the first look that
sees the socket, however late that is, and in no other way.
-/

namespace RuntimeMux.Dialing

/-! ### Counting -/

/-- What has been counted after so many looks in vain. -/
def Tally.after (j : Nat) : Tally := ⟨j, .ofNat j⟩

@[simp] theorem Tally.next_after (j : Nat) : (after j).next = after (j + 1) := by
  simp [after, next, UInt32.ofNat_add]

/-- The counter is right as long as it has not started over. -/
theorem toNat_counted_after {j : Nat} (room : j < UInt32.size) :
    (Tally.after j).counted.toNat = j :=
  UInt32.toNat_ofNat_of_lt room

theorem reaches_after_iff {n : UInt32} {j : Nat} (room : j < UInt32.size) :
    (Tally.after j).reaches (some n) = true ↔ n.toNat ≤ j := by
  simp only [Tally.reaches, Option.any_some, decide_eq_true_eq, UInt32.le_iff_toNat_le,
    toNat_counted_after room]

/-- The counter has room for every limit. -/
theorem most_lt_size (n : UInt32) : max n.toNat 1 < UInt32.size :=
  max_lt n.toNat_lt_size (by decide)

/-- The limit has not been reached on the way to so many looks in vain. -/
def Permits (limit : Option UInt32) (j : Nat) : Prop :=
  ∀ i, 0 < i → i ≤ j → (Tally.after i).reaches limit = false

theorem permits_zero (limit : Option UInt32) : Permits limit 0 := by
  intro i positive le
  omega

theorem permits_succ_iff {limit : Option UInt32} {j : Nat} :
    Permits limit (j + 1) ↔ Permits limit j ∧ (Tally.after (j + 1)).reaches limit = false := by
  constructor
  · intro permits
    exact ⟨fun i positive le => permits i positive (by omega), permits (j + 1) (by omega) le_rfl⟩
  · rintro ⟨permits, last⟩ i positive le
    rcases Nat.le_succ_iff.1 le with earlier | rfl
    · exact permits i positive earlier
    · exact last

theorem permits_none (j : Nat) : Permits none j :=
  fun _ _ _ => rfl

theorem permits_some_iff {n : UInt32} {j : Nat} : Permits (some n) j ↔ j < max n.toNat 1 := by
  have room := most_lt_size n
  constructor
  · intro permits
    -- otherwise the limit is reached on the way, by as many looks as it says
    by_contra beyond
    have reached : (Tally.after (max n.toNat 1)).reaches (some n) = true :=
      (reaches_after_iff room).2 (le_max_left ..)
    have unreached := permits (max n.toNat 1) (by omega) (by omega)
    exact absurd reached (by simp [unreached])
  · intro below i positive le
    have short : ¬ n.toNat ≤ i := by omega
    rwa [← reaches_after_iff (by omega), Bool.not_eq_true] at short

/-! ### Searches -/

/-- A search goes on after a look if it has not ended before, the look was in vain, and the limit is not
reached. -/
theorem look_eq_unfinished_iff {limit : Option UInt32} {search : Search} {there : Bool} {t : Tally} :
    search.look limit there = .unfinished t ↔
      ∃ earlier, search = .unfinished earlier ∧ there = false ∧ earlier.next = t ∧
        t.reaches limit = false := by
  cases search with
  | found | givenUp => simp [Search.look]
  | unfinished earlier =>
    cases there with
    | true => simp [Search.look]
    | false => cases reached : earlier.next.reaches limit <;> grind [Search.look]

/-- More looks do not change how a search has ended. -/
theorem verdict?_look {limit : Option UInt32} {search : Search} {verdict : Except String Unit}
    (ended : search.verdict? = some verdict) (there : Bool) :
    (search.look limit there).verdict? = some verdict := by
  cases search with
  | found | givenUp => exact ended
  | unfinished => cases ended

theorem search_succ (d : Dialing) (looks : Stream' Bool) (j : Nat) :
    d.search (looks.take (j + 1)) = (d.search (looks.take j)).look d.limit (looks.get j) := by
  simp only [search, Stream'.take_succ', List.foldl_append, List.foldl_cons, List.foldl_nil]

variable {d : Dialing} {looks : Stream' Bool} {j k : Nat}

/-- A search goes on for as long as all looks are in vain and the limit is not reached. -/
theorem search_eq_unfinished_iff {t : Tally} :
    d.search (looks.take j) = .unfinished t ↔
      (∀ i < j, looks.get i = false) ∧ Permits d.limit j ∧ t = .after j := by
  induction j generalizing t with
  | zero =>
    have start : d.search (looks.take 0) = .unfinished (.after 0) := rfl
    rw [start, Search.unfinished.injEq]
    exact ⟨fun same => ⟨nofun, permits_zero _, same.symm⟩, fun h => h.2.2.symm⟩
  | succ j ih =>
    rw [search_succ, look_eq_unfinished_iff, permits_succ_iff]
    constructor
    · rintro ⟨earlier, before, vain, rfl, unreached⟩
      obtain ⟨allVain, permits, rfl⟩ := ih.1 before
      rw [Tally.next_after] at unreached ⊢
      refine ⟨fun i hi => ?_, ⟨permits, unreached⟩, rfl⟩
      rcases Nat.lt_succ_iff_lt_or_eq.1 hi with earlier | rfl
      · exact allVain i earlier
      · exact vain
    · rintro ⟨allVain, ⟨permits, unreached⟩, rfl⟩
      have before := ih.2 ⟨fun i hi => allVain i (by omega), permits, rfl⟩
      exact ⟨_, before, allVain j (by omega), Tally.next_after j, unreached⟩

/-- The look with a number sees the socket, and no look before it does. Looks are numbered from zero. -/
def FirstSeen (looks : Stream' Bool) (k : Nat) : Prop :=
  looks.get k = true ∧ ∀ i < k, looks.get i = false

/-- The socket is seen by one of the first looks, or all of them are in vain. -/
theorem firstSeen_or_vain (looks : Stream' Bool) (j : Nat) :
    (∃ k < j, FirstSeen looks k) ∨ ∀ k < j, looks.get k = false := by
  by_cases seen : ∃ k, looks.get k = true
  · have before : ∀ i < Nat.find seen, looks.get i = false :=
      fun i hi => Bool.not_eq_true _ ▸ Nat.find_min seen hi
    rcases Nat.lt_or_ge (Nat.find seen) j with soon | late
    · exact .inl ⟨Nat.find seen, soon, Nat.find_spec seen, before⟩
    · exact .inr fun k hk => before k (by omega)
  · exact .inr fun k _ => by simpa using fun there => seen ⟨k, there⟩

/-! ### Waits -/

/-- A wait for the socket at an address ends after so many looks with an outcome. It has none before,
and more looks would not change it. -/
structure EndsAfter (d : Dialing) (address : String) (looks : Stream' Bool) (count : Nat)
    (outcome : Except ConnectFault Unit) : Prop where
  before : ∀ j < count, d.await? address (looks.take j) = none
  since : ∀ j, count ≤ j → d.await? address (looks.take j) = some outcome

/-- What is reported when the wait for the socket at an address is given up after so many looks. -/
def absence (address : String) (count : Nat) : ConnectFault :=
  ⟨address, "socket did not appear after " ++ toString count ++ " attempts"⟩

variable {address : String} {count count' : Nat} {outcome outcome' : Except ConnectFault Unit}

theorem EndsAfter.unique (h : EndsAfter d address looks count outcome)
    (h' : EndsAfter d address looks count' outcome') : count = count' ∧ outcome = outcome' := by
  have same : count = count' := by
    rcases Nat.lt_trichotomy count count' with less | same | more
    · exact absurd (h'.before count less) (by simp [h.since count le_rfl])
    · exact same
    · exact absurd (h.before count' more) (by simp [h'.since count' le_rfl])
  subst same
  have both := (h.since count le_rfl).symm.trans (h'.since count le_rfl)
  exact ⟨rfl, Option.some.inj both⟩

theorem await?_of_verdict? {verdict : Except String Unit}
    (ended : (d.search (looks.take j)).verdict? = some verdict) :
    d.await? address (looks.take j) = some (verdict.mapError (ConnectFault.mk address)) := by
  simp [await?, ended]

theorem await?_of_unfinished {t : Tally} (goesOn : d.search (looks.take j) = .unfinished t) :
    d.await? address (looks.take j) = none := by
  simp [await?, goesOn, Search.verdict?]

/-- A wait ends with the look that makes its search end. -/
theorem endsAfter_succ (verdict : Except String Unit) (vain : ∀ i < j, looks.get i = false)
    (permits : Permits d.limit j)
    (ended : ((Search.unfinished (.after j)).look d.limit (looks.get j)).verdict? = some verdict) :
    EndsAfter d address looks (j + 1) (verdict.mapError (ConnectFault.mk address)) where
  before := by
    intro i hi
    have goesOn : d.search (looks.take i) = .unfinished (.after i) :=
      search_eq_unfinished_iff.2
        ⟨fun k hk => vain k (by omega), fun k positive le => permits k positive (by omega), rfl⟩
    exact await?_of_unfinished goesOn
  since := by
    intro i hi
    refine await?_of_verdict? ?_
    induction i, hi using Nat.le_induction with
    | base => rwa [search_succ, search_eq_unfinished_iff.2 ⟨vain, permits, rfl⟩]
    | succ i _ ih => exact search_succ d looks i ▸ verdict?_look ih _

theorem endsAfter_found (seen : FirstSeen looks k) (permits : Permits d.limit k) :
    EndsAfter d address looks (k + 1) (.ok ()) :=
  endsAfter_succ (.ok ()) seen.2 permits (by rw [seen.1]; rfl)

/-! ### Limited waits -/

section Limited

variable {n : UInt32} (hn : d.limit = some n)

include hn

theorem endsAfter_found_of_limit (soon : k < max n.toNat 1) (seen : FirstSeen looks k) :
    EndsAfter d address looks (k + 1) (.ok ()) :=
  endsAfter_found seen (hn ▸ permits_some_iff.2 soon)

theorem endsAfter_givenUp (vain : ∀ k < max n.toNat 1, looks.get k = false) :
    EndsAfter d address looks (max n.toNat 1) (.error (absence address (max n.toNat 1))) := by
  have room := most_lt_size n
  -- there is a look even if the limit is zero, and the last one finds the limit not reached yet
  obtain ⟨j, hj⟩ : ∃ j, max n.toNat 1 = j + 1 := Nat.exists_eq_add_one.2 (by omega)
  have permits : Permits d.limit j := hn ▸ permits_some_iff.2 (by omega)
  have reached : (Tally.after (j + 1)).reaches d.limit = true :=
    hn ▸ (reaches_after_iff (by omega)).2 (by omega)
  have counted : toString (Tally.after (j + 1)).counted = toString (j + 1) :=
    congrArg toString (toNat_counted_after (by omega))
  rw [hj] at vain ⊢
  refine endsAfter_succ (.error _) (fun i hi => vain i (by omega)) permits ?_
  simp [Search.look, vain j (by omega), reached, Search.verdict?, counted]

/-- A wait with a limit ends with the first look that sees the socket or with the last one allowed. -/
theorem exists_endsAfter :
    ∃ count ≤ max n.toNat 1, ∃ outcome, EndsAfter d address looks count outcome := by
  rcases firstSeen_or_vain looks (max n.toNat 1) with ⟨k, soon, seen⟩ | vain
  · exact ⟨k + 1, soon, _, endsAfter_found_of_limit hn soon seen⟩
  · exact ⟨_, le_rfl, _, endsAfter_givenUp hn vain⟩

theorem endsAfter_ok_iff :
    EndsAfter d address looks count (.ok ()) ↔
      ∃ k < max n.toNat 1, FirstSeen looks k ∧ count = k + 1 := by
  constructor
  · intro h
    rcases firstSeen_or_vain looks (max n.toNat 1) with ⟨k, soon, seen⟩ | vain
    · exact ⟨k, soon, seen, (h.unique (endsAfter_found_of_limit hn soon seen)).1⟩
    · cases (h.unique (endsAfter_givenUp hn vain)).2
  · rintro ⟨k, soon, seen, rfl⟩
    exact endsAfter_found_of_limit hn soon seen

theorem endsAfter_error_iff {fault : ConnectFault} :
    EndsAfter d address looks count (.error fault) ↔
      (∀ k < max n.toNat 1, looks.get k = false) ∧ count = max n.toNat 1 ∧
        fault = absence address (max n.toNat 1) := by
  constructor
  · intro h
    rcases firstSeen_or_vain looks (max n.toNat 1) with ⟨k, soon, seen⟩ | vain
    · cases (h.unique (endsAfter_found_of_limit hn soon seen)).2
    · obtain ⟨last, reported⟩ := h.unique (endsAfter_givenUp hn vain)
      exact ⟨vain, last, Except.error.inj reported⟩
  · rintro ⟨vain, rfl, rfl⟩
    exact endsAfter_givenUp hn vain

/-- While a search with a limit goes on, its counter is right, and one more look can be counted. -/
theorem counted_of_unfinished {t : Tally} (goesOn : d.search (looks.take j) = .unfinished t) :
    t.counted.toNat = j ∧ j + 1 < UInt32.size := by
  obtain ⟨-, permits, rfl⟩ := search_eq_unfinished_iff.1 goesOn
  have below : j < max n.toNat 1 := permits_some_iff.1 (hn ▸ permits)
  have room := most_lt_size n
  exact ⟨toNat_counted_after (by omega), by omega⟩

end Limited

example :
    (⟨.ofMillis 100, .ofMillis 5, some 3⟩ : Dialing).await? "absent.sock" [false, false, false] =
      some (.error (absence "absent.sock" 3)) := by
  decide

/-! ### Endless waits -/

section Endless

variable (hn : d.limit = none)

include hn

theorem endsAfter_found_of_endless (seen : FirstSeen looks k) :
    EndsAfter d address looks (k + 1) (.ok ()) :=
  endsAfter_found seen (hn ▸ permits_none k)

theorem await?_of_vain (vain : ∀ i < j, looks.get i = false) :
    d.await? address (looks.take j) = none :=
  await?_of_unfinished (search_eq_unfinished_iff.2 ⟨vain, hn ▸ permits_none j, rfl⟩)

theorem endsAfter_ok_iff_of_endless :
    EndsAfter d address looks count (.ok ()) ↔ ∃ k, FirstSeen looks k ∧ count = k + 1 := by
  constructor
  · intro h
    rcases firstSeen_or_vain looks count with ⟨k, -, seen⟩ | vain
    · exact ⟨k, seen, (h.unique (endsAfter_found_of_endless hn seen)).1⟩
    · exact absurd (h.since count le_rfl) (by simp [await?_of_vain hn vain])
  · rintro ⟨k, seen, rfl⟩
    exact endsAfter_found_of_endless hn seen

/-- A wait without a limit is never given up. -/
theorem await?_ne_error (fault : ConnectFault) :
    d.await? address (looks.take j) ≠ some (.error fault) := by
  rcases firstSeen_or_vain looks j with ⟨k, earlier, seen⟩ | vain
  · simp [(endsAfter_found_of_endless hn seen).since j earlier]
  · simp [await?_of_vain hn vain]

end Endless

/-- With a limit, a wait for a socket ends after at most as many looks as the limit says, or after one
if the limit is zero. It succeeds with the first look that sees the socket if that is one of these
looks. If none of them does, it ends with the last of them, and the address and their number are
reported. The counter of looks never starts over on the way. Without a limit, where it starts over
whenever it is full, a wait succeeds with the first look that sees the socket, and it never fails. -/
theorem await_ends (d : Dialing) (address : String) (looks : Stream' Bool) :
    (∀ n : UInt32, d.limit = some n →
      (∃ count ≤ max n.toNat 1, ∃ outcome, EndsAfter d address looks count outcome) ∧
      (∀ count, EndsAfter d address looks count (.ok ()) ↔
        ∃ k < max n.toNat 1, FirstSeen looks k ∧ count = k + 1) ∧
      (∀ count fault, EndsAfter d address looks count (.error fault) ↔
        (∀ k < max n.toNat 1, looks.get k = false) ∧ count = max n.toNat 1 ∧
          fault = absence address (max n.toNat 1)) ∧
      ∀ j t, d.search (looks.take j) = .unfinished t →
        t.counted.toNat = j ∧ j + 1 < UInt32.size) ∧
    (d.limit = none →
      (∀ count, EndsAfter d address looks count (.ok ()) ↔
        ∃ k, FirstSeen looks k ∧ count = k + 1) ∧
      (∀ j fault, d.await? address (looks.take j) ≠ some (.error fault)) ∧
      ∀ j t, d.search (looks.take j) = .unfinished t → t.counted.toNat = j % UInt32.size) := by
  refine ⟨fun n hn => ⟨?_, ?_, ?_, ?_⟩, fun hn => ⟨?_, ?_, ?_⟩⟩
  · exact exists_endsAfter hn
  · exact fun count => endsAfter_ok_iff hn
  · exact fun count fault => endsAfter_error_iff hn
  · exact fun j t goesOn => counted_of_unfinished hn goesOn
  · exact fun count => endsAfter_ok_iff_of_endless hn
  · exact fun j fault => await?_ne_error hn fault
  · intro j t goesOn
    obtain ⟨-, -, rfl⟩ := search_eq_unfinished_iff.1 goesOn
    exact UInt32.toNat_ofNat ..

/-- Settings with a limit of zero looks. -/
def impatient : Dialing := { ofTimeout (.ofSeconds 30) with pollAttempts := some 0 }

/-- A socket that the third look sees, and no look before. -/
def lateSocket : Stream' Bool := fun k => k == 2

/-- With a limit of zero there is one look for a socket that never appears, and without a limit there
are three for a late one. -/
theorem await_ends_impatient_or_patient :
    (impatient.limit = some 0 ∧
      EndsAfter impatient "/run/alt.sock" (.const false) 1
        (.error ⟨"/run/alt.sock", "socket did not appear after 1 attempts"⟩) ∧
      impatient.search (Stream'.take 0 (.const false)) = .unfinished ⟨0, 0⟩ ∧
      (0 : UInt32).toNat = 0 ∧ 0 + 1 < UInt32.size) ∧
    (ofTimeout (.ofSeconds 30)).limit = none ∧
      EndsAfter (ofTimeout (.ofSeconds 30)) "/run/alt.sock" lateSocket 3 (.ok ()) ∧
      (ofTimeout (.ofSeconds 30)).search (lateSocket.take 2) = .unfinished ⟨2, 2⟩ ∧
      (2 : UInt32).toNat = 2 % UInt32.size := by
  have limited := (await_ends impatient "/run/alt.sock" (.const false)).1 0 rfl
  have endless := (await_ends (ofTimeout (.ofSeconds 30)) "/run/alt.sock" lateSocket).2 rfl
  have start : impatient.search (Stream'.take 0 (.const false)) = .unfinished ⟨0, 0⟩ := rfl
  have twice : (ofTimeout (.ofSeconds 30)).search (lateSocket.take 2) = .unfinished ⟨2, 2⟩ := by
    decide
  exact ⟨⟨rfl, (limited.2.2.1 1 _).2 ⟨fun _ _ => rfl, rfl, by decide⟩, start,
      limited.2.2.2 0 _ start⟩,
    rfl, (endless.1 3).2 ⟨2, ⟨rfl, by decide⟩, rfl⟩, twice, endless.2.2 2 _ twice⟩

/-! ### Dialing -/

theorem calls_probe_ne_nil (timeout : Span) (respond : Revision → Response) (reason : String)
    {revisions : List Revision} (nonempty : revisions ≠ []) :
    (probe timeout respond reason revisions).calls ≠ [] := by
  cases revisions with
  | nil => exact absurd rfl nonempty
  | cons r rest =>
    simp only [probe]
    split <;> simp

/-- A runtime is asked for its version if and only if the wait for its socket has succeeded. If the wait
has failed, dialing fails for the same reason. -/
theorem run_of_await? (looks : List Bool) (respond : Revision → Response) :
    ((d.run looks respond).calls ≠ [] ↔ d.await? address looks = some (.ok ())) ∧
      ∀ fault, d.await? address looks = some (.error fault) →
        (d.run looks respond).result = .error fault.reason := by
  simp only [run, await?]
  rcases (d.search looks).verdict? with _ | (reason | ⟨⟩)
  · simp
  · simp [Except.mapError]
  · have probed : Revision.probeOrder ≠ [] := by decide
    have asked := calls_probe_ne_nil d.timeout respond "no revisions to probe" probed
    simp [Except.mapError, asked]

end RuntimeMux.Dialing
