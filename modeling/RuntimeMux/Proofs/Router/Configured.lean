import Mathlib.Data.List.DropRight
import Mathlib.Data.List.Nodup
import RuntimeMux.Proofs.Results
import RuntimeMux.Proofs.Scope.Qualifier
import RuntimeMux.Proofs.Text.Cuts
import RuntimeMux.Router

/-!
# Configured routers

A router is configured by a text. The text is cut into entries, each entry is read as a backend, and
the backends must go together: the first one is primary, the others are named, and no two have one
id. So whether a router comes of a text is seen from the entries alone. The runtimes of the router are
the entries, in order, and backends without commas, colons and blanks in the wrong places can be
written down and read back.
-/

namespace RuntimeMux

/-- No two scopes have one id. -/
theorem Scope.id_injective : Function.Injective Scope.id := by
  intro s s' same
  cases s with
  | primary =>
    cases s' with
    | primary => rfl
    | named j => exact absurd same.symm j.text_ne_empty
  | named i =>
    cases s' with
    | primary => exact absurd same i.text_ne_empty
    | named j => exact congrArg Scope.named (ScopeId.text_injective same)

/-! ### Backends that make up a router -/

namespace Router

variable {r : Router} {stream : Url} {bs : List Backend}

/-- The backends of a router are accepted. -/
theorem ofBackends_backends (r : Router) : ofBackends r.stream r.backends = .ok r := by
  have accepted : Backend.laterProblem? [] r.named = none :=
    Backend.laterProblem?_eq_none_iff.2
      ⟨fun b hb => ⟨r.named_scope b hb, List.not_mem_nil⟩, r.nodup⟩
  rw [backends, ofBackends, dif_pos r.primary_scope]
  split
  next problem refused =>
    rw [accepted] at refused
    cases refused
  next => rfl

theorem stream_ofBackends (h : ofBackends stream bs = .ok r) : r.stream = stream := by
  cases bs with
  | nil => cases h
  | cons first rest =>
    simp only [ofBackends] at h
    split at h
    · split at h
      · cases h
      · cases h
        rfl
    · cases h

/-- Backends are accepted exactly if they are those of a router. -/
theorem ofBackends_eq_ok_iff :
    ofBackends stream bs = .ok r ↔ r.backends = bs ∧ r.stream = stream := by
  constructor
  · exact fun h => ⟨backends_ofBackends h, stream_ofBackends h⟩
  · rintro ⟨rfl, rfl⟩
    exact r.ofBackends_backends

variable {first : Backend} {rest rest' : List Backend}

theorem ofBackends_cons_eq_ok (h : ofBackends stream (first :: rest) = .ok r) :
    r.primary = first ∧ r.named = rest :=
  List.cons.inj (backends_ofBackends h)

/-- The named runtimes of an accepted list may stand in any order. -/
theorem ofBackends_of_perm (h : ofBackends stream (first :: rest) = .ok r)
    (perm : rest'.Perm rest) : ∃ r', ofBackends stream (first :: rest') = .ok r' := by
  obtain ⟨rfl, rfl⟩ := ofBackends_cons_eq_ok h
  let r' : Router :=
    { primary := r.primary
      named := rest'
      stream := stream
      primary_scope := r.primary_scope
      named_scope := fun b hb => r.named_scope b (perm.mem_iff.1 hb)
      nodup := (perm.map Backend.scope).nodup_iff.2 r.nodup }
  exact ⟨r', r'.ofBackends_backends⟩

end Router

/-! ### Blanks at the ends -/

namespace Text

/-- Whether a text neither begins nor ends with a blank. -/
def IsTrimmed (text : String) : Prop :=
  (∀ c ∈ text.toList.head?, isBlank c = false) ∧ ∀ c ∈ text.toList.getLast?, isBlank c = false

-- only the ends of the text are looked at, where a general instance might try every character
instance (text : String) : Decidable (IsTrimmed text) :=
  @instDecidableAnd _ _ (Option.decidableForallMem ..) (Option.decidableForallMem ..)

theorem dropWhile_isBlank_of_head? {cs : List Char} (h : ∀ c ∈ cs.head?, isBlank c = false) :
    cs.dropWhile isBlank = cs := by
  cases cs with
  | nil => rfl
  | cons c cs => exact List.dropWhile_cons_of_neg (by simp [h c rfl])

/-- There is nothing to take off at the ends of a trimmed text. -/
theorem IsTrimmed.eq_self {text : String} (h : IsTrimmed text) :
    (text.toList.dropWhile isBlank).rdropWhile isBlank = text.toList := by
  have last : ∀ c ∈ text.toList.reverse.head?, isBlank c = false := by
    rw [List.head?_reverse]
    exact h.2
  rw [dropWhile_isBlank_of_head? h.1, List.rdropWhile, dropWhile_isBlank_of_head? last,
    List.reverse_reverse]

end Text

/-! ### Entries -/

namespace Backend

variable {list entry : String} {b : Backend} {entries : List String} {bs : List Backend}

/-- What stands between the commas of a text, without the blanks at its ends, unless nothing is left
of it. -/
def listed (list : String) : List String :=
  ((list.toList.splitOn ',').map fun piece =>
    String.ofList ((piece.dropWhile Text.isBlank).rdropWhile Text.isBlank)).filter (· ≠ "")

theorem entries_eq_listed (list : String) : Backend.entries list = listed list := by
  rw [Backend.entries, listed, Text.pieces_eq_splitOn]
  refine List.filter_congr fun entry _ => Bool.eq_iff_iff.2 ?_
  simp

/-- The text of an entry before its first colon. -/
def idOf (entry : String) : String :=
  .ofList (entry.toList.takeWhile (· ≠ ':'))

/-- The text of an entry after its first colon. -/
def addressOf (entry : String) : String :=
  .ofList (entry.toList.dropWhile (· ≠ ':')).tail

/-- How an entry is read: as an address, or as an id and an address if there is a colon. -/
inductive Spells (entry : String) : Backend → Prop where
  | primary (plain : ':' ∉ entry.toList) : Spells entry ⟨.primary, entry⟩
  | named (cut : ':' ∈ entry.toList) (valid : isScopeId (idOf entry) = true) :
      Spells entry ⟨.named ⟨idOf entry, valid⟩, addressOf entry⟩

theorem Spells.of_primary (h : Spells entry b) (hb : b.scope = .primary) :
    ':' ∉ entry.toList ∧ b.address = entry := by
  cases h with
  | primary plain => exact ⟨plain, rfl⟩
  | named => cases hb

theorem ofEntry_of_cut (cut : ':' ∈ entry.toList) :
    ofEntry entry = (Scope.named? (idOf entry)).map fun scope => ⟨scope, addressOf entry⟩ := by
  rw [ofEntry, Text.splitFirst?, Text.cutFirst?_eq, if_pos cut]
  simp only [Option.map_some]
  rw [idOf]
  cases Scope.named? _ <;> rfl

theorem ofEntry_of_plain (plain : ':' ∉ entry.toList) : ofEntry entry = .ok ⟨.primary, entry⟩ := by
  rw [ofEntry, Text.splitFirst?, Text.cutFirst?_eq, if_neg plain]
  rfl

theorem ofEntry_eq_ok_iff : ofEntry entry = .ok b ↔ Spells entry b := by
  constructor
  · intro read
    by_cases cut : ':' ∈ entry.toList
    · rw [ofEntry_of_cut cut] at read
      cases named : Scope.named? (idOf entry) with
      | error problem =>
        rw [named] at read
        cases read
      | ok scope =>
        obtain ⟨valid, rfl⟩ := Scope.named?_eq_ok_iff.1 named
        rw [named] at read
        cases read
        exact .named cut valid
    · rw [ofEntry_of_plain cut] at read
      cases read
      exact .primary cut
  · intro h
    cases h with
    | primary plain => exact ofEntry_of_plain plain
    | named cut valid => rw [ofEntry_of_cut cut, Scope.named?_eq_ok_iff.2 ⟨valid, rfl⟩]; rfl

/-- A list is read entry by entry. -/
theorem ofList_eq_ok_iff : ofList list = .ok bs ↔ List.Forall₂ Spells (listed list) bs := by
  simp only [ofList, entries_eq_listed, mapM_eq_ok_iff, ofEntry_eq_ok_iff]

/-! ### Lists that make up a router -/

/-- Whether entries make up a router: the first one is a mere address, and the others have ids in
front, each its own. -/
def Configures : List String → Prop
  | [] => False
  | first :: rest => ':' ∉ first.toList ∧
    (∀ entry ∈ rest, ':' ∈ entry.toList ∧ IsId (idOf entry)) ∧ (rest.map idOf).Nodup

instance : DecidablePred Configures
  | [] => .isFalse id
  | _ :: _ => inferInstanceAs (Decidable (_ ∧ _ ∧ _))

/-- The ids and addresses in entries that make up a router. -/
def configured : List String → List (String × String)
  | [] => []
  | first :: rest => ("", first) :: rest.map fun entry => (idOf entry, addressOf entry)

theorem forall_of_spells_named (h : List.Forall₂ Spells entries bs)
    (named : ∀ b ∈ bs, b.scope ≠ .primary) :
    (∀ entry ∈ entries, ':' ∈ entry.toList ∧ IsId (idOf entry)) ∧
      bs.map (fun b => (b.scope.id, b.address)) =
        entries.map fun entry => (idOf entry, addressOf entry) := by
  induction h with
  | nil => exact ⟨nofun, rfl⟩
  | @cons entry b entries bs spells _ ih =>
    obtain ⟨hb, hbs⟩ := List.forall_mem_cons.1 named
    obtain ⟨ids, same⟩ := ih hbs
    cases spells with
    | primary => exact absurd rfl hb
    | named cut valid =>
      refine ⟨List.forall_mem_cons.2 ⟨⟨cut, isScopeId_iff.1 valid⟩, ids⟩, ?_⟩
      rw [List.map_cons, List.map_cons, same]
      rfl

theorem exists_spells_named (h : ∀ entry ∈ entries, ':' ∈ entry.toList ∧ IsId (idOf entry)) :
    ∃ bs, List.Forall₂ Spells entries bs ∧ ∀ b ∈ bs, b.scope ≠ .primary := by
  induction entries with
  | nil => exact ⟨[], .nil, nofun⟩
  | cons entry entries ih =>
    obtain ⟨⟨cut, valid⟩, rest⟩ := List.forall_mem_cons.1 h
    obtain ⟨bs, spells, named⟩ := ih rest
    have first := Spells.named cut (isScopeId_iff.2 valid)
    exact ⟨_, .cons first spells, List.forall_mem_cons.2 ⟨nofun, named⟩⟩

end Backend

namespace Router

variable {r : Router} {stream : Url} {list : String} {entries : List String}

theorem map_id_eq {bs : List Backend}
    (same : bs.map (fun b => (b.scope.id, b.address)) =
      entries.map fun entry => (Backend.idOf entry, Backend.addressOf entry)) :
    bs.map (fun b => b.scope.id) = entries.map Backend.idOf := by
  have := congrArg (List.map Prod.fst) same
  simpa [Function.comp_def] using this

theorem configured_of_spells (h : List.Forall₂ Backend.Spells entries r.backends) :
    Backend.Configures entries ∧
      r.backends.map (fun b => (b.scope.id, b.address)) = Backend.configured entries := by
  rw [backends] at h
  cases h with
  | @cons first _ rest _ spells rest =>
    obtain ⟨plain, address⟩ := spells.of_primary r.primary_scope
    obtain ⟨ids, same⟩ := Backend.forall_of_spells_named rest r.named_scope
    have nodup : (r.named.map fun b => b.scope.id).Nodup := by
      have := List.Nodup.map Scope.id_injective r.nodup
      rwa [List.map_map] at this
    refine ⟨⟨plain, ids, ?_⟩, ?_⟩
    · rwa [map_id_eq same] at nodup
    · rw [backends, List.map_cons, same, r.primary_scope, address]
      rfl

theorem exists_spells (h : Backend.Configures entries) (stream : Url) :
    ∃ r : Router, r.stream = stream ∧ List.Forall₂ Backend.Spells entries r.backends := by
  cases entries with
  | nil => exact h.elim
  | cons first rest =>
    obtain ⟨plain, ids, nodup⟩ := h
    obtain ⟨named, spells, named_scope⟩ := Backend.exists_spells_named ids
    have same := (Backend.forall_of_spells_named spells named_scope).2
    let r : Router :=
      { primary := ⟨.primary, first⟩
        named := named
        stream := stream
        primary_scope := rfl
        named_scope := named_scope
        nodup := by
          refine List.Nodup.of_map Scope.id ?_
          rwa [List.map_map, Function.comp_def, map_id_eq same] }
    exact ⟨r, rfl, .cons (.primary plain) spells⟩

/-- The router of a list: the list is read, and the backends are put together. -/
theorem configure_eq_ok_iff :
    (Backend.ofList list >>= ofBackends stream) = .ok r ↔
      List.Forall₂ Backend.Spells (Backend.listed list) r.backends ∧ r.stream = stream := by
  rw [← Backend.ofList_eq_ok_iff]
  cases Backend.ofList list with
  | error problem => exact ⟨nofun, nofun⟩
  | ok bs =>
    simp only [Except.ok.injEq]
    rw [eq_comm (a := bs)]
    exact ofBackends_eq_ok_iff

end Router

/-! ### Lists that are written -/

namespace Backend

variable {b : Backend} {bs : List Backend}

/-- A backend as an entry. -/
def entry (b : Backend) : String :=
  match b.scope with
  | .primary => b.address
  | .named i => i.text ++ ":" ++ b.address

/-- Whether a backend can stand in a list as it is: there are no commas in its id and its address, nor
blanks at their ends, and no colons where they would be taken for the end of the id. -/
structure IsPlain (b : Backend) : Prop where
  id : ',' ∉ b.scope.id.toList ∧ ':' ∉ b.scope.id.toList ∧ Text.IsTrimmed b.scope.id
  address : ',' ∉ b.address.toList ∧ b.address ≠ "" ∧ Text.IsTrimmed b.address
  primary : b.scope = .primary → ':' ∉ b.address.toList

theorem toList_entry_named (i : ScopeId) (address : String) :
    (entry ⟨.named i, address⟩).toList = i.text.toList ++ ':' :: address.toList := by
  simp [entry]

theorem IsPlain.spells (h : b.IsPlain) : Spells b.entry b := by
  obtain ⟨scope, address⟩ := b
  cases scope with
  | primary => exact .primary (h.primary rfl)
  | named i =>
    have uncut : ∀ c ∈ i.text.toList, decide (c ≠ ':') = true := by
      intro c hc
      simp only [decide_eq_true_eq]
      rintro rfl
      exact h.id.2.1 hc
    have hid : idOf (entry ⟨.named i, address⟩) = i.text := by
      rw [idOf, toList_entry_named, List.takeWhile_append_of_pos uncut]
      simp
    have haddress : addressOf (entry ⟨.named i, address⟩) = address := by
      rw [addressOf, toList_entry_named, List.dropWhile_append_of_pos uncut]
      simp
    have cut : ':' ∈ (entry ⟨.named i, address⟩).toList := by simp [toList_entry_named]
    have spells := Spells.named cut (hid ▸ i.valid)
    simpa only [hid, haddress] using spells

theorem IsPlain.entry_ne_empty (h : b.IsPlain) : b.entry ≠ "" := by
  obtain ⟨scope, address⟩ := b
  cases scope with
  | primary => exact h.address.2.1
  | named i =>
    intro empty
    have := congrArg String.toList empty
    simp [toList_entry_named] at this

theorem IsPlain.comma_notMem_entry (h : b.IsPlain) : ',' ∉ b.entry.toList := by
  obtain ⟨scope, address⟩ := b
  cases scope with
  | primary => exact h.address.1
  | named i =>
    have hid : ',' ∉ i.text.toList := h.id.1
    simpa [toList_entry_named, hid] using h.address.1

theorem IsPlain.isTrimmed_entry (h : b.IsPlain) : Text.IsTrimmed b.entry := by
  obtain ⟨scope, address⟩ := b
  cases scope with
  | primary => exact h.address.2.2
  | named i =>
    have hid : i.text.toList ≠ [] := by simpa using i.text_ne_empty
    have haddress : address.toList ≠ [] := by simpa using h.address.2.1
    constructor
    · rw [toList_entry_named, List.head?_append_of_ne_nil _ hid]
      exact h.id.2.2.1
    · rw [toList_entry_named, List.getLast?_append_of_ne_nil _ (List.cons_ne_nil _ _),
        List.getLast?_cons_of_ne_nil haddress]
      exact h.address.2.2.2

/-- Plain backends are listed as they are written. -/
theorem listed_intercalate (plain : ∀ b ∈ bs, b.IsPlain) :
    listed (",".intercalate (bs.map entry)) = bs.map entry := by
  cases bs with
  | nil => rfl
  | cons b bs =>
    have apart : ∀ cs ∈ ((b :: bs).map entry).map String.toList, ',' ∉ cs := by
      simp only [List.mem_map, forall_exists_index, and_imp, forall_apply_eq_imp_iff₂]
      exact fun b hb => (plain b hb).comma_notMem_entry
    have cut := List.splitOn_intercalate ',' apart (by simp)
    rw [listed, String.toList_intercalate, show ",".toList = [','] from rfl, cut]
    have kept : ∀ b' ∈ b :: bs, String.ofList
        ((b'.entry.toList.dropWhile Text.isBlank).rdropWhile Text.isBlank) = b'.entry := by
      intro b' hb
      rw [(plain b' hb).isTrimmed_entry.eq_self, String.ofList_toList]
    rw [List.map_map, List.map_map, Function.comp_def, Function.comp_def, List.map_congr_left kept]
    refine List.filter_eq_self.2 fun entry mem => ?_
    obtain ⟨b', hb, rfl⟩ := List.mem_map.1 mem
    simpa using (plain b' hb).entry_ne_empty

theorem ofList_intercalate (plain : ∀ b ∈ bs, b.IsPlain) :
    ofList (",".intercalate (bs.map entry)) = .ok bs := by
  rw [ofList_eq_ok_iff, listed_intercalate plain, List.forall₂_map_left_iff, List.forall₂_same]
  exact fun b hb => (plain b hb).spells

end Backend

namespace Router

/-- Whether a list makes up a router is seen from its entries, and so are the runtimes of the
router. A list that is written of plain backends is read as these. -/
theorem configures_iff (stream : Url) (list : String) :
    let built := Backend.ofList list >>= ofBackends stream
    ((∃ r, built = .ok r) ↔ Backend.Configures (Backend.listed list)) ∧
    (∀ r, built = .ok r → r.stream = stream ∧
      r.backends.map (fun b => (b.scope.id, b.address)) =
        Backend.configured (Backend.listed list)) ∧
    ∀ bs : List Backend, (∀ b ∈ bs, b.IsPlain) →
      Backend.ofList (",".intercalate (bs.map Backend.entry)) = .ok bs := by
  intro built
  refine ⟨⟨?_, ?_⟩, ?_, fun bs => Backend.ofList_intercalate⟩
  · rintro ⟨r, ok⟩
    exact (configured_of_spells (configure_eq_ok_iff.1 ok).1).1
  · intro configures
    obtain ⟨r, hr, spells⟩ := exists_spells configures stream
    exact ⟨r, configure_eq_ok_iff.2 ⟨spells, hr⟩⟩
  · intro r ok
    obtain ⟨spells, hr⟩ := configure_eq_ok_iff.1 ok
    exact ⟨hr, (configured_of_spells spells).2⟩

/-- There is an entry too many, which is empty, a colon in an address, and there are blanks around. -/
theorem configures_iff_three :
    let stream : Url := ⟨"http", none, .plain "", none, none⟩
    let list := "/run/primary.sock, alt:/run/alt:0.sock,\t, other_:/run/other.sock"
    let bs : List Backend :=
      [⟨.primary, "/run/primary.sock"⟩, ⟨.named ⟨"alt", by decide⟩, "/run/alt:0.sock"⟩]
    Backend.Configures (Backend.listed list) ∧
      (∃ r, (Backend.ofList list >>= ofBackends stream) = .ok r ∧
        r.backends.map (fun b => (b.scope.id, b.address)) =
          [("", "/run/primary.sock"), ("alt", "/run/alt:0.sock"),
            ("other_", "/run/other.sock")]) ∧
      (∀ b ∈ bs, b.IsPlain) ∧
      Backend.ofList "/run/primary.sock,alt:/run/alt:0.sock" = .ok bs := by
  intro stream list bs
  obtain ⟨accepts, runtimes, reads⟩ := configures_iff stream list
  have configures : Backend.Configures (Backend.listed list) := by decide +kernel
  obtain ⟨r, built⟩ := accepts.2 configures
  have plain : ∀ b ∈ bs, b.IsPlain := by
    simp only [bs, List.forall_mem_cons]
    refine ⟨⟨?_, ?_, ?_⟩, ⟨?_, ?_, ?_⟩, List.forall_mem_nil _⟩ <;> decide +kernel
  refine ⟨configures, ⟨r, built, (runtimes r built).2.trans (by decide +kernel)⟩, plain, ?_⟩
  exact reads bs plain

end Router

end RuntimeMux
