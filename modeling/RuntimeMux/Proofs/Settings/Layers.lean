import Mathlib.Data.List.Induction
import Mathlib.Tactic.SplitIfs
import RuntimeMux.Settings.Load

/-!
# Layers laid over each other

A layer says for some places in a tree what is there. Laid over a tree, it has the last word about the
places that it sets, and leaves the other ones as they are, as long as it puts nothing but tables on the
way to them. What is at a place that is set both to a table and to something else cannot be told from
the layers alone, but no setting is read from it.
-/

namespace RuntimeMux.Settings

/-- What a source of settings says: values under keys, in order. -/
abbrev Layer := List (String × Datum)

namespace Datum

/-- What is at the end of a path of keys. -/
def at? : List String → Datum → Option Datum
  | [], d => some d
  | key :: path, d => (d.field? key).bind (at? path)

/-- A datum that has parts, so that no setting is read from it. -/
def IsCompound : Datum → Prop
  | .list _ | .table _ => True
  | .nothing | .text _ | .integer _ | .float _ | .flag _ => False

/-- A datum that is merged into what is there. -/
def IsTable : Datum → Prop
  | .table _ => True
  | .nothing | .text _ | .integer _ | .float _ | .flag _ | .list _ => False

/-! ### What is set -/

/-- What a datum sets at the end of a path that starts at its place: a table sets what the last of its
fields with the next key sets, and anything else is set itself. -/
def sets? : List String → Datum → Option Datum
  | [], .table _ => none
  | [], d => some d
  | key :: path, .table fields =>
    fields.reverse.findSome? fun (k, value) => if k = key then value.sets? path else none
  | _ :: _, _ => none

/-- What a datum at the end of some steps sets at the end of a path. -/
def setsAt? (d : Datum) : List PathStep → List String → Option Datum
  | [], path => d.sets? path
  | .key k :: steps, key :: path => if k = key then d.setsAt? steps path else none
  | _ :: _, _ => none

/-- A datum puts nothing but tables on the way to the end of a path that starts at its place. -/
def Spares : List String → Datum → Prop
  | [], _ => True
  | key :: path, .table fields => ∀ field ∈ fields, field.1 = key → field.2.Spares path
  | _ :: _, _ => False

/-- A datum at the end of some steps puts nothing but tables on the way to the end of a path. -/
def SparesAt (d : Datum) : List PathStep → List String → Prop
  | [], path => d.Spares path
  | .key k :: steps, key :: path => k = key → d.SparesAt steps path
  | .item _ :: _, _ :: _ => False
  | _ :: _, [] => True

theorem sparesAt_nil (d : Datum) (steps : List PathStep) : d.SparesAt steps [] := by
  cases steps with
  | nil => trivial
  | cons step steps => cases step <;> trivial

/-! ### Fields -/

variable {d into value below : Datum} {fields incoming : List (String × Datum)} {key k : String}
  {path : List String} {steps : List PathStep}

theorem at?_cons : d.at? (key :: path) = (d.field? key).bind (at? path) := rfl

theorem at?_singleton : d.at? [key] = d.field? key := by
  cases h : d.field? key <;> simp [at?, h]

theorem lookup_cons_eq :
    ((k, value) :: fields).lookup key = if k = key then some value else fields.lookup key := by
  by_cases same : k = key
  · simp [same]
  · simp [List.lookup_cons, same, beq_false_of_ne (Ne.symm same)]

theorem lookup_setField :
    (setField k value fields).lookup key = if k = key then some value else fields.lookup key := by
  induction fields with
  | nil => exact lookup_cons_eq
  | cons field rest ih =>
    obtain ⟨k', v⟩ := field
    by_cases same : k' = k
    · subst same
      simp only [setField, beq_self_eq_true, if_true, lookup_cons_eq]
      split_ifs <;> rfl
    · simp only [setField, beq_eq_false_iff_ne.2 same, Bool.false_eq_true, if_false, lookup_cons_eq, ih]
      by_cases hk : k' = key
      · simp [hk, show ¬k = key from fun h => same (hk.trans h.symm)]
      · simp [hk]

theorem field?_setField :
    (table (setField k value into.fields)).field? key =
      if k = key then some value else into.field? key :=
  lookup_setField

theorem put_table :
    put k (table incoming) into =
      table (setField k (putAll incoming ((into.field? k).getD .empty)) into.fields) := by
  rw [put]

theorem put_of_not_isTable (h : ¬value.IsTable) :
    put k value into = table (setField k value into.fields) := by
  cases value with
  | table fields => exact absurd trivial h
  | _ => rw [put]; nofun

/-- What is put under one key does not matter for another one. -/
theorem field?_put_of_ne (ne : k ≠ key) : (put k value into).field? key = into.field? key := by
  cases value with
  | table incoming => rw [put_table, field?_setField, if_neg ne]
  | _ => rw [put_of_not_isTable id, field?_setField, if_neg ne]

theorem isTable_iff : d.IsTable ↔ ∃ fields, d = table fields := by
  constructor
  · intro h
    cases d with
    | table fields => exact ⟨fields, rfl⟩
    | _ => exact h.elim
  · rintro ⟨fields, rfl⟩
    trivial

theorem IsTable.isCompound (h : d.IsTable) : d.IsCompound := by
  obtain ⟨fields, rfl⟩ := isTable_iff.1 h
  trivial

theorem isTable_put : (put k value into).IsTable := by
  cases value with
  | table incoming =>
    rw [put_table]
    trivial
  | _ =>
    rw [put_of_not_isTable id]
    trivial

/-- Unless there is nothing to merge into what is no table, there is a table afterwards. -/
theorem isTable_putAll (h : incoming ≠ [] ∨ into.IsTable) : (putAll incoming into).IsTable := by
  induction incoming generalizing into with
  | nil =>
    rw [putAll]
    exact h.resolve_left (not_not_intro rfl)
  | cons field rest ih =>
    rw [putAll]
    exact ih (.inr isTable_put)

/-! ### Merging -/

/-- At the end of a path there is what is expected, or what no setting is read from. -/
def Shows (d : Datum) (path : List String) (expected : Option Datum) : Prop :=
  d.at? path = expected ∨ ∃ w, d.at? path = some w ∧ w.IsCompound

theorem Shows.trans {after : Datum} {new old : Option Datum}
    (later : after.Shows path (new.or (d.at? path))) (earlier : d.Shows path old) :
    after.Shows path (new.or old) := by
  cases new with
  | some v => exact later
  | none =>
    simp only [Option.none_or] at later ⊢
    rcases later with same | compound
    · rcases earlier with expected | ⟨w, here, compound⟩
      · exact .inl (same.trans expected)
      · exact .inr ⟨w, same.trans here, compound⟩
    · exact .inr compound

/-- Fields are merged as what they set, if this holds of each of them. -/
theorem shows_putAll (each : ∀ field ∈ incoming, ∀ d : Datum, field.2.SparesAt [.key field.1] path →
      (put field.1 field.2 d).Shows path ((field.2.setsAt? [.key field.1] path).or (d.at? path)))
    (spares : ∀ field ∈ incoming, field.2.SparesAt [.key field.1] path) :
    (putAll incoming into).Shows path
      ((incoming.reverse.findSome? fun field => field.2.setsAt? [.key field.1] path).or
        (into.at? path)) := by
  induction incoming generalizing into with
  | nil => exact .inl rfl
  | cons field rest ih =>
    obtain ⟨first, others⟩ := List.forall_mem_cons.1 each
    obtain ⟨sparesFirst, sparesOthers⟩ := List.forall_mem_cons.1 spares
    rw [putAll, List.reverse_cons, List.findSome?_append, Option.or_assoc]
    refine (ih others sparesOthers).trans ?_
    simpa using first into sparesFirst

theorem sets?_of_not_isTable (h : ¬value.IsTable) : value.sets? [] = some value := by
  cases value with
  | table fields => exact absurd trivial h
  | _ => rfl

theorem isTable_of_spares (spares : value.Spares (key :: path)) : value.IsTable := by
  cases value with
  | table fields => trivial
  | _ => exact spares

/-- A table that is put at the end of a path sets nothing there, but may leave a table behind. -/
theorem shows_put_table_nil :
    (put key (table incoming) into).Shows [key] (into.at? [key]) := by
  have placed : (put key (table incoming) into).at? [key] =
      some (putAll incoming ((into.field? key).getD .empty)) := by
    rw [put_table, at?, field?_setField, if_pos rfl]
    rfl
  cases incoming with
  | nil =>
    rw [putAll] at placed
    cases here : into.field? key with
    | none =>
      rw [here] at placed
      exact .inr ⟨_, placed, trivial⟩
    | some w =>
      rw [here] at placed
      exact .inl (placed.trans (by simp [at?, here]))
  | cons field rest => exact .inr ⟨_, placed, (isTable_putAll (.inl (List.cons_ne_nil _ _))).isCompound⟩

/-- A table that is put on the way to the end of a path is merged into what is there. -/
theorem at?_put_table_cons {next : String} :
    (put key (table incoming) into).at? (key :: next :: path) =
      (putAll incoming ((into.field? key).getD .empty)).at? (next :: path) := by
  rw [put_table, at?, field?_setField, if_pos rfl, Option.bind_some]

/-- It makes no difference to what is further down whether there is nothing or something without
fields. -/
theorem at?_getD {next : String} {other : Datum} (bare : other.fields = []) :
    ((into.field? key).getD other).at? (next :: path) = into.at? (key :: next :: path) := by
  show _ = (into.field? key).bind (at? (next :: path))
  cases into.field? key with
  | none => simp [at?, field?, bare]
  | some d => rfl

/-- What a datum sets that is put under a key is there, and other places are left as they are. -/
theorem shows_put (spares : value.SparesAt [.key k] path) :
    (put k value into).Shows path ((value.setsAt? [.key k] path).or (into.at? path)) := by
  induction path generalizing k value into with
  | nil => exact .inr ⟨_, rfl, isTable_put.isCompound⟩
  | cons key path ih =>
    by_cases same : k = key
    · subst same
      simp only [SparesAt, forall_const] at spares
      simp only [setsAt?, if_true]
      by_cases isTable : value.IsTable
      · obtain ⟨incoming, rfl⟩ := isTable_iff.1 isTable
        cases path with
        | nil => exact shows_put_table_nil
        | cons next path =>
          have merged : (putAll incoming ((into.field? k).getD .empty)).Shows (next :: path) _ :=
            shows_putAll (fun field _ d spares => ih spares) spares
          rw [at?_getD rfl] at merged
          rw [Shows, at?_put_table_cons]
          exact merged
      · have placed : (put k value into).at? (k :: path) = value.at? path := by
          rw [put_of_not_isTable isTable, at?, field?_setField, if_pos rfl]
          rfl
        cases path with
        | nil =>
          refine .inl (placed.trans ?_)
          simp [sets?_of_not_isTable isTable, at?]
        | cons next path => exact absurd (isTable_of_spares spares) isTable
    · refine .inl ?_
      simp [at?, field?_put_of_ne same, setsAt?, same]

/-! ### Paths -/

theorem isTable_putAt_key : (putAt value (.key k :: steps) into).IsTable := by
  cases steps with
  | nil =>
    rw [putAt]
    exact isTable_put
  | cons step steps =>
    rw [putAt]
    trivial

theorem isCompound_putAt {step : PathStep} : (putAt value (step :: steps) into).IsCompound := by
  cases step with
  | key k => exact isTable_putAt_key.isCompound
  | item index =>
    rw [putAt]
    trivial

theorem field?_putAt {step : PathStep} :
    (putAt value (.key k :: step :: steps) into).field? key =
      if k = key then some (putAt value (step :: steps) ((into.field? k).getD .nothing))
      else into.field? key := by
  rw [putAt, field?_setField]

/-- What a datum sets that is put at the end of some steps is there, and other places are left as they
are. -/
theorem shows_putAt (spares : value.SparesAt (.key k :: steps) path) :
    (putAt value (.key k :: steps) into).Shows path
      ((value.setsAt? (.key k :: steps) path).or (into.at? path)) := by
  induction steps generalizing k into path with
  | nil =>
    rw [putAt]
    exact shows_put spares
  | cons step steps ih =>
    cases path with
    | nil => exact .inr ⟨_, rfl, isCompound_putAt⟩
    | cons key path =>
      by_cases same : k = key
      · subst same
        simp only [SparesAt, forall_const] at spares
        simp only [setsAt?, if_true]
        have placed : (putAt value (.key k :: step :: steps) into).at? (k :: path) =
            (putAt value (step :: steps) ((into.field? k).getD .nothing)).at? path := by
          rw [at?, field?_putAt, if_pos rfl, Option.bind_some]
        rw [Shows, placed]
        cases path with
        | nil => exact .inr ⟨_, rfl, isCompound_putAt⟩
        | cons next path =>
          cases step with
          | item index => exact spares.elim
          | key k' =>
            rw [← at?_getD (show (Datum.nothing).fields = [] from rfl)]
            exact ih spares
      · refine .inl ?_
        simp [at?, field?_putAt, setsAt?, same]

/-- A table stays a table if nothing but tables is put on the way further down. -/
theorem isTable_at?_putAt {next : String} (spares : value.SparesAt (.key k :: steps) [key, next])
    (table : ∀ d, into.field? key = some d → d.IsTable) {d : Datum}
    (here : (putAt value (.key k :: steps) into).field? key = some d) : d.IsTable := by
  by_cases same : k = key
  · subst same
    simp only [SparesAt, forall_const] at spares
    cases steps with
    | nil =>
      obtain ⟨incoming, rfl⟩ := isTable_iff.1 (isTable_of_spares spares)
      rw [putAt, put_table, field?_setField, if_pos rfl] at here
      obtain rfl := Option.some.inj here
      refine isTable_putAll (.inr ?_)
      cases below : into.field? k with
      | none => trivial
      | some d => exact table d below
    | cons step steps =>
      rw [field?_putAt, if_pos rfl] at here
      obtain rfl := Option.some.inj here
      cases step with
      | item index => exact spares.elim
      | key k' => exact isTable_putAt_key
  · refine table d ?_
    cases steps with
    | nil => rwa [putAt, field?_put_of_ne same] at here
    | cons step steps => rwa [field?_putAt, if_neg same] at here

end Datum

/-! ### Layers -/

theorem exists_pathOf (key : String) : ∃ k steps, pathOf key = .key k :: steps := by
  simp only [pathOf]
  split
  next steps read => exact ⟨_, steps, rfl⟩
  next => exact ⟨key, [], rfl⟩

theorem layOver_cons {entry : String × Datum} {layer : Layer} {below : Datum} :
    layOver (entry :: layer) below = layOver layer (Datum.putAt entry.2 (pathOf entry.1) below) :=
  rfl

theorem layOver_append {upper lower : Layer} {below : Datum} :
    layOver (lower ++ upper) below = layOver upper (layOver lower below) :=
  List.foldl_append

namespace Layer

/-- What a layer sets at the end of a path. Of the values that do so, the last one counts. -/
def sets? (layer : Layer) (path : List String) : Option Datum :=
  layer.reverse.findSome? fun (key, value) => value.setsAt? (pathOf key) path

/-- A layer puts nothing but tables on the way to the end of a path. -/
def Spares (layer : Layer) (path : List String) : Prop :=
  ∀ entry ∈ layer, entry.2.SparesAt (pathOf entry.1) path

variable {path : List String} {layer upper lower : Layer} {below : Datum}

theorem sets?_append : (lower ++ upper).sets? path = (upper.sets? path).or (lower.sets? path) := by
  simp [sets?, List.findSome?_append]

/-- What a layer sets is there after it is laid over something, and other places are left as they are.
-/
theorem shows_layOver (spares : layer.Spares path) :
    (layOver layer below).Shows path ((layer.sets? path).or (below.at? path)) := by
  induction layer using List.reverseRecOn with
  | nil => exact .inl rfl
  | append_singleton layer entry ih =>
    obtain ⟨before, last⟩ := List.forall_mem_append.1 spares
    obtain ⟨k, steps, isPath⟩ := exists_pathOf entry.1
    have spared := last entry (List.mem_singleton_self _)
    have single : sets? [entry] path = entry.2.setsAt? (pathOf entry.1) path := by
      simp [sets?]
    rw [isPath] at spared single
    rw [sets?_append, layOver_append, layOver_cons, single, isPath, Option.or_assoc]
    exact (Datum.shows_putAt spared).trans (ih before)

/-- A table stays a table if nothing but tables is put on the way further down. -/
theorem isTable_layOver {key next : String} (spares : layer.Spares [key, next])
    (table : ∀ d, below.field? key = some d → d.IsTable) :
    ∀ d, (layOver layer below).field? key = some d → d.IsTable := by
  induction layer generalizing below with
  | nil => exact table
  | cons entry layer ih =>
    obtain ⟨first, others⟩ := List.forall_mem_cons.1 spares
    obtain ⟨k, steps, isPath⟩ := exists_pathOf entry.1
    rw [isPath] at first
    rw [layOver_cons, isPath]
    exact ih others fun d here => Datum.isTable_at?_putAt first table here

end Layer

end RuntimeMux.Settings
