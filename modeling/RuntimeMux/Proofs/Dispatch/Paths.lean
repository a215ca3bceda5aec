import Mathlib.Data.List.Induction
import Mathlib.Data.List.Nodup
import Mathlib.Tactic.Linarith
import RuntimeMux.Method

/-!
# Paths of methods

The path of a method is put together from a package, a service and a name, and is taken apart again
at the first slash behind the leading one and the last dot in front of it. Packages have dots
themselves, and one of them leads the others, but a service has neither dots nor slashes. So a path
stands for one revision, service and name only, and the methods that are entered into a table under
their paths, one after the other, all stay in it.
-/

namespace RuntimeMux

/-! ### Taking a path apart -/

/-- Whether a text can be the name of a service. -/
def IsServiceName (service : String) : Prop :=
  '.' ∉ service.toList ∧ '/' ∉ service.toList

instance : DecidablePred IsServiceName :=
  fun _ => inferInstanceAs (Decidable (_ ∧ _))

theorem Service.isServiceName_name (s : Service) : IsServiceName s.name := by
  cases s <;> decide

namespace Revision

theorem slash_notMem_package (r : Revision) : '/' ∉ r.package.toList := by
  cases r <;> decide

theorem mem_all (r : Revision) : r ∈ all := by
  cases r <;> decide

theorem ofPackage?_eq_some_iff {package : String} {r : Revision} :
    ofPackage? package = some r ↔ package = r.package := by
  constructor
  · exact fun h => (package_of_ofPackage? h).symm
  · rintro rfl
    exact ofPackage?_package r

theorem toList_methodPath (r : Revision) (service method : String) :
    (r.methodPath service method).toList =
      '/' :: (r.package.toList ++ '.' :: service.toList) ++ '/' :: method.toList := by
  simp [methodPath]

end Revision

variable {path service method : String} {r : Revision}

/-- A path is taken apart exactly into what it is put together from. -/
theorem splitPath?_eq_some_iff :
    splitPath? path = some (r, service, method) ↔
      path = r.methodPath service method ∧ IsServiceName service := by
  rw [← String.toList_inj, r.toList_methodPath]
  simp only [splitPath?, Option.bind_eq_bind, Option.bind_eq_some_iff, Prod.exists, Option.pure_def,
    Option.some.injEq, Prod.mk.injEq, Revision.ofPackage?_eq_some_iff, Text.splitLast?_eq_some_iff,
    Text.splitFirst?_eq_some_iff, Text.after?_eq_some_iff]
  constructor
  · rintro ⟨qualified, _, ⟨rest, rfl, cut, slash⟩, _, _, ⟨split, dot⟩, _, rfl, rfl, rfl, rfl⟩
    refine ⟨?_, dot, fun mem => slash ?_⟩
    · simp [cut, split]
    · simp [split, mem]
  · rintro ⟨h, dot, slash⟩
    refine ⟨.ofList (r.package.toList ++ '.' :: service.toList), method,
      ⟨.ofList ((r.package.toList ++ '.' :: service.toList) ++ '/' :: method.toList), ?_, ?_, ?_⟩,
      r.package, service, ⟨?_, dot⟩, r, rfl, rfl, rfl, rfl⟩
    · simp [← String.toList_inj, h]
    · simp
    · simp [r.slash_notMem_package, slash]
    · simp

theorem splitPath?_methodPath (h : IsServiceName service) :
    splitPath? (r.methodPath service method) = some (r, service, method) :=
  splitPath?_eq_some_iff.2 ⟨rfl, h⟩

namespace Method

theorem path_injective : Function.Injective fun e : Revision × Method => e.2.path e.1 := by
  rintro ⟨r, m⟩ ⟨r', m'⟩ same
  have split := congrArg splitPath? same
  simp only [path] at split
  rw [splitPath?_methodPath m.service.isServiceName_name,
    splitPath?_methodPath m'.service.isServiceName_name] at split
  simp only [Option.some.injEq, Prod.mk.injEq] at split
  obtain ⟨rfl, -, name⟩ := split
  rw [name_injective name]

/-- A path names a method exactly if it is the path of the method in a revision that knows it. -/
theorem find?_eq_some_iff {m : Method} :
    find? path = some (r, m) ↔ path = m.path r ∧ m.isKnownIn r = true := by
  simp only [find?, Option.bind_eq_bind, Option.bind_eq_some_iff, Prod.exists,
    splitPath?_eq_some_iff, Option.ite_none_right_eq_some, Option.some.injEq, Prod.mk.injEq]
  constructor
  · rintro ⟨r', service, name, ⟨rfl, -⟩, m', found, known, rfl, rfl⟩
    have names := List.find?_some found
    simp only [Bool.and_eq_true, beq_iff_eq] at names
    obtain ⟨rfl, rfl⟩ := names
    exact ⟨rfl, known⟩
  · rintro ⟨rfl, known⟩
    refine ⟨r, m.service.name, m.name, ⟨rfl, m.service.isServiceName_name⟩, m, ?_, known, rfl, rfl⟩
    cases m <;> decide

/-! ### The table of paths -/

/-- Whether every revision knows a method. -/
def isCommon (m : Method) : Bool :=
  Revision.all.all m.isKnownIn

/-- The methods of a revision, those that every revision knows before the others. -/
def ofRevision (r : Revision) : List Method :=
  all.filter isCommon ++ all.filter fun m => !m.isCommon && m.isKnownIn r

/-- The methods of all revisions. -/
def entries : List (Revision × Method) :=
  Revision.all.flatMap fun r => (ofRevision r).map fun m => (r, m)

/-- A table of paths. -/
abbrev Table := Std.HashMap String (Revision × Method)

/-- The table of a list of entries. Each takes the place of what was entered under its path before.
-/
def Table.ofEntries (entries : List (Revision × Method)) : Table :=
  entries.foldl (fun table e => table.insert (e.2.path e.1) e) ∅

theorem mem_entries_iff {m : Method} : (r, m) ∈ entries ↔ m.isKnownIn r = true := by
  have common : m.isCommon = true → m.isKnownIn r = true :=
    fun h => List.all_eq_true.1 h r r.mem_all
  simp only [entries, ofRevision, List.mem_flatMap, List.mem_map, List.mem_append, List.mem_filter,
    mem_all, true_and, Prod.mk.injEq, Bool.and_eq_true, Bool.not_eq_true']
  constructor
  · rintro ⟨_, -, _, h | h, rfl, rfl⟩
    · exact common h
    · exact h.2
  · intro known
    refine ⟨r, r.mem_all, m, ?_, rfl, rfl⟩
    cases hm : m.isCommon with
    | true => exact .inl rfl
    | false => exact .inr ⟨rfl, known⟩

theorem nodup_entries : entries.Nodup := by
  decide

namespace Table

variable {es before after : List (Revision × Method)} {e : Revision × Method}

theorem ofEntries_concat (es : List (Revision × Method)) (e : Revision × Method) :
    ofEntries (es ++ [e]) = (ofEntries es).insert (e.2.path e.1) e := by
  simp [ofEntries]

/-- Under a path stands the entry whose path it is. -/
theorem getElem?_ofEntries_eq_some_iff :
    (ofEntries es)[path]? = some e ↔ e ∈ es ∧ path = e.2.path e.1 := by
  induction es using List.reverseRecOn with
  | nil => simp [ofEntries]
  | append_singleton es e' ih =>
    rw [ofEntries_concat, Std.HashMap.getElem?_insert]
    by_cases same : e'.2.path e'.1 = path
    · subst same
      simp only [beq_self_eq_true, if_true, Option.some.injEq, List.mem_append, List.mem_singleton]
      constructor
      · rintro rfl
        exact ⟨.inr rfl, rfl⟩
      · rintro ⟨-, h⟩
        exact path_injective h
    · have differs : ¬(e = e' ∧ path = e.2.path e.1) := by
        rintro ⟨rfl, h⟩
        exact same h.symm
      simp only [beq_iff_eq, if_neg same, ih, List.mem_append, List.mem_singleton, or_and_right,
        differs, or_false]

/-- An entry that is new finds nothing under its path. -/
theorem getElem?_ofEntries_of_notMem (h : e ∉ es) : (ofEntries es)[e.2.path e.1]? = none := by
  refine Option.eq_none_iff_forall_ne_some.2 fun e' there => h ?_
  obtain ⟨mem, same⟩ := getElem?_ofEntries_eq_some_iff.1 there
  exact path_injective same ▸ mem

end Table

/-- A path is put together from one revision, service and name, and is taken apart into them again.
So the methods that are entered into the table of paths never take the place of each other, and the
table finds what taking paths apart finds. -/
theorem paths_unambiguous :
    (∀ r service method, IsServiceName service →
      splitPath? (r.methodPath service method) = some (r, service, method)) ∧
    (∀ path r service method, splitPath? path = some (r, service, method) →
      IsServiceName service ∧ r.methodPath service method = path) ∧
    (∀ (r r' : Revision) service service' method method',
      IsServiceName service → IsServiceName service' →
      r.methodPath service method = r'.methodPath service' method' →
        (r, service, method) = (r', service', method')) ∧
    (∀ before e after, entries = before ++ e :: after →
      (Table.ofEntries before)[e.2.path e.1]? = none) ∧
    ∀ path, (Table.ofEntries entries)[path]? = find? path := by
  refine ⟨?_, ?_, ?_, ?_, ?_⟩
  · intro r service method named
    exact splitPath?_methodPath named
  · intro path r service method split
    obtain ⟨whole, named⟩ := splitPath?_eq_some_iff.1 split
    exact ⟨named, whole.symm⟩
  · intro r r' service service' method method' named named' same
    have split := congrArg splitPath? same
    rw [splitPath?_methodPath named, splitPath?_methodPath named'] at split
    exact Option.some.inj split
  · intro before e after cut
    have apart := nodup_entries
    rw [cut, List.nodup_middle, List.nodup_cons] at apart
    exact Table.getElem?_ofEntries_of_notMem fun mem => apart.1 (List.mem_append_left after mem)
  · intro path
    refine Option.ext fun ⟨r, m⟩ => ?_
    rw [Table.getElem?_ofEntries_eq_some_iff, find?_eq_some_iff, mem_entries_iff]
    exact and_comm

/-- The name of a method may have dots and slashes, and may be empty. -/
theorem paths_unambiguous_dotted :
    IsServiceName "ImageService" ∧
      splitPath? (Revision.v1alpha2.methodPath "ImageService" "a.b/c") =
        some (.v1alpha2, "ImageService", "a.b/c") ∧
      splitPath? "/runtime.v1.Images/" = some (.v1, "Images", "") ∧
      Revision.v1.methodPath "Images" "" = "/runtime.v1.Images/" ∧
      (∀ (r : Revision) method, r.methodPath "Images" method = Revision.v1.methodPath "Images" "" →
        r = .v1 ∧ method = "") ∧
      entries = entries.take 26 ++ (.v1alpha2, .version) :: entries.drop 27 ∧
      (Table.ofEntries (entries.take 26))["/runtime.v1alpha2.RuntimeService/Version"]? = none := by
  obtain ⟨splits, wholes, apart, entered, -⟩ := paths_unambiguous
  have named : IsServiceName "Images" := by decide
  have split : splitPath? "/runtime.v1.Images/" = some (.v1, "Images", "") := by decide +kernel
  have cut : entries = entries.take 26 ++ (.v1alpha2, .version) :: entries.drop 27 := by decide
  refine ⟨by decide, splits _ _ _ (by decide), split, (wholes _ _ _ _ split).2, ?_, cut,
    entered _ _ _ cut⟩
  intro r method same
  have := apart _ _ _ _ _ _ named named same
  simpa using this

end Method

end RuntimeMux
