import RuntimeMux.Proofs.Settings.Arguments
import RuntimeMux.Proofs.Settings.Keys

/-!
# The precedence of layers

A setting has the value that the highest layer gives it: the command line, the environment, the file
that the command line names, the file of the system, or the defaults. Layers do not get into each
other's way as long as each of them leaves the section of logging a table. A list in its place is read
as the settings of the section in order, and is lost as a whole to a higher layer that sets one of
them.
-/

namespace RuntimeMux.Settings

/-! ### Layers of data -/

/-- The layers of data, the highest first. -/
def sources (textOf : String → Option String) (environment : List (String × String)) (flags : Flags) :
    Except LoadFault (List Layer) := do
  let system ← systemLayer textOf
  let user ← userLayer textOf flags
  return [environmentLayer environment, user, system, defaults]

/-- A datum at the end of some steps leaves a section a table: it is the section itself only as a table,
and is no item of it. -/
def Datum.LeavesTable (d : Datum) (name : String) : List PathStep → Prop
  | [.key k] => k = name → d.IsTable
  | .key k :: .item _ :: _ => k ≠ name
  | [] | .key _ :: .key _ :: _ | .item _ :: _ => True

/-- Whatever a layer gives for a section as a whole is a table, and it gives no item of it. -/
def Layer.LeavesTable (layer : Layer) (name : String) : Prop :=
  ∀ entry ∈ layer, entry.2.LeavesTable name (pathOf entry.1)

instance (d : Datum) : Decidable d.IsTable :=
  match d with
  | .table _ => .isTrue trivial
  | .nothing | .text _ | .integer _ | .float _ | .flag _ | .list _ => .isFalse id

instance (d : Datum) (name : String) (steps : List PathStep) : Decidable (d.LeavesTable name steps) :=
  match steps with
  | [.key k] => inferInstanceAs (Decidable (k = name → d.IsTable))
  | .key k :: .item _ :: _ => inferInstanceAs (Decidable (k ≠ name))
  | [] | .key _ :: .key _ :: _ | .item _ :: _ => .isTrue trivial

instance (layer : Layer) (name : String) : Decidable (layer.LeavesTable name) :=
  inferInstanceAs (Decidable (∀ entry ∈ layer, entry.2.LeavesTable name (pathOf entry.1)))

namespace Key

/-- All layers leave the section of a key a table, if the key is in the section of logging. -/
def Clear (k : Key) (layers : List Layer) : Prop :=
  k ∈ logging → ∀ layer ∈ layers, layer.LeavesTable "logging"

/-- What the highest layer that sets a key sets it to. -/
def set? (k : Key) (layers : List Layer) : Option Datum :=
  layers.findSome? fun layer => layer.sets? k.path

/-- The text that the command line gives a key, or the variable that stands in for the filter. -/
def given? (arguments : List String) (environment : List (String × String)) : Key → Option String
  | .listen => (Flags.given arguments).lookup .listen
  | .connect => (Flags.given arguments).lookup .connect
  | .streamPort => (Flags.given arguments).lookup .streamPort
  | .streamUrl => (Flags.given arguments).lookup .streamUrl
  | .connectionTimeout => (Flags.given arguments).lookup .connectionTimeout
  | .filter => ((Flags.given arguments).lookup .logFilter).or (environment.lookup filterVariable)
  | .file => (Flags.given arguments).lookup .logFile
  | .pollInterval | .pollAttempts | .level => none

/-- The value of a key by a text on the command line. -/
def ofText? : (k : Key) → String → Option k.Value
  | .listen => fun t => (Setter.listen.read t).toOption
  | .connect => fun t => (Setter.connect.read t).toOption
  | .streamPort => fun t => (Setter.streamPort.read t).toOption
  | .streamUrl => fun t => (Setter.streamUrl.read t).toOption.map some
  | .connectionTimeout => fun t => (Setter.connectionTimeout.read t).toOption
  | .filter => fun t => (Setter.logFilter.read t).toOption.map some
  | .file => fun t => (Setter.logFile.read t).toOption.map some
  | .pollInterval | .pollAttempts | .level => fun _ => none

end Key

variable {textOf : String → Option String} {environment : List (String × String)} {flags : Flags}
  {arguments : List String} {layers : List Layer} {layer : Layer} {s : Settings} {k : Key}

theorem Layer.spares_of_leavesTable {name next : String} (leaves : layer.LeavesTable name) :
    layer.Spares [name, next] := by
  rintro ⟨key, value⟩ mem
  have leaves := leaves (key, value) mem
  obtain ⟨first, steps, isPath⟩ := exists_pathOf key
  simp only [isPath] at leaves ⊢
  rintro rfl
  match steps with
  | [] =>
    obtain ⟨fields, rfl⟩ := Datum.isTable_iff.1 (leaves rfl)
    exact fun _ _ _ => trivial
  | .item _ :: _ => exact absurd rfl leaves
  | .key k :: steps => exact fun _ => value.sparesAt_nil steps

/-- There is nothing on the way to a key that is not in a section. -/
theorem Layer.spares_singleton {name : String} : layer.Spares [name] := by
  intro entry _
  obtain ⟨first, steps, isPath⟩ := exists_pathOf entry.1
  rw [isPath]
  exact fun _ => entry.2.sparesAt_nil steps

theorem Key.Clear.spares (clear : k.Clear layers) (mem : layer ∈ layers) : layer.Spares k.path := by
  cases k with
  | level | filter | file => exact Layer.spares_of_leavesTable (clear (by decide) layer mem)
  | _ => exact Layer.spares_singleton

theorem Layer.sets?_flatten_reverse {path : List String} :
    Layer.sets? layers.reverse.flatten path = layers.findSome? fun layer => layer.sets? path := by
  induction layers with
  | nil => rfl
  | cons layer layers ih =>
    rw [List.reverse_cons, List.flatten_append, sets?_append, List.findSome?_cons, ← ih]
    simp only [List.flatten_cons, List.flatten_nil, List.append_nil]
    cases layer.sets? path <;> rfl

/-- What is loaded is read from the layers laid over each other, and the command line is laid over it.
-/
theorem exists_of_load (found : sources textOf environment flags = .ok layers)
    (loaded : load textOf environment flags = .ok s) :
    ∃ below, ofDatum? (layOver layers.reverse.flatten .empty) = some below ∧
      s = below.withFlags { flags with
        logFilter := flags.logFilter.or (environment.lookup filterVariable) } := by
  simp only [sources, bind_eq_ok_iff] at found
  obtain ⟨system, hsystem, user, huser, found⟩ := found
  obtain rfl := Except.ok.inj found
  have laid : layOver [environmentLayer environment, user, system, defaults].reverse.flatten .empty =
      layOver (environmentLayer environment)
        (layOver user (layOver system (layOver defaults .empty))) := by
    simp [layOver, List.foldl_append]
  rw [laid]
  simp only [load, hsystem, huser, bind_eq_ok_iff, Except.ok.injEq, exists_eq_left'] at loaded
  split at loaded
  next below read =>
    refine ⟨below, read, (Except.ok.inj loaded).symm.trans ?_⟩
    cases flags.logFilter <;> rfl
  next => cases loaded

/-- Below the command line, a setting is read from what the highest layer sets its key to. -/
theorem from?_of_ofDatum? (clear : k.Clear layers) {below : Settings}
    (read : ofDatum? (layOver layers.reverse.flatten .empty) = some below) :
    k.from? (k.set? layers) = some (below.get k) := by
  have spares : Layer.Spares layers.reverse.flatten k.path := by
    intro entry mem
    obtain ⟨layer, hlayer, mem⟩ := List.mem_flatten.1 mem
    exact clear.spares (List.mem_reverse.1 hlayer) entry mem
  have table (mem : k ∈ Key.logging) : ∀ d,
      (layOver layers.reverse.flatten .empty).field? "logging" = some d → d.IsTable := by
    have bare : ∀ d, Datum.empty.field? "logging" = some d → d.IsTable := nofun
    cases k with
    | level | filter | file => exact Layer.isTable_layOver spares bare
    | _ => exact absurd mem (by decide)
  have value := get_of_ofDatum? table read
  have nowhere : Datum.empty.at? k.path = none := by cases k <;> rfl
  have shows : (layOver layers.reverse.flatten .empty).Shows k.path
      ((Layer.sets? layers.reverse.flatten k.path).or (Datum.empty.at? k.path)) :=
    Layer.shows_layOver spares
  rw [Layer.sets?_flatten_reverse, nowhere, Option.or_none] at shows
  rcases shows with set | ⟨w, here, compound⟩
  · rw [← value, set]
    rfl
  · rw [here] at value
    exact absurd (value.symm.trans (Key.read?_of_isCompound compound)) (Option.some_ne_none _)

/-- A key that the command line gives has the value of its text there, and any other one keeps its
value. -/
theorem get_withFlags (follows : Flags.Extends {} (Flags.given arguments) flags) :
    some ((s.withFlags { flags with
        logFilter := flags.logFilter.or (environment.lookup filterVariable) }).get k) =
      (k.given? arguments environment).elim (some (s.get k)) k.ofText? := by
  cases k with
  | pollInterval | pollAttempts | level => rfl
  | listen => exact Flags.getD_get? follows .listen _
  | connect => exact Flags.getD_get? follows .connect _
  | streamPort => exact Flags.getD_get? follows .streamPort _
  | connectionTimeout => exact Flags.getD_get? follows .connectionTimeout _
  | streamUrl => exact Flags.orElse_get? follows .streamUrl _
  | file => exact Flags.orElse_get? follows .logFile _
  | filter =>
    -- the variable stands in where the command line gives nothing
    show some ((flags.logFilter.or _).orElse _) = Option.elim (Option.or _ _) _ _
    rcases Flags.given_or_not follows .logFilter with ⟨unset, none⟩ | ⟨t, v, given, read, set⟩
    · rw [unset, show flags.logFilter = Option.none from none]
      cases environment.lookup filterVariable <;> rfl
    · rw [given, show flags.logFilter = some v from set]
      exact congrArg (Option.map some) (congrArg Except.toOption read).symm

/-! ### Keys apart from each other -/

theorem Key.path_injective : Function.Injective Key.path := by
  intro k k' same
  cases k <;> cases k' <;> first | rfl | exact absurd same (by decide)

/-- What is put at the place of one key sets nothing at the place of another one. -/
theorem setsAt?_of_ne {k' : Key} (ne : k' ≠ k) (value : Datum) :
    value.setsAt? (k'.path.map .key) k.path = none := by
  cases k <;> cases k' <;> first | exact absurd rfl ne | rfl

/-- An entry of a layer for one key does not change what the layer sets another one to. -/
theorem Layer.sets?_insert {k' : Key} {before after : Layer} {key : String} (ne : k' ≠ k)
    (isPath : pathOf key = k'.path.map .key) (value : Datum) :
    Layer.sets? (before ++ (key, value) :: after) k.path = Layer.sets? (before ++ after) k.path := by
  have sets : Layer.sets? [(key, value)] k.path = none := by
    simp [sets?, isPath, setsAt?_of_ne ne]
  rw [← List.singleton_append, sets?_append, sets?_append, sets?_append, sets, Option.or_none]

/-- A field for one key, in a table that a layer gives for the section, does not change what the table
sets another key to. -/
theorem setsAt?_insert {k' : Key} {before after : List (String × Datum)} {name : String}
    (ne : k' ≠ k) (isPath : k'.path = ["logging", name]) (value : Datum) :
    (Datum.table (before ++ (name, value) :: after)).setsAt? [.key "logging"] k.path =
      (Datum.table (before ++ after)).setsAt? [.key "logging"] k.path := by
  have inSection (next : String) (isPath' : k.path = ["logging", next]) :
      (Datum.table (before ++ (name, value) :: after)).setsAt? [.key "logging"] k.path =
        (Datum.table (before ++ after)).setsAt? [.key "logging"] k.path := by
    have other : name ≠ next := by
      rintro rfl
      exact ne (Key.path_injective (isPath.trans isPath'.symm))
    simp [isPath', Datum.setsAt?, Datum.sets?, other]
  cases k with
  | level | filter | file => exact inSection _ rfl
  | _ => rfl

/-! ### Loading -/

/-- Settings are loaded from files, an environment and a command line, by way of layers of data. -/
def Loads (textOf : String → Option String) (environment : List (String × String))
    (arguments : List String) (layers : List Layer) (s : Settings) : Prop :=
  ∃ flags, Flags.ofArguments arguments = .ok flags ∧
    sources textOf environment flags = .ok layers ∧ load textOf environment flags = .ok s

/-- Whatever loads does so by way of layers. -/
theorem exists_loads (accepted : Flags.ofArguments arguments = .ok flags)
    (loaded : load textOf environment flags = .ok s) :
    ∃ layers, Loads textOf environment arguments layers s := by
  have opened := loaded
  simp only [load, bind_eq_ok_iff] at opened
  obtain ⟨system, hsystem, user, huser, -⟩ := opened
  exact ⟨_, flags, accepted, by simp only [sources, hsystem, huser]; rfl, loaded⟩

/-- Loading can be tried out. -/
theorem exists_loads_of_any {p : List Layer → Prop} {q : Settings → Prop} [DecidablePred p]
    [DecidablePred q] (flags : Flags) (accepted : Flags.ofArguments arguments = .ok flags)
    (found : (sources textOf environment flags).toOption.any fun layers => p layers)
    (loaded : (load textOf environment flags).toOption.any fun s => q s) :
    ∃ layers s, Loads textOf environment arguments layers s ∧ p layers ∧ q s := by
  cases hl : sources textOf environment flags with
  | error fault =>
    rw [hl] at found
    cases found
  | ok layers =>
    cases hs : load textOf environment flags with
    | error fault =>
      rw [hs] at loaded
      cases loaded
    | ok s =>
      rw [hl] at found
      rw [hs] at loaded
      exact ⟨layers, s, ⟨flags, accepted, hl, hs⟩, of_decide_eq_true found, of_decide_eq_true loaded⟩

/-- A setting has the value that the command line gives it, or else the value of what the highest layer
sets its key to. -/
theorem get_of_loads (loads : Loads textOf environment arguments layers s) (clear : k.Clear layers) :
    some (s.get k) =
      (k.given? arguments environment).elim (k.from? (k.set? layers)) k.ofText? := by
  obtain ⟨flags, accepted, found, loaded⟩ := loads
  obtain ⟨below, read, rfl⟩ := exists_of_load found loaded
  rw [get_withFlags (Flags.extends_of_ofArguments accepted), from?_of_ofDatum? clear read]

/-- Loading goes by precedence. A setting has the value of the highest layer that sets its key, which
is a layer of data if it has no option. Whatever is the same about a key in two ways of loading gives
it the same value in both, and setting a key is setting no other one, be it with an entry of its own or
with a field in the table of the section. -/
theorem precedence (loads : Loads textOf environment arguments layers s) :
    (∀ k : Key, k.Clear layers → some (s.get k) =
        (k.given? arguments environment).elim (k.from? (k.set? layers)) k.ofText?) ∧
      (∀ k ∈ [Key.pollInterval, .pollAttempts, .level], k.Clear layers →
        some (s.get k) = k.from? (k.set? layers)) ∧
      (∀ textOf' environment' arguments' layers' s',
        Loads textOf' environment' arguments' layers' s' →
        ∀ k : Key, k.Clear layers → k.Clear layers' →
          k.given? arguments' environment' = k.given? arguments environment →
          k.set? layers' = k.set? layers → s'.get k = s.get k) ∧
      (∀ (k k' : Key) (key : String) (value : Datum) (before after : Layer), k' ≠ k →
        pathOf key = k'.path.map .key →
        Layer.sets? (before ++ (key, value) :: after) k.path =
          Layer.sets? (before ++ after) k.path) ∧
      ∀ (k k' : Key) (name : String) (value : Datum) (before after : List (String × Datum)), k' ≠ k →
        k'.path = ["logging", name] →
        (Datum.table (before ++ (name, value) :: after)).setsAt? [.key "logging"] k.path =
          (Datum.table (before ++ after)).setsAt? [.key "logging"] k.path := by
  refine ⟨fun k clear => get_of_loads loads clear, fun k mem clear => ?_,
    fun _ _ _ _ _ loads' k clear clear' given set => ?_,
    fun _ _ _ value _ _ ne isPath => Layer.sets?_insert ne isPath value,
    fun _ _ _ value _ _ ne isPath => setsAt?_insert ne isPath value⟩
  · have unset : k.given? arguments environment = none := by
      simp only [List.mem_cons, List.not_mem_nil, or_false] at mem
      rcases mem with rfl | rfl | rfl <;> rfl
    rw [get_of_loads loads clear, unset, Option.elim_none]
  · refine Option.some.inj ?_
    rw [get_of_loads loads clear, get_of_loads loads' clear', given, set]

/-- A settings file in the working directory. -/
def onlyFile (text path : String) : Option String :=
  if path = "config.toml" then some text else none

/-- A port on the command line goes before the one of a file, and a level in a file before the default
one, with a variable of the same section set. -/
theorem precedence_overridden : ∃ layers s,
    Loads (onlyFile "stream_port = 12000\n[logging]\nlevel = \"debug\"\n")
        [("CRIPROXY_LOGGING__FILTER", "x")]
        ["--config", "config.toml", "--stream-port", "13000"] layers s ∧
      Key.level.Clear layers ∧ s.get .streamPort = 13000 ∧ s.get .level = "debug" := by
  have tried : ∃ layers s,
      Loads (onlyFile "stream_port = 12000\n[logging]\nlevel = \"debug\"\n")
          [("CRIPROXY_LOGGING__FILTER", "x")]
          ["--config", "config.toml", "--stream-port", "13000"] layers s ∧
        ((∀ layer ∈ layers, layer.LeavesTable "logging") ∧
          Key.level.from? (Key.level.set? layers) = some "debug") ∧ True :=
    exists_loads_of_any { config := some "config.toml", streamPort := some 13000 }
      (by decide +kernel) (by decide +kernel) (by decide +kernel)
  obtain ⟨layers, s, loads, ⟨tables, set⟩, -⟩ := tried
  have clear (k : Key) : k.Clear layers := fun _ => tables
  have values (k : Key) := (precedence loads).1 k (clear k)
  have port := values .streamPort
  rw [show Key.given? _ _ .streamPort = some "13000" by decide +kernel, Option.elim_some,
    show Key.ofText? .streamPort "13000" = some 13000 by decide +kernel] at port
  exact ⟨layers, s, loads, clear _, Option.some.inj port,
    Option.some.inj ((values .level).trans set)⟩

/-- A list in the place of the section of logging is read in order, and is lost to a variable that sets
another setting of the section. -/
theorem level_lost_to_filter : ∃ layers layers' s s',
    Loads (onlyFile "logging = [\"debug\"]\n") [] ["--config", "config.toml"] layers s ∧
      Loads (onlyFile "logging = [\"debug\"]\n") [("CRIPROXY_LOGGING__FILTER", "x")]
        ["--config", "config.toml"] layers' s' ∧
      Key.level.from? (Key.level.set? layers) = some "info" ∧
      Key.level.from? (Key.level.set? layers') = some "info" ∧
      s.get .level = "debug" ∧ s'.get .level = "info" := by
  obtain ⟨layers, s, loads, set, level⟩ : ∃ layers s,
      Loads (onlyFile "logging = [\"debug\"]\n") [] ["--config", "config.toml"] layers s ∧
        Key.level.from? (Key.level.set? layers) = some "info" ∧ s.get .level = "debug" :=
    exists_loads_of_any { config := some "config.toml" }
      (by decide +kernel) (by decide +kernel) (by decide +kernel)
  obtain ⟨layers', s', loads', set', level'⟩ : ∃ layers s,
      Loads (onlyFile "logging = [\"debug\"]\n") [("CRIPROXY_LOGGING__FILTER", "x")]
          ["--config", "config.toml"] layers s ∧
        Key.level.from? (Key.level.set? layers) = some "info" ∧ s.get .level = "info" :=
    exists_loads_of_any { config := some "config.toml" }
      (by decide +kernel) (by decide +kernel) (by decide +kernel)
  exact ⟨layers, layers', s, s', loads, loads', set, set', level, level'⟩

end RuntimeMux.Settings
