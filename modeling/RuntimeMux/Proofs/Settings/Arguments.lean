import RuntimeMux.Proofs.Results
import RuntimeMux.Settings.Flags

/-!
# What a command line gives

A command line gives values to options: each in the argument that names the option, or as the next
argument. A command line that is followed gives an option at most one value, and this is what the option
has in the flags. An option that is given no value has none.
-/

namespace RuntimeMux.Settings

/-! ### Options -/

/-- The values of an option. -/
abbrev Setter.Value : Setter → Type
  | .streamPort => UInt16
  | .connectionTimeout => UInt64
  | .config | .listen | .connect | .streamUrl | .logFilter | .logFile => String

/-- The value of an option by its text. -/
def Setter.read : (o : Setter) → String → Except UsageFault o.Value
  | .config | .listen | .logFile => Flags.path
  | .connect | .streamUrl | .logFilter => .ok
  | .streamPort => Flags.port
  | .connectionTimeout => Flags.seconds

namespace Flags

/-- The value of an option, if it has one. -/
def get? (f : Flags) : (o : Setter) → Option o.Value
  | .config => f.config
  | .listen => f.listen
  | .connect => f.connect
  | .streamPort => f.streamPort
  | .streamUrl => f.streamUrl
  | .connectionTimeout => f.connectionTimeout
  | .logFilter => f.logFilter
  | .logFile => f.logFile

/-! ### What is given -/

/-- The value behind the letter of an option, which may have an equals sign in front of it. -/
def behindLetter? : List Char → Option String
  | [] => none
  | '=' :: value => some (.ofList value)
  | value => some (.ofList value)

/-- The option that letters name, with the value behind it. The letters in front of it are switches. -/
def optionOfLetters? : List Char → Option (Setter × Option String)
  | [] => none
  | c :: cs =>
    match shortFlag? c with
    | some (.setter o) => some (o, behindLetter? cs)
    | _ => optionOfLetters? cs

/-- The option that a long name stands for, with the value behind it. -/
def optionOfName? (name : String) (attached : Option String) : Option (Setter × Option String) :=
  match longFlag? name with
  | some (.setter o) => some (o, attached)
  | _ => none

/-- The option that an argument names, with its value if that is in the argument. -/
def optionOf? : List Char → Option (Setter × Option String)
  | '-' :: '-' :: cs =>
    match Text.cutFirst? '=' cs with
    | some (name, value) => optionOfName? (.ofList name) (some (.ofList value))
    | none => optionOfName? (.ofList cs) none
  | '-' :: c :: cs => optionOfLetters? (c :: cs)
  | _ => none

/-- The options that a command line gives values to, with the texts of these values. -/
def given : List String → List (Setter × String)
  | [] => []
  | argument :: rest =>
    match optionOf? argument.toList with
    | none => given rest
    | some (o, some value) => (o, value) :: given rest
    | some (o, none) =>
      match rest with
      | [] => []
      | value :: rest => (o, value) :: given rest

variable {f f' g : Flags} {o : Setter} {value : String} {p p' : Progress}
  {arguments : List String} {pairs : List (Setter × String)}

/-! ### Setting options -/

theorem fresh_eq_ok {α : Type} {before : Option α} {value : Except UsageFault α} {v : Option α} :
    fresh before value = .ok v ↔ before = none ∧ ∃ x, value = .ok x ∧ v = some x := by
  cases before with
  | some b => simp [fresh]
  | none =>
    cases value with
    | error fault => simp [fresh, Except.map]
    | ok x => simp [fresh, Except.map, eq_comm]

/-- An option is set if it has no value yet and the text can be read, and no other one changes. -/
theorem of_set_eq_ok (h : f.set value o = .ok f') :
    f.get? o = none ∧ (∃ v, o.read value = .ok v ∧ f'.get? o = some v) ∧
      ∀ other ≠ o, f'.get? other = f.get? other := by
  cases o
  all_goals
    obtain ⟨v, fresh, h⟩ := bind_eq_ok_iff.1 h
    obtain ⟨unset, x, read, rfl⟩ := fresh_eq_ok.1 fresh
    obtain rfl := Except.ok.inj h
    refine ⟨unset, ⟨x, read, rfl⟩, fun other ne => ?_⟩
    cases other <;> first | rfl | exact absurd rfl ne

/-- No switch changes an option. -/
theorem get?_of_turnOn {switch : Switch} (h : f.turnOn switch = .ok f') (o : Setter) :
    f'.get? o = f.get? o := by
  cases switch with
  | verbose =>
    obtain rfl := Except.ok.inj h
    cases o <;> rfl
  | help => cases h
  | version => cases h

/-- Flags come of other ones by giving values to options, which have none before. -/
def Extends (f : Flags) (pairs : List (Setter × String)) (f' : Flags) : Prop :=
  ∀ o, match pairs.lookup o with
    | none => f'.get? o = f.get? o
    | some value => f.get? o = none ∧ ∃ v, o.read value = .ok v ∧ f'.get? o = some v

theorem Extends.refl (f : Flags) : f.Extends [] f := fun _ => rfl

theorem Extends.congr (h : f.Extends pairs f') (same : ∀ o, g.get? o = f.get? o) :
    g.Extends pairs f' := by
  intro o
  have := h o
  split at this
  next => exact this.trans (same o).symm
  next => exact ⟨(same o).trans this.1, this.2⟩

/-- First one option gets a value, and then others. -/
theorem Extends.cons (set : f.set value o = .ok g) (h : g.Extends pairs f') :
    f.Extends ((o, value) :: pairs) f' := by
  obtain ⟨unset, ⟨v, read, now⟩, others⟩ := of_set_eq_ok set
  intro other
  have later := h other
  by_cases same : other = o
  · subst same
    rw [List.lookup_cons_self]
    refine ⟨unset, v, read, ?_⟩
    split at later
    next => rw [later, now]
    next =>
      -- an option that has a value is not given another one
      rw [now] at later
      exact absurd later.1 (Option.some_ne_none v)
  · rw [List.lookup_cons, beq_false_of_ne same, ← others other same]
    exact later

/-! ### Arguments -/

namespace Progress

/-- The options that get values when arguments are still to be taken. -/
def given (p : Progress) (arguments : List String) : List (Setter × String) :=
  match p.open?, arguments with
  | none, arguments => Flags.given arguments
  | some (o, some value), arguments => (o, value) :: Flags.given arguments
  | some (o, none), value :: rest => (o, value) :: Flags.given rest
  | some (_, none), [] => []

/-- Taking an argument that names an option or a switch. -/
inductive Takes (p : Progress) (named : Option (Setter × Option String)) (p' : Progress) : Prop where
  /-- The value of the option is to come. -/
  | opened (o : Setter) (hn : named = some (o, none)) (f : Flags) (closed : p.close = .ok f)
      (same : ∀ o, p'.flags.get? o = f.get? o) (ho : p'.open? = some (o, none))
  /-- The value of the option is in the argument. -/
  | attached (o : Setter) (value : String) (hn : named = some (o, some value)) (f g : Flags)
      (closed : p.close = .ok f) (same : ∀ o, g.get? o = f.get? o)
      (set : g.set value o = .ok p'.flags) (ho : p'.open? = none)
  /-- There are only switches. -/
  | switched (hn : named = none) (f : Flags) (closed : p.close = .ok f)
      (same : ∀ o, p'.flags.get? o = f.get? o) (ho : p'.open? = none)

theorem takes_of_takeSetter {attached : Option String} (h : p.takeSetter o attached = .ok p') :
    p.Takes (some (o, attached)) p' := by
  obtain ⟨f, closed, h⟩ := bind_eq_ok_iff.1 h
  cases attached with
  | none =>
    obtain rfl := Except.ok.inj h
    exact .opened o rfl f closed (fun _ => rfl) rfl
  | some value =>
    obtain ⟨g, set, h⟩ := bind_eq_ok_iff.1 h
    obtain rfl := Except.ok.inj h
    exact .attached o value rfl f f closed (fun _ => rfl) set rfl

theorem of_takeSwitch {switch : Switch} (h : p.takeSwitch switch = .ok p') :
    ∃ f, p.close = .ok f ∧ (∀ o, p'.flags.get? o = f.get? o) ∧ p'.open? = none := by
  simp only [takeSwitch, bind_eq_ok_iff] at h
  obtain ⟨f, closed, g, on, h⟩ := h
  obtain rfl := Except.ok.inj h
  exact ⟨f, closed, get?_of_turnOn on, rfl⟩

theorem close_of_open?_eq_none (h : p.open? = none) : p.close = .ok p.flags := by
  rw [close, h]

/-- More letters are taken after a switch. -/
theorem Takes.after {named : Option (Setter × Option String)} {q : Progress}
    (h : q.Takes named p') (closed : p.close = .ok f) (same : ∀ o, q.flags.get? o = f.get? o)
    (ho : q.open? = none) : p.Takes named p' := by
  have start {g : Flags} (hg : q.close = .ok g) (o : Setter) : g.get? o = f.get? o := by
    rw [close_of_open?_eq_none ho] at hg
    exact Except.ok.inj hg ▸ same o
  cases h with
  | opened o hn g hg now ho => exact .opened o hn f closed (fun o => (now o).trans (start hg o)) ho
  | attached o value hn g f' hg now set ho =>
    exact .attached o value hn f f' closed (fun o => (now o).trans (start hg o)) set ho
  | switched hn g hg now ho => exact .switched hn f closed (fun o => (now o).trans (start hg o)) ho

theorem takes_of_takeShort {cs : List Char} (ne : cs ≠ []) (h : p.takeShort cs = .ok p') :
    p.Takes (optionOfLetters? cs) p' := by
  induction cs generalizing p with
  | nil => exact absurd rfl ne
  | cons c cs ih =>
    simp only [takeShort] at h
    cases named : shortFlag? c with
    | none =>
      rw [named] at h
      cases h
    | some kind =>
      rw [named] at h
      cases kind with
      | setter o =>
        simp only [optionOfLetters?, named]
        simp only at h
        split at h
        next => exact takes_of_takeSetter h
        next value => exact takes_of_takeSetter h
        next ne plain =>
          rw [behindLetter?.eq_3 _ ne plain]
          exact takes_of_takeSetter h
      | switch switch =>
        obtain ⟨q, first, h⟩ := bind_eq_ok_iff.1 h
        obtain ⟨f, closed, same, ho⟩ := of_takeSwitch first
        have skipped : optionOfLetters? (c :: cs) = optionOfLetters? cs := by
          simp only [optionOfLetters?, named]
        rw [skipped]
        cases cs with
        | nil =>
          obtain rfl := Except.ok.inj h
          exact .switched rfl f closed same ho
        | cons c' cs => exact (ih (List.cons_ne_nil _ _) h).after closed same ho

theorem takes_of_takeLong {name : String} {attached : Option String}
    (h : p.takeLong name attached = .ok p') : p.Takes (optionOfName? name attached) p' := by
  simp only [takeLong] at h
  simp only [optionOfName?]
  cases named : longFlag? name with
  | none =>
    rw [named] at h
    cases h
  | some kind =>
    rw [named] at h
    cases kind with
    | setter o => exact takes_of_takeSetter h
    | switch switch =>
      simp only at h
      split at h
      next => cases h
      next =>
        obtain ⟨f, closed, same, ho⟩ := of_takeSwitch h
        exact .switched rfl f closed same ho

/-- An argument is an option or switches, or the value of the option before it. -/
theorem of_take {argument : String} (h : p.take argument = .ok p') :
    p.Takes (optionOf? argument.toList) p' ∨ optionOf? argument.toList = none ∧
      ∃ o, p.open? = some (o, none) ∧ p' = ⟨p.flags, some (o, some argument)⟩ := by
  unfold take at h
  split at h
  next cs long =>
    rw [long]
    simp only [optionOf?]
    cases cut : Text.cutFirst? '=' cs with
    | some parts =>
      rw [cut] at h
      exact .inl (takes_of_takeLong h)
    | none =>
      rw [cut] at h
      exact .inl (takes_of_takeLong h)
  next c cs other short =>
    rw [short, optionOf?.eq_2 _ _ other]
    exact .inl (takes_of_takeShort (List.cons_ne_nil _ _) h)
  next other plain =>
    rw [optionOf?.eq_3 _ other plain]
    refine .inr ⟨rfl, ?_⟩
    unfold takeValue at h
    split at h
    next o ho => exact ⟨o, ho, (Except.ok.inj h).symm⟩
    next => cases h

/-- The last option is looked at, and then more options get values. -/
theorem extends_of_close (closed : p.close = .ok f) (h : f.Extends (Flags.given arguments) f') :
    p.flags.Extends (p.given arguments) f' := by
  unfold close at closed
  unfold Progress.given
  split at closed
  next ho =>
    rw [ho]
    exact Except.ok.inj closed ▸ h
  next => cases closed
  next o value ho =>
    rw [ho]
    exact h.cons closed

theorem given_eq_of_open? (ho : p.open? = none) : p.given arguments = Flags.given arguments := by
  simp [Progress.given, ho]

theorem given_eq_of_opened {argument : String} {rest : List String}
    (hn : optionOf? argument.toList = some (o, none)) (ho : p.open? = some (o, none)) :
    p.given rest = Flags.given (argument :: rest) := by
  cases rest with
  | nil => simp [Progress.given, ho, Flags.given, hn]
  | cons value rest => simp [Progress.given, ho, Flags.given, hn]

/-- What is taken to the end gives options the values that they have in the flags afterwards. -/
theorem extends_takeAll (h : p.takeAll arguments = .ok f') :
    p.flags.Extends (p.given arguments) f' := by
  induction arguments generalizing p with
  | nil => exact extends_of_close h (.refl f')
  | cons argument rest ih =>
    unfold takeAll at h
    split at h
    next hyphens =>
      subst hyphens
      cases rest with
      | nil => exact extends_of_close h (.refl f')
      | cons argument rest => cases h
    next =>
      obtain ⟨p', taken, h⟩ := bind_eq_ok_iff.1 h
      have later := ih h
      rcases of_take taken with takes | ⟨hn, o, ho, rfl⟩
      · refine Exists.elim (p := fun f => p.close = .ok f ∧
          f.Extends (Flags.given (argument :: rest)) f') ?_ fun f h => extends_of_close h.1 h.2
        cases takes with
        | opened o hn f closed same ho =>
          rw [given_eq_of_opened hn ho] at later
          exact ⟨f, closed, later.congr fun o => (same o).symm⟩
        | attached o value hn f g closed same set ho =>
          rw [given_eq_of_open? ho] at later
          rw [Flags.given, hn]
          exact ⟨f, closed, (later.cons set).congr fun o => (same o).symm⟩
        | switched hn f closed same ho =>
          rw [given_eq_of_open? ho] at later
          rw [Flags.given, hn]
          exact ⟨f, closed, later.congr fun o => (same o).symm⟩
      · simpa [Progress.given, ho] using later

end Progress

/-- A command line that is followed gives options the values that they have in the flags. -/
theorem extends_of_ofArguments (h : ofArguments arguments = .ok f) :
    Extends {} (Flags.given arguments) f :=
  Progress.extends_takeAll h

/-- An option that the command line gives has the value of its text there, and any other one has none.
-/
theorem given_or_not (follows : Extends {} (given arguments) f) (o : Setter) :
    (given arguments).lookup o = none ∧ f.get? o = none ∨
      ∃ t v, (given arguments).lookup o = some t ∧ o.read t = .ok v ∧ f.get? o = some v := by
  have holds := follows o
  split at holds
  next unset => exact .inl ⟨unset, holds.trans (by cases o <;> rfl)⟩
  next t given =>
    obtain ⟨-, v, read, set⟩ := holds
    exact .inr ⟨t, v, given, read, set⟩

theorem getD_get? (follows : Extends {} (given arguments) f) (o : Setter) (x : o.Value) :
    some ((f.get? o).getD x) =
      ((given arguments).lookup o).elim (some x) fun t => (o.read t).toOption := by
  rcases given_or_not follows o with ⟨unset, none⟩ | ⟨t, v, given, read, set⟩
  · rw [unset, none]
    rfl
  · rw [given, set, Option.elim_some, read]
    rfl

theorem orElse_get? (follows : Extends {} (given arguments) f) (o : Setter)
    (x : Option o.Value) :
    some ((f.get? o).orElse fun () => x) =
      ((given arguments).lookup o).elim (some x) fun t => (o.read t).toOption.map some := by
  rcases given_or_not follows o with ⟨unset, none⟩ | ⟨t, v, given, read, set⟩
  · rw [unset, none]
    rfl
  · rw [given, set, Option.elim_some, read]
    rfl

end Flags

end RuntimeMux.Settings
