import RuntimeMux.Exchange
import RuntimeMux.Proofs.Cri.Neutral
import RuntimeMux.Proofs.Scope.ImageQualifier
import RuntimeMux.Proofs.Wire.Fields

/-!
# The own texts of runtimes

In a response, the ids of objects and the names of images are the own ones of the runtime. Callers see
them qualified, and everything else as it is: no other field is touched, and no list gets longer or
shorter. Whatever a caller sees in the place of an own text leads back to it: an id and a qualified name
by the qualifier, and the other references to images because they are left alone.
-/

namespace RuntimeMux

open Cri Wire

/-! ### Texts -/

/-- What a text of a runtime stands for. -/
inductive Naming where
  /-- A pod sandbox or a container. -/
  | object
  /-- An image. -/
  | image
  /-- An image with its digest, and a name in front of the digest if it is known. -/
  | repoDigest
  deriving DecidableEq

namespace Scope

/-- What callers see of a text. -/
def qualify (s : Scope) : Naming → String → String
  | .object => s.qualifyId
  | .image => s.qualifyImage
  | .repoDigest => qualifyRepoDigest s

/-- How a text of a runtime is read off what callers see in its place. -/
inductive Recovers (s : Scope) : Naming → (own seen : String) → Prop where
  /-- The qualifier is taken off an id. -/
  | object {own seen : String} (back : s.ownId? seen = some own) : Recovers s .object own seen
  /-- The qualifier is taken off the name of an image. -/
  | image {own seen : String} (told : own ≠ "") (undigested : isDigest own = false)
      (back : s.ownImage? seen = some own) : Recovers s .image own seen
  /-- A missing name and a digest are left alone. -/
  | nameless {own : String} (kept : own = "" ∨ isDigest own = true) : Recovers s .image own own
  /-- The qualifier is taken off the name in front of a digest. -/
  | named {own seen name hash : String} (named : Text.splitFirst? '@' own = some (name, hash))
      (told : name ≠ "") (back : s.ownImage? seen = some own) : Recovers s .repoDigest own seen
  /-- A digest without a name is left alone. -/
  | bare {own : String} (bare : ∀ name hash, Text.splitFirst? '@' own = some (name, hash) → name = "") :
      Recovers s .repoDigest own own

variable {s : Scope} {own : String}

theorem ownImage?_qualifyImage (told : own ≠ "") (undigested : isDigest own = false) :
    s.ownImage? (s.qualifyImage own) = some own := by
  cases s with
  | primary => rfl
  | named i => exact (ownImage?_qualifyImage_iff told undigested).2 ⟨rfl, rfl⟩

theorem qualifyImage_nameless (kept : own = "" ∨ isDigest own = true) : s.qualifyImage own = own := by
  cases s with
  | primary => rfl
  | named i => rcases kept with empty | digest <;> simp [qualifyImage, *]

/-- With a name in front of it, a digest is none any more. -/
theorem isDigest_eq_false_of_splitFirst? {name hash : String}
    (named : Text.splitFirst? '@' own = some (name, hash)) : isDigest own = false := by
  obtain ⟨parts, cut, -⟩ := Option.map_eq_some_iff.1 named
  obtain ⟨whole, -⟩ := Text.cutFirst?_eq_some_iff.1 cut
  apply Bool.eq_false_iff.2
  intro digest
  apply at_notMem_of_isDigest digest
  rw [whole]
  exact List.mem_append_right _ List.mem_cons_self

/-- Every text is recovered from what callers see of it. -/
theorem recovers_qualify (s : Scope) (naming : Naming) (own : String) :
    s.Recovers naming own (s.qualify naming own) := by
  cases naming with
  | object => exact .object (s.ownId?_qualifyId own)
  | image =>
    by_cases kept : own = "" ∨ isDigest own = true
    · rw [qualify, qualifyImage_nameless kept]
      exact .nameless kept
    · obtain ⟨told, undigested⟩ := not_or.1 kept
      rw [Bool.not_eq_true] at undigested
      exact .image told undigested (ownImage?_qualifyImage told undigested)
  | repoDigest =>
    rw [qualify, qualifyRepoDigest]
    split
    next name hash named =>
      split
      next empty =>
        apply Recovers.bare
        intro name' hash' again
        cases named.symm.trans again
        simpa using empty
      next told =>
        have told : name ≠ "" := by simpa using told
        refine .named named told (ownImage?_qualifyImage ?_ (isDigest_eq_false_of_splitFirst? named))
        rintro rfl
        cases named
    next unnamed =>
      apply Recovers.bare
      intro name hash named
      cases unnamed.symm.trans named

end Scope

/-! ### Places -/

/-- A place in a message where texts of a runtime stand. -/
inductive Place : Type → Type 1 where
  /-- A field with a text. -/
  | text {M : Type} (name : String) (naming : Naming) (get : M → String) (set : String → M → M) :
    Place M
  /-- A field with any number of texts. -/
  | texts {M : Type} (name : String) (naming : Naming) (get : M → List String)
    (set : List String → M → M) : Place M
  /-- A place in a part that the message may have. -/
  | inside {M N : Type} [Message N] (name : String) (get : M → Option N)
    (set : Option N → M → M) (place : Place N) : Place M

namespace Place

/-- The names of the fields that lead to a place. -/
def name : {M : Type} → Place M → String
  | _, .text name _ _ _ | _, .texts name _ _ _ => name
  | _, @inside _ _ _ name _ _ place => name ++ "." ++ place.name

/-- What the texts at a place stand for. -/
def naming : {M : Type} → Place M → Naming
  | _, .text _ naming _ _ | _, .texts _ naming _ _ => naming
  | _, @inside _ _ _ _ _ _ place => place.naming

/-- A place is made of fields that the messages declare. -/
def Declared : {M : Type} → [Message M] → Place M → Prop
  | _, _, .text name _ get set => Lens get set ∧ ∃ tag, Field.one tag name get set ∈ Message.fields
  | _, _, .texts name _ get set =>
    Lens get set ∧ ∃ tag, Field.texts tag name get set ∈ Message.fields
  | _, _, @inside _ _ _ name get set place =>
    Lens get set ∧ (∃ tag, Field.message tag name get set ∈ Message.fields) ∧ place.Declared

/-- The texts at a place, in order. -/
def read : {M : Type} → Place M → M → List String
  | _, .text _ _ get _, m => [get m]
  | _, .texts _ _ get _, m => get m
  | _, @inside _ _ _ _ get _ place, m => (get m).elim [] place.read

/-- Leaves out the texts at a place, but not that there are texts. -/
def blank : {M : Type} → Place M → M → M
  | _, .text _ _ _ set, m => set "" m
  | _, .texts _ _ get set, m => set ((get m).map fun _ => "") m
  | _, @inside _ _ _ _ get set place, m => set ((get m).map place.blank) m

variable {M N : Type}

/-- A message without the texts at some places. -/
def blankAll (places : List (Place M)) (m : M) : M :=
  places.foldl (fun m place => place.blank m) m

theorem blankAll_inside [Message N] {name : String} {get : M → Option N} {set : Option N → M → M}
    (lens : Lens get set) (places : List (Place N)) (m : M) :
    blankAll (places.map (.inside name get set)) m = set ((get m).map (blankAll places)) m := by
  induction places generalizing m with
  | nil =>
    have same : (blankAll [] : N → N) = id := rfl
    rw [same, Option.map_id, id, lens.set_get]
    rfl
  | cons place places ih =>
    have step : blankAll (place :: places) = blankAll places ∘ place.blank := rfl
    have here : (Place.inside name get set place).blank m = set ((get m).map place.blank) m := rfl
    rw [List.map_cons, step, ← Option.map_map]
    show blankAll (places.map _) ((Place.inside name get set place).blank m) = _
    rw [ih, here, lens.get_set, lens.set_set]

end Place

/-! ### Messages as callers see them -/

/-- The texts at some places of a message are qualified, and nothing else is changed. -/
structure Qualifies {M : Type} [Message M] (q : Scope → M → M) (places : List (Place M)) :
    Prop where
  declared : ∀ place ∈ places, place.Declared
  others : ∀ s m, Place.blankAll places (q s m) = Place.blankAll places m
  texts : ∀ s m, ∀ place ∈ places, place.read (q s m) = (place.read m).map (s.qualify place.naming)

namespace Qualifies

variable {M N : Type} [Message M] [Message N]

/-- The texts in a part of a message. -/
theorem inside {q : Scope → N → N} {places : List (Place N)} (h : Qualifies q places)
    {name : String} {get : M → Option N} {set : Option N → M → M} {tag : Nat}
    (declared : Field.message tag name get set ∈ Message.fields)
    (lens : Lens get set := by exact {}) {outer : Scope → M → M}
    (part : ∀ s m, outer s m = set ((get m).map (q s)) m := by exact fun _ _ => rfl) :
    Qualifies outer (places.map (.inside name get set)) := by
  constructor
  case declared =>
    intro place mem
    obtain ⟨inner, listed, rfl⟩ := List.mem_map.1 mem
    exact ⟨lens, ⟨tag, declared⟩, h.declared inner listed⟩
  case others =>
    intro s m
    have same : Place.blankAll places ∘ q s = Place.blankAll places := funext (h.others s)
    rw [part, Place.blankAll_inside lens, Place.blankAll_inside lens, lens.get_set, lens.set_set,
      Option.map_map, same]
  case texts =>
    intro s m place mem
    obtain ⟨inner, listed, rfl⟩ := List.mem_map.1 mem
    simp only [part, Place.read, Place.naming, lens.get_set]
    cases get m with
    | none => rfl
    | some inside => exact h.texts s inside inner listed

/-- A text in a field of a message. -/
theorem text (naming : Naming) {name : String} {get : M → String} {set : String → M → M} {tag : Nat}
    (declared : Field.one tag name get set ∈ Message.fields) (lens : Lens get set := by exact {})
    {q : Scope → M → M}
    (field : ∀ s m, q s m = set (s.qualify naming (get m)) m := by exact fun _ _ => rfl) :
    Qualifies q [.text name naming get set] := by
  constructor
  case declared => exact List.forall_mem_singleton.2 ⟨lens, tag, declared⟩
  case others =>
    intro s m
    rw [field]
    exact lens.set_set _ _ m
  case texts =>
    intro s m place mem
    cases List.mem_singleton.1 mem
    show [get (q s m)] = [s.qualify naming (get m)]
    rw [field, lens.get_set]

/-! ### Objects -/

theorem podSandbox : Qualifies (Scoped.qualify (M := PodSandbox))
    [.text "id" .object (·.id) fun x m => { m with id := x }] :=
  .text .object (.head _)

theorem container : Qualifies (Scoped.qualify (M := Container))
    [.text "id" .object (·.id) fun x m => { m with id := x },
     .text "pod_sandbox_id" .object (·.podSandboxId) fun x m => { m with podSandboxId := x },
     .inside "image" (·.image) (fun x m => { m with image := x })
      (.text "image" .image (·.image) fun x m => { m with image := x })] where
  declared := List.forall_iff_forall_mem.1
    ⟨⟨{}, 1, .head _⟩, ⟨{}, 2, .tail _ (.head _)⟩,
      ⟨{}, ⟨4, .tail _ (.tail _ (.tail _ (.head _)))⟩, {}, 1, .head _⟩⟩
  others s m := by
    obtain ⟨id, podSandboxId, metadata, _ | spec⟩ := m <;> rfl
  texts s m := by
    obtain ⟨id, podSandboxId, metadata, _ | spec⟩ := m <;>
      exact List.forall_iff_forall_mem.1 ⟨rfl, rfl, rfl⟩

theorem containerAttributes : Qualifies ContainerAttributes.qualify
    [.text "id" .object (·.id) fun x m => { m with id := x }] :=
  .text .object (.head _)

theorem containerStats : Qualifies (Scoped.qualify (M := ContainerStats))
    [.inside "attributes" (·.attributes) (fun x m => { m with attributes := x })
      (.text "id" .object (·.id) fun x m => { m with id := x })] :=
  containerAttributes.inside (.head _)

theorem legacyContainerStats : Qualifies (Scoped.qualify (M := Legacy.ContainerStats))
    [.inside "attributes" (·.attributes) (fun x m => { m with attributes := x })
      (.text "id" .object (·.id) fun x m => { m with id := x })] :=
  containerAttributes.inside (.head _)

theorem image : Qualifies (Scoped.qualify (M := Image))
    [.text "id" .image (·.id) fun x m => { m with id := x },
     .texts "repo_tags" .image (·.repoTags) fun x m => { m with repoTags := x },
     .texts "repo_digests" .repoDigest (·.repoDigests) fun x m => { m with repoDigests := x }] where
  declared := List.forall_iff_forall_mem.1
    ⟨⟨{}, 1, .head _⟩, ⟨{}, 2, .tail _ (.head _)⟩, ⟨{}, 3, .tail _ (.tail _ (.head _))⟩⟩
  others s m := by
    simp [Place.blankAll, Place.blank, Scoped.qualify, Function.comp_def]
  texts s m := List.forall_iff_forall_mem.1 ⟨rfl, rfl, rfl⟩

/-! ### Objects in responses -/

theorem podSandboxStatus : Qualifies PodSandboxStatus.qualify
    [.text "id" .object (·.id) fun x m => { m with id := x }] :=
  .text .object (.head _)

theorem legacyPodSandboxStatus : Qualifies Legacy.PodSandboxStatus.qualify
    [.text "id" .object (·.id) fun x m => { m with id := x }] :=
  .text .object (.head _)

theorem containerStatus : Qualifies ContainerStatus.qualify
    [.text "id" .object (·.id) fun x m => { m with id := x },
     .inside "image" (·.image) (fun x m => { m with image := x })
      (.text "image" .image (·.image) fun x m => { m with image := x })] where
  declared := List.forall_iff_forall_mem.1
    ⟨⟨{}, 1, .head _⟩, ⟨{}, ⟨8, List.mem_of_getElem? (i := 7) rfl⟩, {}, 1, .head _⟩⟩
  others s m := by
    obtain ⟨id, metadata, state, createdAt, startedAt, finishedAt, exitCode, _ | spec⟩ := m <;> rfl
  texts s m := by
    obtain ⟨id, metadata, state, createdAt, startedAt, finishedAt, exitCode, _ | spec⟩ := m <;>
      exact List.forall_iff_forall_mem.1 ⟨rfl, rfl⟩

end Qualifies

/-- Callers see the messages of a type with the own texts of the runtime qualified. -/
structure Traceable (M : Type) [Message M] [Scoped M] (texts : List (String × Naming)) : Prop where
  /-- The primary runtime is seen as it is. -/
  primary : ∀ m : M, Scoped.qualify .primary m = m
  /-- Without the own texts, which stand in these fields, a message is seen as it is. Each of the texts
  is recovered from what is seen at its place. -/
  own : ∃ places : List (Place M), places.map (fun place => (place.name, place.naming)) = texts ∧
    (∀ place ∈ places, place.Declared) ∧ ∀ (s : Scope) (m : M),
      Place.blankAll places (Scoped.qualify s m) = Place.blankAll places m ∧
      ∀ place ∈ places, List.Forall₂ (s.Recovers place.naming) (place.read m)
        (place.read (Scoped.qualify s m))

namespace Traceable

variable {M : Type} [Message M]

theorem of_qualifies [Scoped M] [LawfulScoped M] {places : List (Place M)}
    (h : Qualifies Scoped.qualify places) {texts : List (String × Naming)}
    (names : places.map (fun place => (place.name, place.naming)) = texts := by exact rfl) :
    Traceable M texts where
  primary _ := congrFun LawfulScoped.qualify_primary _
  own := by
    refine ⟨places, names, h.declared, ?_⟩
    intro s m
    refine ⟨h.others s m, ?_⟩
    intro place mem
    rw [h.texts s m place mem, List.forall₂_map_right_iff, List.forall₂_same]
    intro own _
    exact s.recovers_qualify place.naming own

/-- Where there is nothing to qualify, everything is seen as it is. -/
theorem unscoped : @Traceable M _ unscoped [] :=
  @of_qualifies M _ Cri.unscoped _ [] ⟨nofun, fun _ _ => rfl, fun _ _ => nofun⟩ [] rfl

end Traceable

/-- The own texts of runtimes in what a method gives, or in the items of its list, by the names of the
fields that lead to them. -/
def Method.ownTexts : Method → List (String × Naming)
  | .runPodSandbox => [("pod_sandbox_id", .object)]
  | .podSandboxStatus => [("status.id", .object)]
  | .listPodSandbox => [("id", .object)]
  | .createContainer => [("container_id", .object)]
  | .listContainers => [("id", .object), ("pod_sandbox_id", .object), ("image.image", .image)]
  | .containerStatus => [("status.id", .object), ("status.image.image", .image)]
  | .containerStats => [("stats.attributes.id", .object)]
  | .listContainerStats => [("attributes.id", .object)]
  | .listImages => [("id", .image), ("repo_tags", .image), ("repo_digests", .repoDigest)]
  | .imageStatus =>
    [("image.id", .image), ("image.repo_tags", .image), ("image.repo_digests", .repoDigest)]
  | .pullImage => [("image_ref", .image)]
  | _ => []

/-- Whatever a method gives, and whatever stands in the lists of a method, callers see with the own
texts of the runtime qualified and otherwise as it is. Every one of these texts is recovered from what
they see. -/
theorem Method.traceable (m : Method) (schema : Schema) :
    match m.exchange schema with
    | @Exchange.routed _ Resp _ _ _ _ _ _ _ _ => Traceable Resp m.ownTexts
    | @Exchange.listed _ Resp _ _ _ _ _ _ => Traceable (Listing.Item Resp) m.ownTexts := by
  cases m with
  | runPodSandbox =>
    cases schema <;> exact .of_qualifies (M := RunPodSandboxResponse) (.text .object (.head _))
  | podSandboxStatus =>
    cases schema with
    | legacy => exact .of_qualifies (Qualifies.legacyPodSandboxStatus.inside (.head _))
    | current => exact .of_qualifies (Qualifies.podSandboxStatus.inside (.head _))
  | listPodSandbox => exact .of_qualifies Qualifies.podSandbox
  | createContainer =>
    cases schema <;> exact .of_qualifies (M := CreateContainerResponse) (.text .object (.head _))
  | listContainers => exact .of_qualifies Qualifies.container
  | containerStatus => exact .of_qualifies (Qualifies.containerStatus.inside (.head _))
  | containerStats =>
    cases schema with
    | legacy => exact .of_qualifies (Qualifies.legacyContainerStats.inside (.head _))
    | current => exact .of_qualifies (Qualifies.containerStats.inside (.head _))
  | listContainerStats =>
    cases schema with
    | legacy => exact .of_qualifies Qualifies.legacyContainerStats
    | current => exact .of_qualifies Qualifies.containerStats
  | listImages => exact .of_qualifies Qualifies.image
  | imageStatus => exact .of_qualifies (Qualifies.image.inside (.head _))
  | pullImage =>
    cases schema <;> exact .of_qualifies (M := PullImageResponse) (.text .image (.head _))
  | imageFsInfo => cases schema <;> exact .unscoped
  | version | status | updateRuntimeConfig | stopPodSandbox | removePodSandbox | startContainer
  | stopContainer | removeContainer | updateContainerResources | reopenContainerLog | execSync
  | exec | attach | portForward | removeImage => exact .unscoped

end RuntimeMux
