import Mathlib.Data.List.Induction
import RuntimeMux.Proofs.Routing.LearntOwners

/-!
# Images that are removed

The id of an image is remembered together with one name, the last one that was told. To remove an
image forgets the ids that are remembered together with the very name that it is removed by. So an
image that is pulled and removed by one name is forgotten as long as it is not known by another one
by then: the status of an image tells the first name that the runtime has for it.
-/

namespace RuntimeMux

open Cri Wire

/-! ### Names that are told -/

/-- An entry that is filtered out is gone, since no other one has its key. -/
theorem TextMap.get?_filter (m : TextMap) (keep : String → String → Bool) (key : String) :
    (m.filter keep).get? key = (m.get? key).filter (keep key) := by
  have drop (l : List (String × String)) (ascending : l.Pairwise fun a b => a.1 < b.1) :
      (l.filter fun e => keep e.1 e.2).lookup key = (l.lookup key).filter (keep key) := by
    induction l with
    | nil => rfl
    | cons e l ih =>
      obtain ⟨k, value⟩ := e
      obtain ⟨first, rest⟩ := List.pairwise_cons.1 ascending
      by_cases here : key = k
      · subst here
        have gone : l.lookup key = none := by
          refine List.lookup_eq_none_iff.2 fun e mem => ?_
          simpa using Std.ne_of_lt (first e mem)
        cases hk : keep key value
        · simp [hk, ih rest, gone, Option.filter]
        · simp [hk, Option.filter]
      · have other : (key == k) = false := by simpa using here
        cases hk : keep k value <;> simp [hk, List.lookup_cons, other, ih rest]
  exact drop m.entries m.ascending

namespace ImageNames

variable {t : ImageNames} {id : String}

theorem lookup_forgetName (t : ImageNames) (name id : String) :
    (t.forgetName name).lookup id = (t.lookup id).filter fun known => known != name :=
  t.names.get?_filter _ id

/-- The name that an image is known by after it has been told by some names, one after the other. An
empty name tells nothing, and neither does the id itself. -/
def told? (id : String) (names : List String) : Option String :=
  (names.filter fun name => name ≠ "" ∧ name ≠ id).getLast?

theorem told?_concat (id : String) (names : List String) (name : String) :
    told? id (names ++ [name]) =
      if name ≠ "" ∧ name ≠ id then some name else told? id names := by
  rw [told?, List.filter_append]
  by_cases telling : name ≠ "" ∧ name ≠ id
  · simp [telling]
  · simp [telling, told?]

/-- The last name that tells something is remembered. -/
theorem lookup_foldl_record (hid : id ≠ "") (names : List String) :
    (names.foldl (fun t name => t.record id name) t).lookup id =
      (told? id names).or (t.lookup id) := by
  induction names using List.reverseRecOn with
  | nil => rfl
  | append_singleton names name ih =>
    rw [List.foldl_append, List.foldl_cons, List.foldl_nil, lookup_record, ih, told?_concat]
    by_cases telling : name ≠ "" ∧ name ≠ id
    · simp [hid, telling, Ne.symm telling.2]
    · have silent : ¬ (id = id ∧ id ≠ "" ∧ name ≠ "" ∧ id ≠ name) := by tauto
      rw [if_neg silent, if_neg telling]

/-- An image is forgotten by a name exactly if it is not known by another one. -/
theorem lookup_forgetName_eq_none_iff {name : String} :
    (t.forgetName name).lookup id = none ↔ ∀ known ∈ t.lookup id, known = name := by
  rw [lookup_forgetName]
  cases t.lookup id <;> simp

end ImageNames

/-! ### Calls about images -/

theorem Scope.qualifyImage_of_isDigest {s : Scope} {image : String}
    (digest : isDigest (s.qualifyImage image) = true) : s.qualifyImage image = image := by
  cases s with
  | primary => rfl
  | named i =>
    by_cases empty : image = ""
    · simp [qualifyImage, empty]
    cases hd : isDigest image with
    | true => simp [qualifyImage, hd]
    | false =>
      rw [isDigest_qualifyImage_named empty hd] at digest
      cases digest

/-- A world in which every runtime is connected, and holds one image by some names. -/
def World.holding (digest : String) (tags : List String) : World :=
  let status : ImageStatusResponse := ⟨some { id := digest, repoTags := tags }, .empty⟩
  (World.steady (fun _ => some ⟨.v1, 1⟩) fun _ rpc =>
    if rpc.path = Method.pullImage.path .v1 then .ok (Message.encode (⟨digest⟩ : PullImageResponse))
    else if rpc.path = Method.imageStatus.path .v1 then .ok (Message.encode status)
    else .ok []).recalling

namespace Router

variable {r : Router} {w : World} {past deeds : Journal} {reference digest : String}
  {tag : Option String}

/-! ### What is noted -/

section

variable {Req Resp : Type} [Views Resp] [Scoped Resp] {c : Call} {request : Req} {seen : Resp}

/-- A runtime has answered a call, and all that is learnt from the call is what is noted of the
answer. -/
def Noted (r : Router) (w : World) (note : Backend → Resp → Activity Unit) (seen : Resp)
    (deeds : Journal) : Prop :=
  ∃ b response before, seen = r.present b response ∧
    ∀ t : ImageNames, t.after deeds = t.after ((note b response).play w before).2

/-- Nothing is learnt before the runtime has been found. -/
theorem Noted.after_find {α : Type} {find : Handling α} {x : α} {found asked : Journal}
    {note : Backend → Resp → Activity Unit} (idle : find.run.Within ImageNames.Idle)
    (hf : find.run.play w past = (.ok x, found)) (noted : r.Noted w note seen asked) :
    r.Noted w note seen (found ++ asked) := by
  obtain ⟨b, response, before, shown, learnt⟩ := noted
  have untaught := idle.act_mem_play w past
  rw [hf] at untaught
  refine ⟨b, response, before, shown, fun t => ?_⟩
  rw [ImageNames.after_append, ImageNames.after_eq_self untaught, learnt]

variable [Message Req] [Message Resp] [Convertible Req] [Convertible Resp]

theorem noted_inquire {b : Backend} {given : Req} {note : Backend → Resp → Activity Unit}
    (played : (r.inquire b c given (note b)).run.play w past = (.ok seen, deeds)) :
    r.Noted w note seen deeds := by
  have untaught (t : ImageNames) :
      t.after ((c.invoke b given : Handling Resp).run.play w past).2 = t :=
    after_invoke c b given w past t
  rw [play_inquire_eq] at played
  generalize (c.invoke b given : Handling Resp).run.play w past = result at untaught played
  obtain ⟨fault | response, called⟩ := result
  · cases played
  · cases played
    refine ⟨b, response, past ++ called, rfl, ?_⟩
    intro t
    rw [ImageNames.after_append, untaught]

variable [Views Req]

theorem noted_toPullImage
    (played : (r.toPullImage c request).run.play w past = (.ok seen, deeds)) :
    r.Noted w (fun _ => notePulled (textOf .image request)) seen deeds := by
  rw [toPullImage_eq] at played
  obtain ⟨owner, first, rest, found, inquired, rfl⟩ := Activity.play_run_bind_eq_ok played
  exact (noted_inquire inquired).after_find (within_forImage ..) found

/-- The status of an image is not known if its runtime is away. -/
theorem noted_toImageStatus
    (played : (r.toImageStatus c request).run.play w past = (.ok seen, deeds)) :
    seen = Message.blank ∨ r.Noted w (noteStatus (textOf .image request)) seen deeds := by
  rw [toImageStatus_eq] at played
  obtain ⟨owner?, first, rest, found, inquired, rfl⟩ := Activity.play_run_bind_eq_ok played
  cases owner? with
  | none =>
    cases inquired
    exact .inl rfl
  | some owner => exact .inr ((noted_inquire inquired).after_find (within_forImage? ..) found)

theorem toRemoveImage_eq (r : Router) (c : Call) (request : Req) :
    (r.toRemoveImage c request : Handling Resp) =
      r.forImage (textOf .image request) >>= fun owner =>
        r.inquire owner.1 c (withText .image owner.2 request) fun _ =>
          forgetImage (textOf .image request) := rfl

theorem noted_toRemoveImage
    (played : (r.toRemoveImage c request).run.play w past = (.ok seen, deeds)) :
    r.Noted w (fun _ _ => forgetImage (textOf .image request)) seen deeds := by
  rw [toRemoveImage_eq] at played
  obtain ⟨owner, first, rest, found, inquired, rfl⟩ := Activity.play_run_bind_eq_ok played
  exact Noted.after_find (within_forImage ..) found (noted_inquire inquired)

end

/-! ### What callers see of it -/

/-- What callers are told of an image, as far as it is a digest, is what its runtime tells. -/
theorem eq_of_qualify_described {s : Scope} {described : Option (String × Option String)}
    (hd : isDigest digest = true)
    (seen : (described.map fun image => (s.qualifyImage image.1, image.2.map s.qualifyImage)) =
      some (digest, tag)) :
    ∃ own, described = some (digest, own) ∧ tag = own.map s.qualifyImage := by
  obtain ⟨⟨id, own⟩, rfl, same⟩ := Option.map_eq_some_iff.1 seen
  obtain ⟨rfl, rfl⟩ := Prod.mk.inj same
  exact ⟨own, by rw [Scope.qualifyImage_of_isDigest hd], rfl⟩

theorem describedImage?_present_pulled (r : Router) (b : Backend) (response : PullImageResponse) :
    Views.describedImage? (r.present b response) = (Views.describedImage? response).map
      fun image => (b.scope.qualifyImage image.1, image.2.map b.scope.qualifyImage) := rfl

theorem describedImage?_present_status (r : Router) (b : Backend)
    (response : ImageStatusResponse) :
    Views.describedImage? (r.present b response) = (Views.describedImage? response).map
      fun image => (b.scope.qualifyImage image.1, image.2.map b.scope.qualifyImage) := by
  obtain ⟨_ | ⟨id, tags⟩, info⟩ := response
  · rfl
  · cases tags <;> rfl

/-- A caller makes a call about an image and gets a response, which describes an image or not. -/
def Asked (r : Router) (w : World) (past : Journal) (m : Method) (reference : String)
    (described : Option (String × Option String)) (deeds : Journal) : Prop :=
  ∃ (revision : Revision) (deadline : Option Span),
    match m.exchange revision.schema with
    | @Exchange.listed .. => False
    | @Exchange.routed Req Resp _ _ _ _ _ _ _ route =>
      ∃ (request : Req) (seen : Resp), textOf .image request = reference ∧
        Views.describedImage? seen = described ∧
        (r.follow route ⟨m, revision, deadline⟩ request : Handling Resp).run.play w past =
          (.ok seen, deeds)

/-- An image that has been pulled is remembered by the reference of the caller. -/
theorem Asked.after_pullImage
    (asked : r.Asked w past .pullImage reference (some (digest, none)) deeds)
    (hd : isDigest digest = true) (t : ImageNames) : t.after deeds = t.record digest reference := by
  have recorded {r : Router} {seen : PullImageResponse}
      (noted : r.Noted w (fun _ => notePulled reference) seen deeds)
      (described : Views.describedImage? seen = some (digest, none)) :
      t.after deeds = t.record digest reference := by
    obtain ⟨b, response, before, rfl, learnt⟩ := noted
    rw [describedImage?_present_pulled] at described
    obtain ⟨own, told, -⟩ := eq_of_qualify_described hd described
    simp only [learnt, notePulled, told]
    rfl
  obtain ⟨revision, deadline, called⟩ := asked
  cases hs : revision.schema with
  | legacy | current =>
    rw [hs] at called
    obtain ⟨request, seen, rfl, described, played⟩ := called
    exact recorded (noted_toPullImage played) described

/-- An image that is found is remembered by the first name that callers are told, or else by the
reference of the caller. -/
theorem Asked.after_imageStatus
    (asked : r.Asked w past .imageStatus reference (some (digest, tag)) deeds)
    (hd : isDigest digest = true) (t : ImageNames) :
    t.after deeds = t.record digest (tag.getD reference) := by
  obtain ⟨revision, deadline, request, seen, rfl, described, played⟩ := asked
  rcases noted_toImageStatus played with rfl | ⟨b, response, before, rfl, learnt⟩
  · cases described
  · rw [describedImage?_present_status] at described
    obtain ⟨own, told, rfl⟩ := eq_of_qualify_described hd described
    rw [learnt, noteStatus, told]
    rfl

/-- What is known by a name is forgotten when the image of that name is removed. -/
theorem Asked.after_removeImage (asked : r.Asked w past .removeImage reference none deeds)
    (hn : isDigest reference = false) (t : ImageNames) :
    t.after deeds = t.forgetName reference := by
  obtain ⟨revision, deadline, request, seen, rfl, -, played⟩ := asked
  obtain ⟨b, response, before, -, learnt⟩ := noted_toRemoveImage played
  rw [learnt, forgetImage, hn]
  rfl

/-! ### Images that come and go -/

/-- Callers ask for the status of an image by its name or its digest, any number of times, and it is
found. The names are those that it is remembered by. -/
inductive Sighted (r : Router) (w : World) (name digest : String) :
    Journal → List String → Journal → Prop where
  | nil (past : Journal) : Sighted r w name digest past [] []
  | cons {past first later : Journal} {reference : String} {tag : Option String}
      {names : List String} (subject : reference = name ∨ reference = digest)
      (asked : r.Asked w past .imageStatus reference (some (digest, tag)) first)
      (rest : Sighted r w name digest (past ++ first) names later) :
      Sighted r w name digest past (tag.getD reference :: names) (first ++ later)

theorem Sighted.after {name : String} {names : List String}
    (sighted : r.Sighted w name digest past names deeds) (hd : isDigest digest = true)
    (t : ImageNames) : t.after deeds = names.foldl (fun t name => t.record digest name) t := by
  induction sighted generalizing t with
  | nil => rfl
  | cons _ asked _ ih =>
    rw [ImageNames.after_append, asked.after_imageStatus hd, ih, List.foldl_cons]

/-- An image is pulled by a name, found any number of times, and removed by the name. It is
forgotten exactly if it is not known by another name by then. -/
theorem lookup_removed_iff {name digest : String} (hn : isDigest name = false)
    (hd : isDigest digest = true) {names : List String} {pulled found removed : Journal}
    (pull : r.Asked w past .pullImage name (some (digest, none)) pulled)
    (sightings : r.Sighted w name digest (past ++ pulled) names found)
    (remove : r.Asked w (past ++ pulled ++ found) .removeImage name none removed)
    (t : ImageNames) :
    (t.after (pulled ++ found ++ removed)).lookup digest = none ↔
      ∀ known ∈ (ImageNames.told? digest (name :: names)).or (t.lookup digest), known = name := by
  have nonempty : digest ≠ "" := by
    rintro rfl
    exact absurd hd (by decide)
  rw [ImageNames.after_append, ImageNames.after_append, pull.after_pullImage hd,
    sightings.after hd, remove.after_removeImage hn, ImageNames.lookup_forgetName_eq_none_iff,
    ← ImageNames.lookup_foldl_record nonempty, List.foldl_cons]

theorem eq_ok_of_toOption {α β : Type} {result : Except Fault α} {f : α → β} {y : β}
    (h : result.toOption.map f = some y) : ∃ x, f x = y ∧ result = .ok x := by
  cases result with
  | error fault => cases h
  | ok x => exact ⟨x, Option.some.inj h, rfl⟩

/-- A named runtime tells the name by which the image has been pulled. When callers remove the image
by this name, it is forgotten. -/
theorem lookup_removed_alt :
    let primary : Backend := ⟨.primary, "/run/primary.sock"⟩
    let alt : Backend := ⟨.named ⟨"alt", by decide⟩, "/run/alt.sock"⟩
    let r : Router :=
      ⟨primary, [alt], ⟨"http", none, .plain "", none, none⟩, rfl, by decide, by decide⟩
    let name := "alt/busybox:1.36"
    let digest := "sha256:0123456789abcdef0123456789abcdef0123456789abcdef0123456789abcdef"
    let w := World.holding digest ["busybox:1.36"]
    let pull := (r.follow .pullImage ⟨.pullImage, .v1, none⟩
      ({ image := some ⟨name⟩ } : PullImageRequest) : Handling PullImageResponse).run.play w []
    let find := (r.follow .imageStatus ⟨.imageStatus, .v1, none⟩
      ({ image := some ⟨digest⟩ } : ImageStatusRequest) :
        Handling ImageStatusResponse).run.play w pull.2
    let remove := (r.follow .removeImage ⟨.removeImage, .v1, none⟩
      ({ image := some ⟨name⟩ } : RemoveImageRequest) :
        Handling RemoveImageResponse).run.play w (pull.2 ++ find.2)
    let names := ImageNames.empty.after (pull.2 ++ find.2)
    names.lookup digest = some name ∧ (names.after remove.2).lookup digest = none := by
  intro primary alt r name digest w pull find remove names
  obtain ⟨_, pulled, pulls⟩ := eq_ok_of_toOption
    (show pull.1.toOption.map Views.describedImage? = some (some (digest, none)) by decide +kernel)
  obtain ⟨_, found, finds⟩ := eq_ok_of_toOption
    (show find.1.toOption.map Views.describedImage? = some (some (digest, some name)) by
      decide +kernel)
  obtain ⟨_, removed, removes⟩ := eq_ok_of_toOption
    (show remove.1.toOption.map Views.describedImage? = some none by decide +kernel)
  have asked : r.Asked w [] .pullImage name (some (digest, none)) pull.2 :=
    ⟨.v1, none, _, _, rfl, pulled, Prod.ext pulls rfl⟩
  have sighted : r.Asked w pull.2 .imageStatus digest (some (digest, some name)) find.2 :=
    ⟨.v1, none, _, _, rfl, found, Prod.ext finds rfl⟩
  have gone : r.Asked w (pull.2 ++ find.2) .removeImage name none remove.2 :=
    ⟨.v1, none, _, _, rfl, removed, Prod.ext removes rfl⟩
  have known : names.lookup digest = some name := by decide +kernel
  have sightings : r.Sighted w name digest pull.2 [name] (find.2 ++ []) :=
    .cons (.inr rfl) sighted (.nil _)
  rw [List.append_nil] at sightings
  have told : ImageNames.told? digest [name, name] = some name := by decide +kernel
  have forgotten :=
    lookup_removed_iff (by decide +kernel) (by decide +kernel) asked sightings gone .empty
  rw [told, ImageNames.after_append] at forgotten
  exact ⟨known, forgotten.2 (by simp)⟩

/-- An image is pulled by a name to which the runtime adds a tag. When callers remove the image by
this name, it stays known by the name that the runtime has told. -/
theorem lookup_removed_latest :
    let primary : Backend := ⟨.primary, "/run/primary.sock"⟩
    let r : Router :=
      ⟨primary, [], ⟨"http", none, .plain "", none, none⟩, rfl, by decide, by decide⟩
    let name := "busybox"
    let digest := "sha256:0123456789abcdef0123456789abcdef0123456789abcdef0123456789abcdef"
    let w := World.holding digest ["busybox:latest"]
    let pull := (r.follow .pullImage ⟨.pullImage, .v1, none⟩
      ({ image := some ⟨name⟩ } : PullImageRequest) : Handling PullImageResponse).run.play w []
    let find := (r.follow .imageStatus ⟨.imageStatus, .v1, none⟩
      ({ image := some ⟨name⟩ } : ImageStatusRequest) :
        Handling ImageStatusResponse).run.play w pull.2
    let remove := (r.follow .removeImage ⟨.removeImage, .v1, none⟩
      ({ image := some ⟨name⟩ } : RemoveImageRequest) :
        Handling RemoveImageResponse).run.play w (pull.2 ++ find.2)
    isDigest name = false ∧ isDigest digest = true ∧
      pull.1.toOption.map PullImageResponse.imageRef = some digest ∧
      find.1.toOption.map Views.describedImage? = some (some (digest, some "busybox:latest")) ∧
      remove.1.toOption.isSome = true ∧
      (ImageNames.empty.after (pull.2 ++ find.2 ++ remove.2)).lookup digest =
        some "busybox:latest" ∧
      ¬ (ImageNames.empty.after (pull.2 ++ find.2 ++ remove.2)).lookup digest = none := by
  decide +kernel

end Router

end RuntimeMux
