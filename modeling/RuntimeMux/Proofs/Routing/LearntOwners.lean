import RuntimeMux.Exchange
import RuntimeMux.ImageNames
import RuntimeMux.Proofs.Cri.Legible
import RuntimeMux.Proofs.Router.ImageOwner
import RuntimeMux.Proofs.Routing.Aim

/-!
# Owners that are learnt

A digest belongs to the runtime of the name that is known for it. The names are learnt from calls: a
runtime that tells of an image, or has pulled it, makes the id of the image known by the first name
that it tells, or else by the reference of the caller. Either leads back to the runtime, unless the
reference is a digest itself: it says nothing about a runtime, and so leads to the primary one, even
if the runtime of the image was known before.
-/

namespace RuntimeMux

open Cri Wire

/-! ### The table of names -/

theorem TextMap.get?_insert (m : TextMap) (key value k : String) :
    (m.insert key value).get? k = if k = key then some value else m.get? k := by
  have cons (e : String × String) (l : List (String × String)) :
      (e :: l).lookup k = if k = e.1 then some e.2 else l.lookup k := by
    rw [List.lookup_cons]
    cases hk : k == e.1 <;> simp_all
  have put (l : List (String × String)) :
      (insertEntry key value l).lookup k = if k = key then some value else l.lookup k := by
    induction l with
    | nil => exact cons (key, value) []
    | cons e l ih =>
      simp only [insertEntry]
      split
      · exact cons (key, value) (e :: l)
      · split <;> simp only [cons, ih] <;> split_ifs <;> simp_all
  exact put m.entries

namespace ImageNames

theorem lookup_record (t : ImageNames) (id name key : String) :
    (t.record id name).lookup key =
      if key = id ∧ id ≠ "" ∧ name ≠ "" ∧ id ≠ name then some name else t.lookup key := by
  by_cases said : id ≠ "" ∧ name ≠ "" ∧ id ≠ name
  · have recorded : t.record id name = ⟨t.names.insert id name⟩ := by simp [record, said]
    rw [recorded, lookup, TextMap.get?_insert]
    simp only [said, ne_eq, not_false_eq_true, and_true, lookup]
  · have same : t.record id name = t := by
      rw [record, if_pos]
      simp only [Bool.or_eq_true, String.isEmpty_iff, beq_iff_eq]
      tauto
    rw [same, if_neg fun learnt => said learnt.2]

/-- The table after an act. -/
def learn (t : ImageNames) : Act → ImageNames
  | .record id name => t.record id name
  | .forget id => t.forget id
  | .forgetName name => t.forgetName name
  | .await _ | .kick _ | .connected _ | .link _ | .generation _ | .reconnect _ _ | .send _ _ _
  | .nameOf _ => t

/-- The table after all that has been done. -/
def after (t : ImageNames) (deeds : Journal) : ImageNames :=
  deeds.foldl (fun t d => t.learn d.act) t

variable {t : ImageNames} {deeds later : Journal}

@[simp]
theorem after_append : t.after (deeds ++ later) = (t.after deeds).after later :=
  List.foldl_append

/-- An act that is about a runtime, or looks at the table, teaches nothing. -/
def Idle (a : Act) : Prop := ∀ t : ImageNames, t.learn a = t

theorem idle_of_backend {a : Act} {b : Backend} (ha : a.backend? = some b) : Idle a := by
  intro t
  cases a <;> first | rfl | cases ha

theorem after_eq_self (idle : ∀ d ∈ deeds, Idle d.act) : t.after deeds = t := by
  induction deeds with
  | nil => rfl
  | cons d deeds ih =>
    obtain ⟨first, rest⟩ := List.forall_mem_cons.1 idle
    rw [after, List.foldl_cons, first t]
    exact ih rest

end ImageNames

/-- A world in which the table answers, which knew nothing at first. -/
def World.recalling (w : World) : World
  | past, .nameOf image => (ImageNames.empty.after past).lookup image
  | past, a => w past a

namespace Router

variable {r : Router} {b : Backend} {t : ImageNames} {reference id : String} {tag : Option String}

/-! ### Owners of names -/

/-- A reference without a `/` names no named runtime. -/
theorem ownerOfName_of_isDigest (r : Router) {digest : String} (hd : isDigest digest = true) :
    r.ownerOfName digest = (r.primary, digest) := by
  refine ownerOfName_of_unqualified fun b hb =>
    Option.eq_none_iff_forall_ne_some.2 fun own takes => ?_
  obtain ⟨i, hi⟩ := Scope.exists_eq_named (r.named_scope b hb)
  rw [hi, Scope.ownImage?_named_eq_some_iff] at takes
  exact slash_notMem_of_isDigest hd (by simp [takes])

/-- A runtime that tells of an image tells a name of its own. A name that the primary runtime tells
is not qualified by another scope. -/
structure Tells (r : Router) (b : Backend) (tag : String) : Prop where
  told : tag ≠ ""
  undigested : isDigest tag = false
  unqualified : b.isPrimary = true → ∀ other ∈ r.named, other.scope.ownImage? tag = none

namespace Tells

variable {own : String}

theorem owner_eq (tells : r.Tells b own) (hb : b ∈ r.backends) :
    (r.ownerOfName (b.scope.qualifyImage own)).1 = b := by
  rcases List.mem_cons.1 hb with rfl | named
  · have primary : r.primary.isPrimary = true := by rw [Backend.isPrimary, r.primary_scope]; rfl
    have same : r.primary.scope.qualifyImage own = own := by rw [r.primary_scope]; rfl
    rw [same, ownerOfName_of_unqualified (tells.unqualified primary)]
  · rw [ownerOfName_qualifyImage named tells.told tells.undigested]

theorem qualifyImage_ne (tells : r.Tells b own) : b.scope.qualifyImage own ≠ "" := by
  cases b.scope with
  | primary => exact tells.told
  | named i =>
    rw [Scope.qualifyImage_named tells.told tells.undigested]
    simp

theorem isDigest_qualifyImage (tells : r.Tells b own) :
    isDigest (b.scope.qualifyImage own) = false := by
  cases b.scope with
  | primary => exact tells.undigested
  | named i => exact Scope.isDigest_qualifyImage_named tells.told tells.undigested

end Tells

/-- What a runtime makes known about the digest of an image leads back to it, unless it has told no
name and the reference of the caller is of no use: an empty one leaves everything as it was, and
another digest leads to the primary runtime. -/
theorem ownerOfImage_record_iff (hb : b = (r.ownerOfImage (t.lookup reference) reference).1)
    (digest : isDigest id = true) (tells : ∀ own, tag = some own → r.Tells b own) :
    (r.ownerOfImage ((t.record id ((tag.map b.scope.qualifyImage).getD reference)).lookup id) id).1
        = b ↔
      (tag = none → reference = "" → (r.ownerOfImage (t.lookup id) id).1 = b) ∧
        (tag = none → isDigest reference = true → reference ≠ id → b = r.primary) := by
  have known (name : String) : (r.ownerOfImage (some name) id).1 = (r.ownerOfName name).1 := by
    simp [ownerOfImage, digest]
  have nonempty : id ≠ "" := by
    rintro rfl
    exact absurd digest (by decide)
  rw [ImageNames.lookup_record]
  cases tag with
  | some own =>
    have mem : b ∈ r.backends := hb ▸ (r.ownImage?_ownerOfImage (t.lookup reference) reference).1
    have told := tells own rfl
    have other : id ≠ b.scope.qualifyImage own := by
      rintro rfl
      rw [told.isDigest_qualifyImage] at digest
      cases digest
    simp [nonempty, told.qualifyImage_ne, other, known, told.owner_eq mem]
  | none =>
    rw [Option.map_none, Option.getD_none]
    by_cases unsaid : reference = ""
    · have undigested : isDigest "" = false := by decide
      simp [unsaid, undigested]
    by_cases same : id = reference
    · simp [← same, nonempty, hb]
    rw [if_pos ⟨rfl, nonempty, unsaid, same⟩, known]
    cases hd : isDigest reference with
    | true => simp [ownerOfName_of_isDigest r hd, unsaid, Ne.symm same, eq_comm]
    | false => simp [unsaid, hb, ownerOfImage, hd]

/-! ### Finding the runtime of an image -/

variable {w : World} {past deeds : Journal}

theorem within_forImage (r : Router) (reference : String) :
    (r.forImage reference).run.Within ImageNames.Idle := by
  have finds : (r.findImage reference).Within ImageNames.Idle := by
    rw [findImage]
    split
    · exact .bind (Activity.within_once (a := .nameOf reference) fun _ => rfl) fun _ => trivial
    · trivial
  refine .run_bind finds.run_lift fun owner => .run_bind ?_ fun _ => trivial
  exact (within_ready owner.1).imp fun _ => ImageNames.idle_of_backend

theorem within_forImage? (r : Router) (reference : String) :
    (r.forImage? reference).run.Within ImageNames.Idle := by
  refine .run_tryCatch ?_ fun fault => ?_
  · rw [← bind_pure_comp]
    exact .run_bind (r.within_forImage reference) fun _ => trivial
  · split <;> trivial

/-- The runtime of an image is its owner, as far as the table knows its name. -/
theorem eq_ownerOfImage_of_known {owner : Backend × String}
    (known : ∀ image, w past (.nameOf image) = t.lookup image)
    (played : (r.forImage reference).run.play w past = (.ok owner, deeds)) :
    owner = r.ownerOfImage (t.lookup reference) reference := by
  obtain ⟨found, _, _, looked, rest, -⟩ := Activity.play_run_bind_eq_ok played
  obtain ⟨_, _, _, -, ended, -⟩ := Activity.play_run_bind_eq_ok rest
  cases ended
  rw [Activity.play_run_lift, findImage] at looked
  split at looked
  next digest =>
    rw [← known]
    exact (Except.ok.inj (congrArg Prod.fst looked)).symm
  next name =>
    rw [← Except.ok.inj (congrArg Prod.fst looked)]
    simp [ownerOfImage, name]

/-! ### Calls about images -/

variable {Req Resp : Type} [Message Req] [Message Resp] [Convertible Req] [Convertible Resp]

theorem within_invoke_idle (c : Call) (b : Backend) (given : Req) :
    (c.invoke b given : Handling Resp).run.Within ImageNames.Idle :=
  (Call.within_invoke c b given).imp fun _ => ImageNames.idle_of_backend

/-- To ask a runtime teaches nothing about images. -/
theorem after_invoke (c : Call) (b : Backend) (given : Req) (w : World) (past : Journal)
    (t : ImageNames) : t.after ((c.invoke b given : Handling Resp).run.play w past).2 = t := by
  have idle : (c.invoke b given : Handling Resp).run.Within _ := within_invoke_idle c b given
  exact ImageNames.after_eq_self (idle.act_mem_play w past)

variable [Views Resp] [Scoped Resp] {c : Call}

/-- A runtime is asked, and note is taken of its answer, if there is one. -/
theorem play_inquire_eq (r : Router) (c : Call) (b : Backend) (given : Req)
    (note : Resp → Activity Unit) (w : World) (past : Journal) :
    (r.inquire b c given note).run.play w past =
      match (c.invoke b given : Handling Resp).run.play w past with
      | (.ok response, called) =>
        (.ok (r.present b response), called ++ ((note response).play w (past ++ called)).2)
      | (.error fault, called) => (.error fault, called) := by
  rw [inquire, Activity.play_run_bind]
  generalize (c.invoke b given : Handling Resp).run.play w past = result
  obtain ⟨fault | response, called⟩ := result
  · rfl
  · simp only [Activity.play_run_bind, Activity.play_run_lift, Activity.play_run_pure,
      List.append_nil]

/-- An answer that is a response is noted, and callers get it. -/
theorem play_inquire {given : Req} {note : Resp → Activity Unit}
    (silent : ∀ response, (note response).Silent) {asked : Backend} {link : Link} {rpc : Rpc}
    {answer : Except Status Bytes} {response : Resp}
    (sent : ⟨.send asked link rpc, answer⟩ ∈ ((r.inquire b c given note).run.play w past).2)
    (read : c.reading Resp link answer = .ok response) :
    asked = b ∧ ∃ called, (∀ t : ImageNames, t.after called = t) ∧
      (r.inquire b c given note).run.play w past =
        (.ok (r.present b response), called ++ ((note response).play w (past ++ called)).2) := by
  have invoked := Call.Invoked.of_play Resp c b given w past
  have untaught (t : ImageNames) :
      t.after ((c.invoke b given : Handling Resp).run.play w past).2 = t :=
    after_invoke c b given w past t
  rw [play_inquire_eq] at sent ⊢
  generalize (c.invoke b given : Handling Resp).run.play w past = result
    at sent invoked untaught ⊢
  obtain ⟨ended, called⟩ := result
  -- nothing is sent to take note of an answer
  have made : ⟨.send asked link rpc, answer⟩ ∈ called := by
    cases ended with
    | error fault => exact sent
    | ok own =>
      refine (List.mem_append.1 sent).resolve_right fun noted => ?_
      have unsent := (silent own).sent_play (w := w) (past ++ called)
      simpa [unsent] using Journal.mem_sent noted
  have mine := Journal.mem_sent made
  rw [invoked.sent] at mine
  cases hl : w past (.link b) with
  | none => simp [hl] at mine
  | some found =>
    simp only [hl, Option.elim_some] at mine
    split at mine
    · obtain ⟨rfl, rfl, rfl⟩ : asked = b ∧ link = found ∧ rpc = c.rpc found given := by
        simpa using mine
      obtain rfl := (invoked.eq_ok_iff response).2 ⟨link, answer, made, read⟩
      exact ⟨rfl, called, untaught, rfl⟩
    · cases mine

/-- What a call about an image makes known, whichever runtime has answered it with a digest: the
caller gets the response, and the digest leads back to the runtime, unless it has told no name and
the reference of the caller is of no use. An empty one leaves the owner as it was, and another
digest leads to the primary runtime. -/
def Learns (r : Router) (c : Call) (reference : String) (t : ImageNames)
    (played : Except Fault Resp × Journal) : Prop :=
  ∀ (b : Backend) (link : Link) (rpc : Rpc) (answer : Except Status Bytes) (response : Resp)
    (id : String) (tag : Option String),
    ⟨.send b link rpc, answer⟩ ∈ played.2 → c.reading Resp link answer = .ok response →
    Views.describedImage? response = some (id, tag) → isDigest id = true →
    (∀ own, tag = some own → r.Tells b own) →
    played.1 = .ok (r.present b response) ∧
      ((r.ownerOfImage ((t.after played.2).lookup id) id).1 = b ↔
        (tag = none → reference = "" → (r.ownerOfImage (t.lookup id) id).1 = b) ∧
          (tag = none → isDigest reference = true → reference ≠ id → b = r.primary))

namespace Learns

theorem of_silent {handling : Handling Resp} (silent : handling.run.Silent) :
    r.Learns c reference t (handling.run.play w past) := by
  intro b link rpc answer response id tag sent
  have unsent := silent.sent_play (w := w) past
  simpa [unsent] using Journal.mem_sent sent

/-- What is done before a runtime is asked teaches nothing. -/
theorem bind {α : Type} {find : Handling α} {next : α → Handling Resp} (silent : find.run.Silent)
    (idle : find.run.Within ImageNames.Idle)
    (rest : ∀ x deeds, find.run.play w past = (.ok x, deeds) →
      r.Learns c reference t ((next x).run.play w (past ++ deeds))) :
    r.Learns c reference t ((find >>= next).run.play w past) := by
  have unsent := silent.sent_play (w := w) past
  have untaught := idle.act_mem_play w past
  intro b link rpc answer response id tag sent read described digest tells
  rw [Activity.play_run_bind] at sent ⊢
  cases hf : find.run.play w past with
  | mk found first =>
    rw [hf] at unsent untaught sent
    cases found with
    | error fault =>
      have mine := Journal.mem_sent sent
      rw [unsent] at mine
      cases mine
    | ok x =>
      have later := (List.mem_append.1 sent).resolve_left fun before => by
        simpa [unsent] using Journal.mem_sent before
      have taught := rest x first hf b link rpc answer response id tag later read described digest
        tells
      simpa only [ImageNames.after_append, ImageNames.after_eq_self untaught] using taught

/-- A runtime is asked, and what it tells is remembered. -/
theorem inquire {given : Req} {note : Resp → Activity Unit}
    (silent : ∀ response, (note response).Silent)
    (notes : ∀ response id tag, Views.describedImage? response = some (id, tag) →
      note response = Activity.once (.record id ((tag.map b.scope.qualifyImage).getD reference)))
    (hb : b = (r.ownerOfImage (t.lookup reference) reference).1) :
    r.Learns c reference t ((r.inquire b c given note).run.play w past) := by
  intro asked link rpc answer response id tag sent read described digest tells
  obtain ⟨rfl, called, untaught, played⟩ := play_inquire silent sent read
  rw [played]
  refine ⟨rfl, ?_⟩
  rw [notes response id tag described, ImageNames.after_append, untaught]
  exact ownerOfImage_record_iff hb digest tells

end Learns

variable [Views Req]

/-! ### The two calls -/

theorem learns_toPullImage (r : Router) (c : Call) (request : Req)
    (known : ∀ image, w past (.nameOf image) = t.lookup image)
    (untagged : ∀ (response : Resp) id tag,
      Views.describedImage? response = some (id, tag) → tag = none) :
    r.Learns c (textOf .image request) t
      ((r.toPullImage c request : Handling Resp).run.play w past) := by
  rw [toPullImage_eq]
  refine .bind (silent_forImage ..) (within_forImage ..) fun owner deeds found => ?_
  refine .inquire (silent_notePulled _) (fun response id tag described => ?_) ?_
  · obtain rfl := untagged response id tag described
    rw [notePulled, described]
    rfl
  · rw [eq_ownerOfImage_of_known known found]

theorem learns_toImageStatus (r : Router) (c : Call) (request : Req)
    (known : ∀ image, w past (.nameOf image) = t.lookup image) :
    r.Learns c (textOf .image request) t
      ((r.toImageStatus c request : Handling Resp).run.play w past) := by
  rw [toImageStatus_eq]
  refine .bind (silent_forImage? ..) (within_forImage? ..) fun owner? deeds found => ?_
  cases owner? with
  | none => exact .of_silent trivial
  | some owner =>
    refine .inquire (silent_noteStatus _ _) (fun response id tag described => ?_) ?_
    · rw [noteStatus, described]
    · rw [eq_ownerOfImage_of_known known (play_forImage_of_forImage? found)]

end Router

/-- Methods by which the names of images are learnt. -/
def Method.learns : Method → Bool
  | .imageStatus | .pullImage => true
  | _ => false

namespace Router

/-- A runtime that tells of an image, or has pulled it, owns its digest from then on, as long as
what is remembered of the image is of use. -/
theorem follow_learns (r : Router) (m : Method) (hm : m.learns = true) (revision : Revision)
    (deadline : Option Span) (w : World) (past : Journal) (t : ImageNames)
    (known : ∀ image, w past (.nameOf image) = t.lookup image) :
    match m.exchange revision.schema with
    | @Exchange.listed .. => False
    | @Exchange.routed Req Resp _ _ _ _ _ _ _ route =>
      let c : Call := ⟨m, revision, deadline⟩
      ∀ request : Req, r.Learns c (textOf .image request) t
        ((r.follow route c request : Handling Resp).run.play w past) := by
  cases m with
  | imageStatus => exact fun request => learns_toImageStatus r _ request known
  | pullImage =>
    have untagged (response : PullImageResponse) (id : String) (tag : Option String)
        (described : Views.describedImage? response = some (id, tag)) : tag = none := by
      cases described
      rfl
    cases revision.schema with
    | legacy | current => exact fun request => learns_toPullImage r _ request known untagged
  | _ => cases hm

/-- A named runtime tells a name of its own, which leads back to it. -/
theorem follow_learns_tag :
    let primary : Backend := ⟨.primary, "/run/primary.sock"⟩
    let alt : Backend := ⟨.named ⟨"alt", by decide⟩, "/run/alt.sock"⟩
    let r : Router :=
      ⟨primary, [alt], ⟨"http", none, .plain "", none, none⟩, rfl, by decide, by decide⟩
    let digest := "sha256:0123456789abcdef0123456789abcdef0123456789abcdef0123456789abcdef"
    let response : ImageStatusResponse :=
      ⟨some { id := digest, repoTags := ["busybox:1.36"] }, .empty⟩
    let w := (World.steady (fun _ => some ⟨.v1, 1⟩)
      (fun _ _ => .ok (Message.encode response))).recalling
    let c : Call := ⟨.imageStatus, .v1, none⟩
    let request : ImageStatusRequest := { image := some ⟨"alt/busybox"⟩ }
    let asked := (r.follow .imageStatus c request : Handling ImageStatusResponse).run.play w []
    asked.1 = .ok (r.present alt response) ∧
      (r.ownerOfImage ((ImageNames.empty.after asked.2).lookup digest) digest).1 = alt := by
  intro primary alt r digest response w c request asked
  have calls : Journal.sent asked.2 =
      [(alt, ⟨.v1, 1⟩, c.rpc ⟨.v1, 1⟩ (withText .image "busybox" request))] := by decide +kernel
  obtain ⟨before, sent⟩ := Activity.mem_play_of_sent _ (calls ▸ List.mem_singleton_self _)
  have read : c.reading ImageStatusResponse ⟨.v1, 1⟩ (.ok (Message.encode response)) =
      .ok response := c.reading_encode _ (by decide +kernel)
  have tells (own : String) (told : some "busybox:1.36" = some own) : r.Tells alt own := by
    cases told
    exact ⟨by decide, by decide +kernel, nofun⟩
  have learns := r.follow_learns .imageStatus rfl .v1 none w [] .empty (fun _ => rfl) request
  have learnt := learns alt ⟨.v1, 1⟩ _ _ response digest (some "busybox:1.36") sent read rfl
    (by decide +kernel) tells
  exact ⟨learnt.1, learnt.2.2 ⟨nofun, nofun⟩⟩

/-- A runtime is learnt to hold an image, and pulls it again by its digest. The digest that it
answers with this time is then said to be the primary runtime's. -/
theorem follow_learns_digest :
    let primary : Backend := ⟨.primary, "/run/primary.sock"⟩
    let alt : Backend := ⟨.named ⟨"alt", by decide⟩, "/run/alt.sock"⟩
    let r : Router :=
      ⟨primary, [alt], ⟨"http", none, .plain "", none, none⟩, rfl, by decide, by decide⟩
    let manifest := "sha256:0123456789abcdef0123456789abcdef0123456789abcdef0123456789abcdef"
    let config := "sha256:fedcba9876543210fedcba9876543210fedcba9876543210fedcba9876543210"
    let ask (image : String) : PullImageRequest := { image := some ⟨image⟩ }
    let w := (World.steady (fun _ => some ⟨.v1, 1⟩) fun _ rpc =>
      let pulled := if rpc.body = Message.encode (ask "busybox") then manifest else config
      .ok (Message.encode (⟨pulled⟩ : PullImageResponse))).recalling
    let c : Call := ⟨.pullImage, .v1, none⟩
    let pull (image : String) (past : Journal) :=
      (r.follow .pullImage c (ask image) : Handling PullImageResponse).run.play w past
    let first := pull "alt/busybox" []
    let second := pull manifest first.2
    let names := ImageNames.empty.after (first.2 ++ second.2)
    isDigest config = true ∧
      Journal.sent second.2 = [(alt, ⟨.v1, 1⟩, c.rpc ⟨.v1, 1⟩ (ask manifest))] ∧
      second.1.toOption.map PullImageResponse.imageRef = some config ∧
      (r.ownerOfImage (names.lookup config) config).1 = primary ∧
      ¬ (r.ownerOfImage (names.lookup config) config).1 = alt := by
  decide +kernel

end Router

end RuntimeMux
