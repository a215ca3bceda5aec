import RuntimeMux.Proofs.Call.Interleaving
import RuntimeMux.Proofs.Routing.RemovedImages

/-!
# Images that are pulled and removed at once

Callers may pull and remove an image by one name at the same time. A runtime does its part when a call
reaches it, but the table of names is told only when the answer is back. So the table goes by the order
in which the calls end: an image is known by the name exactly if the last call that has pulled or
removed it has pulled it. As long as the answers come in the order in which the calls have reached the
runtime, this is true of the runtime as well. A removal that ends late, though, makes the proxy forget
an image that the runtime has pulled since.
-/

namespace RuntimeMux

open Cri Wire

/-! ### What the table shows -/

/-- Whether an image is known by a name. -/
def ImageNames.knows (name digest : String) (t : ImageNames) : Bool :=
  t.lookup digest == some name

/-- What a call about the image of a name ends with: the id of the image that has been pulled, or none
if the image has been removed. -/
abbrev ImageEnd := Except Fault (Option String)

namespace ImageEnd

/-- Whether an image is known after a call, if it is `known` before. -/
def shows (digest : String) (ended : ImageEnd) (known : Bool) : Bool :=
  match ended with
  | .ok (some id) => known || id == digest
  | .ok none => false
  | .error _ => known

/-- What has become of an image last: it has been pulled under the digest, or it has been removed. -/
def latest? (digest : String) (ends : List (Nat × ImageEnd)) : Option (Option String) :=
  ((ends.filterMap fun ended => ended.2.toOption).filter fun told =>
    told = none ∨ told = some digest).getLast?

theorem latest?_concat (digest : String) (ends : List (Nat × ImageEnd)) (i : Nat)
    (ended : ImageEnd) :
    latest? digest (ends ++ [(i, ended)]) =
      match ended with
      | .ok (some id) => if id = digest then some (some digest) else latest? digest ends
      | .ok none => some none
      | .error _ => latest? digest ends := by
  rw [latest?, List.filterMap_append, List.filter_append]
  rcases ended with fault | _ | id
  · simp [Except.toOption, latest?]
  · simp [Except.toOption]
  · by_cases same : id = digest
    · simp [Except.toOption, same]
    · simp [Except.toOption, same, latest?]

/-- After a number of calls, an image is known if it has been pulled and not removed since. -/
theorem foldl_shows_iff (digest : String) (ends : List (Nat × ImageEnd)) (known : Bool) :
    ends.foldl (fun known ended => shows digest ended.2 known) known = true ↔
      latest? digest ends = some (some digest) ∨ latest? digest ends = none ∧ known = true := by
  induction ends using List.reverseRecOn with
  | nil => simp [latest?]
  | append_singleton ends ended ih =>
    obtain ⟨i, fault | _ | id⟩ := ended
    · rw [List.foldl_append, latest?_concat]
      exact ih
    · rw [List.foldl_append, latest?_concat]
      simp [shows]
    · rw [List.foldl_append, List.foldl_cons, List.foldl_nil, latest?_concat]
      by_cases same : id = digest
      · simp [shows, same]
      · simpa [shows, same] using ih

end ImageEnd

theorem Scope.qualifyImage_eq_digest_iff {s : Scope} {image digest : String}
    (hd : isDigest digest = true) : s.qualifyImage image = digest ↔ image = digest := by
  constructor
  · rintro rfl
    exact (qualifyImage_of_isDigest hd).symm
  · rintro rfl
    cases s with
    | primary => rfl
    | named id => simp [qualifyImage, hd]

namespace ImageNames

variable {name digest : String}

theorem unobserved_of_idle {γ : Type} {observe : ImageNames → γ} {a : Act} (idle : Idle a) :
    a.Unobserved learn observe :=
  fun t => congrArg observe (idle t)

/-- What is pulled under the digest is known, and everything else is left alone. -/
theorem knows_record (hn : name ≠ "") (hd : isDigest digest = true) (other : name ≠ digest)
    (s : Scope) (id : String) (t : ImageNames) :
    knows name digest (t.record id name) =
      ImageEnd.shows digest (.ok (some (s.qualifyImage id))) (knows name digest t) := by
  have nonempty : digest ≠ "" := by
    rintro rfl
    exact absurd hd (by decide)
  have same : (s.qualifyImage id == digest) = (id == digest) := by
    rw [Bool.eq_iff_iff, beq_iff_eq, beq_iff_eq, Scope.qualifyImage_eq_digest_iff hd]
  rw [knows, lookup_record, ImageEnd.shows, same]
  by_cases told : id = digest
  · simp [told, nonempty, hn, Ne.symm other]
  · simp [told, Ne.symm told, knows]

/-- After an image has been forgotten by its name, it is not known by it. -/
theorem knows_forgetName (t : ImageNames) : knows name digest (t.forgetName name) = false := by
  rw [knows, lookup_forgetName]
  cases t.lookup digest <;> simp [Option.filter]

/-- To forget another digest is not to be seen. -/
theorem knows_forget (other : name ≠ digest) (t : ImageNames) :
    knows name digest (t.forget name) = knows name digest t := by
  have kept : (t.forget name).lookup digest = t.lookup digest := by
    have apart : (digest != name) = true := bne_iff_ne.2 (Ne.symm other)
    simp only [forget, lookup, TextMap.erase, TextMap.get?_filter, apart]
    cases t.names.get? digest <;> rfl
  rw [knows, kept, knows]

end ImageNames

namespace Router

/-- Tells the id of the image that a response describes. -/
def toldId {Resp : Type} [Views Resp] (call : Handling Resp) : Handling (Option String) :=
  (fun seen => (Views.describedImage? seen).map Prod.fst) <$> call

/-- A call that pulls or removes the image of a name, and tells the id of an image that it has
pulled. -/
def ImageCall (r : Router) (name : String) (call : Handling (Option String)) : Prop :=
  ∃ m, (m = .pullImage ∨ m = .removeImage) ∧ ∃ (revision : Revision) (deadline : Option Span),
    match m.exchange revision.schema with
    | @Exchange.listed .. => False
    | @Exchange.routed Req Resp _ _ _ _ _ _ _ route =>
      ∃ request : Req, textOf .image request = name ∧
        call = toldId (r.follow route ⟨m, revision, deadline⟩ request : Handling Resp)

section

variable {Req Resp : Type} [Message Req] [Message Resp] [Convertible Req] [Convertible Resp]
  [Views Resp] [Scoped Resp] {γ : Type} {observe : ImageNames → γ}
  {effect : ImageEnd → γ → γ}

/-- A call about an image is seen only when note is taken of the answer. -/
theorem concludes_inquire_forImage (r : Router) (reference : String) (c : Call)
    (given : Backend × String → Req) (note : Resp → Activity Unit) (tell : Resp → Option String)
    (faultless : ∀ fault seen, effect (.error fault) seen = seen)
    (noted : ∀ (b : Backend) (response : Resp),
      (ExceptT.lift (note response) >>= fun _ =>
        (pure (tell (r.present b response)) : Handling (Option String))).run.Concludes
          ImageNames.learn observe effect) :
    (tell <$> (r.forImage reference >>= fun owner =>
      r.inquire owner.1 c (given owner) note)).run.Concludes ImageNames.learn observe effect := by
  rw [map_bind]
  refine Handling.concludes_bind ?_ faultless ?_
  · apply (r.within_forImage reference).imp
    intro a idle
    exact ImageNames.unobserved_of_idle idle
  · intro owner
    rw [inquire, map_bind]
    refine Handling.concludes_bind ?_ faultless ?_
    · apply (within_invoke_idle c owner.1 (given owner)).imp
      intro a idle
      exact ImageNames.unobserved_of_idle idle
    · intro response
      simpa only [map_bind, map_pure] using noted owner.1 response

end

variable {r : Router} {name digest : String}

/-- A call about an image is seen at once, as it ends. -/
theorem ImageCall.concludes {call : Handling (Option String)} (about : r.ImageCall name call)
    (hn : name ≠ "") (hd : isDigest digest = true) (other : name ≠ digest) :
    call.run.Concludes ImageNames.learn (ImageNames.knows name digest)
      (ImageEnd.shows digest) := by
  have faultless (fault : Fault) (seen : Bool) : ImageEnd.shows digest (.error fault) seen = seen :=
    rfl
  obtain ⟨m, rfl | rfl, revision, deadline, called⟩ := about
  · have pulled (b : Backend) (response : PullImageResponse) :
        (ExceptT.lift (notePulled name response) >>= fun _ =>
          (pure ((Views.describedImage? (r.present b response)).map Prod.fst) :
            Handling (Option String))).run.Concludes ImageNames.learn
              (ImageNames.knows name digest) (ImageEnd.shows digest) :=
      fun _ => .inl ⟨_, rfl, ImageNames.knows_record hn hd other b.scope response.imageRef⟩
    cases hs : revision.schema with
    | legacy | current =>
      rw [hs] at called
      obtain ⟨request, rfl, rfl⟩ := called
      rw [toldId, follow, toPullImage_eq]
      exact concludes_inquire_forImage r _ _ _ _ _ faultless pulled
  · obtain ⟨request, rfl, rfl⟩ := called
    have forgotten (t : ImageNames) : ImageNames.knows (textOf .image request) digest
        (t.learn (.forgetName (textOf .image request))) = false := t.knows_forgetName
    rw [toldId, follow, toRemoveImage_eq]
    apply concludes_inquire_forImage r _ _ _ _ _ faultless
    intro b response
    rw [forgetImage]
    split
    · -- a digest is forgotten first, which is not to be seen
      intro _
      right
      refine ⟨ImageNames.knows_forget other, ?_⟩
      intro _
      left
      exact ⟨_, rfl, forgotten⟩
    · intro _
      left
      exact ⟨_, rfl, forgotten⟩

/-- However callers take turns in pulling and removing an image by a name, the image is known by it
exactly if the last call that has pulled it under the digest, or removed it, has pulled it. So it is
known after the runtime has pulled it last, if the calls end in the order in which they have reached
the runtime. -/
theorem lookup_interleaved_iff {calls : List (Handling (Option String))}
    (about : ∀ call ∈ calls, r.ImageCall name call) (hn : name ≠ "")
    (hd : isDigest digest = true) (other : name ≠ digest) (w : World) (turns : List Nat)
    (past : Journal) (t : ImageNames) :
    let run := w.interleave turns (calls.map ExceptT.run) past
    let latest? := ImageEnd.latest? digest run.ends
    ((t.after run.journal).lookup digest = some name ↔
      latest? = some (some digest) ∨ latest? = none ∧ t.lookup digest = some name) ∧
    (run.served = run.ends.map Prod.fst → ∀ i, run.served.getLast? = some i →
      (i, .ok (some digest)) ∈ run.ends → (t.after run.journal).lookup digest = some name) := by
  intro run latest?
  have known_iff (t : ImageNames) :
      t.lookup digest = some name ↔ ImageNames.knows name digest t = true := beq_iff_eq.symm
  have concludes : ∀ call ∈ calls.map ExceptT.run, (∃ x, call = .done x) ∨
      call.Concludes ImageNames.learn (ImageNames.knows name digest) (ImageEnd.shows digest) := by
    intro call mem
    obtain ⟨handling, listed, rfl⟩ := List.mem_map.1 mem
    exact .inr ((about handling listed).concludes hn hd other)
  have seen : ImageNames.knows name digest (t.after run.journal) =
      run.ends.foldl (fun known ended => ImageEnd.shows digest ended.2 known)
        (ImageNames.knows name digest t) :=
    World.observe_interleave turns concludes past t
  have ends : (t.after run.journal).lookup digest = some name ↔
      latest? = some (some digest) ∨ latest? = none ∧ t.lookup digest = some name := by
    rw [known_iff, known_iff, seen, ImageEnd.foldl_shows_iff]
  refine ⟨ends, ?_⟩
  intro ordered i last pulled
  apply ends.2
  left
  -- the call that has reached the runtime last is the last one to end, and it ends but once
  rw [ordered, List.getLast?_map] at last
  obtain ⟨⟨j, ended⟩, final, rfl⟩ := Option.map_eq_some_iff.1 last
  have once : (run.ends.map Prod.fst).Nodup := World.nodup_ends w turns _ past
  have same := List.inj_on_of_nodup_map once (List.mem_of_getLast? final) pulled rfl
  rw [same] at final
  obtain ⟨before, split⟩ := List.getLast?_eq_some_iff.1 final
  simp only [latest?, split, ImageEnd.latest?_concat, if_true]

/-- A removal ends before the image is pulled, so the image is known. -/
theorem lookup_interleaved_ordered :
    let primary : Backend := ⟨.primary, "/run/primary.sock"⟩
    let r : Router :=
      ⟨primary, [], ⟨"http", none, .plain "", none, none⟩, rfl, by decide, by decide⟩
    let name := "busybox"
    let digest := "sha256:0123456789abcdef0123456789abcdef0123456789abcdef0123456789abcdef"
    let remove : Handling RemoveImageResponse := r.follow .removeImage ⟨.removeImage, .v1, none⟩
      ({ image := some ⟨name⟩ } : RemoveImageRequest)
    let pull : Handling PullImageResponse := r.follow .pullImage ⟨.pullImage, .v1, none⟩
      ({ image := some ⟨name⟩ } : PullImageRequest)
    let calls := [toldId remove, toldId pull]
    let run := (World.holding digest []).interleave [0, 1, 0, 0, 1, 0, 1, 1]
      (calls.map ExceptT.run) []
    run.served = [0, 1] ∧ (ImageNames.empty.after run.journal).lookup digest = some name := by
  intro primary r name digest remove pull calls run
  have about : ∀ call ∈ calls, r.ImageCall name call := by
    intro call mem
    rcases List.mem_pair.1 mem with rfl | rfl
    · exact ⟨.removeImage, .inr rfl, .v1, none, _, rfl, rfl⟩
    · exact ⟨.pullImage, .inl rfl, .v1, none, _, rfl, rfl⟩
  have hd : isDigest digest = true := by decide +kernel
  have other : name ≠ digest := by decide +kernel
  have served : run.served = [0, 1] := by decide +kernel
  have ends : run.ends = [(0, .ok none), (1, .ok (some digest))] := by decide +kernel
  have known := lookup_interleaved_iff about (by decide) hd other (World.holding digest [])
    [0, 1, 0, 0, 1, 0, 1, 1] [] .empty
  refine ⟨served, known.2 (by rw [served, ends]; rfl) 1 (by rw [served]; rfl) ?_⟩
  rw [ends]
  exact List.mem_cons_of_mem _ (List.mem_singleton_self _)

/-- A removal reaches the runtime before the image is pulled, but ends after it. All calls end well,
and the last one that has reached the runtime has pulled the image. Still the image is not known. -/
theorem lookup_interleaved_late :
    let primary : Backend := ⟨.primary, "/run/primary.sock"⟩
    let r : Router :=
      ⟨primary, [], ⟨"http", none, .plain "", none, none⟩, rfl, by decide, by decide⟩
    let name := "busybox"
    let digest := "sha256:0123456789abcdef0123456789abcdef0123456789abcdef0123456789abcdef"
    let remove : Handling RemoveImageResponse := r.follow .removeImage ⟨.removeImage, .v1, none⟩
      ({ image := some ⟨name⟩ } : RemoveImageRequest)
    let pull : Handling PullImageResponse := r.follow .pullImage ⟨.pullImage, .v1, none⟩
      ({ image := some ⟨name⟩ } : PullImageRequest)
    let calls := [toldId remove, toldId pull]
    let run := (World.holding digest []).interleave [0, 0, 0, 1, 1, 1, 1, 0]
      (calls.map ExceptT.run) []
    isDigest digest = true ∧ run.served = [0, 1] ∧
      run.ends = [(1, .ok (some digest)), (0, .ok none)] ∧
      (ImageNames.empty.after run.journal).lookup digest = none ∧
      ¬ (ImageNames.empty.after run.journal).lookup digest = some name := by
  decide +kernel

end Router

end RuntimeMux
