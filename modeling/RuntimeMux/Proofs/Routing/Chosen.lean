import RuntimeMux.Proofs.Call.Journal
import RuntimeMux.Proofs.Router.Owner
import RuntimeMux.Routing.Choice

/-!
# Chosen runtimes

To choose the runtime of an object or an image, its connection may have to be asked for and waited
for, but no call is sent. What is chosen is the owner.
-/

namespace RuntimeMux.Router

variable {w : World} {r : Router} {past deeds : Journal}

/-! ### Nothing is sent -/

theorem silent_ready (b : Backend) : (ready b).run.Silent := by
  rw [ready]
  split
  · exact Activity.silent_once rfl
  · refine .run_bind (Activity.silent_once (a := .kick b) rfl).run_lift fun _ => ?_
    refine .run_bind (Activity.silent_once (a := .connected b) rfl).run_lift fun yes => ?_
    split <;> trivial

theorem silent_forId (r : Router) (id : String) : (r.forId id).run.Silent :=
  .run_bind (silent_ready _) fun _ => trivial

theorem silent_findImage (r : Router) (reference : String) : (r.findImage reference).Silent := by
  rw [findImage]
  split
  · exact .bind (Activity.silent_once rfl) fun _ => trivial
  · trivial

theorem silent_forImage (r : Router) (reference : String) : (r.forImage reference).run.Silent :=
  .run_bind (r.silent_findImage reference).run_lift fun _ =>
    .run_bind (silent_ready _) fun _ => trivial

theorem silent_forImage? (r : Router) (reference : String) :
    (r.forImage? reference).run.Silent := by
  refine .run_tryCatch ?_ fun fault => ?_
  · rw [← bind_pure_comp]
    exact .run_bind (r.silent_forImage reference) fun _ => trivial
  · split <;> trivial

/-! ### What is chosen -/

/-- The runtime that is chosen for an object is its owner. -/
theorem eq_ownerOfId_of_play {id : String} {owner : Backend × String}
    (played : (r.forId id).run.play w past = (.ok owner, deeds)) : owner = r.ownerOfId id := by
  obtain ⟨_, _, _, -, ended, -⟩ := Activity.play_run_bind_eq_ok played
  cases ended
  rfl

theorem play_findImage (r : Router) (reference : String) (w : World) (past : Journal) :
    ∃ known, ((r.findImage reference).play w past).1 = r.ownerOfImage known reference := by
  rw [findImage]
  split
  · exact ⟨w past (.nameOf reference), rfl⟩
  · exact ⟨none, rfl⟩

theorem eq_ownerOfImage_of_play_forImage {reference : String} {owner : Backend × String}
    (played : (r.forImage reference).run.play w past = (.ok owner, deeds)) :
    ∃ known, owner = r.ownerOfImage known reference := by
  obtain ⟨found, _, _, looked, rest, -⟩ := Activity.play_run_bind_eq_ok played
  obtain ⟨_, _, _, -, ended, -⟩ := Activity.play_run_bind_eq_ok rest
  obtain ⟨known, owns⟩ := r.play_findImage reference w past
  rw [Activity.play_run_lift] at looked
  cases looked
  cases ended
  exact ⟨known, owns⟩

theorem play_forImage_of_forImage? {reference : String} {owner : Backend × String}
    (played : (r.forImage? reference).run.play w past = (.ok (some owner), deeds)) :
    (r.forImage reference).run.play w past = (.ok owner, deeds) := by
  rw [forImage?, Activity.play_run_tryCatch, ExceptT.run_map, Activity.play_map] at played
  generalize (r.forImage reference).run.play w past = chosen at played
  obtain ⟨fault | other, first⟩ := chosen
  · -- a runtime that is away is not chosen
    cases fault <;> cases played
  · cases played
    rfl

/-- The runtime that is chosen for an image is its owner, as far as the name of the image is
known. -/
theorem eq_ownerOfImage_of_play {reference : String} {owner : Backend × String}
    (played : (r.forImage? reference).run.play w past = (.ok (some owner), deeds)) :
    ∃ known, owner = r.ownerOfImage known reference :=
  eq_ownerOfImage_of_play_forImage (play_forImage_of_forImage? played)

end RuntimeMux.Router
