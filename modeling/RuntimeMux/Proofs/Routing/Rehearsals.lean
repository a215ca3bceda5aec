import Mathlib.Data.List.Forall2
import RuntimeMux.Proofs.Connection.Rehearsals
import RuntimeMux.Proofs.Routing.Revisions
import RuntimeMux.Routing.Rehearsal

/-!
# Rehearsals of the proxy as plays

A stage answers the acts of the proxy in view of what has been done on it before, so it is a world, and
a step of a script in which the proxy does something is played in this world. Whatever happens on a
stage, the lines of its runtimes go on from where they were. So the world is one in which things have
happened to the connections, and what holds of all such worlds holds of all rehearsals.
-/

namespace RuntimeMux

/-! ### Performers as worlds -/

section Performing

variable {S α : Type} (perform : (a : Act) → StateM S a.Answer) (s : S)

/-- What the deeds of a journal make of a state. -/
def Journal.replay (deeds : Journal) : S :=
  deeds.foldl (fun s d => (perform d.act s).2) s

/-- The world that answers as somebody does who performs the acts, starting in a state. -/
def World.performing : World :=
  fun past a => (perform a (past.replay perform s)).1

theorem Journal.replay_append (deeds later : Journal) :
    (deeds ++ later).replay perform s = later.replay perform (deeds.replay perform s) :=
  List.foldl_append

/-- To carry an activity out is to play it in the world of whoever performs its acts. -/
theorem Activity.run_eq_play (t : Activity α) (past : Journal) :
    t.run perform (past.replay perform s) =
      ((t.play (.performing perform s) past).1,
        (past ++ (t.play (.performing perform s) past).2).replay perform s) := by
  induction t generalizing past with
  | done x => rw [play, List.append_nil]; rfl
  | act a next ih =>
    let answer := World.performing perform s past a
    have rest := ih answer (past ++ [⟨a, answer⟩])
    rw [List.append_assoc, Journal.replay_append] at rest
    exact rest

end Performing

namespace RouterScript

/-! ### Steps of the proxy -/

/-- What the proxy does in a step, if it does anything in it. -/
def Step.activity? (r : Router) : Step → Option (Activity Result)
  | .call path body deadline => some (.response <$> (r.dispatch path body deadline).run)
  | .handle path body header => some (.answer <$> r.respond path body header)
  | .serve path body header =>
    some ((fun answer => .answer (answer.mapError Status.received)) <$> r.serve path body header)
  | .connectAll => some ((fun _ => .none) <$> r.connectAll)
  | .ownerOfImage image => some (.owner <$> r.findImage image)
  | .forId id => some ((fun chosen => .chosen (chosen.map some)) <$> (r.forId id).run)
  | .forImage image tolerant =>
    some (.chosen <$> (if tolerant then r.forImage? image else some <$> r.forImage image).run)
  | .forAnnotations annotations => some (.target <$> (r.forAnnotations annotations).run)
  | _ => none

/-- A way to play the steps that run while a runtime responds. -/
abbrev Meanwhile := List Step → Stage → List Scene × Stage

/-- What answers acts that are performed on a stage. -/
def Stage.world (s : Stage) (play : Meanwhile) : World :=
  .performing (Stage.perform play) s

/-- The stage after deeds. -/
def Stage.after (s : Stage) (play : Meanwhile) (deeds : Journal) : Stage :=
  deeds.replay (Stage.perform play) s

variable {r : Router} {play : Meanwhile} {s : Stage} {step : Step} {t : Activity Result}

/-- What the proxy does in a step is played in the world of the stage. -/
theorem playStep_of_activity (h : step.activity? r = some t) :
    playStep r play s step =
      ((t.play (s.world play) []).1, s.after play (t.play (s.world play) []).2) := by
  have played {α : Type} (t : Activity α) : t.run (Stage.perform play) s =
      ((t.play (s.world play) []).1, s.after play (t.play (s.world play) []).2) :=
    t.run_eq_play (Stage.perform play) s []
  cases step with
  | call | handle | serve | connectAll | ownerOfImage | forId | forImage | forAnnotations =>
    obtain rfl := Option.some.inj h
    rw [Activity.play_map]
    simp only [playStep, played]
  | await | kick | stop | plan | reply | finish | ownerOfId | fixAddress | record | forget
  | forgetName | look =>
    cases h

/-! ### Calls -/

/-- What has been called, without what happened meanwhile. -/
def told (calls : List (Record Scene)) : List (Backend × Rpc) :=
  calls.map fun call => (call.backend, call.rpc)

/-- The calls that are sent, as their runtimes receive them. -/
def receipts (deeds : Journal) : List (Backend × Rpc) :=
  deeds.sent.map fun (b, _, rpc) => (b, Stage.received rpc)

theorem receipts_append (deeds later : Journal) :
    receipts (deeds ++ later) = receipts deeds ++ receipts later := by
  rw [receipts, Journal.sent_append, List.map_append]
  rfl

/-- A call that is sent is written down, and no other act writes one down. -/
theorem told_perform (play : Meanwhile) (s : Stage) (d : Deed) :
    told (Stage.perform play d.act s).2.calls = told s.calls ++ receipts [d] := by
  obtain ⟨act, answer⟩ := d
  cases act with
  | send b link rpc => exact List.map_append
  | await | kick | connected | link | generation | reconnect | nameOf | record | forget
  | forgetName =>
    exact (List.append_nil _).symm

theorem told_after (s : Stage) (play : Meanwhile) (deeds : Journal) :
    told (s.after play deeds).calls = told s.calls ++ receipts deeds := by
  induction deeds generalizing s with
  | nil => exact (List.append_nil _).symm
  | cons d deeds ih =>
    have later := ih (Stage.perform play d.act s).2
    rw [told_perform, List.append_assoc, ← receipts_append] at later
    exact later

/-! ### Lines -/

/-- A runtime stays the same one, and its line goes on from where it was. -/
def Station.LeadsTo (before after : Station) : Prop :=
  after.backend = before.backend ∧ ∃ events, after.line = (before.line.run events).1

namespace Station

theorem LeadsTo.refl (station : Station) : station.LeadsTo station :=
  ⟨rfl, [], rfl⟩

theorem LeadsTo.trans {first second third : Station} (h : first.LeadsTo second)
    (h' : second.LeadsTo third) : first.LeadsTo third := by
  obtain ⟨same, events, line⟩ := h
  obtain ⟨same', later, line'⟩ := h'
  refine ⟨same'.trans same, events ++ later, ?_⟩
  rw [Line.run_append, ← line, line']

theorem forall₂_leadsTo_trans {first second third : List Station}
    (h : List.Forall₂ LeadsTo first second) (h' : List.Forall₂ LeadsTo second third) :
    List.Forall₂ LeadsTo first third := by
  induction h generalizing third with
  | nil => exact h'
  | cons here _ ih =>
    cases h' with
    | cons there rest => exact .cons (here.trans there) (ih rest)

theorem leadsTo_run (station : Station) (events : List LineEvent) :
    station.LeadsTo { station with line := (station.line.run events).1 } :=
  ⟨rfl, events, rfl⟩

theorem leadsTo_settle (station : Station) : station.LeadsTo station.settle :=
  ⟨rfl, station.ends, rfl⟩

end Station

namespace Stage

/-- The runtimes of a stage stay the same ones, and their lines go on from where they were. -/
def LeadsTo (before after : Stage) : Prop :=
  List.Forall₂ Station.LeadsTo before.stations after.stations

theorem LeadsTo.refl (s : Stage) : s.LeadsTo s :=
  List.forall₂_same.2 fun station _ => .refl station

theorem LeadsTo.trans {first second third : Stage} (h : first.LeadsTo second)
    (h' : second.LeadsTo third) : first.LeadsTo third :=
  Station.forall₂_leadsTo_trans h h'

/-- What leads every runtime on leads the stage on. -/
theorem leadsTo_map (s : Stage) {f : Station → Station}
    (hf : ∀ station : Station, station.LeadsTo (f station)) :
    s.LeadsTo { s with stations := s.stations.map f } :=
  List.forall₂_map_right_iff.2 (List.forall₂_same.2 fun station _ => hf station)

theorem leadsTo_settle (s : Stage) : s.LeadsTo s.settle :=
  s.leadsTo_map Station.leadsTo_settle

theorem leadsTo_adjust (s : Stage) (id : String) {f : Station → Station}
    (hf : ∀ station : Station, station.LeadsTo (f station)) : s.LeadsTo (s.adjust id f) := by
  refine s.leadsTo_map fun station => ?_
  split
  · exact hf station
  · exact .refl station

theorem leadsTo_await (s : Stage) (b : Backend) : s.LeadsTo (s.await b).2 := by
  have asked := s.leadsTo_adjust b.scope.id fun station =>
    (station.leadsTo_run [.connect (.caller 0)]).trans (Station.leadsTo_settle _)
  exact asked.trans (leadsTo_settle _)

variable {play : Meanwhile} (leads : ∀ steps s, LeadsTo s (play steps s).2)
include leads

theorem leadsTo_send (s : Stage) (b : Backend) (rpc : Rpc) :
    s.LeadsTo (s.send play b rpc).2 := by
  obtain ⟨steps, started, sent, same⟩ : ∃ steps started,
      (s.send play b rpc).2.stations = (play steps started).2.settle.stations ∧
        started.stations = s.settle.stations := ⟨_, _, rfl, rfl⟩
  have settled := s.leadsTo_settle
  have played := (leads steps started).trans (leadsTo_settle _)
  rw [LeadsTo, ← same] at settled
  rw [LeadsTo, ← sent] at played
  exact LeadsTo.trans settled played

theorem leadsTo_perform (s : Stage) (a : Act) : s.LeadsTo (Stage.perform play a s).2 := by
  cases a with
  | await b => exact s.leadsTo_await b
  | kick b => exact s.leadsTo_adjust _ fun station => station.leadsTo_run [.connect .nobody]
  | reconnect b generation =>
    exact s.leadsTo_adjust _ fun station =>
      station.leadsTo_run [.drop generation, .connect .nobody]
  | send b link rpc => exact leadsTo_send leads s b rpc
  | connected | link | generation | nameOf | record | forget | forgetName => exact .refl s

theorem leadsTo_after (s : Stage) (deeds : Journal) : s.LeadsTo (s.after play deeds) := by
  induction deeds generalizing s with
  | nil => exact .refl s
  | cons d deeds ih => exact (leadsTo_perform leads s d.act).trans (ih _)

end Stage

/-- A step leads a stage on if the steps that are played meanwhile do. -/
theorem leadsTo_playStep (leads : ∀ steps s, Stage.LeadsTo s (play steps s).2) (r : Router)
    (s : Stage) (step : Step) : s.LeadsTo (playStep r play s step).2 := by
  cases h : step.activity? r with
  | some t =>
    rw [playStep_of_activity h]
    exact Stage.leadsTo_after leads s _
  | none =>
    cases step with
    | call | handle | serve | connectAll | ownerOfImage | forId | forImage | forAnnotations =>
      cases h
    | await id =>
      rw [playStep]
      split
      · exact s.leadsTo_await _
      · exact .refl s
    | kick id => exact s.leadsTo_adjust id fun station => station.leadsTo_run [.connect .nobody]
    | stop =>
      refine s.leadsTo_map fun station => ?_
      exact station.leadsTo_run [.stop]
    | plan id plan => exact s.leadsTo_adjust id fun station => ⟨rfl, [], rfl⟩
    | finish id plan attempt =>
      refine s.leadsTo_adjust id fun station => ?_
      rw [Line.finishBy_eq]
      exact station.leadsTo_run _
    | reply | ownerOfId | fixAddress | record | forget | forgetName | look => exact .refl s

/-! ### Scenes -/

/-- The result of a step. -/
def Scene.result : Scene → Result
  | .mk result _ _ _ => result

/-- The calls that runtimes responded to during a step. -/
def Scene.calls : Scene → List (Record Scene)
  | .mk _ calls _ _ => calls

/-- The runtimes after a step. -/
def Scene.stations : Scene → List Station
  | .mk _ _ stations _ => stations

theorem leadsTo_play (r : Router) (fuel : Nat) (steps : List Step) (s : Stage) :
    s.LeadsTo (RouterScript.play r fuel steps s).2 ∧
      ∀ scene ∈ (RouterScript.play r fuel steps s).1,
        List.Forall₂ Station.LeadsTo s.stations scene.stations := by
  induction fuel generalizing steps s with
  | zero => exact ⟨.refl s, List.forall_mem_nil _⟩
  | succ fuel ih =>
    cases steps with
    | nil => exact ⟨.refl s, List.forall_mem_nil _⟩
    | cons step steps =>
      have first : s.LeadsTo (playStep r (RouterScript.play r fuel) s step).2.settle :=
        (leadsTo_playStep (fun steps s => (ih steps s).1) r s step).trans (Stage.leadsTo_settle _)
      obtain ⟨last, scenes⟩ :=
        ih steps { (playStep r (RouterScript.play r fuel) s step).2.settle with calls := [] }
      refine ⟨first.trans last, List.forall_mem_cons.2 ⟨first, fun scene mem => ?_⟩⟩
      exact Station.forall₂_leadsTo_trans first (scenes scene mem)

/-! ### Stages as worlds of connections -/

/-- The lines of all runtimes are what events have made of them. -/
def Stage.Reached (s : Stage) : Prop :=
  ∀ station ∈ s.stations,
    ∃ events, station.line = ((Line.offline station.backend.address).run events).1

namespace Stage

theorem reached_start (r : Router) (timeout : Span) (plans : String → Plan) :
    (start r timeout plans).Reached := by
  intro station mem
  obtain ⟨b, -, rfl⟩ := List.mem_map.1 mem
  exact ⟨[], rfl⟩

theorem Reached.leadsTo {s s' : Stage} (h : s.Reached) (leads : s.LeadsTo s') : s'.Reached := by
  rw [Reached] at h ⊢
  rw [LeadsTo] at leads
  generalize s.stations = before at h leads
  generalize s'.stations = after at leads ⊢
  induction leads with
  | nil => exact List.forall_mem_nil _
  | @cons station station' _ _ first _ ih =>
    obtain ⟨reached, rest⟩ := List.forall_mem_cons.1 h
    refine List.forall_mem_cons.2 ⟨?_, ih rest⟩
    obtain ⟨same, later, line⟩ := first
    obtain ⟨events, reached⟩ := reached
    refine ⟨events ++ later, ?_⟩
    rw [line, reached, same, Line.run_append]

/-- What is looked up of a connection on a stage is what events have made of it. -/
theorem Reached.exists_connection (h : s.Reached) (b : Backend) :
    ∃ events, (s.connection b).movedTo b.address =
      ((Line.offline b.address).run events).1.connection := by
  rw [connection]
  cases found : s.station? b.scope.id with
  | none => exact ⟨[], rfl⟩
  | some station =>
    obtain ⟨events, line⟩ := h station (List.mem_of_find?_eq_some found)
    refine ⟨events, ?_⟩
    have moved := (Line.offline station.backend.address).run_movedTo b.address events
    rw [← line] at moved
    exact (congrArg Line.connection moved).symm

/-- A stage is a world in which things have happened to the connections. -/
theorem Reached.exists_connected (h : s.Reached)
    (leads : ∀ steps s, LeadsTo s (play steps s).2) :
    ∃ history, s.world play = (s.world play).connected history := by
  have now (past : Journal) : (s.after play past).Reached := h.leadsTo (leadsTo_after leads s past)
  choose history reached using fun past b => (now past).exists_connection b
  refine ⟨history, funext fun past => funext fun a => ?_⟩
  cases a with
  | connected b => rw [World.connected, ← reached]; rfl
  | link b => rw [World.connected, ← reached]; rfl
  | generation b => rw [World.connected, ← reached]; rfl
  | await | kick | reconnect | send | nameOf | record | forget | forgetName => rfl

end Stage

/-! ### Scripts -/

/-- A scene shows an activity in a world in which things have happened to the connections: what it
ends with, and the calls that it sends. -/
def Scene.Shows (scene : Scene) (t : Activity Result) : Prop :=
  ∃ (w : World) (history : Journal → Backend → List LineEvent),
    let played := t.play (w.connected history) []
    scene.result = played.1 ∧ told scene.calls = receipts played.2

theorem sceneOf_shows (leads : ∀ steps s, Stage.LeadsTo s (play steps s).2) (h : s.Reached)
    (fresh : s.calls = []) (acts : step.activity? r = some t) :
    (sceneOf (playStep r play s step).1 (playStep r play s step).2.settle).Shows t := by
  obtain ⟨history, world⟩ := h.exists_connected leads
  rw [playStep_of_activity acts, world]
  refine ⟨s.world play, history, rfl, ?_⟩
  have calls := told_after s play (t.play ((s.world play).connected history) []).2
  rw [fresh] at calls
  exact calls

theorem play_shows (r : Router) {fuel : Nat} {steps : List Step} (enough : steps.length ≤ fuel)
    {s : Stage} (h : s.Reached) (fresh : s.calls = []) :
    List.Forall₂ (fun step scene => ∀ t, step.activity? r = some t → scene.Shows t) steps
      (RouterScript.play r fuel steps s).1 := by
  induction steps generalizing fuel s with
  | nil =>
    cases fuel with
    | zero | succ => exact .nil
  | cons step steps ih =>
    cases fuel with
    | zero => cases enough
    | succ fuel =>
      have leads (steps : List Step) (s : Stage) := (leadsTo_play r fuel steps s).1
      have next := h.leadsTo ((leadsTo_playStep leads r s step).trans (Stage.leadsTo_settle _))
      exact .cons (fun t acts => sceneOf_shows leads h fresh acts)
        (ih (Nat.le_of_succ_le_succ enough) next rfl)

theorem length_le_sizeOfSteps (steps : List Step) : steps.length ≤ sizeOfSteps steps := by
  induction steps with
  | nil => exact Nat.zero_le _
  | cons step steps ih =>
    have one : 1 ≤ step.size := by
      cases step with
      | reply => exact Nat.le_add_right ..
      | call | handle | serve | await | kick | connectAll | stop | plan | finish | ownerOfId
      | ownerOfImage | forId | forImage | forAnnotations | fixAddress | record | forget | forgetName
      | look =>
        exact Nat.le_refl _
    rw [List.length_cons, sizeOfSteps, Nat.add_comm]
    exact Nat.add_le_add one ih

/-- There is a scene for every step of a script, and if the proxy does something in a step, its scene
shows that. -/
theorem rehearse_shows (r : Router) (timeout : Span) (plans : String → Plan) (steps : List Step) :
    List.Forall₂ (fun step scene => ∀ t, step.activity? r = some t → scene.Shows t) steps
      (rehearse r timeout plans steps) :=
  play_shows r (length_le_sizeOfSteps steps) (Stage.reached_start r timeout plans) rfl

/-- So it is for a script that is played to a server. -/
theorem rehearseServer_shows (r : Router) (timeout : Span) (plans : String → Plan)
    (steps : List Step) :
    List.Forall₂ (fun step scene => ∀ t, step.activity? r = some t → scene.Shows t) steps
      (rehearseServer r timeout plans steps).1 := by
  have shows := play_shows r (length_le_sizeOfSteps (.connectAll :: steps ++ [.stop]))
    (Stage.reached_start r timeout plans) rfl
  rw [rehearseServer]
  generalize (RouterScript.play ..).1 = scenes at shows ⊢
  -- the first scene is that of asking for the connections, and the last that of giving them up
  rw [List.cons_append] at shows
  obtain ⟨first, later, -, served, rfl⟩ := List.forall₂_cons_left_iff.1 shows
  have inner := List.forall₂_take steps.length served
  rw [List.take_left] at inner
  rw [List.tail_cons, List.dropLast_eq_take, ← served.length_eq, List.length_append]
  exact inner

/-- In every scene of a script the runtimes of the router can be seen, and the line of each is what
events have made of it. -/
theorem stations_of_mem_play {timeout : Span} {plans : String → Plan} {fuel : Nat}
    {steps : List Step} {scene : Scene}
    (h : scene ∈ (RouterScript.play r fuel steps (.start r timeout plans)).1) :
    List.Forall₂ (fun b station => station.backend = b ∧
      ∃ events, station.line = ((Line.offline b.address).run events).1) r.backends
      scene.stations := by
  have leads := (leadsTo_play r fuel steps (.start r timeout plans)).2 scene h
  exact List.forall₂_map_left_iff.1 leads

end RouterScript

end RuntimeMux
