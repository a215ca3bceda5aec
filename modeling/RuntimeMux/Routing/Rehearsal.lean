import RuntimeMux.Routing.Stage

/-!
# Rehearsals of the proxy

A rehearsal plays a script to a router on a stage and records what can be seen after every step.
-/

namespace RuntimeMux.RouterScript

/-- Plays a step. `play` plays the steps that run while a runtime responds. -/
def playStep (r : Router) (play : List Step → Stage → List Scene × Stage) (s : Stage) :
    Step → Result × Stage
  | .call path body deadline =>
    let (response, s) := ((r.dispatch path body deadline).run.run (Stage.perform play)) s
    (.response response, s)
  | .handle path body header =>
    let (answer, s) := ((r.respond path body header).run (Stage.perform play)) s
    (.answer answer, s)
  | .serve path body header =>
    let (answer, s) := ((r.serve path body header).run (Stage.perform play)) s
    (.answer (answer.mapError Status.received), s)
  | .await id =>
    match s.station? id with
    | some station =>
      let (verdict, s) := s.await station.backend
      (.verdict verdict, s)
    | none => (.none, s)
  | .kick id => (.none, s.adjust id fun station => { station with line := station.line.kick })
  | .connectAll => (.none, (r.connectAll.run (Stage.perform play) s).2)
  | .stop =>
    let stopped (station : Station) : Station := { station with line := station.line.stop.1 }
    (.none, { s with stations := s.stations.map stopped })
  | .plan id plan => (.none, s.adjust id fun station => { station with plan := plan })
  | .reply id method response during => (.none, s.setReply ⟨id, method, response, during⟩)
  | .finish id plan attempt =>
    let found := (s.station? id).any fun station => (station.line.finishBy plan attempt).1
    let finished (station : Station) : Station :=
      { station with line := (station.line.finishBy plan attempt).2.1 }
    (.flag found, s.adjust id finished)
  | .ownerOfId id => (.owner (r.ownerOfId id), s)
  | .ownerOfImage image =>
    let (owner, s) := ((r.findImage image).run (Stage.perform play)) s
    (.owner owner, s)
  | .forId id =>
    let (chosen, s) := ((r.forId id).run.run (Stage.perform play)) s
    (.chosen (chosen.map some), s)
  | .forImage image tolerant =>
    let choice := if tolerant then r.forImage? image else some <$> r.forImage image
    let (chosen, s) := (choice.run.run (Stage.perform play)) s
    (.chosen chosen, s)
  | .forAnnotations annotations =>
    let (target, s) := ((r.forAnnotations annotations).run.run (Stage.perform play)) s
    (.target target, s)
  | .fixAddress address => (.address (Stream.fix r.stream address), s)
  | .record image name => (.none, { s with images := s.images.record image name })
  | .forget image => (.none, { s with images := s.images.forget image })
  | .forgetName name => (.none, { s with images := s.images.forgetName name })
  | .look => (.none, s)

/-- What can be seen of a stage, with the result of a step. -/
def sceneOf (result : Result) (s : Stage) : Scene :=
  .mk result s.calls s.stations s.images

/-- Plays steps one after the other. Every step takes one of the `fuel`, so that as much of it as
there are steps is enough. -/
def play (r : Router) : (fuel : Nat) → List Step → Stage → List Scene × Stage
  | 0, _, s => ([], s)
  | _ + 1, [], s => ([], s)
  | fuel + 1, step :: steps, s =>
    let (result, s) := playStep r (play r fuel) s step
    let s := s.settle
    let (scenes, last) := play r fuel steps { s with calls := [] }
    (sceneOf result s :: scenes, last)

mutual

/-- The number of steps in a step, itself included. -/
def Step.size : Step → Nat
  | .reply _ _ _ during => 1 + sizeOfSteps during
  | _ => 1

/-- The number of steps in a list, those inside others included. -/
def sizeOfSteps : List Step → Nat
  | [] => 0
  | step :: steps => step.size + sizeOfSteps steps

end

/-- The stage at the start: nobody has asked for a connection. `plans` says how attempts end. -/
def Stage.start (r : Router) (timeout : Span) (plans : String → Plan) : Stage where
  stations := r.backends.map fun b => ⟨b, .offline b.address, plans b.scope.id, 0⟩
  replies := []
  images := .empty
  timeout := timeout
  calls := []

/-- Plays a script to a router. -/
def rehearse (r : Router) (timeout : Span) (plans : String → Plan) (steps : List Step) :
    List Scene :=
  (play r (sizeOfSteps steps) steps (.start r timeout plans)).1

/-- Plays a script to a router that is served: all connections are asked for before the first step,
and given up after the last. What can be seen at the end comes last. -/
def rehearseServer (r : Router) (timeout : Span) (plans : String → Plan) (steps : List Step) :
    List Scene × Scene :=
  let steps := .connectAll :: steps ++ [.stop]
  let scenes := (play r (sizeOfSteps steps) steps (.start r timeout plans)).1
  (scenes.tail.dropLast, scenes.getLast?.getD (.mk .none [] [] .empty))

end RuntimeMux.RouterScript
