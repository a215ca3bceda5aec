import RuntimeMux.Proofs.Call.Invocation
import RuntimeMux.Routing.Single

/-!
# Rounds of runtimes

In a round, one runtime after the other has its turn. A runtime that is not connected then is passed
over. One that is connected is called, although its link may be gone when the call looks it up, and
whatever comes of the call, the next runtime has its turn. So what is true of a turn is true of rounds
of any length.
-/

namespace RuntimeMux

open Cri Wire

/-- What has come of contacting a runtime with a request. -/
structure Contact (Resp : Type) where
  backend : Backend
  /-- Whether the runtime has been called. In a round, one that is not connected is passed over. -/
  called : Bool
  /-- The link that the call finds. -/
  link? : Option Link
  /-- What the call ends with. -/
  result : Except Fault Resp

namespace Contact

variable {Resp : Type}

/-- A runtime that is passed over. -/
def passed (b : Backend) : Contact Resp :=
  ⟨b, false, none, .error (.notConnected b.address)⟩

/-- Notice that is taken of what a call has ended with. -/
def noticed (x : Contact Resp) : Journal :=
  match x.result with
  | .ok _ => []
  | .error fault => Call.noticed x.backend fault

/-- What is made of a call, if there has been one. -/
def gained {α : Type} (gain : Backend → Except Fault Resp → List α) (x : Contact Resp) : List α :=
  if x.called then gain x.backend x.result else []

/-- Whoever does not look for connections that are given up sees nothing of a notice. -/
theorem filterMap_noticed {α : Type} (x : Contact Resp) {seen : Deed → Option α}
    (blind : ∀ generation, seen ⟨.reconnect x.backend generation, ()⟩ = none) :
    x.noticed.filterMap seen = [] := by
  rw [noticed]
  cases x.result with
  | ok response => rfl
  | error fault => exact Call.filterMap_noticed x.backend fault blind

theorem visited_noticed (x : Contact Resp) : Journal.visited x.noticed = [] :=
  x.filterMap_noticed fun _ => rfl

theorem looked_noticed (x : Contact Resp) : Journal.looked x.noticed = [] :=
  x.filterMap_noticed fun _ => rfl

theorem sent_noticed (x : Contact Resp) : Journal.sent x.noticed = [] :=
  x.filterMap_noticed fun _ => rfl

theorem kicked_noticed (x : Contact Resp) : Journal.kicked x.noticed = [] :=
  x.filterMap_noticed fun _ => rfl

end Contact

variable {Req Resp : Type} [Message Req] [Convertible Req] [Message Resp] [Convertible Resp]

/-- What is done at the turn of a runtime. -/
inductive Turn (c : Call) (request : Req) : Contact Resp → Journal → Prop where
  /-- The runtime is not connected. It is asked for its connection. -/
  | passed {b : Backend} :
      Turn c request (.passed b) [⟨.connected b, false⟩, ⟨.kick b, ()⟩]
  /-- The runtime is connected, and is called. -/
  | called {x : Contact Resp} {tried : Journal} (there : x.called = true)
      (attempted : c.Attempted x.backend request x.link? x.result tried) :
      Turn c request x (⟨.connected x.backend, true⟩ :: tried ++ x.noticed)

/-- The runtimes have their turns one after the other. -/
inductive Round (c : Call) (request : Req) : List (Contact Resp) → Journal → Prop where
  | nil : Round c request [] []
  | cons {x : Contact Resp} {xs : List (Contact Resp)} {deeds later : Journal}
      (turn : Turn c request x deeds) (rest : Round c request xs later) :
      Round c request (x :: xs) (deeds ++ later)

section

variable {c : Call} {request : Req} {x : Contact Resp} {xs : List (Contact Resp)} {deeds : Journal}

namespace Turn

theorem visited (turn : Turn c request x deeds) :
    Journal.visited deeds = [(x.backend, x.called)] := by
  cases turn with
  | passed => rfl
  | @called _ tried there attempted =>
    have first : Journal.visited (⟨.connected x.backend, true⟩ :: tried) = [(x.backend, true)] :=
      congrArg ((x.backend, true) :: ·) attempted.visited
    rw [Journal.visited_append, first, x.visited_noticed, there]
    rfl

theorem looked (turn : Turn c request x deeds) :
    Journal.looked deeds = if x.called then [(x.backend, x.link?)] else [] := by
  cases turn with
  | passed => rfl
  | @called _ tried there attempted =>
    have first : Journal.looked (⟨.connected x.backend, true⟩ :: tried) = _ := attempted.looked
    rw [Journal.looked_append, first, x.looked_noticed, if_pos there, List.append_nil]

theorem sent (turn : Turn c request x deeds) :
    Journal.sent deeds = (Journal.looked deeds).filterMap (c.due request) := by
  rw [turn.looked]
  cases turn with
  | passed => rfl
  | @called _ tried there attempted =>
    have first : Journal.sent (⟨.connected x.backend, true⟩ :: tried) = _ := attempted.sent
    rw [Journal.sent_append, first, x.sent_noticed, if_pos there, List.append_nil,
      List.filterMap_cons]
    cases c.due request _ <;> rfl

theorem kicked (turn : Turn c request x deeds) :
    Journal.kicked deeds = if x.called then [] else [x.backend] := by
  cases turn with
  | passed => rfl
  | @called _ tried there attempted =>
    have first : Journal.kicked (⟨.connected x.backend, true⟩ :: tried) = _ := attempted.kicked
    rw [Journal.kicked_append, first, x.kicked_noticed, if_pos there, List.append_nil]

end Turn

namespace Round

/-- Every runtime is looked at once, in order. -/
theorem visited (round : Round c request xs deeds) :
    Journal.visited deeds = xs.map fun x => (x.backend, x.called) := by
  induction round with
  | nil => rfl
  | cons turn _ ih =>
    rw [Journal.visited_append, turn.visited, ih]
    rfl

/-- The links are looked up of those that are called. -/
theorem looked (round : Round c request xs deeds) :
    Journal.looked deeds = (xs.filter Contact.called).map fun x => (x.backend, x.link?) := by
  induction round with
  | nil => rfl
  | cons turn _ ih =>
    rw [Journal.looked_append, turn.looked, ih, List.filter_cons]
    split <;> rfl

theorem sent (round : Round c request xs deeds) :
    Journal.sent deeds = (Journal.looked deeds).filterMap (c.due request) := by
  induction round with
  | nil => rfl
  | cons turn _ ih =>
    rw [Journal.sent_append, turn.sent, ih, Journal.looked_append, List.filterMap_append]

/-- The others are asked for their connections. -/
theorem kicked (round : Round c request xs deeds) :
    Journal.kicked deeds = (xs.filter fun x => !x.called).map Contact.backend := by
  induction round with
  | nil => rfl
  | @cons x _ _ _ turn _ ih =>
    rw [Journal.kicked_append, turn.kicked, ih, List.filter_cons]
    cases x.called <;> rfl

end Round

end

namespace Router

variable {α : Type} {c : Call} {request : Req} {gain : Backend → Except Fault Resp → List α}
  {b : Backend} {bs : List Backend} {w : World} {past : Journal}

/-- A runtime that is not connected is passed over. -/
theorem play_callEach_passed (away : w past (.connected b) = false) :
    let deeds : Journal := [⟨.connected b, false⟩, ⟨.kick b, ()⟩]
    let rest := (callEach c request gain bs).play w (past ++ deeds)
    (callEach c request gain (b :: bs)).play w past = (rest.1, deeds ++ rest.2) := by
  have seen := Activity.play_once (w := w) (.connected b) past
  have kicked := Activity.play_once (w := w) (.kick b) (past ++ [⟨.connected b, false⟩])
  rw [away] at seen
  rw [callEach, Activity.play_bind, seen]
  simp only [Bool.false_eq_true, if_false, Activity.play_bind, kicked, List.append_assoc]
  rfl

/-- A runtime that is connected is called, and then the others have their turns. -/
theorem play_callEach_called (there : w past (.connected b) = true) :
    let before := past ++ [⟨.connected b, true⟩]
    let tried := (c.attempt b request : Handling Resp).run.play w before
    let x : Contact Resp := ⟨b, true, w before (.link b), tried.1⟩
    let deeds := ⟨.connected b, true⟩ :: tried.2 ++ x.noticed
    let rest := (callEach c request gain bs).play w (past ++ deeds)
    (callEach c request gain (b :: bs)).play w past =
      (x.gained gain ++ rest.1, deeds ++ rest.2) := by
  have seen := Activity.play_once (w := w) (.connected b) past
  rw [there] at seen
  rw [callEach, Activity.play_bind, seen]
  simp only [if_true, Activity.play_bind]
  generalize (c.attempt b request : Handling Resp).run.play w _ = tried
  obtain ⟨fault | response, deeds⟩ := tried
  · simp [Activity.play_bind, Call.play_notice, Contact.gained, Contact.noticed]
  · simp [Contact.gained, Contact.noticed]

/-- The first runtime has its turn, and then the others do. -/
theorem play_callEach_cons (c : Call) (request : Req)
    (gain : Backend → Except Fault Resp → List α) (b : Backend) (bs : List Backend) (w : World)
    (past : Journal) :
    ∃ (x : Contact Resp) (deeds : Journal), x.backend = b ∧ Turn c request x deeds ∧
      (callEach c request gain (b :: bs)).play w past =
        let rest := (callEach c request gain bs).play w (past ++ deeds)
        (x.gained gain ++ rest.1, deeds ++ rest.2) := by
  cases there : w past (.connected b) with
  | false => exact ⟨.passed b, _, rfl, .passed, play_callEach_passed there⟩
  | true =>
    have attempted := Call.Attempted.of_play Resp c b request w (past ++ [⟨.connected b, true⟩])
    exact ⟨⟨b, true, _, _⟩, _, rfl, .called rfl attempted, play_callEach_called there⟩

/-- The runtimes are called in a round. -/
theorem round_callEach (c : Call) (request : Req) (gain : Backend → Except Fault Resp → List α)
    (bs : List Backend) (w : World) (past : Journal) :
    let played := (callEach c request gain bs).play w past
    ∃ xs : List (Contact Resp), xs.map Contact.backend = bs ∧
      xs.flatMap (Contact.gained gain) = played.1 ∧ Round c request xs played.2 := by
  induction bs generalizing past with
  | nil => exact ⟨[], rfl, rfl, .nil⟩
  | cons b bs ih =>
    obtain ⟨x, deeds, rfl, turn, played⟩ := play_callEach_cons c request gain b bs w past
    obtain ⟨xs, rfl, gained, rest⟩ := ih (past ++ deeds)
    rw [played]
    exact ⟨x :: xs, rfl, by rw [List.flatMap_cons, gained], .cons turn rest⟩

end Router

end RuntimeMux
