import RuntimeMux.Proofs.Call.Schemas
import RuntimeMux.Proofs.Routing.Aim
import RuntimeMux.Proofs.Routing.Tolerance

/-!
# Runtimes that are contacted

A call has two parts. First the request is aimed at runtimes, for which nothing is sent. Then these
are contacted one after the other: a runtime is called if it has a link, and what comes of it does
not keep the next one from its turn. From all this the caller gets one result. The parts are the
same for requests to one runtime, to all of them, and for lists.
-/

namespace RuntimeMux

open Cri Wire

namespace Contact

variable {Req Resp : Type}

/-- The fault of a contact in the words for the caller, or else the response. -/
def reported (x : Contact Resp) : Except Fault Resp :=
  x.result.mapError (Fault.report x.backend.address)

/-- What comes before a runtime is called: in a round it is looked at, and is connected. -/
def Leads (b : Backend) (lead : Journal) : Prop :=
  lead = [] ∨ lead = [⟨.connected b, true⟩]

theorem Leads.sent {b : Backend} {lead : Journal} (h : Leads b lead) : Journal.sent lead = [] := by
  rcases h with rfl | rfl <;> rfl

variable [Message Req] [Message Resp] [Convertible Req] [Convertible Resp]

/-- How a runtime is contacted: its link is looked up, and the call is made on the link that is
found. What else is done sends nothing. -/
inductive Made (c : Call) (given : Req) : Contact Resp → Journal → Prop where
  /-- The runtime is passed over. -/
  | passed {b : Backend} {rest : Journal} (quiet : Journal.sent rest = []) :
      Made c given (.passed b) (⟨.connected b, false⟩ :: rest)
  /-- The runtime is to be called, but there is no link. -/
  | away {b : Backend} {lead rest : Journal} (early : Leads b lead)
      (quiet : Journal.sent rest = []) :
      Made c given ⟨b, true, none, .error (.notConnected b.address)⟩
        (lead ++ ⟨.link b, none⟩ :: rest)
  /-- The runtime is called. -/
  | called {b : Backend} {link : Link} {result : Except Fault Resp} {lead called rest : Journal}
      (early : Leads b lead) (spoken : c.Spoken b link given result called)
      (quiet : Journal.sent rest = []) :
      Made c given ⟨b, true, some link, result⟩ (lead ++ ⟨.link b, some link⟩ :: (called ++ rest))

variable {c : Call} {given : Req} {x : Contact Resp} {lead deeds rest : Journal}

theorem Made.append (made : x.Made c given deeds) (quiet : Journal.sent rest = []) :
    x.Made c given (deeds ++ rest) := by
  have both {before : Journal} (hb : Journal.sent before = []) :
      Journal.sent (before ++ rest) = [] := by simp [hb, quiet]
  cases made with
  | passed before => exact .passed (both before)
  | away early before =>
    rw [List.append_assoc]
    exact .away early (both before)
  | called early spoken before =>
    rw [List.append_assoc, List.cons_append, List.append_assoc]
    exact .called early spoken (both before)

/-- To attempt a call to a runtime is to contact it. -/
theorem Made.of_attempted (there : x.called = true) (early : Leads x.backend lead)
    (attempted : c.Attempted x.backend given x.link? x.result deeds)
    (quiet : Journal.sent rest = []) : x.Made c given (lead ++ deeds ++ rest) := by
  obtain ⟨b, called, link?, result⟩ := x
  subst there
  dsimp only at attempted
  rw [List.append_assoc]
  cases attempted with
  | away => exact .away early quiet
  | made ho => exact .called early ho.spoken quiet

/-- To make a call to a runtime is to contact it. -/
theorem of_invoked {b : Backend} {link? : Option Link} {result : Except Fault Resp}
    (h : c.Invoked b given link? result deeds) :
    ∃ x : Contact Resp, x.backend = b ∧ x.reported = result ∧ x.Made c given deeds := by
  cases h with
  | away => exact ⟨_, rfl, rfl, .away (.inl rfl) rfl⟩
  | @answered link response called ho =>
    refine ⟨⟨b, true, some link, .ok response⟩, rfl, rfl, ?_⟩
    simpa using Made.of_attempted (x := ⟨b, true, some link, .ok response⟩) rfl (.inl rfl)
      (.made ho) (show Journal.sent [] = [] from rfl)
  | @failed link fault called ho =>
    exact ⟨⟨b, true, some link, .error fault⟩, rfl, rfl,
      .called (.inl rfl) ho.spoken (Call.sent_noticed b fault)⟩

end Contact

variable {Req Resp : Type} [Message Req] [Message Resp] [Convertible Req] [Convertible Resp]

/-- Runtimes are contacted one after the other. -/
inductive Contacts (c : Call) (given : Req) : List (Contact Resp) → Journal → Prop where
  | nil : Contacts c given [] []
  | cons {x : Contact Resp} {xs : List (Contact Resp)} {deeds later : Journal}
      (made : x.Made c given deeds) (rest : Contacts c given xs later) :
      Contacts c given (x :: xs) (deeds ++ later)

theorem Contacts.one {c : Call} {given : Req} {x : Contact Resp} {deeds : Journal}
    (made : x.Made c given deeds) : Contacts c given [x] deeds := by
  simpa using Contacts.cons made .nil

/-! ### Rounds -/

section

variable {c : Call} {request : Req}

theorem Turn.made {x : Contact Resp} {deeds : Journal} (turn : Turn c request x deeds) :
    x.Made c request deeds := by
  cases turn with
  | passed => exact .passed rfl
  | called there attempted =>
    have early : Contact.Leads x.backend [⟨.connected x.backend, true⟩] := .inr rfl
    exact .of_attempted there early attempted x.sent_noticed

theorem Round.contacts {xs : List (Contact Resp)} {deeds : Journal}
    (round : Round c request xs deeds) : Contacts c request xs deeds := by
  induction round with
  | nil => exact .nil
  | cons turn _ ih => exact .cons turn.made ih

end

namespace Router

/-! ### Calls from beginning to end -/

/-- What is done for a call, and what the caller gets: the request is aimed, the runtimes that it is
aimed at are contacted in order, and the result is put together. -/
inductive Carried (r : Router) (c : Call) (aim : Handling (Req × Targets))
    (conclude : Targets → List (Contact Resp) → Except Fault Resp) (w : World) (past : Journal) :
    Except Fault Resp → Journal → Prop where
  /-- The request cannot be aimed. -/
  | unaimed {fault : Fault} {asked : Journal} (ha : aim.run.play w past = (.error fault, asked)) :
      Carried r c aim conclude w past (.error fault) asked
  /-- The request is aimed, and the runtimes are contacted. -/
  | aimed {given : Req} {targets : Targets} {asked deeds : Journal} {contacts : List (Contact Resp)}
      (ha : aim.run.play w past = (.ok (given, targets), asked))
      (order : contacts.map Contact.backend = targets.toList r)
      (made : Contacts c given contacts deeds) :
      Carried r c aim conclude w past (conclude targets contacts) (asked ++ deeds)

section

variable [Views Resp] [Scoped Resp]

/-- What a caller gets along a route: the response of the one runtime that has been asked, or the
fault of it. If all have been told, the response is empty, unless one of them has failed, and if
there is no runtime to ask, it is empty, too. -/
def concludeRoute (r : Router) (route : Route) :
    Targets → List (Contact Resp) → Except Fault Resp
  | .all, contacts =>
    let failures := contacts.flatMap (Contact.gained complaint)
    if failures.isEmpty then .ok Message.blank else .error (.broadcast failures)
  | .one b, x :: _ => x.reported.map (r.seen route b)
  | _, _ => .ok Message.blank

variable (Resp) in
theorem play_reach_one (r : Router) (route : Route) (c : Call) (image : String) (given : Req)
    (b : Backend) (w : World) (past : Journal) :
    let reached := (r.reach route c image given (.one b) : Handling Resp).run.play w past
    ∃ x : Contact Resp, x.backend = b ∧ reached.1 = x.reported.map (r.seen route b) ∧
      x.Made c given reached.2 := by
  have invoked := Call.Invoked.of_play Resp c b given w past
  simp only [reach, Activity.play_run_bind]
  generalize (c.invoke b given : Handling Resp).run.play w past = called at invoked
  obtain ⟨x, hx, reported, made⟩ := Contact.of_invoked invoked
  obtain ⟨fault | response, deeds⟩ := called
  · exact ⟨x, hx, by rw [reported]; rfl, made⟩
  · have quiet := (silent_note route image b response).sent_play (w := w) (past ++ deeds)
    simp only [Activity.play_run_lift, Activity.play_run_pure, List.append_nil]
    exact ⟨x, hx, by rw [reported]; rfl, made.append quiet⟩

variable [Views Req]

/-- A request is carried out along its route. -/
theorem carried_follow (r : Router) (route : Route) (c : Call) (request : Req) (w : World)
    (past : Journal) :
    let played := (r.follow route c request : Handling Resp).run.play w past
    r.Carried c (r.aim route request) (r.concludeRoute route) w past played.1 played.2 := by
  rw [follow_eq, Activity.play_run_bind]
  cases ha : (r.aim route request).run.play w past with
  | mk result asked =>
    rcases result with fault | ⟨given, targets⟩
    · exact .unaimed ha
    · cases targets with
      | all =>
        obtain ⟨contacts, order, failures, round⟩ := round_callEach c given
          (fun b (result : Except Fault Resp) => complaint b result) r.backends w (past ++ asked)
        have concluded : ((r.toEveryone c given : Handling Resp).run.play w (past ++ asked)) =
            (r.concludeRoute route .all contacts,
              ((tellEach c given Resp r.backends).play w (past ++ asked)).2) := by
          simp only [toEveryone, tellEach, Activity.play_run_bind, Activity.play_run_lift,
            ← failures, concludeRoute]
          split <;> simp
        simp only [reach, concluded]
        exact .aimed ha order round.contacts
      | one b =>
        obtain ⟨x, rfl, concluded, made⟩ :=
          r.play_reach_one Resp route c (textOf .image request) given b w (past ++ asked)
        simp only [concluded]
        exact .aimed ha rfl (.one made)
      | nothing =>
        have none : Contacts c given ([] : List (Contact Resp)) [] := .nil
        exact .aimed ha rfl none

end

section

variable [Views Req] [Listing Resp]

/-- What a caller gets of a list: the items of all runtimes, in order. -/
def concludeList (_ : Targets) (contacts : List (Contact Resp)) : Except Fault Resp :=
  .ok (Listing.setItems (contacts.flatMap (Contact.gained itemsOf)) Message.blank)

variable (Resp) in
/-- A list is asked for from the runtimes that it has been narrowed to. -/
theorem carried_list (r : Router) (c : Call) (request : Req) (w : World)
    (past : Journal) :
    let played := (r.list c request : Handling Resp).run.play w past
    r.Carried c (r.narrow request) concludeList w past played.1 played.2 := by
  cases hn : (r.narrow request).run.play w past with
  | mk result asked =>
    rcases result with fault | ⟨narrowed, targets⟩
    · rw [play_list_error Resp c hn]
      exact .unaimed hn
    · rw [play_list Resp c hn]
      obtain ⟨contacts, order, items, round⟩ := round_callEach c narrowed
        (fun b (result : Except Fault Resp) => itemsOf b result) (targets.toList r) w (past ++ asked)
      simp only [gather, ← items]
      exact .aimed hn order round.contacts

end

end Router

end RuntimeMux
