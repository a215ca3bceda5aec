import RuntimeMux.Proofs.Call.Traffic
import RuntimeMux.Proofs.Routing.Gather
import RuntimeMux.Proofs.Routing.Revisions

/-!
# Requests to all runtimes

A request to all runtimes is told to one after the other. At its turn a runtime is not connected and is
asked for its connection, or it is called, and whatever comes of the call, the next runtime has its turn
then. A call may find no link any more, or it may find its runtime unavailable. Whether the connection
is to blame depends on its line at that moment: a link that is still in use is given up, and the other
lines stay as they are. In the end the caller gets an empty response, or the messages of all failed
calls, in order.
-/

namespace RuntimeMux

open Cri Wire

variable {Req Resp : Type}

namespace Contact

/-- The fault of a call that has failed, in the words for the caller. A runtime that has been passed
over has not been called. -/
def fault? (x : Contact Resp) : Option Fault :=
  match x.called, x.result with
  | true, .error fault => some (fault.report x.backend.address)
  | _, _ => none

/-- How a call that has failed is classified, strictly. -/
def verdict? (x : Contact Resp) : Option (Except Fault Unit) :=
  match x.called, x.result with
  | true, .error fault => some (fault.classify x.backend.address false)
  | _, _ => none

/-- The link on which a call has found its runtime unavailable while it was in use. -/
def lost? (x : Contact Resp) : Option Link :=
  match x.result with
  | .error fault => if fault.lostLink?.isSome then x.link? else none
  | .ok _ => none

/-- Strictly, no failure is a success. -/
theorem verdict?_eq (x : Contact Resp) : x.verdict? = x.fault?.map .error := by
  rw [verdict?, fault?]
  cases x.called with
  | false => rfl
  | true => cases x.result <;> rfl

theorem gained_complaint (x : Contact Resp) :
    x.gained Router.complaint = (x.fault?.map Fault.message).toList := by
  rw [gained, fault?]
  cases x.called with
  | false => rfl
  | true => cases x.result <;> rfl

theorem fault?_eq_none_iff (x : Contact Resp) :
    x.fault? = none ↔ (x.called = true → ∃ response, x.result = .ok response) := by
  rw [fault?]
  cases x.called with
  | false => simp
  | true => cases x.result <;> simp

variable [Message Req] [Message Resp] [Convertible Req] [Convertible Resp]

/-- How a runtime is told of a request that is connected at its turn, after what has been done so
far. -/
inductive Reached (t : Traffic) (c : Call) (request : Req) (past : Journal) :
    Contact Resp → Journal → Prop where
  /-- The link is gone since the runtime has been looked at. -/
  | gone {b : Backend} (hl : (t.line past b).connection.link? = none) :
      Reached t c request past ⟨b, true, none, .error (.notConnected b.address)⟩ [⟨.link b, none⟩]
  /-- The runtime does not understand the request. -/
  | unserved {b : Backend} {link : Link} (hl : (t.line past b).connection.link? = some link)
      (hs : c.isServedOn link = false) :
      Reached t c request past
        ⟨b, true, some link, .error (.incompatibleRevision c.revision link.revision)⟩
        [⟨.link b, some link⟩]
  /-- The runtime answers. -/
  | answered {b : Backend} {link : Link} {answer : Except Status Bytes} {response : Resp}
      (hl : (t.line past b).connection.link? = some link) (hs : c.isServedOn link = true)
      (hr : c.reading Resp link answer = .ok response) :
      Reached t c request past ⟨b, true, some link, .ok response⟩
        [⟨.link b, some link⟩, ⟨.send b link (c.rpc link request), answer⟩]
  /-- The runtime fails, but it is there. -/
  | refused {b : Backend} {link : Link} {answer : Except Status Bytes} {status : Status}
      (hl : (t.line past b).connection.link? = some link) (hs : c.isServedOn link = true)
      (hr : c.reading Resp link answer = .error status) (available : status.code ≠ .unavailable) :
      Reached t c request past ⟨b, true, some link, .error (.rpc status link.generation)⟩
        [⟨.link b, some link⟩, ⟨.send b link (c.rpc link request), answer⟩]
  /-- The runtime is found unavailable on a link that is no longer in use. -/
  | replaced {b : Backend} {link : Link} {status : Status} {generation : Nat}
      (hl : (t.line past b).connection.link? = some link) (hs : c.isServedOn link = true)
      (unavailable : status.code = .unavailable) (hg : generation ≠ link.generation)
      (unused : (t.line (past ++ [⟨.link b, some link⟩,
        ⟨.send b link (c.rpc link request), .error status⟩]) b).connection.link? ≠ some link) :
      Reached t c request past ⟨b, true, some link, .error (.staleConnection b.address)⟩
        [⟨.link b, some link⟩, ⟨.send b link (c.rpc link request), .error status⟩,
          ⟨.generation b, generation⟩]
  /-- The runtime is found unavailable on the link in use. It is connected to anew. -/
  | lost {b : Backend} {link : Link} {status : Status}
      (hl : (t.line past b).connection.link? = some link) (hs : c.isServedOn link = true)
      (unavailable : status.code = .unavailable)
      (used : (t.line (past ++ [⟨.link b, some link⟩,
        ⟨.send b link (c.rpc link request), .error status⟩]) b).connection.link? = some link) :
      Reached t c request past ⟨b, true, some link, .error (.rpc status link.generation)⟩
        [⟨.link b, some link⟩, ⟨.send b link (c.rpc link request), .error status⟩,
          ⟨.generation b, link.generation⟩, ⟨.reconnect b link.generation, ()⟩]

/-- The turn of a runtime to be told of a request, after what has been done so far. -/
inductive Told (t : Traffic) (c : Call) (request : Req) (past : Journal) :
    Contact Resp → Journal → Prop where
  /-- The runtime is not connected. It is not called, but its connection is asked for. -/
  | passed {b : Backend} (away : (t.line past b).connection.isConnected = false) :
      Told t c request past (.passed b) [⟨.connected b, false⟩, ⟨.kick b, ()⟩]
  /-- The runtime is connected, and is called. -/
  | called {x : Contact Resp} {deeds : Journal}
      (there : (t.line past x.backend).connection.isConnected = true)
      (reached : Reached t c request (past ++ [⟨.connected x.backend, true⟩]) x deeds) :
      Told t c request past x (⟨.connected x.backend, true⟩ :: deeds)

variable {t : Traffic} {w : World} {c : Call} {request : Req} {past deeds : Journal}
  {x : Contact Resp}

namespace Reached

/-- A runtime that is reached has a call attempted, and notice is taken of what it ends with. -/
theorem exists_attempted (h : x.Reached t c request past deeds) :
    x.called = true ∧ ∃ tried, deeds = tried ++ x.noticed ∧
      c.Attempted x.backend request x.link? x.result tried := by
  cases h with
  | gone => exact ⟨rfl, _, rfl, .away⟩
  | unserved _ hs => exact ⟨rfl, _, rfl, .made (.unserved hs)⟩
  | answered _ hs hr => exact ⟨rfl, _, rfl, .made (.answered hs hr)⟩
  | refused _ hs hr available =>
    refine ⟨rfl, _, ?_, .made (.refused hs hr available)⟩
    simp [noticed, Call.noticed, Fault.lostLink?, available]
  | replaced _ hs unavailable hg => exact ⟨rfl, _, rfl, .made (.replaced hs unavailable hg)⟩
  | lost _ hs unavailable =>
    refine ⟨rfl, _, ?_, .made (.lost hs unavailable)⟩
    simp [noticed, Call.noticed, Fault.lostLink?, unavailable]

/-- A connection is given up exactly if its runtime was unavailable on the link in use. -/
theorem reconnected (h : x.Reached t c request past deeds) :
    Journal.reconnected deeds =
      (x.lost?.map fun link => (x.backend, link.generation)).toList := by
  cases h with
  | gone | unserved | answered | replaced => rfl
  | refused _ _ _ available =>
    simp only [lost?, Fault.lostLink?, available]
    rfl
  | lost _ _ unavailable =>
    simp only [lost?, Fault.lostLink?, unavailable]
    rfl

/-- A link that has been found is still in use exactly if the generation that is looked up is that
of the link. -/
theorem used_iff_of_play {α : Type} {called : Activity α} {b : Backend} {link : Link} {d : Deed}
    {generation : Nat} (found : (t.line past b).connection.link? = some link)
    (played : (called.play (w.connected t.history) (past ++ [⟨.link b, some link⟩])).2 =
      [d, ⟨.generation b, generation⟩]) :
    (t.line (past ++ [⟨.link b, some link⟩, d]) b).connection.link? = some link ↔
      generation = link.generation := by
  have answered := Activity.answer_of_play (played.trans (List.singleton_append).symm)
  have current : generation =
      (t.line (past ++ [⟨.link b, some link⟩] ++ [d]) b).connection.generation := answered
  rw [current, List.append_assoc]
  exact t.link?_line_iff found _

/-- A runtime that has a link is reached by a call on it. -/
theorem of_linked {b : Backend} {link : Link} {result : Except Fault Resp} {called : Journal}
    (found : (t.line past b).connection.link? = some link)
    (played : (c.invokeOn b link request : Handling Resp).run.play (w.connected t.history)
      (past ++ [⟨.link b, some link⟩]) = (result, called)) :
    let x : Contact Resp := ⟨b, true, some link, result⟩
    x.Reached t c request past (⟨.link b, some link⟩ :: called ++ x.noticed) := by
  have outcome : c.Outcome b link request result called := by
    have := Call.Outcome.of_play Resp c b link request (w.connected t.history)
      (past ++ [⟨.link b, some link⟩])
    simpa [played] using this
  cases outcome with
  | unserved hs => exact .unserved found hs
  | answered hs hr => exact .answered found hs hr
  | refused hs hr available =>
    simp only [noticed, Call.noticed, Fault.lostLink?, available]
    exact .refused found hs hr available
  | replaced hs unavailable hg =>
    have used := used_iff_of_play found (congrArg Prod.snd played)
    exact .replaced found hs unavailable hg (mt used.1 hg)
  | lost hs unavailable =>
    have used := used_iff_of_play found (congrArg Prod.snd played)
    simp only [noticed, Call.noticed, Fault.lostLink?, unavailable]
    exact .lost found hs unavailable (used.2 rfl)

variable (Resp) in
/-- A runtime that is called is reached. -/
theorem of_play (t : Traffic) (c : Call) (b : Backend) (request : Req) (w : World)
    (past : Journal) :
    let world := w.connected t.history
    let tried := (c.attempt b request : Handling Resp).run.play world past
    let x : Contact Resp := ⟨b, true, world past (.link b), tried.1⟩
    x.Reached t c request past (tried.2 ++ x.noticed) := by
  intro world
  have looked : world past (.link b) = (t.line past b).connection.link? := rfl
  rw [Call.play_attempt, looked]
  cases found : (t.line past b).connection.link? with
  | none => exact .gone found
  | some link => exact of_linked found rfl

end Reached

namespace Told

theorem turn (h : x.Told t c request past deeds) : Turn c request x deeds := by
  cases h with
  | passed => exact .passed
  | called there reached =>
    obtain ⟨called, tried, rfl, attempted⟩ := reached.exists_attempted
    exact .called called attempted

theorem reconnected (h : x.Told t c request past deeds) :
    Journal.reconnected deeds =
      (x.lost?.map fun link => (x.backend, link.generation)).toList := by
  cases h with
  | passed => rfl
  | called there reached => exact reached.reconnected

end Told

end Contact

variable [Message Req] [Message Resp] [Convertible Req] [Convertible Resp]

/-- Runtimes are told of a request one after the other. -/
inductive Broadcast (t : Traffic) (c : Call) (request : Req) :
    Journal → List (Contact Resp) → Journal → Prop where
  | nil {past : Journal} : Broadcast t c request past [] []
  | cons {past deeds later : Journal} {x : Contact Resp} {xs : List (Contact Resp)}
      (told : x.Told t c request past deeds)
      (rest : Broadcast t c request (past ++ deeds) xs later) :
      Broadcast t c request past (x :: xs) (deeds ++ later)

namespace Broadcast

variable {t : Traffic} {c : Call} {request : Req} {past deeds : Journal} {xs : List (Contact Resp)}

theorem round (h : Broadcast t c request past xs deeds) : Round c request xs deeds := by
  induction h with
  | nil => exact .nil
  | cons told _ ih => exact .cons told.turn ih

theorem reconnected (h : Broadcast t c request past xs deeds) :
    Journal.reconnected deeds =
      xs.filterMap fun x => x.lost?.map fun link => (x.backend, link.generation) := by
  induction h with
  | nil => rfl
  | @cons _ _ _ x _ told _ ih =>
    rw [Journal.reconnected_append, told.reconnected, ih, List.filterMap_cons]
    cases x.lost? <;> rfl

/-- A link that is in use, and on which the runtime is found unavailable, is given up. -/
theorem givesUp (h : Broadcast t c request past xs deeds) {x : Contact Resp} (hx : x ∈ xs)
    {link : Link} (lost : x.lost? = some link) :
    let given : Deed := ⟨.reconnect x.backend link.generation, ()⟩
    ∃ before after, deeds = before ++ given :: after ∧
      t.GivesUp (past ++ before) given x.backend link.generation := by
  have mem : (x.backend, link.generation) ∈ Journal.reconnected deeds := by
    rw [h.reconnected]
    exact List.mem_filterMap.2 ⟨x, hx, by rw [lost]; rfl⟩
  obtain ⟨before, after, split⟩ := List.append_of_mem (Journal.mem_reconnected_iff.1 mem)
  exact ⟨before, after, split, t.givesUp_reconnect _ _ _⟩

end Broadcast

namespace Router

variable (Resp) in
/-- The first runtime is told, and then the others are. -/
theorem told_tellEach_cons (t : Traffic) (c : Call) (request : Req) (b : Backend)
    (bs : List Backend) (w : World) (past : Journal) :
    let world := w.connected t.history
    ∃ (x : Contact Resp) (deeds : Journal), x.backend = b ∧ x.Told t c request past deeds ∧
      (tellEach c request Resp (b :: bs)).play world past =
        let rest := (tellEach c request Resp bs).play world (past ++ deeds)
        (x.gained complaint ++ rest.1, deeds ++ rest.2) := by
  intro world
  have seen : world past (.connected b) = (t.line past b).connection.isConnected := rfl
  cases there : (t.line past b).connection.isConnected with
  | false => exact ⟨.passed b, _, rfl, .passed there, play_callEach_passed (seen.trans there)⟩
  | true =>
    have reached := Contact.Reached.of_play Resp t c b request w (past ++ [⟨.connected b, true⟩])
    exact ⟨_, _, rfl, .called there reached, play_callEach_called (seen.trans there)⟩

variable (Resp) in
theorem broadcast_tellEach (t : Traffic) (c : Call) (request : Req) (bs : List Backend) (w : World)
    (past : Journal) :
    let told := (tellEach c request Resp bs).play (w.connected t.history) past
    ∃ xs : List (Contact Resp), xs.map Contact.backend = bs ∧
      xs.flatMap (Contact.gained complaint) = told.1 ∧ Broadcast t c request past xs told.2 := by
  induction bs generalizing past with
  | nil => exact ⟨[], rfl, rfl, .nil⟩
  | cons b bs ih =>
    obtain ⟨x, deeds, rfl, told, played⟩ := told_tellEach_cons Resp t c request b bs w past
    obtain ⟨xs, rfl, complaints, rest⟩ := ih (past ++ deeds)
    rw [played]
    exact ⟨x :: xs, rfl, by rw [List.flatMap_cons, complaints], .cons told rest⟩

/-- What a request to all runtimes ends with, by the faults of the calls that have failed. -/
theorem play_toEveryone {r : Router} {c : Call} {request : Req} {w : World} {past told : Journal}
    {faults : List Fault} (played : (tellEach c request Resp r.backends).play w past =
      (faults.map Fault.message, told)) :
    (r.toEveryone c request : Handling Resp).run.play w past =
      (if faults = [] then .ok Message.blank
        else .error (.broadcast (faults.map Fault.message)), told) := by
  rw [toEveryone, Activity.play_run_bind, Activity.play_run_lift, played]
  cases faults <;> simp

section

variable [Views Req] [Views Resp] [Scoped Resp]

/-- A request has been made to all runtimes. -/
structure Broadcasts (r : Router) (t : Traffic) (c : Call) (request : Req) (past : Journal)
    (contacts : List (Contact Resp)) (played : Except Fault Resp × Journal) : Prop where
  /-- Every runtime has its turn, in order. -/
  order : contacts.map Contact.backend = r.backends
  /-- It is told of the request then, whatever has come of the turns before. -/
  told : Broadcast t c request past contacts played.2
  /-- It is looked at once, and is called if it is connected. -/
  visited : Journal.visited played.2 = contacts.map fun x => (x.backend, x.called)
  /-- For a call, its link is looked up once. -/
  looked : Journal.looked played.2 =
    (contacts.filter Contact.called).map fun x => (x.backend, x.link?)
  /-- The call is sent once if there is a link and the runtime understands the request, and not at all
  if not. -/
  sent : Journal.sent played.2 =
    (contacts.filter Contact.called).filterMap fun x => c.due request (x.backend, x.link?)
  /-- The call carries the caller's request. -/
  unchanged : ∀ link, c.rpc link request =
    ⟨c.method.path link.revision, Message.encode request, c.deadline⟩
  /-- A runtime that is not connected is asked for its connection. -/
  kicked : Journal.kicked played.2 = (contacts.filter fun x => !x.called).map Contact.backend
  /-- A connection is given up if its runtime is found unavailable on the link in use. -/
  reconnected : Journal.reconnected played.2 =
    contacts.filterMap fun x => x.lost?.map fun link => (x.backend, link.generation)
  /-- By that the link is dropped and an attempt is started, on the line of this runtime only. -/
  givesUp : ∀ x ∈ contacts, ∀ link, x.lost? = some link →
    let given : Deed := ⟨.reconnect x.backend link.generation, ()⟩
    ∃ before after, played.2 = before ++ given :: after ∧
      t.GivesUp (past ++ before) given x.backend link.generation
  /-- All is well if no call has failed. -/
  succeeds_iff : (∃ response, played.1 = .ok response) ↔
    ∀ x ∈ contacts, x.called = true → ∃ response, x.result = .ok response
  /-- The response is empty then. Otherwise there is one message for each call that has failed, in
  order, of the fault as which the failure is classified. -/
  ended : ∃ faults : List Fault,
    contacts.filterMap Contact.verdict? = faults.map .error ∧
      played.1 = if faults = [] then .ok Message.blank
        else .error (.broadcast (faults.map Fault.message))

variable (Resp) in
theorem broadcasts_everyone (r : Router) (t : Traffic) (c : Call) {request : Req} (w : World)
    (past : Journal)
    (same : Message.encode (Convertible.upgrade request) = Message.encode request) :
    ∃ contacts, r.Broadcasts t c request past contacts
      ((r.follow .everyone c request : Handling Resp).run.play (w.connected t.history) past) := by
  obtain ⟨xs, order, complaints, told⟩ := broadcast_tellEach Resp t c request r.backends w past
  have messages : xs.flatMap (Contact.gained complaint) =
      (xs.filterMap Contact.fault?).map Fault.message := by
    rw [List.map_filterMap, List.filterMap_eq_flatMap_toList]
    exact List.flatMap_congr fun x _ => x.gained_complaint
  have verdicts : xs.filterMap Contact.verdict? =
      (xs.filterMap Contact.fault?).map Except.error := by
    rw [List.map_filterMap]
    exact List.filterMap_congr fun x _ => x.verdict?_eq
  have ended := play_toEveryone (Prod.ext (complaints.symm.trans messages) rfl)
  have round := told.round
  refine ⟨xs, ?_⟩
  rw [follow, ended]
  constructor
  case order => exact order
  case told => exact told
  case visited => exact round.visited
  case looked => exact round.looked
  case sent => rw [round.sent, round.looked, List.filterMap_map]; rfl
  case unchanged => exact fun link => c.rpc_of_encode_upgrade link same
  case kicked => exact round.kicked
  case reconnected => exact told.reconnected
  case givesUp => exact fun x hx link lost => told.givesUp hx lost
  case succeeds_iff =>
    have none : xs.filterMap Contact.fault? = [] ↔ ∀ x ∈ xs, x.fault? = none :=
      List.filterMap_eq_nil_iff
    simp only [Contact.fault?_eq_none_iff] at none
    rw [← none]
    by_cases empty : xs.filterMap Contact.fault? = [] <;> simp [empty]
  case ended => exact ⟨_, verdicts, rfl⟩

end

/-- Runtimes are all told of their new configuration: each that is there at its turn is called once,
with the request of the caller, whatever has come of the calls before, and each other one is asked
for its connection. The caller learns of every failure. A runtime that is found unavailable on the
link in use loses this link and is connected to anew, whatever happens to the connections
meanwhile. -/
theorem updateRuntimeConfig_broadcasts (r : Router) (revision : Revision) (deadline : Option Span)
    (w : World) (t : Traffic) (past : Journal) :
    match Method.updateRuntimeConfig.exchange revision.schema with
    | @Exchange.listed .. => False
    | @Exchange.routed Req Resp _ _ _ _ _ _ _ route =>
      let c : Call := ⟨.updateRuntimeConfig, revision, deadline⟩
      ∀ request : Req, ∃ contacts, r.Broadcasts t c request past contacts
        ((r.follow route c request : Handling Resp).run.play (w.connected t.history) past) := by
  intro request
  exact r.broadcasts_everyone UpdateRuntimeConfigResponse t _ w past rfl

/-- The primary runtime refuses its new configuration, the first named one is away, and the second
one breaks off. The third one is given up between the look at it and the call. -/
example :
    let primary : Backend := ⟨.primary, "/run/primary.sock"⟩
    let alt : Backend := ⟨.named ⟨"alt", by decide⟩, "/run/alt.sock"⟩
    let other : Backend := ⟨.named ⟨"other", by decide⟩, "/run/other.sock"⟩
    let third : Backend := ⟨.named ⟨"third", by decide⟩, "/run/third.sock"⟩
    let r : Router := ⟨primary, [alt, other, third], ⟨"http", none, .plain "", none, none⟩, rfl,
      by decide, by decide⟩
    let t : Traffic := fun past b =>
      if past.isEmpty ∧ b ≠ alt then [.connect .nobody, .finish 1 (.ok .v1)]
      else if b = third ∧ Journal.visited past.getLast?.toList = [(third, true)] then [.stop]
      else []
    let w := World.steady (fun _ => none) fun b _ =>
      .error (if b = primary then ⟨.internal, "disk full"⟩ else ⟨.unavailable, "broken pipe"⟩)
    let told := (r.follow .everyone ⟨.updateRuntimeConfig, .v1, none⟩
      (Message.blank : UpdateRuntimeConfigRequest) :
        Handling UpdateRuntimeConfigResponse).run.play (w.connected t.history) []
    let lines := match told.1 with
      | .error (.broadcast lines) => lines
      | _ => []
    lines = ["\"/run/primary.sock\": disk full", "\"/run/other.sock\": broken pipe",
        "\"/run/third.sock\": not connected"] ∧
      Journal.kicked told.2 = [alt] ∧ Journal.reconnected told.2 = [(other, 1)] ∧
      (t.line told.2 primary).connection.link? = some ⟨.v1, 1⟩ ∧
      (t.line told.2 other).connection.phase = .connecting := by
  decide +kernel

end Router

end RuntimeMux
