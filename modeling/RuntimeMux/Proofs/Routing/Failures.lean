import RuntimeMux.Proofs.Routing.Broadcasts
import RuntimeMux.Proofs.Routing.Refusals

/-!
# Failures of runtimes

A runtime may fail a call that has been sent to it. Its status passes through many hands on the way
to the caller: the call is settled by what has become of the link, the fault is classified, and then
made a status again. None of them makes a success of it, nor another kind of failure: the caller gets
the code of the runtime, with the address in front of its message. Only if the runtime was
unavailable, and the link has been replaced since, is the connection blamed instead.
-/

namespace RuntimeMux

open Cri Wire

/-- A status that a call to a runtime has ended with, in the words for the caller. If the runtime was
unavailable and the link has been replaced, the status is about the link. -/
def Backend.told (b : Backend) (replaced : Prop) [Decidable replaced] (s : Status) : Status :=
  if s.code = .unavailable ∧ replaced then
    ⟨.unavailable, Text.quoted b.address ++ ": connection was replaced while the call was in flight"⟩
  else ⟨s.code, Text.quoted b.address ++ ": " ++ s.message⟩

theorem Backend.told_of_kept (b : Backend) {replaced : Prop} [Decidable replaced] {s : Status}
    (kept : ¬(s.code = .unavailable ∧ replaced)) :
    b.told replaced s = (Fault.backend b.address s).status :=
  if_neg kept

theorem Backend.told_of_replaced (b : Backend) {replaced : Prop} [Decidable replaced] {s : Status}
    (unavailable : s.code = .unavailable) (hr : replaced) :
    b.told replaced s = (Fault.staleConnection b.address).status :=
  if_pos ⟨unavailable, hr⟩

theorem Backend.told_congr (b : Backend) {p q : Prop} [Decidable p] [Decidable q] (h : p ↔ q)
    (s : Status) : b.told p s = b.told q s := by
  simp only [told, h]

/-! ### Faults that are not tolerated -/

/-- The fault that is left after a failed call has been handled, or else `excuse`. -/
def Fault.left (excuse : Fault) : Except Fault Unit → Fault
  | .error reported => reported
  | .ok () => excuse

/-- How a line takes a fault of a call if nothing is tolerated. -/
structure Line.TakesStrictly (l : Line) (fault : Fault) : Prop where
  /-- It remains a fault, in the words for the caller. -/
  failed : (l.handleFault fault false).2 = .error (fault.report l.connection.address)
  /-- These are more than the bare status of a call. -/
  wrapped : ∀ status generation, fault.report l.connection.address ≠ .rpc status generation
  /-- There is no need of an excuse. -/
  left : ∀ excuse, Fault.left excuse (l.handleFault fault false).2 =
    fault.report l.connection.address

theorem Line.takesStrictly (l : Line) (fault : Fault) : l.TakesStrictly fault where
  failed := rfl
  wrapped := by cases fault <;> exact fun _ _ => nofun
  left _ := rfl

namespace Call

variable {Req Resp : Type} {c : Call} {b : Backend} {link : Link} {result : Except Fault Resp}
  {called : Journal}

/-- A call that has been settled for a status has failed. What the caller is told depends on the
generation that is looked up, if one is. -/
theorem Settled.exists_told {s : Status} {current : Nat}
    (h : Settled b link (.error s : Except Status Resp) result called)
    (looked : ∀ generation, called = [⟨.generation b, generation⟩] → generation = current) :
    ∃ fault, result = .error fault ∧
      (fault.report b.address).status = b.told (current ≠ link.generation) s := by
  cases h with
  | refused available => exact ⟨_, rfl, (b.told_of_kept fun h => available h.1).symm⟩
  | replaced unavailable hg =>
    exact ⟨_, rfl, (b.told_of_replaced unavailable (looked _ rfl ▸ hg)).symm⟩
  | lost unavailable =>
    have kept : ¬(s.code = .unavailable ∧ current ≠ link.generation) :=
      fun h => h.2 (looked _ rfl).symm
    exact ⟨_, rfl, (b.told_of_kept kept).symm⟩

variable [Message Req] [Message Resp] [Convertible Req] [Convertible Resp]

/-- Makes a call to a runtime and tolerates nothing. If there were no fault left, the response would
be `fallback`. -/
def invokeOr (fallback : Resp) (c : Call) (b : Backend) (request : Req) : Handling Resp :=
  tryCatch (c.attempt b request) fun fault => do
    ExceptT.lift (notice b fault)
    match fault.classify b.address false with
    | .ok () => return fallback
    | .error reported => throw reported

/-- A call is made without a response to fall back on. -/
theorem invokeOr_eq (fallback : Resp) (c : Call) (b : Backend) (request : Req) :
    c.invokeOr fallback b request = c.invoke b request := by
  exact congrArg (tryCatch (c.attempt b request)) (funext fun fault => rfl)

/-! ### Calls that have been sent -/

/-- A call that has been sent is settled by what is read of the answer. -/
theorem Spoken.settled {given : Req} (h : c.Spoken b link given result called) :
    called = [] ∨ ∃ rpc answer rest, called = ⟨.send b link rpc, answer⟩ :: rest ∧
      Settled b link (c.reading Resp link answer) result rest := by
  cases h with
  | @shared answer _ rest same settled =>
    refine .inr ⟨_, answer, rest, rfl, ?_⟩
    rwa [reading, Revision.conversionTo_eq_native_iff.2 same]
  | @upgraded answer _ rest caller runtime settled =>
    refine .inr ⟨_, answer, rest, rfl, ?_⟩
    rwa [reading, Revision.conversionTo_eq_upgrade_iff.2 ⟨caller, runtime⟩]
  | incompatible => exact .inl rfl

end Call

namespace Journal

variable {quiet deeds before before' after after' : Journal} {d d' : Deed}

theorem notMem_of_sent_eq_nil (hd : d.sent?.isSome) (silent : sent deeds = []) : d ∉ deeds :=
  fun mem => by simp [List.filterMap_eq_nil_iff.1 silent d mem] at hd

/-- A call is sent after all that sends nothing. -/
theorem split_append (h : quiet ++ deeds = before ++ d :: after) (hd : d.sent?.isSome)
    (silent : sent quiet = []) : ∃ rest, before = quiet ++ rest ∧ deeds = rest ++ d :: after := by
  rcases List.append_eq_append_iff.1 h with found | ⟨more, rfl, rest⟩
  · exact found
  · cases more with
    | nil => exact ⟨[], by simp, rest.symm⟩
    | cons e more =>
      obtain ⟨rfl, -⟩ := List.cons.inj rest
      exact absurd (by simp) (notMem_of_sent_eq_nil hd silent)

/-- A journal can be split in one way only at a call that is sent, if it is the only one. -/
theorem split_unique (h : before' ++ d' :: after' = before ++ d :: after)
    (hd : d.sent?.isSome) (hb : sent before' = []) (ha : sent after' = []) :
    before = before' ∧ d' = d ∧ after' = after := by
  obtain ⟨rest, rfl, split⟩ := split_append h hd hb
  cases rest with
  | nil => simpa using split
  | cons e rest =>
    obtain ⟨-, rfl⟩ := List.cons.inj split
    exact absurd (by simp) (notMem_of_sent_eq_nil hd ha)

end Journal

/-- Whether the link has been replaced is seen right after the call, wherever it is made. -/
theorem Call.Settled.exists_told_of_play {α Resp : Type} {activity : Activity α} {w : World}
    {t : Traffic} {b : Backend} {link : Link} {rpc : Rpc} {answer : Except Status Bytes} {s : Status}
    {settles : Except Fault Resp} {past asked settled rest : Journal}
    (h : Call.Settled b link (.error s : Except Status Resp) settles settled)
    (played : (activity.play (w.connected t.history) past).2 =
      asked ++ [⟨.link b, some link⟩] ++ ⟨.send b link rpc, answer⟩ :: (settled ++ rest)) :
    let sent : Deed := ⟨.send b link rpc, answer⟩
    let now := t.line (past ++ (asked ++ [⟨.link b, some link⟩]) ++ [sent]) b
    ∃ fault, settles = .error fault ∧
      (fault.report b.address).status = b.told (now.connection.link? ≠ some link) s := by
  intro sent now
  have found : (t.line (past ++ asked) b).connection.link? = some link := by
    rw [List.append_assoc] at played
    exact (Activity.answer_of_play played).symm
  have used : now.connection.link? = some link ↔
      now.connection.generation = link.generation := by
    have := t.link?_line_iff found [⟨.link b, some link⟩, sent]
    simpa [now] using this
  have looked : ∀ generation, settled = [⟨.generation b, generation⟩] →
      generation = now.connection.generation := by
    rintro generation rfl
    rw [List.singleton_append, List.append_cons] at played
    have answered := Activity.answer_of_play played
    rwa [← List.append_assoc] at answered
  obtain ⟨fault, rfl, told⟩ := h.exists_told looked
  exact ⟨fault, rfl, told.trans (b.told_congr (not_congr used.symm) s)⟩

section

variable {Req Resp : Type} [Message Req] [Message Resp] [Convertible Req] [Convertible Resp]
  {c : Call} {given : Req} {b : Backend} {link : Link} {rpc : Rpc}
  {answer : Except Status Bytes} {s : Status} {before after deeds : Journal} {x : Contact Resp}

/-- A runtime that has failed a call has been contacted on the link of the call. The contact ends
with what the failed call is settled by. -/
theorem Contact.Made.failed (made : x.Made c given deeds)
    (split : deeds = before ++ ⟨.send b link rpc, answer⟩ :: after)
    (failed : c.reading Resp link answer = .error s) :
    x.backend = b ∧ (∃ lead, before = lead ++ [⟨.link b, some link⟩]) ∧
      ∃ settled rest, after = settled ++ rest ∧
        Call.Settled b link (.error s : Except Status Resp) x.result settled := by
  have sent : (b, link, rpc) ∈ Journal.sent deeds := by
    rw [split]
    exact Journal.mem_sent (List.mem_append_right _ List.mem_cons_self)
  have unsent {rest : Journal} (quiet : Journal.sent rest = []) :
      (b, link, rpc) ∉ Journal.sent rest := by simp [quiet]
  cases made with
  | passed quiet => exact absurd sent (unsent quiet)
  | @away b' lead rest early quiet =>
    have silent : Journal.sent (lead ++ ⟨.link b', none⟩ :: rest) = [] := by
      rw [Journal.sent_append, early.sent]
      exact quiet
    exact absurd sent (unsent silent)
  | @called b' link' result lead called rest early spoken quiet =>
    have looked : Journal.sent (lead ++ [⟨.link b', some link'⟩]) = [] := by
      rw [Journal.sent_append, early.sent]
      rfl
    rw [List.append_cons] at split sent
    rcases spoken.settled with rfl | ⟨rpc', answer', settled, rfl, settles⟩
    · refine absurd sent (unsent ?_)
      rw [Journal.sent_append, looked]
      exact quiet
    · have silent : Journal.sent (settled ++ rest) = [] := by
        rw [Journal.sent_append, settles.sent, quiet, List.append_nil]
      obtain ⟨rfl, same, rfl⟩ := Journal.split_unique split rfl looked silent
      cases same
      exact ⟨rfl, ⟨lead, rfl⟩, settled, rest, rfl, failed ▸ settles⟩

namespace Router

variable {r : Router} {route : Route} {request : Req} {w : World} {t : Traffic} {past : Journal}
  {result : Except Fault Resp} [Views Req] [Views Resp] [Scoped Resp]

/-- If the one runtime that a request is sent to fails, the caller gets the fault of the call. -/
theorem Carried.failed (hr : route ≠ .everyone)
    (h : r.Carried c (r.aim route request) (r.concludeRoute route) w past result deeds)
    (split : deeds = before ++ ⟨.send b link rpc, answer⟩ :: after)
    (failed : c.reading Resp link answer = .error s) :
    ∃ (asked settled rest : Journal) (settles : Except Fault Resp),
      before = asked ++ [⟨.link b, some link⟩] ∧ after = settled ++ rest ∧
        Call.Settled b link (.error s : Except Status Resp) settles settled ∧
        ∀ fault, settles = .error fault → result = .error (fault.report b.address) := by
  have silent := (r.silent_aim route request).sent_play (w := w) past
  cases h with
  | unaimed ha =>
    rw [ha] at silent
    obtain ⟨rest, -, unsent⟩ :=
      Journal.split_append ((List.append_nil _).trans split) rfl silent
    simp at unsent
  | @aimed _ targets asked deeds contacts ha order made =>
    rw [ha] at silent
    obtain ⟨before, rfl, contacted⟩ := Journal.split_append split rfl silent
    cases targets with
    | all => exact absurd rfl (ne_all_of_play_aim hr ha)
    | nothing =>
      obtain rfl : contacts = [] := List.map_eq_nil_iff.1 order
      cases made
      simp at contacted
    | one target =>
      cases made with
      | nil => cases order
      | @cons x xs called later made rest =>
        obtain ⟨rfl, rfl⟩ : x.backend = target ∧ xs = [] := by simpa [Targets.toList] using order
        cases rest
        rw [List.append_nil] at contacted
        obtain ⟨rfl, ⟨lead, rfl⟩, settled, rest, rfl, settles⟩ := made.failed contacted failed
        refine ⟨asked ++ lead, settled, rest, x.result, (List.append_assoc ..).symm, rfl, settles,
          fun fault ended => ?_⟩
        simp [concludeRoute, Contact.reported, ended, Except.mapError, Except.map]

/-- The caller of an activity is told of the status of each call that has been sent to a runtime and
has failed. Whether the link has been replaced is seen right after the call. -/
def TellsFailures (t : Traffic) (c : Call) (Resp : Type) [Message Resp] [Convertible Resp]
    (past : Journal) (played : Except Status Bytes × Journal) : Prop :=
  ∀ (before after : Journal) (b : Backend) (link : Link) (rpc : Rpc)
    (answer : Except Status Bytes) (s : Status),
    let sent : Deed := ⟨.send b link rpc, answer⟩
    played.2 = before ++ sent :: after → c.reading Resp link answer = .error s →
      let now := t.line (past ++ before ++ [sent]) b
      played.1 = .error (b.told (now.connection.link? ≠ some link) s)

variable (Resp) in
theorem follow_tellsFailures (hr : route ≠ .everyone) (r : Router) (c : Call) (request : Req)
    (w : World) (t : Traffic) (past : Journal) :
    let played := (r.follow route c request : Handling Resp).run.play (w.connected t.history) past
    TellsFailures t c Resp past
      ((played.1.map Message.encode).mapError Fault.status, played.2) := by
  intro played before after b link rpc answer s sent split failed now
  have carried : r.Carried c (r.aim route request) (r.concludeRoute route)
    (w.connected t.history) past played.1 played.2 := r.carried_follow route c request _ past
  obtain ⟨asked, settled, rest, settles, rfl, rfl, settled, ended⟩ :=
    carried.failed hr split failed
  obtain ⟨fault, rfl, told⟩ := settled.exists_told_of_play split
  rw [show played.1 = _ from ended fault rfl]
  exact congrArg Except.error told

end Router

end

namespace Router

theorem play_respond (r : Router) (path : String) (body : Bytes) (header : Option String)
    (w : World) (past : Journal) :
    (r.respond path body header).play w past =
      let played := (r.dispatch path body (header.bind Deadline.parse?)).run.play w past
      (played.1.mapError Fault.status, played.2) := by
  rw [respond, Activity.play_bind]
  simp

/-- A method that does not ask all runtimes asks one, and if this one fails, the caller is told with
its own code, whatever the call, the runtime and the failure. Nothing on the way can make a success
of it: a fault that is handled strictly remains a fault, so there is no need of a response to fall
back on, and every fault is passed on as a status with its code. -/
theorem respond_tellsFailures (r : Router) (path : String) (body : Bytes) (header : Option String)
    (w : World) (t : Traffic) (past : Journal) :
    let played := (r.respond path body header).play (w.connected t.history) past
    (∀ revision m, Method.find? path = some (revision, m) → m.asksAll = false →
      match m.exchange revision.schema with
      | @Exchange.listed .. => False
      | @Exchange.routed _ Resp _ _ _ _ _ _ _ _ =>
        TellsFailures t ⟨m, revision, header.bind Deadline.parse?⟩ Resp past played) ∧
    (∀ (l : Line) (fault : Fault), l.TakesStrictly fault) ∧
    (∀ (Req Resp : Type) [Message Req] [Message Resp] [Convertible Req] [Convertible Resp]
      (c : Call) (b : Backend) (request : Req) (fallback : Resp),
        c.invokeOr fallback b request = c.invoke b request) ∧
    ∀ fault : Fault, fault.status.code = fault.code := by
  intro played
  refine ⟨fun revision m found one => ?_, Line.takesStrictly,
    fun _ _ _ _ _ _ c b request fallback => c.invokeOr_eq fallback b request, Fault.code_status⟩
  obtain ⟨route, routed, hr⟩ := Method.route?_exchange one revision.schema
  have handled : r.dispatch path body (header.bind Deadline.parse?) =
      (m.exchange revision.schema).handle r ⟨m, revision, header.bind Deadline.parse?⟩ body := by
    rw [dispatch, found]
  simp only [played, play_respond, handled]
  generalize (⟨m, revision, header.bind Deadline.parse?⟩ : Call) = c
  revert routed
  cases m.exchange revision.schema with
  | listed =>
    intro routed
    cases routed
  | @routed Req Resp _ _ _ _ _ _ _ way =>
    rintro ⟨⟩
    dsimp only
    rw [Exchange.handle_routed]
    cases readRequest Req body with
    | error fault => exact fun before after b link rpc answer s split => by simp at split
    | ok request =>
      rw [ExceptT.run_map, Activity.play_map]
      exact follow_tellsFailures Resp hr r c request w t past

/-- A pod sandbox is to be removed, and the connection of its runtime is given up while the call is
under way. -/
theorem respond_tellsFailures_replaced :
    let primary : Backend := ⟨.primary, "/run/primary.sock"⟩
    let alt : Backend := ⟨.named ⟨"alt", by decide⟩, "/run/alt.sock"⟩
    let r : Router :=
      ⟨primary, [alt], ⟨"http", none, .plain "", none, none⟩, rfl, by decide, by decide⟩
    let link : Link := ⟨.v1, 1⟩
    let t : Traffic := fun past _ =>
      if past.isEmpty then [.connect .nobody, .finish 1 (.ok .v1)]
      else if (Journal.sent past).isEmpty then [] else [.stop]
    let w := World.steady (fun _ => none) fun _ _ => .error ⟨.unavailable, "broken pipe"⟩
    let path := "/runtime.v1.RuntimeService/RemovePodSandbox"
    let body (id : String) := Message.encode (⟨id⟩ : RemovePodSandboxRequest)
    let played := (r.respond path (body "alt__p1") none).play (w.connected t.history) []
    Method.find? path = some (.v1, .removePodSandbox) ∧
      Method.removePodSandbox.asksAll = false ∧
      Journal.sent played.2 = [(alt, link, ⟨path, body "p1", none⟩)] ∧
      played.1 = .error ⟨.unavailable,
        "\"/run/alt.sock\": connection was replaced while the call was in flight"⟩ := by
  intro primary alt r link t w path body played
  have found : Method.find? path = some (.v1, .removePodSandbox) := by decide +kernel
  have called : Journal.sent played.2 = [(alt, link, ⟨path, body "p1", none⟩)] := by
    decide +kernel
  obtain ⟨_, mem⟩ := Activity.mem_play_of_sent _ (called ▸ List.mem_singleton_self _)
  obtain ⟨before, after, split⟩ := List.append_of_mem mem
  obtain ⟨tells, -⟩ := r.respond_tellsFailures path (body "alt__p1") none w t []
  have told := tells .v1 .removePodSandbox found rfl before after alt link _ _ _ split rfl
  have replaced (past : Journal) (sent : Deed) (calls : sent.sent?.isSome) :
      (t.line (past ++ [sent]) alt).connection.link? ≠ some link := by
    obtain ⟨call, calls⟩ := Option.isSome_iff_exists.1 calls
    have stopped : t (past ++ [sent]) alt = [.stop] := by simp [t, Journal.sent, calls]
    rw [Traffic.line_concat, stopped, Line.run_append]
    exact (Option.some_ne_none link).symm
  have words : (Fault.staleConnection alt.address).status = ⟨.unavailable,
      "\"/run/alt.sock\": connection was replaced while the call was in flight"⟩ := by
    decide +kernel
  have ended := told.trans (congrArg _ (alt.told_of_replaced rfl (replaced _ _ rfl)))
  exact ⟨found, rfl, called, ended.trans (congrArg _ words)⟩

end Router

end RuntimeMux
