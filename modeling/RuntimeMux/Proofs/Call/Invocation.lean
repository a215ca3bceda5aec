import RuntimeMux.Proofs.Call.Outcomes

/-!
# Calls that are made to the end

A call to a runtime looks up the link, goes out on it, and takes notice of its fault. So it is sent at
most once, and exactly if there is a link to a runtime that understands the request. The caller gets a
response exactly if the runtime has answered the call with one. All that is done is about this
runtime: no other one is looked at, nor the names of images.
-/

namespace RuntimeMux

open Cri Wire

namespace Call

/-! ### Nothing but the runtime -/

theorem within_notice (b : Backend) (fault : Fault) :
    (notice b fault).Within fun a => a.backend? = some b := by
  rw [notice]
  cases fault.lostLink? with
  | none => trivial
  | some generation => exact Activity.within_once_backend rfl

theorem within_settle {Resp : Type} (b : Backend) (link : Link) (result : Except Status Resp) :
    (settle b link result).run.Within fun a => a.backend? = some b := by
  cases result with
  | ok response => trivial
  | error status =>
    rw [settle]
    split
    · have looked := Activity.within_once_backend (a := .generation b) rfl
      refine .run_bind looked.run_lift fun generation => ?_
      split <;> trivial
    · trivial

variable {Req Resp : Type} [Message Req] [Message Resp] [Convertible Req] [Convertible Resp]
  {w : World} {c : Call} {b : Backend} {request : Req} {past deeds : Journal}

theorem within_invokeOn (c : Call) (b : Backend) (link : Link) (request : Req) :
    (c.invokeOn b link request : Handling Resp).run.Within fun a => a.backend? = some b := by
  rw [invokeOn]
  split
  · refine .run_bind (Activity.Within.run_lift ?_) fun _ => within_settle ..
    exact .bind (Activity.within_once_backend rfl) fun _ => trivial
  · refine .run_bind (Activity.Within.run_lift ?_) fun _ => within_settle ..
    exact .bind (Activity.within_once_backend rfl) fun _ => trivial
  · trivial

theorem within_attempt (c : Call) (b : Backend) (request : Req) :
    (c.attempt b request : Handling Resp).run.Within fun a => a.backend? = some b := by
  refine .run_bind (Activity.within_once_backend (a := .link b) rfl).run_lift fun link? => ?_
  cases link? with
  | none => trivial
  | some link => exact within_invokeOn c b link request

/-- Whatever is done for a call to a runtime is about this runtime. -/
theorem within_invoke (c : Call) (b : Backend) (request : Req) :
    (c.invoke b request : Handling Resp).run.Within fun a => a.backend? = some b := by
  refine .run_tryCatch (within_attempt c b request) fun fault => ?_
  exact .run_bind (within_notice b fault).run_lift fun _ => trivial

/-! ### What becomes of a call -/

/-- What an attempt to call a runtime ends with, and what is done for it, by the link that is
found. -/
inductive Attempted (c : Call) (b : Backend) (request : Req) :
    Option Link → Except Fault Resp → Journal → Prop where
  /-- There is no link. -/
  | away : Attempted c b request none (.error (.notConnected b.address)) [⟨.link b, none⟩]
  /-- The call is made on the link. -/
  | made {link : Link} {result : Except Fault Resp} {called : Journal}
      (ho : c.Outcome b link request result called) :
      Attempted c b request (some link) result (⟨.link b, some link⟩ :: called)

theorem play_attempt (c : Call) (b : Backend) (request : Req) (w : World) (past : Journal) :
    (c.attempt b request : Handling Resp).run.play w past =
      match w past (.link b) with
      | none => (.error (.notConnected b.address), [⟨.link b, none⟩])
      | some link =>
        let called := (c.invokeOn b link request : Handling Resp).run.play w
          (past ++ [⟨.link b, some link⟩])
        (called.1, ⟨.link b, some link⟩ :: called.2) := by
  have looked := Activity.play_run_once (w := w) (.link b) past
  rw [attempt, Activity.play_run_bind, looked]
  cases w past (.link b) <;> rfl

variable (Resp) in
theorem Attempted.of_play (c : Call) (b : Backend) (request : Req) (w : World) (past : Journal) :
    let tried := (c.attempt b request : Handling Resp).run.play w past
    Attempted c b request (w past (.link b)) tried.1 tried.2 := by
  simp only [play_attempt]
  cases w past (.link b) with
  | none => exact .away
  | some link => exact .made (Outcome.of_play Resp c b link request w _)

/-- What a call to a runtime ends with, and what is done for it, by the link that is found. -/
inductive Invoked (c : Call) (b : Backend) (request : Req) :
    Option Link → Except Fault Resp → Journal → Prop where
  /-- There is no link. -/
  | away : Invoked c b request none (.error (.notConnected b.address)) [⟨.link b, none⟩]
  /-- The runtime answers. -/
  | answered {link : Link} {response : Resp} {called : Journal}
      (ho : c.Outcome b link request (.ok response) called) :
      Invoked c b request (some link) (.ok response) (⟨.link b, some link⟩ :: called)
  /-- The call fails. -/
  | failed {link : Link} {fault : Fault} {called : Journal}
      (ho : c.Outcome b link request (.error fault : Except Fault Resp) called) :
      Invoked c b request (some link) (.error (fault.report b.address))
        (⟨.link b, some link⟩ :: called ++ noticed b fault)

/-- The call that is sent to a runtime, by the link that is found: there must be one, and the runtime
must understand the request. -/
def due (c : Call) (request : Req) : Backend × Option Link → Option (Backend × Link × Rpc)
  | (b, some link) => if c.isServedOn link then some (b, link, c.rpc link request) else none
  | (_, none) => none

namespace Attempted

variable {link? : Option Link} {result : Except Fault Resp}

theorem visited (h : c.Attempted b request link? result deeds) : Journal.visited deeds = [] := by
  cases h with
  | away => rfl
  | made ho => exact ho.visited

theorem looked (h : c.Attempted b request link? result deeds) :
    Journal.looked deeds = [(b, link?)] := by
  cases h with
  | away => rfl
  | @made link _ called ho => exact congrArg ((b, some link) :: ·) ho.looked

theorem kicked (h : c.Attempted b request link? result deeds) : Journal.kicked deeds = [] := by
  cases h with
  | away => rfl
  | made ho => exact ho.kicked

theorem sent (h : c.Attempted b request link? result deeds) :
    Journal.sent deeds = (c.due request (b, link?)).toList := by
  cases h with
  | away => rfl
  | @made link _ called ho =>
    have sent : Journal.sent (⟨.link b, some link⟩ :: called) = Journal.sent called := rfl
    rw [sent, ho.sent, due]
    split <;> rfl

theorem reconnect_notMem (h : c.Attempted b request link? result deeds) (b' : Backend)
    (generation : Nat) : ⟨.reconnect b' generation, ()⟩ ∉ deeds := by
  cases h with
  | away => simp
  | made ho => simp [ho.reconnect_notMem b' generation]

end Attempted

/-- An attempt that fails is taken notice of. -/
theorem Attempted.failed {link? : Option Link} {fault : Fault}
    (h : c.Attempted b request link? (.error fault : Except Fault Resp) deeds) :
    c.Invoked b request link? (.error (fault.report b.address) : Except Fault Resp)
      (deeds ++ noticed b fault) := by
  cases h with
  | away => exact .away
  | made ho => exact .failed ho

theorem Attempted.answered {link? : Option Link} {response : Resp}
    (h : c.Attempted b request link? (.ok response) deeds) :
    c.Invoked b request link? (.ok response) deeds := by
  cases h with
  | made ho => exact .answered ho

variable (Resp) in
theorem Invoked.of_play (c : Call) (b : Backend) (request : Req) (w : World) (past : Journal) :
    let invoked := (c.invoke b request : Handling Resp).run.play w past
    Invoked c b request (w past (.link b)) invoked.1 invoked.2 := by
  have attempted := Attempted.of_play Resp c b request w past
  simp only [invoke, Activity.play_run_tryCatch]
  generalize (c.attempt b request : Handling Resp).run.play w past = tried at attempted
  obtain ⟨fault | response, deeds⟩ := tried
  · simp only [Activity.play_run_bind, Activity.play_run_lift, play_notice,
      Activity.play_run_throw, List.append_nil]
    exact attempted.failed
  · exact attempted.answered

/-- A call on a link ends well exactly if it has been sent and the answer to it is a response. -/
theorem Outcome.eq_ok_iff {link : Link} {result : Except Fault Resp}
    (h : c.Outcome b link request result deeds) (response : Resp) :
    result = .ok response ↔ ∃ link answer,
      ⟨.send b link (c.rpc link request), answer⟩ ∈ deeds ∧
        c.reading Resp link answer = .ok response := by
  cases h with
  | unserved => simp
  | @answered answer own hs hr =>
    constructor
    · rintro ⟨⟩
      exact ⟨link, answer, List.mem_singleton_self _, hr⟩
    · rintro ⟨link', answer', mem, read⟩
      cases List.mem_singleton.1 mem
      rw [hr] at read
      cases read
      rfl
  | @refused answer status hs hr =>
    simp only [reduceCtorEq, false_iff]
    rintro ⟨link', answer', mem, read⟩
    cases List.mem_singleton.1 mem
    rw [hr] at read
    cases read
  | replaced | lost =>
    simp only [reduceCtorEq, false_iff]
    rintro ⟨link', answer', mem, read⟩
    rcases List.mem_cons.1 mem with mem | mem
    · cases mem
      rw [reading_error] at read
      cases read
    · cases List.mem_singleton.1 mem

namespace Invoked

variable {link? : Option Link} {result : Except Fault Resp}

/-- A call is sent at most once: on the link, if the runtime understands the request. -/
theorem sent (h : c.Invoked b request link? result deeds) :
    Journal.sent deeds = link?.elim [] fun link =>
      if c.isServedOn link then [(b, link, c.rpc link request)] else [] := by
  cases h with
  | away => rfl
  | answered ho => exact ho.sent
  | @failed link fault called ho =>
    have noticed : Journal.sent (⟨.link b, some link⟩ :: called ++ noticed b fault) =
        Journal.sent called := by
      rw [Journal.sent_append, sent_noticed, List.append_nil]
      rfl
    rw [noticed]
    exact ho.sent

theorem kicked (h : c.Invoked b request link? result deeds) : Journal.kicked deeds = [] := by
  cases h with
  | away => rfl
  | answered ho => exact ho.kicked
  | @failed link fault called ho =>
    have noticed : Journal.kicked (⟨.link b, some link⟩ :: called ++ noticed b fault) =
        Journal.kicked called := by
      rw [Journal.kicked_append, kicked_noticed, List.append_nil]
      rfl
    rw [noticed]
    exact ho.kicked

/-- A call ends well exactly if it has been sent and the answer to it is a response. -/
theorem eq_ok_iff (h : c.Invoked b request link? result deeds) (response : Resp) :
    result = .ok response ↔ ∃ link answer,
      ⟨.send b link (c.rpc link request), answer⟩ ∈ deeds ∧
        c.reading Resp link answer = .ok response := by
  cases h with
  | away => simp
  | answered ho =>
    rw [ho.eq_ok_iff]
    refine exists₂_congr fun link answer => and_congr_left' ?_
    simp
  | failed ho =>
    simp only [reduceCtorEq, false_iff]
    rintro ⟨link, answer, mem, read⟩
    rcases List.mem_append.1 mem with mem | mem
    · rcases List.mem_cons.1 mem with mem | mem
      · cases mem
      · cases (ho.eq_ok_iff response).2 ⟨link, answer, mem, read⟩
    · cases (ho.lost_of_mem_noticed _ mem).1

end Invoked

end Call

end RuntimeMux
