import RuntimeMux.Call
import RuntimeMux.Proofs.Call.Journal
import RuntimeMux.Proofs.Wire.Legible

/-!
# Outcomes of calls

All that can become of a call on a link is one of five outcomes: the runtime does not understand the
request, or it answers, or it fails in one of three ways. The request is sent at most once, and what
is asked of the connection afterwards is about this runtime only. Laws about calls are proved by
cases on the outcome.
-/

namespace RuntimeMux

open Cri Wire

variable {Req Resp : Type}

namespace Call

/-- Whether the runtime at the other end of a link understands the requests of a caller. -/
def isServedOn (c : Call) (link : Link) : Bool :=
  c.revision.conversionTo link.revision ≠ .incompatible

/-- A call as it is sent on a link. -/
def rpc [Message Req] [Convertible Req] (c : Call) (link : Link) (request : Req) : Rpc where
  path := c.method.path link.revision
  body :=
    match c.revision.conversionTo link.revision with
    | .upgrade => Message.encode (Convertible.upgrade request)
    | .native | .incompatible => Message.encode request
  deadline := c.deadline

/-- What a caller gets of what a runtime answers on a link. -/
def reading (c : Call) (Resp : Type) [Message Resp] [Convertible Resp] (link : Link)
    (answer : Except Status Bytes) : Except Status Resp :=
  match c.revision.conversionTo link.revision with
  | .upgrade =>
    (Response.message answer : Except Status (Convertible.Current Resp)).map Convertible.downgrade
  | .native | .incompatible => Response.message answer

variable {w : World} {b : Backend} {link : Link} {status : Status}

/-- A request that the schemas agree on is sent as it is. -/
theorem rpc_of_encode_upgrade [Message Req] [Convertible Req] (c : Call) (link : Link)
    {request : Req} (same : Message.encode (Convertible.upgrade request) = Message.encode request) :
    c.rpc link request = ⟨c.method.path link.revision, Message.encode request, c.deadline⟩ := by
  rw [rpc]
  cases c.revision.conversionTo link.revision <;> simp [same]

theorem reading_error [Message Resp] [Convertible Resp] (c : Call) (link : Link)
    (status : Status) : c.reading Resp link (.error status) = .error status := by
  rw [reading]
  cases c.revision.conversionTo link.revision <;> rfl

/-- A response that the schemas agree on is read as it is. -/
theorem reading_unconverted [Message Resp] (c : Call) (link : Link)
    (answer : Except Status Bytes) :
    @reading c Resp _ unconverted link answer = Response.message answer := by
  rw [reading]
  cases c.revision.conversionTo link.revision with
  | native | incompatible => rfl
  | upgrade => cases (Response.message answer : Except Status Resp) <;> rfl

/-- Such a response is read as it was written. -/
theorem reading_encode [Message Resp] [Legible Resp] (c : Call) (link : Link) {response : Resp}
    (short : (Message.encode response).length < UInt64.size) :
    @reading c Resp _ unconverted link (.ok (Message.encode response)) = .ok response := by
  rw [reading_unconverted, Response.message,
    Legible.decode_eq_ok (Message.spells_encode response) short]

/-- If a runtime is read as unavailable, it has said so. -/
theorem answer_of_reading [Message Resp] [Convertible Resp] {c : Call}
    {answer : Except Status Bytes} (h : c.reading Resp link answer = .error status)
    (unavailable : status.code = .unavailable) : answer = .error status := by
  have message {M : Type} [Message M] (h : (Response.message answer : Except Status M) =
      .error status) : answer = .error status := by
    cases answer with
    | error other =>
      simp only [Response.message, Except.error.injEq] at h
      rw [h]
    | ok body =>
      simp only [Response.message] at h
      split at h
      · cases h
      · -- bytes that are no message are an internal error
        cases h
        simp at unavailable
  simp only [reading] at h
  split at h
  · cases hm : (Response.message answer : Except Status (Convertible.Current Resp)) with
    | ok m => simp [hm, Except.map] at h
    | error other =>
      simp only [hm, Except.map, Except.error.injEq] at h
      exact message (hm.trans (congrArg _ h))
  · exact message h
  · exact message h

theorem play_settle_error (status : Status) (past : Journal) :
    (settle b link (.error status) : Handling Resp).run.play w past =
      if status.code = .unavailable then
        (if w past (.generation b) = link.generation then .error (.rpc status link.generation)
          else .error (.staleConnection b.address),
          [⟨.generation b, w past (.generation b)⟩])
      else (.error (.rpc status link.generation), []) := by
  have looked := Activity.play_run_once (w := w) (.generation b) past
  by_cases hs : status.code = .unavailable
  · simp only [settle, hs, if_true, Activity.play_run_bind, looked]
    by_cases hg : w past (.generation b) = link.generation
    · simp [hg]
    · simp [hg]
  · simp [settle, hs]

theorem play_exchange [Message Req] [Message Resp] (c : Call) (request : Req) (past : Journal) :
    let rpc : Rpc := ⟨c.method.path link.revision, Message.encode request, c.deadline⟩
    (c.exchange b link request : Activity (Except Status Resp)).play w past =
      (Response.message (w past (.send b link rpc)),
        [⟨.send b link rpc, w past (.send b link rpc)⟩]) := rfl

section

variable [Message Req] [Message Resp] [Convertible Req] [Convertible Resp]

/-- A call on a link is sent if the runtime understands it, and the answer is read. -/
theorem play_invokeOn (c : Call) (b : Backend) (link : Link) (request : Req) (past : Journal) :
    (c.invokeOn b link request : Handling Resp).run.play w past =
      if c.isServedOn link then
        let answer := w past (.send b link (c.rpc link request))
        let sent : Deed := ⟨.send b link (c.rpc link request), answer⟩
        let settled :=
          (settle b link (c.reading Resp link answer)).run.play w (past ++ [sent])
        (settled.1, sent :: settled.2)
      else (.error (.incompatibleRevision c.revision link.revision), []) := by
  cases hc : c.revision.conversionTo link.revision with
  | incompatible => simp [invokeOn, isServedOn, hc]
  | native =>
    have sent : c.rpc link request =
        ⟨c.method.path link.revision, Message.encode request, c.deadline⟩ := by simp [rpc, hc]
    rw [invokeOn, hc, sent]
    simp only [Activity.play_run_bind, Activity.play_run_lift, play_exchange]
    simp [isServedOn, reading, hc]
  | upgrade =>
    have sent : c.rpc link request = ⟨c.method.path link.revision,
        Message.encode (Convertible.upgrade request), c.deadline⟩ := by simp [rpc, hc]
    rw [invokeOn, hc, sent]
    simp only [Activity.play_run_bind, Activity.play_run_lift, play_exchange]
    simp [isServedOn, reading, hc]

/-- What a call on a link ends with, and what is done for it. -/
inductive Outcome (c : Call) (b : Backend) (link : Link) (request : Req) :
    Except Fault Resp → Journal → Prop where
  /-- The runtime does not understand the request. -/
  | unserved (hs : c.isServedOn link = false) :
      Outcome c b link request (.error (.incompatibleRevision c.revision link.revision)) []
  /-- The runtime answers. -/
  | answered {answer : Except Status Bytes} {response : Resp} (hs : c.isServedOn link = true)
      (hr : c.reading Resp link answer = .ok response) :
      Outcome c b link request (.ok response) [⟨.send b link (c.rpc link request), answer⟩]
  /-- The runtime fails, but it is there. -/
  | refused {answer : Except Status Bytes} {status : Status} (hs : c.isServedOn link = true)
      (hr : c.reading Resp link answer = .error status) (available : status.code ≠ .unavailable) :
      Outcome c b link request (.error (.rpc status link.generation))
        [⟨.send b link (c.rpc link request), answer⟩]
  /-- The runtime is found unavailable on a link that has been replaced. -/
  | replaced {status : Status} {generation : Nat} (hs : c.isServedOn link = true)
      (unavailable : status.code = .unavailable) (hg : generation ≠ link.generation) :
      Outcome c b link request (.error (.staleConnection b.address))
        [⟨.send b link (c.rpc link request), .error status⟩, ⟨.generation b, generation⟩]
  /-- The runtime is found unavailable. -/
  | lost {status : Status} (hs : c.isServedOn link = true)
      (unavailable : status.code = .unavailable) :
      Outcome c b link request (.error (.rpc status link.generation))
        [⟨.send b link (c.rpc link request), .error status⟩, ⟨.generation b, link.generation⟩]

variable (Resp) in
/-- A call on a link has one of the outcomes. -/
theorem Outcome.of_play (c : Call) (b : Backend) (link : Link) (request : Req) (w : World)
    (past : Journal) :
    let called := (c.invokeOn b link request : Handling Resp).run.play w past
    Outcome c b link request called.1 called.2 := by
  intro called
  simp only [called, play_invokeOn]
  cases hs : c.isServedOn link with
  | false => exact .unserved hs
  | true =>
    generalize w past (.send b link (c.rpc link request)) = answer
    cases hr : c.reading Resp link answer with
    | ok response => exact .answered hs hr
    | error status =>
      simp only [if_true, play_settle_error]
      by_cases hu : status.code = .unavailable
      · obtain rfl : answer = .error status := answer_of_reading hr hu
        rw [if_pos hu]
        split
        next hg =>
          rw [hg]
          exact .lost hs hu
        next hg => exact .replaced hs hu hg
      · rw [if_neg hu]
        exact .refused hs hr hu

namespace Outcome

variable {c : Call} {request : Req} {result : Except Fault Resp} {called : Journal}

theorem visited (h : c.Outcome b link request result called) : Journal.visited called = [] := by
  cases h <;> rfl

theorem looked (h : c.Outcome b link request result called) : Journal.looked called = [] := by
  cases h <;> rfl

theorem kicked (h : c.Outcome b link request result called) : Journal.kicked called = [] := by
  cases h <;> rfl

theorem sent (h : c.Outcome b link request result called) :
    Journal.sent called = if c.isServedOn link then [(b, link, c.rpc link request)] else [] := by
  cases h with
  | unserved hs => simp [hs, Journal.sent]
  | answered hs | refused hs | replaced hs | lost hs => simp [hs, Journal.sent, Deed.sent?]

/-- No connection is given up before the outcome is known. -/
theorem reconnect_notMem (h : c.Outcome b link request result called) (b' : Backend)
    (generation : Nat) : ⟨.reconnect b' generation, ()⟩ ∉ called := by
  cases h <;> simp

end Outcome

end

/-- Notice that is taken of a fault. -/
def noticed (b : Backend) (fault : Fault) : Journal :=
  (fault.lostLink?.map fun generation => ⟨.reconnect b generation, ()⟩).toList

theorem play_notice (b : Backend) (fault : Fault) (past : Journal) :
    (notice b fault).play w past = ((), noticed b fault) := by
  rw [notice, noticed]
  cases fault.lostLink? <;> rfl

/-- Whoever does not look for connections that are given up sees nothing of a notice. -/
theorem filterMap_noticed {α : Type} (b : Backend) (fault : Fault) {seen : Deed → Option α}
    (blind : ∀ generation, seen ⟨.reconnect b generation, ()⟩ = none) :
    (noticed b fault).filterMap seen = [] := by
  rw [noticed]
  cases fault.lostLink? with
  | none => rfl
  | some generation => exact List.filterMap_cons_none (blind generation)

theorem sent_noticed (b : Backend) (fault : Fault) : Journal.sent (noticed b fault) = [] :=
  filterMap_noticed b fault fun _ => rfl

theorem kicked_noticed (b : Backend) (fault : Fault) : Journal.kicked (noticed b fault) = [] :=
  filterMap_noticed b fault fun _ => rfl

/-- A connection is given up only if the runtime was found unavailable on it. -/
theorem Outcome.lost_of_mem_noticed [Message Req] [Message Resp] [Convertible Req]
    [Convertible Resp] {c : Call} {request : Req} {fault : Fault} {called : Journal}
    (h : c.Outcome b link request (.error fault : Except Fault Resp) called) :
    ∀ d ∈ noticed b fault, d = ⟨.reconnect b link.generation, ()⟩ ∧
      ∃ status, ⟨.send b link (c.rpc link request), .error status⟩ ∈ called ∧
        status.code = .unavailable := by
  cases h with
  | unserved | replaced => simp [noticed, Fault.lostLink?]
  | refused _ _ available => simp [noticed, Fault.lostLink?, available]
  | lost _ unavailable => simp [noticed, Fault.lostLink?, unavailable]

end Call

end RuntimeMux
