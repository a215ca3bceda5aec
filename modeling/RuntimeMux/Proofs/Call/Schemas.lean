import RuntimeMux.Proofs.Call.Invocation

/-!
# Calls by schemas

What a call looks like on a link depends on the schemas at its two ends only. If it is one schema,
the request is sent itself and the answer is read as a response of it. A caller of the legacy
schema is understood by a runtime of the current one: the request is upgraded, the answer is read
in the schema of the runtime, and the response is downgraded. A caller of the current schema is not
understood by a runtime of the legacy one, so nothing is sent. The path is always one in the
revision of the link.
-/

namespace RuntimeMux

open Cri Wire

namespace Revision

variable {r backend : Revision}

theorem conversionTo_eq_native_iff :
    r.conversionTo backend = .native ↔ r.schema = backend.schema := by
  cases r <;> cases backend <;> decide

theorem conversionTo_eq_upgrade_iff :
    r.conversionTo backend = .upgrade ↔ r.schema = .legacy ∧ backend.schema = .current := by
  cases r <;> cases backend <;> decide

theorem conversionTo_eq_incompatible_iff :
    r.conversionTo backend = .incompatible ↔ r.schema = .current ∧ backend.schema = .legacy := by
  cases r <;> cases backend <;> decide

end Revision

namespace Call

variable {Req Resp : Type} {c : Call} {b : Backend} {link : Link}

/-- What a call that has been sent on a link ends with, by what has been read of the answer. -/
inductive Settled (b : Backend) (link : Link) :
    Except Status Resp → Except Fault Resp → Journal → Prop where
  /-- The runtime has answered. -/
  | answered (response : Resp) : Settled b link (.ok response) (.ok response) []
  /-- The runtime has failed, but it is there. -/
  | refused {status : Status} (available : status.code ≠ .unavailable) :
      Settled b link (.error status) (.error (.rpc status link.generation)) []
  /-- The runtime is unavailable on a link that has been replaced. -/
  | replaced {status : Status} {generation : Nat} (unavailable : status.code = .unavailable)
      (hg : generation ≠ link.generation) :
      Settled b link (.error status) (.error (.staleConnection b.address))
        [⟨.generation b, generation⟩]
  /-- The runtime is unavailable. -/
  | lost {status : Status} (unavailable : status.code = .unavailable) :
      Settled b link (.error status) (.error (.rpc status link.generation))
        [⟨.generation b, link.generation⟩]

/-- What a call on a link ends with, and what is done for it, by the schemas of its two ends. -/
inductive Spoken [Message Req] [Message Resp] [Convertible Req] [Convertible Resp] (c : Call)
    (b : Backend) (link : Link) (given : Req) : Except Fault Resp → Journal → Prop where
  /-- Both ends have one schema. -/
  | shared {answer : Except Status Bytes} {result : Except Fault Resp} {rest : Journal}
      (same : c.revision.schema = link.revision.schema)
      (settled : Settled b link (Response.message answer : Except Status Resp) result rest) :
      Spoken c b link given result
        (⟨.send b link ⟨c.method.path link.revision, Message.encode given, c.deadline⟩, answer⟩
          :: rest)
  /-- The caller is of the legacy schema, and the runtime of the current one. -/
  | upgraded {answer : Except Status Bytes} {result : Except Fault Resp} {rest : Journal}
      (caller : c.revision.schema = .legacy) (runtime : link.revision.schema = .current)
      (settled : Settled b link
        ((Response.message answer : Except Status (Convertible.Current Resp)).map
          Convertible.downgrade) result rest) :
      Spoken c b link given result
        (⟨.send b link ⟨c.method.path link.revision,
          Message.encode (Convertible.upgrade given), c.deadline⟩, answer⟩ :: rest)
  /-- The caller is of the current schema, and the runtime of the legacy one. -/
  | incompatible (caller : c.revision.schema = .current)
      (runtime : link.revision.schema = .legacy) :
      Spoken c b link given (.error (.incompatibleRevision c.revision link.revision)) []

variable [Message Req] [Message Resp] [Convertible Req] [Convertible Resp] {given : Req}
  {result : Except Fault Resp} {called : Journal}

theorem Outcome.settled (h : c.Outcome b link given result called)
    (served : c.isServedOn link = true) :
    ∃ answer rest, called = ⟨.send b link (c.rpc link given), answer⟩ :: rest ∧
      Settled b link (c.reading Resp link answer) result rest := by
  have unread (status : Status) : (.error status : Except Status Resp) =
      c.reading Resp link (.error status) := (c.reading_error link status).symm
  cases h with
  | unserved hs => cases hs.symm.trans served
  | @answered answer response _ hr => exact ⟨answer, [], rfl, hr ▸ .answered response⟩
  | @refused answer _ _ hr available => exact ⟨answer, [], rfl, hr ▸ .refused available⟩
  | replaced _ unavailable hg => exact ⟨_, _, rfl, unread _ ▸ .replaced unavailable hg⟩
  | lost _ unavailable => exact ⟨_, _, rfl, unread _ ▸ .lost unavailable⟩

/-- The outcome of a call is one by the schemas. -/
theorem Outcome.spoken (h : c.Outcome b link given result called) :
    c.Spoken b link given result called := by
  cases conv : c.revision.conversionTo link.revision with
  | native =>
    obtain ⟨answer, rest, rfl, read⟩ := h.settled (by simp [isServedOn, conv])
    have sent : c.rpc link given =
        ⟨c.method.path link.revision, Message.encode given, c.deadline⟩ := by simp [rpc, conv]
    simp only [reading, conv] at read
    rw [sent]
    exact .shared (Revision.conversionTo_eq_native_iff.1 conv) read
  | upgrade =>
    obtain ⟨answer, rest, rfl, read⟩ := h.settled (by simp [isServedOn, conv])
    obtain ⟨caller, runtime⟩ := Revision.conversionTo_eq_upgrade_iff.1 conv
    have sent : c.rpc link given = ⟨c.method.path link.revision,
        Message.encode (Convertible.upgrade given), c.deadline⟩ := by simp [rpc, conv]
    simp only [reading, conv] at read
    rw [sent]
    exact .upgraded caller runtime read
  | incompatible =>
    obtain ⟨caller, runtime⟩ := Revision.conversionTo_eq_incompatible_iff.1 conv
    cases h with
    | unserved => exact .incompatible caller runtime
    | answered hs | refused hs | replaced hs | lost hs => simp [isServedOn, conv] at hs

end Call

end RuntimeMux
