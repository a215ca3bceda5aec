import RuntimeMux.Proofs.Call.Invocation
import RuntimeMux.Proofs.Results
import RuntimeMux.Proofs.Routing.Ready
import RuntimeMux.Routing.Single

/-!
# Delivery to one runtime

A request about one object takes three steps. The runtime of the object is made ready, the request is
admitted or refused, and what has been admitted is sent. Whatever the world answers, it goes in one of
three ways, and no other runtime has a part in it: a runtime that is away is not stood in for.
-/

namespace RuntimeMux.Router

open Cri Wire

variable {Req Resp : Type} [Message Req] [Message Resp] [Convertible Req] [Convertible Resp]
  [Views Resp] [Scoped Resp]

/-- Makes a runtime ready and sends it a request that has been admitted. -/
def deliver (r : Router) (b : Backend) (c : Call) (admitted : Except Fault Req) :
    Handling Resp := do
  ready b
  match admitted with
  | .error fault => throw fault
  | .ok given => return r.present b (← c.invoke b given)

variable {r : Router} {b : Backend} {c : Call} {admitted : Except Fault Req} {w : World}
  {past : Journal}

/-- What a delivery ends with, and what is done for it. -/
inductive Delivered (r : Router) (b : Backend) (c : Call) (admitted : Except Fault Req) (w : World)
    (past : Journal) : Except Fault Resp → Journal → Prop where
  /-- The runtime does not get ready. -/
  | unready {fault : Fault} {deeds : Journal}
      (hr : (ready b).run.play w past = (.error fault, deeds)) :
      Delivered r b c admitted w past (.error fault) deeds
  /-- The runtime is ready, but the request is refused. -/
  | refused {fault : Fault} {deeds : Journal} (hr : (ready b).run.play w past = (.ok (), deeds))
      (ha : admitted = .error fault) : Delivered r b c admitted w past (.error fault) deeds
  /-- The runtime is ready, and called with what has been admitted. -/
  | invoked {given : Req} {result : Except Fault Resp} {readied called : Journal}
      (hr : (ready b).run.play w past = (.ok (), readied)) (ha : admitted = .ok given)
      (hi : c.Invoked b given (w (past ++ readied) (.link b)) result called) :
      Delivered r b c admitted w past (result.map (r.present b)) (readied ++ called)

variable (Resp) in
theorem Delivered.of_play (r : Router) (b : Backend) (c : Call) (admitted : Except Fault Req)
    (w : World) (past : Journal) :
    let played := (r.deliver b c admitted : Handling Resp).run.play w past
    r.Delivered b c admitted w past played.1 played.2 := by
  unfold deliver
  rw [Activity.play_run_bind]
  cases hr : (ready b).run.play w past with
  | mk readied deeds =>
    cases readied with
    | error fault => exact .unready hr
    | ok ready =>
      cases ha : admitted with
      | error fault =>
        simp only [Activity.play_run_throw, List.append_nil]
        exact .refused hr rfl
      | ok given =>
        have invoked := Call.Invoked.of_play Resp c b given w (past ++ deeds)
        simp only [bind_pure_comp, ExceptT.run_map, Activity.play_map]
        exact .invoked hr rfl invoked

namespace Delivered

variable {result : Except Fault Resp} {deeds readied : Journal} {given : Req} {fault : Fault}

theorem once (h : r.Delivered b c admitted w past result deeds) :
    Journal.sent deeds = [] ∨
      ∃ given link, admitted = .ok given ∧ Journal.sent deeds = [(b, link, c.rpc link given)] := by
  cases h with
  | unready hr | refused hr => exact Or.inl (sent_of_play_ready hr)
  | @invoked given _ readied called hr ha hi =>
    -- to make the runtime ready sends nothing, so all that is sent is the call
    have sent := hi.sent
    rw [Journal.sent_append, sent_of_play_ready hr, List.nil_append, sent]
    cases w (past ++ readied) (.link b) with
    | none => exact Or.inl rfl
    | some link =>
      by_cases served : c.isServedOn link
      · exact Or.inr ⟨given, link, ha, if_pos served⟩
      · exact Or.inl (if_neg served)

theorem due (h : r.Delivered b c admitted w past result deeds)
    (hr : (ready b).run.play w past = (.ok (), readied)) (ha : admitted = .ok given) {link : Link}
    (hl : w (past ++ readied) (.link b) = some link) (served : c.isServedOn link = true) :
    Journal.sent deeds = [(b, link, c.rpc link given)] := by
  cases h with
  | unready hr' => cases hr.symm.trans hr'
  | refused _ ha' => cases ha.symm.trans ha'
  | invoked hr' ha' hi =>
    cases hr.symm.trans hr'
    cases ha.symm.trans ha'
    rw [Journal.sent_append, sent_of_play_ready hr, List.nil_append, hi.sent, hl]
    exact if_pos served

/-- The caller gets a response exactly if the runtime has answered with one, as callers see it. -/
theorem eq_ok_iff (h : r.Delivered b c admitted w past result deeds) (response : Resp) :
    result = .ok response ↔ ∃ given link answer own,
      admitted = .ok given ∧ ⟨.send b link (c.rpc link given), answer⟩ ∈ deeds ∧
        c.reading Resp link answer = .ok own ∧ response = r.present b own := by
  have unsent {readied : Journal} (silent : Journal.sent readied = []) {link : Link} {rpc : Rpc}
      {answer : Except Status Bytes} : ⟨.send b link rpc, answer⟩ ∉ readied := by
    intro mem
    simpa [silent] using Journal.mem_sent mem
  cases h with
  | unready hr =>
    simp only [reduceCtorEq, false_iff]
    rintro ⟨given, link, answer, own, -, mem, -⟩
    exact unsent (sent_of_play_ready hr) mem
  | refused _ ha => simp [ha]
  | @invoked given own readied called hr ha hi =>
    constructor
    · intro ended
      obtain ⟨own, rfl, rfl⟩ := map_eq_ok_iff.1 ended
      obtain ⟨link, answer, mem, read⟩ := (hi.eq_ok_iff own).1 rfl
      exact ⟨given, link, answer, own, ha, List.mem_append_right _ mem, read, rfl⟩
    · rintro ⟨given', link, answer, x, ha', mem, read, rfl⟩
      cases ha.symm.trans ha'
      -- the answer is one to the call, since nothing has been sent before
      have called := (List.mem_append.1 mem).resolve_left (unsent (sent_of_play_ready hr))
      rw [(hi.eq_ok_iff x).2 ⟨link, answer, called, read⟩]
      rfl

theorem of_unready (h : r.Delivered b c admitted w past result deeds)
    (hr : (ready b).run.play w past = (.error fault, readied)) :
    result = .error fault ∧ deeds = readied := by
  cases h with
  | unready hr' =>
    cases hr.symm.trans hr'
    exact ⟨rfl, rfl⟩
  | refused hr' | invoked hr' => cases hr.symm.trans hr'

theorem of_refused (h : r.Delivered b c admitted w past result deeds)
    (hr : (ready b).run.play w past = (.ok (), readied)) (ha : admitted = .error fault) :
    result = .error fault ∧ deeds = readied := by
  cases h with
  | unready hr' => cases hr.symm.trans hr'
  | refused hr' ha' =>
    cases hr.symm.trans hr'
    cases ha.symm.trans ha'
    exact ⟨rfl, rfl⟩
  | invoked _ ha' => cases ha.symm.trans ha'

end Delivered

variable (Resp) in
/-- Whatever is done for a delivery is about the runtime. -/
theorem within_deliver (r : Router) (b : Backend) (c : Call) (admitted : Except Fault Req) :
    (r.deliver b c admitted : Handling Resp).run.Within fun a => a.backend? = some b := by
  refine .run_bind (within_ready b) fun _ => ?_
  cases admitted with
  | error fault => trivial
  | ok given => exact .run_bind (Call.within_invoke c b given) fun _ => trivial

/-- What a caller can rely on when a request goes to one runtime, whatever becomes of it. -/
structure Delivers (r : Router) (b : Backend) (c : Call) (admitted : Except Fault Req)
    (handling : Handling Resp) (w : World) (past : Journal) : Prop where
  /-- At most one call is sent: to the runtime, with what has been admitted. -/
  once :
    let deeds := (handling.run.play w past).2
    Journal.sent deeds = [] ∨
      ∃ given link, admitted = .ok given ∧ Journal.sent deeds = [(b, link, c.rpc link given)]
  /-- It is sent if the runtime is ready and understands it. -/
  due : ∀ readied given link, (ready b).run.play w past = (.ok (), readied) →
    admitted = .ok given → w (past ++ readied) (.link b) = some link →
    c.isServedOn link = true →
    Journal.sent (handling.run.play w past).2 = [(b, link, c.rpc link given)]
  /-- The caller gets what the runtime has answered, as callers see it. -/
  answered : ∀ response, (handling.run.play w past).1 = .ok response ↔
    ∃ given link answer own, admitted = .ok given ∧
      ⟨.send b link (c.rpc link given), answer⟩ ∈ (handling.run.play w past).2 ∧
      c.reading Resp link answer = .ok own ∧ response = r.present b own
  /-- A named runtime that is not connected is asked for its connection. The caller does not wait for
  it, and nothing is sent. -/
  away : b.isPrimary = false → w (past ++ [⟨.kick b, ()⟩]) (.connected b) = false →
    handling.run.play w past =
      (.error (.targetUnavailable b.scope.id), [⟨.kick b, ()⟩, ⟨.connected b, false⟩])
  /-- The primary runtime is waited for, and nothing is sent if it does not connect. -/
  unawaited : b.isPrimary = true → ∀ fault, w past (.await b) = .error fault →
    handling.run.play w past = (.error fault, [⟨.await b, .error fault⟩])
  /-- A request that is refused is refused as soon as the runtime is ready. -/
  refused : ∀ readied fault, (ready b).run.play w past = (.ok (), readied) →
    admitted = .error fault →
    handling.run.play w past = (.error fault, readied) ∧ Journal.sent readied = []
  /-- No other runtime is looked at, nor the names of images. -/
  alone : ∀ d ∈ (handling.run.play w past).2, d.act.backend? = some b
  /-- Nothing depends on them. -/
  isolated : ∀ w' : World, (∀ past a, a.backend? = some b → w' past a = w past a) →
    handling.run.play w' past = handling.run.play w past

variable (Resp) in
/-- A delivery is made to one runtime, and only to this one. -/
theorem delivers_deliver (r : Router) (b : Backend) (c : Call) (admitted : Except Fault Req)
    (w : World) (past : Journal) :
    r.Delivers b c admitted (r.deliver b c admitted : Handling Resp) w past := by
  have delivered := Delivered.of_play Resp r b c admitted w past
  have within := within_deliver Resp r b c admitted
  constructor
  case once => exact delivered.once
  case due => exact fun _ _ _ hr ha => delivered.due hr ha
  case answered => exact delivered.eq_ok_iff
  case away =>
    intro hb hl
    obtain ⟨ended, done⟩ := delivered.of_unready (play_ready_of_away hb hl)
    exact Prod.ext ended done
  case unawaited =>
    intro hb fault failed
    have unready := play_ready_primary hb w past
    rw [failed] at unready
    obtain ⟨ended, done⟩ := delivered.of_unready unready
    exact Prod.ext ended done
  case refused =>
    intro readied fault hr ha
    obtain ⟨ended, done⟩ := delivered.of_refused hr ha
    exact ⟨Prod.ext ended done, sent_of_play_ready hr⟩
  case alone => exact within.act_mem_play w past
  case isolated => exact fun w' agree => within.play_congr agree past

end RuntimeMux.Router
