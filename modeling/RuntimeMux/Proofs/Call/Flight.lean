import RuntimeMux.Call
import RuntimeMux.Cri.RuntimeInfo
import RuntimeMux.Proofs.Call.Course
import RuntimeMux.Proofs.Connection.Links

/-!
# Calls in flight

While a call is on its way, other calls come and go, attempts end, and the connection may be given up.
A call that finds the runtime unavailable is blamed on the connection exactly if its link is no longer
in use by then. Otherwise the link that it went out on is dropped, if it is still in use when notice
is taken of the fault.
-/

namespace RuntimeMux

open Cri Wire

namespace Course

variable {Req Resp : Type} {outside : (a : Act) → a.Answer} {b : Backend} {link : Link}

theorem carry_exchange [Message Req] [Message Resp] (c : Call) {status : Status}
    (answered : ∀ rpc, outside (.send b link rpc) = .error status) (request : Req) (s : Course) :
    s.carry outside (c.exchange b link request : Activity (Except Status Resp)) =
      (.error status, s.pass) := by
  have sent (rpc : Rpc) : perform outside (.send b link rpc) s = (.error status, s.pass) := by
    rw [← answered rpc]
    rfl
  rw [Call.exchange, carry_bind, carry_once, sent]
  rfl

theorem carry_run_settle {status : Status} (hs : status.code = .unavailable) (s : Course) :
    s.carry outside (Call.settle b link (.error status) : Handling Resp).run =
      (if s.pass.line.connection.generation = link.generation then
        .error (.rpc status link.generation)
      else .error (.staleConnection b.address), s.pass) := by
  have looked : s.carry outside (Handling.once (.generation b)).run =
      (.ok s.pass.line.connection.generation, s.pass) := rfl
  simp only [Call.settle, hs, if_true, carry_run_bind, looked]
  by_cases hg : s.pass.line.connection.generation = link.generation
  · simp [hg]
  · simp [hg]

section

variable [Message Req] [Message Resp] [Convertible Req] [Convertible Resp]

/-- A call that ends with an unavailable runtime. Two moments matter: the call ends by the first, and
its link is compared by the second. -/
theorem carry_run_invokeOn (c : Call) (request : Req) {status : Status}
    (hs : status.code = .unavailable)
    (answered : ∀ rpc, outside (.send b link rpc) = .error status)
    (compatible : c.revision.conversionTo link.revision ≠ .incompatible) (s : Course) :
    s.carry outside (c.invokeOn b link request : Handling Resp).run =
      (if s.pass.pass.line.connection.generation = link.generation then
        .error (.rpc status link.generation)
      else .error (.staleConnection b.address), s.pass.pass) := by
  cases hc : c.revision.conversionTo link.revision with
  | incompatible => exact absurd hc compatible
  | native =>
    rw [Call.invokeOn, hc]
    simp only [carry_run_bind, carry_run_lift, carry_exchange c answered]
    exact carry_run_settle hs s.pass
  | upgrade =>
    rw [Call.invokeOn, hc]
    simp only [carry_run_bind, carry_run_lift, carry_exchange c answered]
    exact carry_run_settle hs s.pass

/-- Notice of a fault is taken in the way of the line. -/
theorem carry_notice (fault : Fault) {generation : Nat} (hf : fault.lostLink? = some generation)
    (tolerant : Bool) (s : Course) :
    s.carry outside (Call.notice b fault) =
      ((), ⟨(s.pass.line.handleFault fault tolerant).1.1, s.pass.ahead⟩) := by
  have line : (s.pass.line.handleFault fault tolerant).1 = s.pass.line.reconnect generation := by
    simp [Line.handleFault, Connection.handleFault, hf, Line.reconnect]
  rw [line]
  simp only [Call.notice, hf]
  rfl

/-- A call that is made to the end: it looks up the link, goes out on it, and takes notice of what it
ends with. -/
theorem carry_run_invoke (c : Call) (request : Req) (s : Course)
    (used : s.pass.line.connection.link? = some link) :
    s.carry outside (c.invoke b request : Handling Resp).run =
      match s.pass.carry outside (c.invokeOn b link request : Handling Resp).run with
      | (.ok response, t) => (.ok response, t)
      | (.error fault, t) =>
        (.error (fault.report b.address), (t.carry outside (Call.notice b fault)).2) := by
  have looked : s.carry outside (Handling.once (.link b)).run = (.ok (some link), s.pass) := by
    rw [← used]
    rfl
  simp only [Call.invoke, Call.attempt, carry_run_bind, looked, carry_run_tryCatch, carry_run_lift]
  rfl

variable (Resp) in
/-- A call that goes out on a link which was in use at some point of a run, and ends with an
unavailable runtime while other events happen. If the link is still in use when the call compares it,
in which case it has been so all along, the call ends with the status and the generation of the link,
and otherwise the fault is that the connection has been replaced. The latter changes nothing when
notice is taken of it. The former, if the link is still in use by then, drops exactly the link, so
that one attempt is started, and the fault that the caller sees has the code of the status. Both is
what happens in a call that is made to the end. -/
theorem carry_unavailable (c : Call) (b : Backend) (request : Req) (outside : (a : Act) → a.Answer)
    (status : Status) (link : Link) (before early late : List LineEvent)
    (unavailable : status.code = .unavailable)
    (answered : ∀ rpc, outside (.send b link rpc) = .error status)
    (compatible : c.revision.conversionTo link.revision ≠ .incompatible)
    (used : ((Line.offline b.address).run before).1.connection.link? = some link) :
    let line := ((Line.offline b.address).run before).1
    let ended := (line.run (early ++ late)).1
    let flight : Except Fault Resp × Course :=
      Course.carry outside (c.invokeOn b link request).run ⟨line, [early, late]⟩
    let whole (gap : List LineEvent) : Except Fault Resp × Course :=
      Course.carry outside (c.invoke b request).run ⟨line, [[], early, late, gap]⟩
    (∀ other, ended.connection.link? = some other → other.generation = link.generation →
      other = link) ∧
    flight.2.line = ended ∧
    (flight.1 = .error (.staleConnection b.address) ↔ ended.connection.link? ≠ some link) ∧
    (flight.1 = .error (.rpc status link.generation) ↔ ended.connection.link? = some link) ∧
    (ended.connection.link? = some link → ∀ first rest, early ++ late = first ++ rest →
      (line.run first).1.connection.link? = some link) ∧
    (∀ gap tolerant,
      let later := (ended.run gap).1
      later.handleFault (.staleConnection b.address) tolerant =
        ((later, []), .error (.staleConnection b.address))) ∧
    (∀ gap tolerant,
      let later := (ended.run gap).1
      later.connection.link? = some link →
      later.handleFault (.rpc status link.generation) tolerant =
        (({ connection :=
              { later.connection with
                phase := .connecting
                link := none
                waiters := [.nobody]
                generation := link.generation + 2 }
            dials := later.dials + 1
            pending := later.pending ++ [⟨later.dials + 1, link.generation + 2⟩] }, []),
          if tolerant then .ok () else .error (.backend b.address status))) ∧
    (Fault.backend b.address status).code = .unavailable ∧
    (∀ gap, whole gap =
      if ended.connection.link? = some link then
        let taken := (ended.run gap).1.handleFault (.rpc status link.generation) false
        (.error (.backend b.address status), ⟨taken.1.1, []⟩)
      else (.error (.staleConnection b.address), ⟨ended, [gap]⟩)) := by
  intro line ended flight whole
  have sound : line.Sound := (Line.sound_offline b.address).run before
  have ended_sound : ended.Sound := sound.run (early ++ late)
  have address (gap : List LineEvent) : (ended.run gap).1.connection.address = b.address := by
    simp [ended, line, Line.offline, Connection.offline]
  have passed (rest : List (List LineEvent)) :
      (Course.mk line (early :: late :: rest)).pass.pass = ⟨ended, rest⟩ := by
    simp [pass, ended, Line.run_append]
  have flown (rest : List (List LineEvent)) :
      Course.carry outside (c.invokeOn b link request : Handling Resp).run
          ⟨line, early :: late :: rest⟩ =
        (if ended.connection.link? = some link then .error (.rpc status link.generation)
          else .error (.staleConnection b.address), ⟨ended, rest⟩) := by
    rw [carry_run_invokeOn c request unavailable answered compatible, passed]
    simp only [← sound.link?_run_iff used (early ++ late), ended]
  refine ⟨?_, ?_, ?_, ?_, ?_, ?_, ?_, unavailable, ?_⟩
  · intro other still same
    have current := ended_sound.generation_of_link? still
    have held := (sound.link?_run_iff used (early ++ late)).2 (current.symm.trans same)
    exact Option.some.inj (still.symm.trans held)
  · simp only [flight, flown]
  · by_cases held : ended.connection.link? = some link <;> simp [flight, flown, held]
  · by_cases held : ended.connection.link? = some link <;> simp [flight, flown, held]
  · intro still first rest split
    simp only [ended, split] at still
    exact sound.link?_run_of_append used still
  · intro gap tolerant later
    exact later.handleFault_stale b.address tolerant
  · intro gap tolerant later still
    rw [(ended_sound.run gap).handleFault_of_link? still unavailable, address gap]
  · intro gap
    have start : (Course.mk line [[], early, late, gap]).pass = ⟨line, [early, late, gap]⟩ := rfl
    have lost : (Fault.rpc status link.generation).lostLink? = some link.generation := by
      simp [Fault.lostLink?, unavailable]
    simp only [whole]
    rw [carry_run_invoke c request _ (by rw [start]; exact used), start, flown]
    by_cases held : ended.connection.link? = some link
    · simp only [held, if_true, carry_notice _ lost false]
      rfl
    · simp only [held, if_false]
      rfl

end

/-- The answers where every call is refused with a status. -/
def refusing (status : Status) : (a : Act) → a.Answer
  | .send _ _ _ => .error status
  | .await _ => .ok ()
  | .connected _ => false
  | .link _ | .nameOf _ => none
  | .generation _ => 0
  | .kick _ | .reconnect _ _ | .record _ _ | .forget _ | .forgetName _ => ()

/-- While a call is under way, another one fails on its link, and a new link is made. -/
theorem carry_unavailable_replaced :
    let b : Backend := ⟨.primary, "/run/alt.sock"⟩
    let c : Call := ⟨.version, .v1, none⟩
    let status : Status := ⟨.unavailable, "restarting"⟩
    let line := ((Line.offline b.address).run [.connect .nobody, .finish 1 (.ok .v1)]).1
    let early := [.fault (.rpc status 1) false]
    let late := [.finish 2 (.ok .v1)]
    let flight : Except Fault VersionResponse × Course :=
      Course.carry (refusing status) (c.invokeOn b ⟨.v1, 1⟩ (Message.blank : VersionRequest)).run
        ⟨line, [early, late]⟩
    status.code = .unavailable ∧
    (∀ rpc, refusing status (.send b ⟨.v1, 1⟩ rpc) = .error status) ∧
    c.revision.conversionTo .v1 ≠ .incompatible ∧
    line.connection.link? = some ⟨.v1, 1⟩ ∧
    (line.run (early ++ late)).1.connection.link? = some ⟨.v1, 3⟩ ∧
    flight.1 = .error (.staleConnection b.address) := by
  intro b c status line early late flight
  obtain ⟨-, -, stale, -⟩ := carry_unavailable VersionResponse c b
    (Message.blank : VersionRequest) (refusing status) status ⟨.v1, 1⟩
    [.connect .nobody, .finish 1 (.ok .v1)] early late rfl (fun _ => rfl) (by decide) (by decide)
  exact ⟨rfl, fun _ => rfl, by decide, by decide, by decide, stale.2 (by decide)⟩

end Course

end RuntimeMux
