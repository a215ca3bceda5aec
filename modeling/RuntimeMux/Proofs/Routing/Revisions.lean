import RuntimeMux.Exchange
import RuntimeMux.Proofs.Connection.Probes
import RuntimeMux.Proofs.Routing.Contacts

/-!
# Revisions of runtimes

The connection of a runtime can be replaced at any time, and the runtime may speak another revision
afterwards. Still every call is made in the revision that has been found out on the channel that it
is sent on: its path, its body and the way that the answer is read go together, whatever the caller
speaks.
-/

namespace RuntimeMux

open Cri Wire

/-- A world in which anything may have happened to the connections of the runtimes by the time of
each act. -/
def World.connected (w : World) (history : Journal → Backend → List LineEvent) : World
  | past, .connected b =>
    ((Line.offline b.address).run (history past b)).1.connection.isConnected
  | past, .link b => ((Line.offline b.address).run (history past b)).1.connection.link?
  | past, .generation b => ((Line.offline b.address).run (history past b)).1.connection.generation
  | past, a => w past a

/-- A type of messages, and how they are written and read. -/
def Wire.format (M : Type) [Message M] : (M : Type) × Message M :=
  ⟨M, inferInstance⟩

/-- Of two exchanges, one is the other in the current schema: requests are upgraded to its requests,
and responses are downgraded from its responses. -/
def Exchange.Upgrades : Exchange → Exchange → Prop
  | @routed Req Resp _ _ _ _ _ _ _ route, @routed Req' Resp' _ _ _ _ _ _ _ route' =>
    format (Convertible.Current Req) = format Req' ∧
      format (Convertible.Current Resp) = format Resp' ∧ route = route'
  | @listed Req Resp _ _ _ _ _ _, @listed Req' Resp' _ _ _ _ _ _ =>
    format (Convertible.Current Req) = format Req' ∧
      format (Convertible.Current Resp) = format Resp'
  | _, _ => False

/-- Every method has one exchange, in two schemas. -/
theorem Method.upgrades_exchange (m : Method) :
    (m.exchange .legacy).Upgrades (m.exchange .current) := by
  cases m with
  | listPodSandbox | listContainers | listContainerStats | listImages | imageFsInfo =>
    exact ⟨rfl, rfl⟩
  | _ => exact ⟨rfl, rfl, rfl⟩

namespace Router

variable {Req Resp : Type} [Message Req] [Message Resp] [Convertible Req] [Convertible Resp]

/-- How a call speaks to runtimes, in a world in which their connections have certain histories. -/
structure Speaks (r : Router) (c : Call) (aim : Handling (Req × Targets))
    (conclude : Targets → List (Contact Resp) → Except Fault Resp)
    (history : Journal → Backend → List LineEvent) (w : World) (past : Journal)
    (played : Except Fault Resp × Journal) : Prop where
  /-- While the request is aimed at runtimes, nothing is sent. -/
  silent : Journal.sent (aim.run.play w past).2 = []
  /-- Then each of these is contacted on the link that is found, by the schemas of the caller and of
  the link, and the caller gets what has been read of the answers. -/
  carried : r.Carried c aim conclude w past played.1 played.2
  /-- The revision of a link that is found is the one that has been found out on its own channel,
  whatever has happened to the connection by then. -/
  probed : ∀ (before : Journal) (b : Backend) (link : Link) (after : Journal),
    played.2 = before ++ ⟨.link b, some link⟩ :: after →
      Line.Probed b.address (history (past ++ before) b) link

theorem probed_of_play {α : Type} {t : Activity α} {w : World}
    {history : Journal → Backend → List LineEvent} {past before after : Journal} {b : Backend}
    {link : Link}
    (played : (t.play (w.connected history) past).2 = before ++ ⟨.link b, some link⟩ :: after) :
    Line.Probed b.address (history (past ++ before) b) link :=
  Line.probed_of_link? (Activity.answer_of_play played).symm

/-- Every call of every method is made by the revision that has been found out on the channel that
it is sent on, whatever the caller speaks, and whatever happens to the connections meanwhile. -/
theorem exchange_speaks (r : Router) (m : Method) (revision : Revision) (deadline : Option Span)
    (w : World) (history : Journal → Backend → List LineEvent) (past : Journal) :
    let c : Call := ⟨m, revision, deadline⟩
    let world := w.connected history
    (m.exchange .legacy).Upgrades (m.exchange .current) ∧
    match m.exchange revision.schema with
    | @Exchange.routed Req Resp _ _ _ _ _ _ _ route =>
      ∀ request : Req,
        r.Speaks c (r.aim route request) (r.concludeRoute route) history world past
          ((r.follow route c request : Handling Resp).run.play world past)
    | @Exchange.listed Req Resp _ _ _ _ _ _ =>
      ∀ request : Req,
        r.Speaks c (r.narrow request) concludeList history world past
          ((r.list c request : Handling Resp).run.play world past) := by
  intro c world
  refine ⟨m.upgrades_exchange, ?_⟩
  cases m.exchange revision.schema with
  | @routed Req Resp _ _ _ _ _ _ _ route =>
    intro request
    exact ⟨(r.silent_aim route request).sent_play past, r.carried_follow route c request world past,
      fun _ _ _ _ => probed_of_play⟩
  | @listed Req Resp =>
    intro request
    have silent := r.silent_narrowAll View.filters (request, .all)
    rw [← narrow_eq] at silent
    exact ⟨silent.sent_play past, carried_list Resp r c request world past,
      fun _ _ _ _ => probed_of_play⟩

/-- A runtime comes back with an older revision after it has been chosen and before it is called. -/
example :
    let primary : Backend := ⟨.primary, "/run/primary.sock"⟩
    let alt : Backend := ⟨.named ⟨"alt", by decide⟩, "/run/alt.sock"⟩
    let r : Router :=
      ⟨primary, [alt], ⟨"http", none, .plain "", none, none⟩, rfl, by decide, by decide⟩
    let made : List LineEvent := [.connect .nobody, .finish 1 (.ok .v1)]
    let remade : List LineEvent :=
      made ++ [.fault (.rpc ⟨.unavailable, ""⟩ 1) false, .finish 2 (.ok .v1alpha1)]
    let w := (World.steady (fun _ => none) fun _ _ => .ok []).connected fun past _ =>
      if past.length < 2 then made else remade
    let started := (r.follow .container ⟨.startContainer, .v1, none⟩
      (⟨"alt__c1"⟩ : StartContainerRequest) : Handling StartContainerResponse).run.play w []
    let misunderstood := match started.1 with
      | .error (.incompatibleRevision caller runtime) => some (caller, runtime)
      | _ => none
    Journal.visited started.2 = [(alt, true)] ∧
      Journal.looked started.2 = [(alt, some ⟨.v1alpha1, 3⟩)] ∧
      Journal.sent started.2 = [] ∧
      misunderstood = some (.v1, .v1alpha1) := by
  decide +kernel

end Router

end RuntimeMux
