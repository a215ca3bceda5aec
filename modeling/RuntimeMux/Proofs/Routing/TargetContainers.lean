import RuntimeMux.Proofs.Router.Owner
import RuntimeMux.Proofs.Routing.NewContainers

/-!
# Containers that new ones join

A new container may join the process namespace of another container, its target, which its security
settings name by an id. The runtime is told its own names of the pod sandbox and of the image. The
target it is told in the words of the caller, with the qualifier in front of the id that the caller has
seen. So only the primary runtime knows the target. A caller of the legacy schema tells none.
-/

namespace RuntimeMux

open Cri Wire

/-- Callers see an object by its own id only if it belongs to the primary runtime. -/
theorem Scope.qualifyId_eq_self_iff {s : Scope} {object : String} :
    s.qualifyId object = object ↔ s = .primary := by
  cases s with
  | primary => exact iff_of_true rfl rfl
  | named id =>
    refine iff_of_false ?_ nofun
    intro same
    have lengths := congrArg String.length same
    have separator : "__".length = 2 := rfl
    simp only [qualifyId, String.length_append] at lengths
    omega

/-! ### Targets -/

namespace Cri

/-- The id of the container that a new one is to join. -/
def CreateContainerRequest.target : Slot CreateContainerRequest :=
  .inside (·.config) (fun x m => { m with config := x })
    (.inside (·.linux) (fun x m => { m with linux := x })
      (.inside (·.securityContext) (fun x m => { m with securityContext := x })
        (.inside (·.namespaceOptions) (fun x m => { m with namespaceOptions := x })
          (.field (·.targetId) fun x m => { m with targetId := x }))))

theorem CreateContainerRequest.get?_target_under (m : CreateContainerRequest) (own image : String) :
    target.get? (m.under own image) = target.get? m := by
  obtain ⟨podSandboxId, _ | config, sandboxConfig⟩ := m <;> rfl

namespace Legacy.CreateContainerRequest

/-- The target that a request is upgraded with. -/
def target? (m : Legacy.CreateContainerRequest) : Option String :=
  CreateContainerRequest.target.get? m.upgrade

theorem target?_under (m : Legacy.CreateContainerRequest) (own image : String) :
    (m.under own image).target? = m.target? := by
  rw [target?, upgrade_under, CreateContainerRequest.get?_target_under]
  rfl

/-- The legacy schema has no targets, and a request is upgraded with the empty one. -/
theorem eq_empty_of_target? {m : Legacy.CreateContainerRequest} {id : String}
    (told : m.target? = some id) : id = "" := by
  simp only [target?, CreateContainerRequest.target, Slot.inside, Slot.field,
    Option.bind_eq_some_iff] at told
  obtain ⟨_, config, _, linux, _, securityContext, _, namespaceOptions, told⟩ := told
  obtain ⟨_, -, rfl⟩ := Option.map_eq_some_iff.1 config
  obtain ⟨_, -, rfl⟩ := Option.map_eq_some_iff.1 linux
  obtain ⟨_, -, rfl⟩ := Option.map_eq_some_iff.1 securityContext
  obtain ⟨_, -, rfl⟩ := Option.map_eq_some_iff.1 namespaceOptions
  exact (Option.some_inj.1 told).symm

end Legacy.CreateContainerRequest

end Cri

namespace Router

variable {Req Resp : Type} [Message Req] [Message Resp] [Convertible Req] [Convertible Resp]
  [Views Req] [Views Resp] [Scoped Resp] [ContainerRequest Req]

/-- What becomes of the ids when a container is to be created in a pod sandbox that the runtime `b`
calls `own`, if `target?` is the target in the eyes of the runtime. -/
structure PassesTarget (target? : Req → Option String) (r : Router) (b : Backend) (own : String)
    (c : Call) (request : Req) (handling : Handling Resp) (w : World) (past : Journal) : Prop where
  /-- The caller knows the pod sandbox by its qualified id. -/
  qualified : b ∈ r.backends ∧ textOf .podSandboxId request = b.scope.qualifyId own
  /-- The runtime is sent its own name of the image, its own id of the pod sandbox and the target that
  the caller has told. No other runtime is sent anything. -/
  sent : ∀ asked link rpc, (asked, link, rpc) ∈ Journal.sent (handling.run.play w past).2 →
    asked = b ∧ ∃ image, r.Admits b (textOf .image request) image ∧
      let given := ContainerRequest.under request own image
      rpc = c.rpc link given ∧ textOf .podSandboxId given = own ∧ target? given = target? request
  /-- It is sent if the runtime is ready and admits the image. -/
  due : ∀ image readied link, r.Admits b (textOf .image request) image →
    (ready b).run.play w past = (.ok (), readied) → w (past ++ readied) (.link b) = some link →
    c.isServedOn link = true → Journal.sent (handling.run.play w past).2 =
      [(b, link, c.rpc link (ContainerRequest.under request own image))]
  /-- If the target is one of its containers, as callers see it, the runtime is told its own id of
  this container exactly if it is the primary one. -/
  own_iff : ∀ container, target? request = some (b.scope.qualifyId container) → ∀ image,
    target? (ContainerRequest.under request own image) = some container ↔ b.scope = .primary

theorem passesTarget_of_creates {target? : Req → Option String} {r : Router} {c : Call}
    {request : Req} {handling : Handling Resp} {w : World} {past : Journal}
    (read : ∀ own image, textOf .podSandboxId (ContainerRequest.under request own image) = own)
    (kept : ∀ own image, target? (ContainerRequest.under request own image) = target? request)
    (creates :
      let (b, own) := r.ownerOfId (textOf .podSandboxId request)
      r.Creates b c (textOf .image request) (ContainerRequest.under request own) handling w past) :
    let (b, own) := r.ownerOfId (textOf .podSandboxId request)
    r.PassesTarget target? b own c request handling w past := by
  obtain ⟨mem, owns⟩ := r.ownId?_ownerOfId (textOf .podSandboxId request)
  generalize r.ownerOfId (textOf .podSandboxId request) = owner at creates mem owns
  obtain ⟨b, own⟩ := owner
  constructor
  case qualified => exact ⟨mem, Scope.ownId?_eq_some_iff.1 owns⟩
  case sent =>
    intro asked link rpc asks
    rcases creates.sent with unsent | ⟨image, link', admits, sent⟩
    · rw [unsent] at asks
      cases asks
    · rw [sent] at asks
      cases List.mem_singleton.1 asks
      exact ⟨rfl, image, admits, rfl, read own image, kept own image⟩
  case due =>
    intro image readied link admits hr hl served
    refine creates.delivered.due readied _ link hr ?_ hl served
    rw [admitImage_eq_ok_iff.2 admits]
    rfl
  case own_iff =>
    intro container told image
    rw [kept, told, Option.some_inj, Scope.qualifyId_eq_self_iff]

/-- When a container is to be created, the runtime of the pod sandbox is told its own id of the pod
sandbox, but the target by the id that callers see. A caller of the legacy schema tells no target. -/
theorem follow_passesTarget (r : Router) (revision : Revision) (deadline : Option Span) (w : World)
    (past : Journal) :
    let c : Call := ⟨.createContainer, revision, deadline⟩
    match revision.schema with
    | .current =>
      Method.createContainer.exchange .current =
          .routed CreateContainerRequest CreateContainerResponse .newContainer ∧
        (∀ (given : CreateContainerRequest) link, c.rpc link given =
          ⟨c.method.path link.revision, Message.encode given, deadline⟩) ∧
        ∀ request : CreateContainerRequest,
          let (b, own) := r.ownerOfId request.podSandboxId
          r.PassesTarget CreateContainerRequest.target.get? b own c request
            (r.follow .newContainer c request : Handling CreateContainerResponse) w past
    | .legacy =>
      Method.createContainer.exchange .legacy =
          .routed Legacy.CreateContainerRequest CreateContainerResponse .newContainer ∧
        ∀ request : Legacy.CreateContainerRequest,
          let (b, own) := r.ownerOfId request.podSandboxId
          (∀ id, request.target? = some id → id = "") ∧
          r.PassesTarget Legacy.CreateContainerRequest.target? b own c request
            (r.follow .newContainer c request : Handling CreateContainerResponse) w past := by
  intro c
  cases revision.schema with
  | current =>
    refine ⟨rfl, fun given link => c.rpc_of_encode_upgrade link rfl, ?_⟩
    intro request
    apply passesTarget_of_creates (fun _ _ => rfl) request.get?_target_under
    exact creates_of_containerRequest CreateContainerResponse r c request w past
  | legacy =>
    refine ⟨rfl, ?_⟩
    intro request
    refine ⟨fun _ => Legacy.CreateContainerRequest.eq_empty_of_target?, ?_⟩
    apply passesTarget_of_creates (fun _ _ => rfl) request.target?_under
    exact creates_of_containerRequest CreateContainerResponse r c request w past

/-- A caller lists a container of a runtime that is not the primary one, and asks for a container that
joins it, in the same pod sandbox. The runtime is told its own names of the pod sandbox and the image,
and the qualified id of the target. -/
theorem follow_passesTarget_qualified :
    let primary : Backend := ⟨.primary, "/run/primary.sock"⟩
    let alt : Backend := ⟨.named ⟨"alt", by decide⟩, "/run/alt.sock"⟩
    let r : Router :=
      ⟨primary, [alt], ⟨"http", none, .plain "", none, none⟩, rfl, by decide, by decide⟩
    let c : Call := ⟨.createContainer, .v1, none⟩
    let seen : Container := Scoped.qualify alt.scope { id := "c1", podSandboxId := "p1" }
    -- the mode of the process namespace is the one of a target
    let options : NamespaceOption := { pid := 3, targetId := seen.id }
    let security : LinuxContainerSecurityContext := { namespaceOptions := some options }
    let linux : LinuxContainerConfig := { securityContext := some security }
    let config : ContainerConfig := { image := some ⟨"alt/busybox"⟩, linux := some linux }
    let request : CreateContainerRequest := ⟨seen.podSandboxId, some config, none⟩
    let given := request.under "p1" "busybox"
    let w := World.steady (fun _ => some ⟨.v1, 1⟩) fun _ _ => .ok []
    let played := (r.follow .newContainer c request :
      Handling CreateContainerResponse).run.play w []
    r.ownerOfId request.podSandboxId = (alt, "p1") ∧ r.ownerOfId seen.id = (alt, "c1") ∧
      Journal.sent played.2 = [(alt, ⟨.v1, 1⟩, c.rpc ⟨.v1, 1⟩ given)] ∧
      CreateContainerRequest.target.get? given = some "alt__c1" ∧
      ¬ Journal.sent played.2 =
        [(alt, ⟨.v1, 1⟩, c.rpc ⟨.v1, 1⟩ (CreateContainerRequest.target.set "c1" given))] := by
  decide +kernel

end Router

end RuntimeMux
