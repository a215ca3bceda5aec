import RuntimeMux.Exchange

/-!
# Calls of the legacy schema

A call of the legacy schema is routed by the legacy request, which is upgraded only when it is sent.
The response is downgraded as soon as it is there, and made into what callers see afterwards. Nothing
would be different in the other order. The upgraded request has the same texts at the places that
requests are routed by, and replacing a text can wait until the request is upgraded. What callers see
of a response can be worked out before the response is downgraded, and so it is with the items of
lists.
-/

namespace RuntimeMux

open Cri Wire

namespace Cri

variable {M N P Q : Type}

/-! ### Requests -/

/-- A conversion keeps the text at a place, and it makes no difference whether the text is replaced
before it or after it. -/
structure Slot.Kept (convert : M → N) (slot : Slot M) (slot' : Slot N) : Prop where
  get? : ∀ m, slot'.get? (convert m) = slot.get? m
  set : ∀ text m, slot'.set text (convert m) = convert (slot.set text m)

namespace Slot.Kept

variable {convert : M → N} {part : P → Q}

/-- A place that is the same in both types. -/
theorem same {slot : Slot M} {slot' : Slot N}
    (reads : ∀ m, slot'.get? (convert m) = slot.get? m := by exact fun _ => rfl)
    (writes : ∀ text m, slot'.set text (convert m) = convert (slot.set text m) := by
      exact fun _ _ => rfl) : Kept convert slot slot' :=
  ⟨reads, writes⟩

theorem absent : Kept convert .absent .absent := same

/-- A place in a part that is converted with the message. -/
theorem inside {get : M → Option P} {set : Option P → M → M} {get' : N → Option Q}
    {set' : Option Q → N → N} {slot : Slot P} {slot' : Slot Q} (inner : Kept part slot slot')
    (reads : ∀ m, get' (convert m) = (get m).map part := by exact fun _ => rfl)
    (writes : ∀ x m, set' (x.map part) (convert m) = convert (set x m) := by
      exact fun _ _ => rfl) : Kept convert (.inside get set slot) (.inside get' set' slot') where
  get? m := by
    show (get' (convert m)).bind slot'.get? = (get m).bind slot.get?
    rw [reads, Option.bind_map]
    exact congrArg (get m).bind (funext inner.get?)
  set text m := by
    show set' ((get' (convert m)).map (slot'.set text)) (convert m) =
      convert (set ((get m).map (slot.set text)) m)
    have parts : ((get m).map part).map (slot'.set text) =
        ((get m).map (slot.set text)).map part := by
      rw [Option.map_map, Option.map_map]
      exact congrArg ((get m).map ·) (funext (inner.set text))
    rw [reads, parts, writes]

end Slot.Kept

/-- A conversion keeps everything that messages are routed by. -/
structure KeepsViews [Views M] [Views N] (convert : M → N) : Prop where
  slot : ∀ view, Slot.Kept convert (Views.slot view) (Views.slot view)
  annotations? : ∀ m, Views.annotations? (convert m) = Views.annotations? m
  describedImage? : ∀ m, Views.describedImage? (convert m) = Views.describedImage? m

theorem KeepsViews.refl {_ : Views M} : KeepsViews fun m : M => m :=
  ⟨fun _ => .same, fun _ => rfl, fun _ => rfl⟩

theorem Legacy.RunPodSandboxRequest.keepsViews : KeepsViews upgrade where
  slot _ := .absent
  annotations? m := by
    show (m.config.map PodSandboxConfig.upgrade).map Cri.PodSandboxConfig.annotations = _
    rw [Option.map_map]
    rfl
  describedImage? _ := rfl

theorem Legacy.CreateContainerRequest.keepsViews : KeepsViews upgrade where
  slot view := by
    cases view with
    | podSandboxId => exact .same
    | image =>
      have image : Slot.Kept ContainerConfig.upgrade
        (.inside (·.image) (fun x m => { m with image := x }) ImageSpec.reference)
        (.inside (·.image) (fun x m => { m with image := x }) ImageSpec.reference) := .same
      exact image.inside
    | _ => exact .absent
  annotations? _ := rfl
  describedImage? _ := rfl

theorem Legacy.PullImageRequest.keepsViews : KeepsViews upgrade where
  slot view := by
    cases view with
    | image => exact .same
    | _ => exact .absent
  annotations? _ := rfl
  describedImage? _ := rfl

/-! ### Responses -/

/-- It makes no difference whether a message is converted before or after it is qualified. -/
structure KeepsScope [Scoped M] [Scoped N] (convert : M → N) : Prop where
  qualify : ∀ s m, Scoped.qualify s (convert m) = convert (Scoped.qualify s m)

theorem KeepsScope.refl {_ : Scoped M} : KeepsScope fun m : M => m := ⟨fun _ _ => rfl⟩

/-- A conversion of responses keeps their texts, and it makes no difference whether a response is
converted before or after it is made into what callers see. -/
structure KeepsResponse [Views M] [Scoped M] [Views N] [Scoped N] (convert : M → N) : Prop where
  views : KeepsViews convert
  scope : KeepsScope convert
  present : ∀ (r : Router) b m, r.present b (convert m) = convert (r.present b m)

theorem KeepsResponse.of_scope {_ : Views M} {_ : Scoped M} {_ : Views N} {_ : Scoped N}
    {convert : M → N} (views : KeepsViews convert) (scope : KeepsScope convert) :
    KeepsResponse convert where
  views := views
  scope := scope
  present r b m := by
    simp only [Router.present, scope.qualify, (views.slot .url).get?]
    cases (Views.slot .url).get? (Scoped.qualify b.scope m) with
    | none => rfl
    | some url => exact (views.slot .url).set _ _

theorem KeepsResponse.refl {_ : Views M} {_ : Scoped M} : KeepsResponse fun m : M => m :=
  ⟨.refl, .refl, fun _ _ _ => rfl⟩

theorem Legacy.PodSandboxStatusResponse.keepsResponse : KeepsResponse downgrade := by
  refine .of_scope ⟨fun _ => .absent, fun _ => rfl, fun _ => rfl⟩ ⟨?_⟩
  intro s m
  obtain ⟨_ | status, info⟩ := m <;> rfl

theorem Legacy.ContainerStats.keepsScope : KeepsScope downgrade := ⟨fun _ _ => rfl⟩

theorem Legacy.ContainerStatsResponse.keepsResponse : KeepsResponse downgrade := by
  refine .of_scope ⟨fun _ => .absent, fun _ => rfl, fun _ => rfl⟩ ⟨?_⟩
  intro s m
  obtain ⟨_ | stats⟩ := m <;> rfl

/-- A list is converted item by item, whatever is put in the place of its items. It makes no
difference whether the items are qualified before it or after it. -/
structure KeepsItems {L L' : Type} [Message L] [Message L'] [Listing L] [Listing L']
    (convert : L → L') (part : Listing.Item L → Listing.Item L') : Prop where
  items : ∀ m, Listing.items (convert m) = (Listing.items m).map part
  setItems : ∀ xs m, Listing.setItems (xs.map part) (convert m) = convert (Listing.setItems xs m)
  blank : convert Message.blank = Message.blank
  item : KeepsScope part

theorem KeepsItems.refl {L : Type} {_ : Message L} {_ : Listing L} :
    KeepsItems (fun m : L => m) fun x => x where
  items _ := (List.map_id' _).symm
  setItems xs m := by rw [List.map_id']
  blank := rfl
  item := .refl

theorem Legacy.ListContainerStatsResponse.keepsItems :
    KeepsItems downgrade ContainerStats.downgrade :=
  ⟨fun _ => rfl, fun _ _ => rfl, rfl, ContainerStats.keepsScope⟩

theorem Legacy.ImageFsInfoResponse.keepsItems :
    KeepsItems downgrade FilesystemUsage.downgrade :=
  ⟨fun _ => rfl, fun _ _ => rfl, rfl, ⟨fun _ _ => rfl⟩⟩

end Cri

/-! ### Exchanges -/

/-- What is exchanged in one schema is what is exchanged in the other one, converted. It makes no
difference whether requests are routed before or after they are upgraded, nor whether responses are
downgraded before or after they are made into what callers see. -/
inductive Exchange.Translates : Exchange → Exchange → Prop where
  /-- The request goes along the same route. -/
  | routed {Req Resp : Type} [Message Req] [Views Req] [Convertible Req] [Message Resp]
      [Views Resp] [Scoped Resp] [Convertible Resp] {route : Route}
      {_ : Views (Convertible.Current Req)} {_ : Convertible (Convertible.Current Req)}
      {_ : Views (Convertible.Current Resp)} {_ : Scoped (Convertible.Current Resp)}
      {_ : Convertible (Convertible.Current Resp)}
      (requests : KeepsViews (Convertible.upgrade (M := Req)))
      (responses : KeepsResponse (Convertible.downgrade (M := Resp))) :
      Translates (.routed Req Resp route)
        (.routed (Convertible.Current Req) (Convertible.Current Resp) route)
  /-- The request asks for the list of all runtimes. -/
  | listed {Req Resp : Type} [Message Req] [Views Req] [Convertible Req] [Message Resp]
      [Convertible Resp] [Listing Resp]
      {_ : Views (Convertible.Current Req)} {_ : Convertible (Convertible.Current Req)}
      {_ : Convertible (Convertible.Current Resp)} {_ : Listing (Convertible.Current Resp)}
      {part : Listing.Item (Convertible.Current Resp) → Listing.Item Resp}
      (requests : KeepsViews (Convertible.upgrade (M := Req)))
      (items : KeepsItems (Convertible.downgrade (M := Resp)) part) :
      Translates (.listed Req Resp) (.listed (Convertible.Current Req) (Convertible.Current Resp))

namespace Method

/-- For every method, what is exchanged in the legacy schema is what is exchanged in the current one,
converted. -/
theorem translates (m : Method) : (m.exchange .legacy).Translates (m.exchange .current) := by
  cases m with
  | runPodSandbox => exact .routed Legacy.RunPodSandboxRequest.keepsViews .refl
  | createContainer => exact .routed Legacy.CreateContainerRequest.keepsViews .refl
  | pullImage => exact .routed Legacy.PullImageRequest.keepsViews .refl
  | podSandboxStatus => exact .routed .refl Legacy.PodSandboxStatusResponse.keepsResponse
  | containerStats => exact .routed .refl Legacy.ContainerStatsResponse.keepsResponse
  | listContainerStats => exact .listed .refl Legacy.ListContainerStatsResponse.keepsItems
  | imageFsInfo => exact .listed .refl Legacy.ImageFsInfoResponse.keepsItems
  | listPodSandbox | listContainers | listImages => exact .listed .refl .refl
  | version | status | updateRuntimeConfig | stopPodSandbox | removePodSandbox | startContainer
  | stopContainer | removeContainer | containerStatus | updateContainerResources
  | reopenContainerLog | execSync | exec | attach | portForward | imageStatus | removeImage =>
    exact .routed .refl .refl

end Method

end RuntimeMux
