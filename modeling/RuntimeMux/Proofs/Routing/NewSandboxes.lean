import RuntimeMux.Exchange
import RuntimeMux.Proofs.Call.Schemas
import RuntimeMux.Proofs.Cri.Legible
import RuntimeMux.Proofs.Cri.Translation
import RuntimeMux.Proofs.Router.Configured

/-!
# New pod sandboxes

An annotation of a new pod sandbox may name the runtime to create it on. Every runtime decides for
itself whether it is meant, by its scope alone, and no two runtimes do so for the same annotations.
So the order of the named runtimes is of no account, and if none of them is meant, nothing is done at
all. The primary runtime has no id that an annotation could name.
-/

namespace RuntimeMux

open Cri Wire

/-- A pod sandbox without the annotation is meant for the primary scope, and one with it for the
scope that has this id, which is not the primary one. -/
theorem Scope.isTarget_iff {s : Scope} {annotations : TextMap} :
    s.isTarget annotations = true ↔
      annotations.get? targetAnnotation = if s = .primary then none else some s.id := by
  cases s <;> simp [isTarget, id]

namespace Router

variable {r r' : Router} {b b' : Backend} {target? : Option String} {annotations : TextMap}

/-! ### The runtime that is meant -/

/-- A runtime is meant by the id in an annotation, or the primary one by the lack of it. -/
inductive Means (r : Router) : Option String → Backend → Prop where
  | primary : r.Means none r.primary
  | named {b : Backend} (hb : b ∈ r.named) : r.Means (some b.scope.id) b

theorem id_ne_empty_of_mem (hb : b ∈ r.named) : b.scope.id ≠ "" := fun empty =>
  r.named_scope b hb (Scope.id_injective empty)

/-- At most one runtime is meant. -/
theorem Means.unique (h : r.Means target? b) (h' : r.Means target? b') : b = b' := by
  cases h with
  | primary =>
    cases h'
    rfl
  | named hb =>
    generalize hid : some b.scope.id = id at h'
    cases h' with
    | primary => cases hid
    | named hb' =>
      have same := Scope.id_injective (Option.some.inj hid)
      exact List.inj_on_of_nodup_map r.nodup hb hb' same

theorem Means.congr (h : r.Means target? b) (primary : r'.primary = r.primary)
    (named : ∀ b, b ∈ r'.named ↔ b ∈ r.named) : r'.Means target? b := by
  cases h with
  | primary =>
    rw [← primary]
    exact .primary
  | named hb => exact .named ((named b).2 hb)

theorem not_means_iff {id : String} :
    (∀ b, ¬ r.Means (some id) b) ↔ ∀ b ∈ r.named, b.scope.id ≠ id := by
  constructor
  · rintro unknown b hb rfl
    exact unknown b (.named hb)
  · intro unknown b h
    cases h with
    | named hb => exact unknown b hb rfl

/-- Every runtime sees for itself whether it is meant. -/
theorem means_iff : r.Means (annotations.get? targetAnnotation) b ↔
    b ∈ r.backends ∧ b.scope.isTarget annotations = true := by
  rw [Scope.isTarget_iff]
  generalize annotations.get? targetAnnotation = target?
  constructor
  · intro h
    cases h with
    | primary => exact ⟨List.mem_cons_self, (if_pos r.primary_scope).symm⟩
    | named hb => exact ⟨List.mem_cons_of_mem _ hb, (if_neg (r.named_scope b hb)).symm⟩
  · rintro ⟨mem, rfl⟩
    rcases List.mem_cons.1 mem with rfl | hb
    · rw [if_pos r.primary_scope]
      exact .primary
    · rw [if_neg (r.named_scope b hb)]
      exact .named hb

theorem means_of_target? (found : r.target? annotations = some b) :
    r.Means (annotations.get? targetAnnotation) b := by
  rw [target?] at found
  have meant := List.find?_some found
  exact means_iff.2 ⟨List.mem_of_find?_eq_some found, meant⟩

theorem target?_eq_some_iff :
    r.target? annotations = some b ↔ r.Means (annotations.get? targetAnnotation) b := by
  refine ⟨means_of_target?, fun h => ?_⟩
  cases found : r.target? annotations with
  | none =>
    obtain ⟨mem, meant⟩ := means_iff.1 h
    exact absurd meant (List.find?_eq_none.1 found b mem)
  | some other => rw [h.unique (means_of_target? found)]

/-- The order of the named runtimes is of no account. -/
theorem target?_congr (primary : r'.primary = r.primary)
    (named : ∀ b, b ∈ r'.named ↔ b ∈ r.named) (annotations : TextMap) :
    r'.target? annotations = r.target? annotations := by
  ext b
  simp only [target?_eq_some_iff, means_iff, backends, List.mem_cons, primary, named]

end Router

/-! ### Creation -/

section

variable {Req : Type} [Message Req] [Convertible Req] {c : Call} {b : Backend} {request : Req}
  {w : World} {past : Journal}

/-- A new pod sandbox of a runtime as callers see it. -/
def Cri.RunPodSandboxResponse.seen (b : Backend) (own : RunPodSandboxResponse) :
    RunPodSandboxResponse :=
  { own with podSandboxId := b.scope.qualifyId own.podSandboxId }

/-- Waits for a runtime and has it create a pod sandbox. -/
def Backend.createSandbox (b : Backend) (c : Call) (request : Req) :
    Handling RunPodSandboxResponse := do
  Handling.await b
  return RunPodSandboxResponse.seen b (← c.invoke b request)

/-- What comes of a pod sandbox that is to be created by a runtime, and what is done for it. -/
inductive Backend.Created (b : Backend) (c : Call) (request : Req) (w : World) (past : Journal) :
    Except Fault RunPodSandboxResponse → Journal → Prop where
  /-- The runtime does not connect. -/
  | unawaited {fault : Fault} (hw : w past (.await b) = .error fault) :
      Created b c request w past (.error fault) [⟨.await b, .error fault⟩]
  /-- The runtime is there, and it is called. -/
  | invoked {result : Except Fault RunPodSandboxResponse} {called : Journal}
      (hw : w past (.await b) = .ok ())
      (hi : c.Invoked b request (w (past ++ [⟨.await b, .ok ()⟩]) (.link b)) result called) :
      Created b c request w past (result.map (RunPodSandboxResponse.seen b))
        (⟨.await b, .ok ()⟩ :: called)

namespace Backend

theorem Created.of_play (b : Backend) (c : Call) (request : Req) (w : World) (past : Journal) :
    let played := (b.createSandbox c request).run.play w past
    b.Created c request w past played.1 played.2 := by
  have awaited := Activity.play_run_await (w := w) b past
  cases hw : w past (.await b) with
  | error fault =>
    rw [hw] at awaited
    simp only [createSandbox, Activity.play_run_bind, awaited]
    exact .unawaited hw
  | ok ready =>
    rw [hw] at awaited
    simp only [createSandbox, Activity.play_run_bind, awaited, bind_pure_comp, ExceptT.run_map,
      Activity.play_map]
    exact .invoked hw (Call.Invoked.of_play RunPodSandboxResponse c b request w _)

namespace Created

variable {result : Except Fault RunPodSandboxResponse} {deeds : Journal}

theorem of_unawaited (h : b.Created c request w past result deeds) {fault : Fault}
    (hw : w past (.await b) = .error fault) :
    result = .error fault ∧ deeds = [⟨.await b, .error fault⟩] := by
  cases h with
  | unawaited hw' =>
    cases hw.symm.trans hw'
    exact ⟨rfl, rfl⟩
  | invoked hw' => cases hw.symm.trans hw'

theorem due (h : b.Created c request w past result deeds) {link : Link}
    (hw : w past (.await b) = .ok ())
    (hl : w (past ++ [⟨.await b, .ok ()⟩]) (.link b) = some link)
    (served : c.isServedOn link = true) :
    Journal.sent deeds = [(b, link, c.rpc link request)] := by
  cases h with
  | unawaited hw' => cases hw.symm.trans hw'
  | @invoked _ called _ hi =>
    have sent := hi.sent
    rw [hl] at sent
    exact sent.trans (if_pos served)

theorem once (h : b.Created c request w past result deeds) :
    Journal.sent deeds = [] ∨
      ∃ link, Journal.sent deeds = [(b, link, c.rpc link request)] := by
  cases h with
  | unawaited => exact .inl rfl
  | @invoked _ called _ hi =>
    have sent := hi.sent
    generalize w (past ++ [⟨.await b, .ok ()⟩]) (.link b) = link? at sent
    cases link? with
    | none => exact .inl sent
    | some link =>
      by_cases served : c.isServedOn link
      · exact .inr ⟨link, sent.trans (if_pos served)⟩
      · exact .inl (sent.trans (if_neg served))

/-- The caller gets a response exactly if the runtime has answered with one, as callers see it. -/
theorem eq_ok_iff (h : b.Created c request w past result deeds)
    (response : RunPodSandboxResponse) :
    result = .ok response ↔ ∃ link answer own,
      ⟨.send b link (c.rpc link request), answer⟩ ∈ deeds ∧
        c.reading RunPodSandboxResponse link answer = .ok own ∧ response = own.seen b := by
  cases h with
  | unawaited => simp
  | @invoked result called _ hi =>
    have called_iff {link : Link} {answer : Except Status Bytes} :
        ⟨.send b link (c.rpc link request), answer⟩ ∈ (⟨.await b, .ok ()⟩ :: called : Journal) ↔
          ⟨.send b link (c.rpc link request), answer⟩ ∈ called := by simp
    simp only [called_iff]
    constructor
    · intro ended
      cases result with
      | error fault => cases ended
      | ok own =>
        cases ended
        obtain ⟨link, answer, mem, read⟩ := (hi.eq_ok_iff own).1 rfl
        exact ⟨link, answer, own, mem, read, rfl⟩
    · rintro ⟨link, answer, own, mem, read, rfl⟩
      rw [(hi.eq_ok_iff own).2 ⟨link, answer, mem, read⟩]
      rfl

end Created

/-- Whatever is done to create a pod sandbox is about the runtime. -/
theorem within_createSandbox (b : Backend) (c : Call) (request : Req) :
    (b.createSandbox c request).run.Within fun a => a.backend? = some b := by
  refine .run_bind (Activity.within_once_backend (a := .await b) rfl) fun _ => ?_
  exact .run_bind (Call.within_invoke c b request) fun _ => trivial

/-- What a caller can rely on when a runtime is to create a pod sandbox, whatever becomes of it. -/
structure CreatesSandbox (b : Backend) (c : Call) (request : Req)
    (handling : Handling RunPodSandboxResponse) (w : World) (past : Journal) : Prop where
  /-- The runtime is waited for, and nothing else is done if it does not connect. -/
  unawaited : ∀ fault, w past (.await b) = .error fault →
    handling.run.play w past = (.error fault, [⟨.await b, .error fault⟩])
  /-- At most one call is sent: to the runtime, with the request of the caller. -/
  once :
    let deeds := (handling.run.play w past).2
    Journal.sent deeds = [] ∨ ∃ link, Journal.sent deeds = [(b, link, c.rpc link request)]
  /-- It is sent if the runtime connects and understands it. -/
  due : ∀ link, w past (.await b) = .ok () →
    w (past ++ [⟨.await b, .ok ()⟩]) (.link b) = some link → c.isServedOn link = true →
    Journal.sent (handling.run.play w past).2 = [(b, link, c.rpc link request)]
  /-- In one schema the request is sent as it is. -/
  unchanged : ∀ link : Link, c.revision.schema = link.revision.schema →
    c.rpc link request = ⟨c.method.path link.revision, Message.encode request, c.deadline⟩
  /-- A runtime of the current schema gets a request of the legacy one upgraded. -/
  upgraded : ∀ link : Link, c.revision.schema = .legacy → link.revision.schema = .current →
    c.rpc link request =
      ⟨c.method.path link.revision, Message.encode (Convertible.upgrade request), c.deadline⟩
  /-- The caller gets the id of the new pod sandbox, qualified by the scope of the runtime. -/
  answered : ∀ response, (handling.run.play w past).1 = .ok response ↔
    ∃ link answer own, ⟨.send b link (c.rpc link request), answer⟩ ∈
        (handling.run.play w past).2 ∧
      c.reading RunPodSandboxResponse link answer = .ok own ∧
      response = ⟨b.scope.qualifyId own.podSandboxId⟩
  /-- No other runtime is looked at, nor the names of images. -/
  alone : ∀ d ∈ (handling.run.play w past).2, d.act.backend? = some b

theorem createsSandbox (b : Backend) (c : Call) (request : Req) (w : World) (past : Journal) :
    b.CreatesSandbox c request (b.createSandbox c request) w past := by
  have created := Created.of_play b c request w past
  constructor
  case unawaited =>
    intro fault hw
    obtain ⟨ended, done⟩ := created.of_unawaited hw
    exact Prod.ext ended done
  case once => exact created.once
  case due => exact fun link hw hl served => created.due hw hl served
  case unchanged =>
    intro link same
    rw [Call.rpc, Revision.conversionTo_eq_native_iff.2 same]
  case upgraded =>
    intro link caller runtime
    rw [Call.rpc, Revision.conversionTo_eq_upgrade_iff.2 ⟨caller, runtime⟩]
  case answered => exact created.eq_ok_iff
  case alone => exact (b.within_createSandbox c request).act_mem_play w past

end Backend

end

namespace Router

variable {Req : Type} [Views Req] {r r' : Router} {b : Backend} {c : Call} {request : Req}

/-- The id of the runtime that a new pod sandbox is meant for. -/
def targetOf (request : Req) : Option String :=
  (Views.annotations? request).bind fun annotations => annotations.get? targetAnnotation

theorem get?_annotations (request : Req) :
    ((Views.annotations? request).getD .empty).get? targetAnnotation = targetOf request := by
  rw [targetOf]
  cases Views.annotations? request <;> rfl

/-- A request without a configuration has no annotations. -/
theorem targetOf_eq_bind (m : RunPodSandboxRequest) :
    targetOf m = m.config.bind fun config => config.annotations.get? targetAnnotation :=
  Option.bind_map

theorem targetOf_eq_bind_legacy (m : Legacy.RunPodSandboxRequest) :
    targetOf m = m.config.bind fun config => config.annotations.get? targetAnnotation :=
  Option.bind_map

variable [Message Req] [Convertible Req]

theorem byAnnotations_of_means (meant : r.Means (targetOf request) b) :
    (r.byAnnotations c request : Handling RunPodSandboxResponse) = b.createSandbox c request := by
  rw [← get?_annotations, ← target?_eq_some_iff] at meant
  simp only [byAnnotations, forAnnotations, meant, bind_assoc, pure_bind]
  rfl

theorem byAnnotations_of_unknown {id : String} (told : targetOf request = some id)
    (unknown : ∀ b, ¬ r.Means (some id) b) :
    (r.byAnnotations c request : Handling RunPodSandboxResponse) = throw (.unknownRuntime id) := by
  have none : r.target? ((Views.annotations? request).getD .empty) = none := by
    refine Option.eq_none_iff_forall_ne_some.2 fun b found => unknown b ?_
    rw [← told, ← get?_annotations]
    exact means_of_target? found
  simp only [byAnnotations, forAnnotations, none, get?_annotations, told]
  rfl

/-- The order of the named runtimes is of no account. -/
theorem byAnnotations_congr (primary : r'.primary = r.primary)
    (named : ∀ b, b ∈ r'.named ↔ b ∈ r.named) (stream : r'.stream = r.stream) :
    (r'.byAnnotations c request : Handling RunPodSandboxResponse) = r.byAnnotations c request := by
  simp only [byAnnotations, forAnnotations, present, target?_congr primary named, stream]

/-- What a caller can rely on when a pod sandbox is to be created that is meant for the runtime
with the id `target?`, or for the primary one. -/
structure CreatesSandbox (r : Router) (c : Call) (target? : Option String) (request : Req)
    (w : World) (past : Journal) : Prop where
  /-- At most one runtime is meant. -/
  unique : ∀ b b', r.Means target? b → r.Means target? b' → b = b'
  /-- It creates the pod sandbox. -/
  created : ∀ b, r.Means target? b →
    b.CreatesSandbox c request (r.follow .annotations c request) w past
  /-- If no runtime has the id, the caller is told, and nothing is done. -/
  unknown : ∀ id, target? = some id → (∀ b ∈ r.named, b.scope.id ≠ id) →
    (r.follow .annotations c request : Handling RunPodSandboxResponse).run.play w past =
      (.error (.unknownRuntime id), [])
  /-- No runtime has the empty id. -/
  empty : target? = some "" → ∀ b ∈ r.named, b.scope.id ≠ ""
  /-- The named runtimes may stand in any order. -/
  reordered : ∀ named : List Backend, named.Perm r.named → ∃ r',
    ofBackends r.stream (r.primary :: named) = .ok r' ∧
      (∀ b, r'.Means target? b ↔ r.Means target? b) ∧
      (r'.follow .annotations c request : Handling RunPodSandboxResponse) =
        r.follow .annotations c request

theorem createsSandbox (r : Router) (c : Call) (request : Req) (w : World) (past : Journal) :
    r.CreatesSandbox c (targetOf request) request w past := by
  constructor
  case unique => exact fun b b' => Means.unique
  case created =>
    intro b meant
    rw [follow, byAnnotations_of_means meant]
    exact b.createsSandbox c request w past
  case unknown =>
    intro id told unknown
    rw [follow, byAnnotations_of_unknown told (not_means_iff.2 unknown)]
    rfl
  case empty => exact fun _ _ => id_ne_empty_of_mem
  case reordered =>
    intro named perm
    obtain ⟨r', accepted⟩ := ofBackends_of_perm r.ofBackends_backends perm
    obtain ⟨primary, same⟩ := ofBackends_cons_eq_ok accepted
    have mem (b : Backend) : b ∈ r'.named ↔ b ∈ r.named := by rw [same, perm.mem_iff]
    refine ⟨r', accepted, fun b => ⟨fun meant => ?_, fun meant => meant.congr primary mem⟩,
      byAnnotations_congr primary mem (stream_ofBackends accepted)⟩
    exact meant.congr primary.symm fun b => (mem b).symm

/-- A new pod sandbox goes to the runtime that its annotations name, or to the primary one if they
name none, in the schema of the caller. -/
theorem follow_createsSandbox {stream : Url} {bs : List Backend} {r : Router}
    (accepted : ofBackends stream bs = .ok r) (revision : Revision) (deadline : Option Span)
    (w : World) (past : Journal) :
    let c : Call := ⟨.runPodSandbox, revision, deadline⟩
    r.backends = bs ∧ r.stream = stream ∧
    match revision.schema with
    | .current =>
      Method.runPodSandbox.exchange .current =
          .routed RunPodSandboxRequest RunPodSandboxResponse .annotations ∧
        ∀ request : RunPodSandboxRequest,
          r.CreatesSandbox c
            (request.config.bind fun config => config.annotations.get? targetAnnotation)
            request w past
    | .legacy =>
      Method.runPodSandbox.exchange .legacy =
          .routed Legacy.RunPodSandboxRequest RunPodSandboxResponse .annotations ∧
        ∀ request : Legacy.RunPodSandboxRequest,
          targetOf request.upgrade = targetOf request ∧
          r.CreatesSandbox c
            (request.config.bind fun config => config.annotations.get? targetAnnotation)
            request w past := by
  intro c
  refine ⟨backends_ofBackends accepted, stream_ofBackends accepted, ?_⟩
  cases revision.schema with
  | current =>
    refine ⟨rfl, fun request => ?_⟩
    rw [← targetOf_eq_bind]
    exact r.createsSandbox c request w past
  | legacy =>
    refine ⟨rfl, fun request => ⟨?_, ?_⟩⟩
    · rw [targetOf, Legacy.RunPodSandboxRequest.keepsViews.annotations?]
      rfl
    · rw [← targetOf_eq_bind_legacy]
      exact r.createsSandbox c request w past

/-- One pod sandbox is created on the runtime that is named, and another one nowhere. -/
theorem follow_createsSandbox_alt :
    let primary : Backend := ⟨.primary, "/run/primary.sock"⟩
    let alt : Backend := ⟨.named ⟨"alt", by decide⟩, "/run/alt.sock"⟩
    let stream : Url := ⟨"http", none, .plain "", none, none⟩
    let w := World.steady (fun _ => some ⟨.v1, 1⟩) fun _ _ =>
      .ok (Message.encode (⟨"p1"⟩ : RunPodSandboxResponse))
    let request (target : String) : RunPodSandboxRequest :=
      { config := some { annotations := .ofList [( targetAnnotation, target)] } }
    ∃ r, ofBackends stream [primary, alt] = .ok r ∧
      let create (target : String) :=
        (r.follow .annotations ⟨.runPodSandbox, .v1, none⟩ (request target) :
          Handling RunPodSandboxResponse).run.play w []
      (create "alt").1 = .ok ⟨"alt__p1"⟩ ∧ create "" = (.error (.unknownRuntime ""), []) := by
  intro primary alt stream w request
  obtain ⟨r, accepted⟩ : ∃ r, ofBackends stream [primary, alt] = .ok r := ⟨_, rfl⟩
  obtain ⟨-, named⟩ := ofBackends_cons_eq_ok accepted
  obtain ⟨-, -, -, creates⟩ := follow_createsSandbox accepted .v1 none w []
  refine ⟨r, accepted, ?_, ?_⟩
  · have meant : r.Means (some alt.scope.id) alt := .named (named ▸ List.mem_singleton_self alt)
    have created := (creates (request "alt")).created alt meant
    have sent := created.due ⟨.v1, 1⟩ rfl rfl rfl
    obtain ⟨before, mem⟩ := Activity.mem_play_of_sent _ (sent ▸ List.mem_singleton_self _)
    refine (created.answered ⟨"alt__p1"⟩).2 ⟨_, _, ⟨"p1"⟩, mem, ?_, rfl⟩
    exact Call.reading_encode _ _ (by decide +kernel)
  · exact (creates (request "")).unknown "" rfl ((creates (request "")).empty rfl)

end Router

end RuntimeMux
