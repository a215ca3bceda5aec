import RuntimeMux.Exchange

/-!
# Fields that the legacy schema lacks

Some fields exist in the current schema only. Where the legacy schema has a message of its own, neither
the message nor any part of it has such a field. Most messages are shared by both schemas, and those
that a caller of the legacy schema may get have no such field either, with one exception: a pod sandbox
in a list has the runtime handler of the current schema.
-/

namespace RuntimeMux

open Cri Wire

/-! ### Fields that are left out -/

namespace Wire

/-- If a field has one of some names, it has its default value in a message, and is not written. -/
def Field.Silent {M : Type} (names : List String) (f : Field M) (m : M) : Prop :=
  f.name ∈ names → f.write m = []

/-- Of some fields, a message leaves out those with certain names, and so do the parts of the message
that these fields hold. -/
inductive Omits (names : List String) : {M : Type} → List (Field M) → M → Prop where
  | nil {M : Type} {m : M} : Omits names [] m
  | one {M α : Type} [Scalar α] {m : M} {fs : List (Field M)} {tag : Nat} {name : String}
      {get : M → α} {set : α → M → M} (rest : Omits names fs m)
      (silent : Field.Silent names (.one tag name get set) m := by
        exact fun mem => absurd mem (by decide)) : Omits names (.one tag name get set :: fs) m
  | texts {M : Type} {m : M} {fs : List (Field M)} {tag : Nat} {name : String}
      {get : M → List String} {set : List String → M → M} (rest : Omits names fs m)
      (silent : Field.Silent names (.texts tag name get set) m := by
        exact fun mem => absurd mem (by decide)) : Omits names (.texts tag name get set :: fs) m
  | packed {M α : Type} [Scalar α] {m : M} {fs : List (Field M)} {tag : Nat} {name : String}
      {get : M → List α} {set : List α → M → M} (rest : Omits names fs m)
      (silent : Field.Silent names (.packed tag name get set) m := by
        exact fun mem => absurd mem (by decide)) : Omits names (.packed tag name get set :: fs) m
  | map {M : Type} {m : M} {fs : List (Field M)} {tag : Nat} {name : String}
      {get : M → TextMap} {set : TextMap → M → M} (rest : Omits names fs m)
      (silent : Field.Silent names (.map tag name get set) m := by
        exact fun mem => absurd mem (by decide)) : Omits names (.map tag name get set :: fs) m
  | part {M N : Type} [Message N] {m : M} {fs : List (Field M)} {tag : Nat} {name : String}
      {get : M → Option N} {set : Option N → M → M} (rest : Omits names fs m)
      (part : ∀ x, get m = some x → Omits names Message.fields x)
      (silent : Field.Silent names (.message tag name get set) m := by
        exact fun mem => absurd mem (by decide)) : Omits names (.message tag name get set :: fs) m
  | parts {M N : Type} [Message N] {m : M} {fs : List (Field M)} {tag : Nat} {name : String}
      {get : M → List N} {set : List N → M → M} (rest : Omits names fs m)
      (parts : ∀ x ∈ get m, Omits names Message.fields x)
      (silent : Field.Silent names (.messages tag name get set) m := by
        exact fun mem => absurd mem (by decide)) : Omits names (.messages tag name get set :: fs) m

theorem Omits.mono {names fewer : List String} (sub : fewer ⊆ names) {M : Type}
    {fs : List (Field M)} {m : M} (omits : Omits names fs m) : Omits fewer fs m := by
  induction omits with
  | nil => exact .nil
  | one _ silent ih => exact .one ih fun mem => silent (sub mem)
  | texts _ silent ih => exact .texts ih fun mem => silent (sub mem)
  | packed _ silent ih => exact .packed ih fun mem => silent (sub mem)
  | map _ silent ih => exact .map ih fun mem => silent (sub mem)
  | part _ _ silent ih ihPart => exact .part ih ihPart fun mem => silent (sub mem)
  | parts _ _ silent ih ihParts => exact .parts ih ihParts fun mem => silent (sub mem)

/-- A message leaves out the fields with certain names, and so do its parts. -/
def Message.Omits {M : Type} [Message M] (names : List String) (m : M) : Prop :=
  Wire.Omits names (fields (M := M)) m

end Wire

/-! ### Newer fields -/

namespace Cri

/-- The names of the fields that exist in the current schema only. -/
def newerFields : List String :=
  ["runtime_handler", "run_as_group", "masked_paths", "readonly_paths", "target_id", "fs_id"]

/-- A type of messages without the fields that exist in the current schema only. -/
class LegacyLayout (M : Type) [Message M] : Prop where
  omits : ∀ m : M, Message.Omits newerFields m

end Cri

namespace Wire.Omits

variable {M N : Type} [Message N] [LegacyLayout N] {m : M} {fs : List (Field M)} {tag : Nat}
  {name : String}

theorem message {get : M → Option N} {set : Option N → M → M} (rest : Omits newerFields fs m)
    (silent : Field.Silent newerFields (.message tag name get set) m := by
      exact fun mem => absurd mem (by decide)) :
    Omits newerFields (.message tag name get set :: fs) m :=
  .part rest (fun x _ => LegacyLayout.omits x) silent

theorem messages {get : M → List N} {set : List N → M → M} (rest : Omits newerFields fs m)
    (silent : Field.Silent newerFields (.messages tag name get set) m := by
      exact fun mem => absurd mem (by decide)) :
    Omits newerFields (.messages tag name get set :: fs) m :=
  .parts rest (fun x _ => LegacyLayout.omits x) silent

end Wire.Omits

namespace Cri

/-! ### Parts -/

instance : LegacyLayout Mount := ⟨fun _ => .one (.one (.one (.one (.one .nil))))⟩
instance : LegacyLayout Int64Value := ⟨fun _ => .one .nil⟩
instance : LegacyLayout UInt64Value := ⟨fun _ => .one .nil⟩
instance : LegacyLayout ImageSpec := ⟨fun _ => .one .nil⟩

/-! ### Pod sandboxes -/

instance : LegacyLayout RunPodSandboxResponse := ⟨fun _ => .one .nil⟩
instance : LegacyLayout StopPodSandboxResponse := ⟨fun _ => .nil⟩
instance : LegacyLayout RemovePodSandboxResponse := ⟨fun _ => .nil⟩
instance : LegacyLayout PodSandboxMetadata := ⟨fun _ => .one (.one (.one (.one .nil)))⟩
instance : LegacyLayout PodSandboxNetworkStatus := ⟨fun _ => .one .nil⟩
instance : LegacyLayout PortForwardResponse := ⟨fun _ => .one .nil⟩

/-! ### Containers -/

instance : LegacyLayout CreateContainerResponse := ⟨fun _ => .one .nil⟩
instance : LegacyLayout StartContainerResponse := ⟨fun _ => .nil⟩
instance : LegacyLayout StopContainerResponse := ⟨fun _ => .nil⟩
instance : LegacyLayout RemoveContainerResponse := ⟨fun _ => .nil⟩
instance : LegacyLayout ContainerMetadata := ⟨fun _ => .one (.one .nil)⟩

instance : LegacyLayout Container where
  omits _ := .one (.one (.message (.message (.one (.one (.one (.map (.map .nil))))))))

instance : LegacyLayout ListContainersResponse := ⟨fun _ => .messages .nil⟩

instance : LegacyLayout ContainerStatus where
  omits _ := .one (.message (.one (.one (.one (.one (.one (.message (.one (.one (.one (.map
    (.map (.messages (.one .nil))))))))))))))

instance : LegacyLayout ContainerStatusResponse := ⟨fun _ => .message (.map .nil)⟩
instance : LegacyLayout UpdateContainerResourcesResponse := ⟨fun _ => .nil⟩
instance : LegacyLayout ReopenContainerLogResponse := ⟨fun _ => .nil⟩

/-! ### Commands -/

instance : LegacyLayout ExecSyncResponse := ⟨fun _ => .one (.one (.one .nil))⟩
instance : LegacyLayout ExecResponse := ⟨fun _ => .one .nil⟩
instance : LegacyLayout AttachResponse := ⟨fun _ => .one .nil⟩

/-! ### Images -/

instance : LegacyLayout Image := ⟨fun _ => .one (.texts (.texts (.one (.message (.one .nil)))))⟩
instance : LegacyLayout ListImagesResponse := ⟨fun _ => .messages .nil⟩
instance : LegacyLayout ImageStatusResponse := ⟨fun _ => .message (.map .nil)⟩
instance : LegacyLayout PullImageResponse := ⟨fun _ => .one .nil⟩
instance : LegacyLayout RemoveImageResponse := ⟨fun _ => .nil⟩

/-! ### Runtimes -/

instance : LegacyLayout VersionResponse := ⟨fun _ => .one (.one (.one (.one .nil)))⟩
instance : LegacyLayout RuntimeCondition := ⟨fun _ => .one (.one (.one (.one .nil)))⟩
instance : LegacyLayout RuntimeStatus := ⟨fun _ => .messages .nil⟩
instance : LegacyLayout StatusResponse := ⟨fun _ => .message (.map .nil)⟩
instance : LegacyLayout UpdateRuntimeConfigResponse := ⟨fun _ => .nil⟩

/-! ### Statistics -/

instance : LegacyLayout ContainerAttributes := ⟨fun _ => .one (.message (.map (.map .nil)))⟩
instance : LegacyLayout CpuUsage := ⟨fun _ => .one (.message .nil)⟩
instance : LegacyLayout MemoryUsage := ⟨fun _ => .one (.message .nil)⟩

/-! ### The legacy schema -/

namespace Legacy

instance : LegacyLayout NamespaceOption := ⟨fun _ => .one (.one (.one .nil))⟩
instance : LegacyLayout Namespace := ⟨fun _ => .message .nil⟩
instance : LegacyLayout LinuxPodSandboxStatus := ⟨fun _ => .message .nil⟩

instance : LegacyLayout PodSandboxStatus where
  omits _ := .one (.message (.one (.one (.message (.message (.map (.map .nil)))))))

instance : LegacyLayout PodSandboxStatusResponse := ⟨fun _ => .message (.map .nil)⟩
instance : LegacyLayout StorageIdentifier := ⟨fun _ => .one .nil⟩
instance : LegacyLayout FilesystemUsage := ⟨fun _ => .one (.message (.message (.message .nil)))⟩
instance : LegacyLayout ContainerStats := ⟨fun _ => .message (.message (.message (.message .nil)))⟩
instance : LegacyLayout ContainerStatsResponse := ⟨fun _ => .message .nil⟩
instance : LegacyLayout ListContainerStatsResponse := ⟨fun _ => .messages .nil⟩
instance : LegacyLayout ImageFsInfoResponse := ⟨fun _ => .messages .nil⟩

end Legacy

/-! ### Lists of pod sandboxes -/

/-- A pod sandbox in a list has no newer field but its runtime handler. -/
theorem PodSandbox.omits_erase (m : PodSandbox) :
    Message.Omits (newerFields.erase "runtime_handler") m := by
  have metadata (x : PodSandboxMetadata) :
      Message.Omits (newerFields.erase "runtime_handler") x :=
    (LegacyLayout.omits x).mono List.erase_subset
  exact .one (.part (.one (.one (.map (.map (.one .nil))))) fun x _ => metadata x)

theorem PodSandbox.omits {m : PodSandbox} (unset : m.runtimeHandler = "") :
    Message.Omits newerFields m := by
  have silent : Field.Silent newerFields (.one 7 "runtime_handler" PodSandbox.runtimeHandler
      fun x m => { m with runtimeHandler := x }) m := by
    intro _
    simp [Field.one, unset, Scalar.isBlank]
  exact .one (.message (.one (.one (.map (.map (.one .nil silent))))))

theorem ListPodSandboxResponse.omits_erase (m : ListPodSandboxResponse) :
    Message.Omits (newerFields.erase "runtime_handler") m :=
  .parts .nil fun item _ => item.omits_erase

theorem ListPodSandboxResponse.omits {m : ListPodSandboxResponse}
    (unset : ∀ item ∈ m.items, item.runtimeHandler = "") : Message.Omits newerFields m :=
  .parts .nil fun item mem => PodSandbox.omits (unset item mem)

end Cri

/-! ### Exchanges -/

/-- All responses of an exchange leave out the fields with certain names. -/
def Exchange.Omits (names : List String) : Exchange → Prop
  | @routed _ Resp _ _ _ _ _ _ _ _ | @listed _ Resp _ _ _ _ _ _ =>
    ∀ response : Resp, Message.Omits names response

/-- In the legacy schema, all responses but the list of pod sandboxes are without newer fields. -/
theorem Method.omits_exchange {m : Method} (other : m ≠ .listPodSandbox) :
    (m.exchange .legacy).Omits newerFields := by
  cases m with
  | listPodSandbox => exact absurd rfl other
  | _ => exact fun response => LegacyLayout.omits response

end RuntimeMux
