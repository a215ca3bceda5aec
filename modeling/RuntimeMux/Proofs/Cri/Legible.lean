import RuntimeMux.Cri.Catalog
import RuntimeMux.Proofs.Wire.Legible

/-!
# Messages come back from their bytes

Every type of messages of either schema is legible: what spells a message is decoded to it. For each
type, the kinds of its fields are gone through in the order in which they are written.
-/

namespace RuntimeMux.Cri

open Wire

/-! ### Parts -/

instance : Legible DnsConfig where
  fills _ := .texts (.texts (.texts .nil))

instance : Legible PortMapping where
  fills _ := .one (.one (.one (.one .nil)))

instance : Legible Mount where
  fills _ := .one (.one (.one (.one (.one .nil))))

instance : Legible NamespaceOption where
  fills _ := .one (.one (.one (.one .nil)))

instance : Legible Int64Value where
  fills _ := .one .nil

instance : Legible UInt64Value where
  fills _ := .one .nil

instance : Legible SeLinuxOption where
  fills _ := .one (.one (.one (.one .nil)))

instance : Legible Capability where
  fills _ := .texts (.texts .nil)

instance : Legible KeyValue where
  fills _ := .one (.one .nil)

instance : Legible ImageSpec where
  fills _ := .one .nil

/-! ### Pod sandboxes -/

instance : Legible LinuxSandboxSecurityContext where
  depth := 1
  fills _ := .message (.message (.message (.one (.packed (.one (.one (.message .nil)))))))

instance : Legible LinuxPodSandboxConfig where
  depth := 2
  fills _ := .one (.message (.map .nil))

instance : Legible PodSandboxMetadata where
  fills _ := .one (.one (.one (.one .nil)))

instance : Legible PodSandboxConfig where
  depth := 3
  fills _ := .message (.one (.one (.message (.messages (.map (.map (.message .nil)))))))

instance : Legible RunPodSandboxRequest where
  depth := 4
  fills _ := .message (.one .nil)

instance : Legible RunPodSandboxResponse where
  fills _ := .one .nil

instance : Legible StopPodSandboxRequest where
  fills _ := .one .nil

instance : Legible StopPodSandboxResponse where
  fills _ := .nil

instance : Legible RemovePodSandboxRequest where
  fills _ := .one .nil

instance : Legible RemovePodSandboxResponse where
  fills _ := .nil

instance : Legible PodSandboxStatusRequest where
  fills _ := .one (.one .nil)

instance : Legible PodSandboxNetworkStatus where
  fills _ := .one .nil

instance : Legible Namespace where
  depth := 1
  fills _ := .message .nil

instance : Legible LinuxPodSandboxStatus where
  depth := 2
  fills _ := .message .nil

instance : Legible PodSandboxStatus where
  depth := 3
  fills _ := .one (.message (.one (.one (.message (.message (.map (.map (.one .nil))))))))

instance : Legible PodSandboxStatusResponse where
  depth := 4
  fills _ := .message (.map .nil)

instance : Legible PodSandboxStateValue where
  fills _ := .one .nil

instance : Legible PodSandboxFilter where
  depth := 1
  fills _ := .one (.message (.map .nil))

instance : Legible ListPodSandboxRequest where
  depth := 2
  fills _ := .message .nil

instance : Legible PodSandbox where
  depth := 1
  fills _ := .one (.message (.one (.one (.map (.map (.one .nil))))))

instance : Legible ListPodSandboxResponse where
  depth := 2
  fills _ := .messages .nil

instance : Legible PortForwardRequest where
  fills _ := .one (.packed .nil)

instance : Legible PortForwardResponse where
  fills _ := .one .nil

/-! ### Containers -/

instance : Legible LinuxContainerResources where
  fills _ := .one (.one (.one (.one (.one (.one (.one .nil))))))

instance : Legible LinuxContainerSecurityContext where
  depth := 1
  fills _ := .message (.one (.message (.message (.message (.one (.one (.packed (.one (.one (.one
    (.message (.texts (.texts .nil)))))))))))))

instance : Legible LinuxContainerConfig where
  depth := 2
  fills _ := .message (.message .nil)

instance : Legible ContainerMetadata where
  fills _ := .one (.one .nil)

instance : Legible Device where
  fills _ := .one (.one (.one .nil))

instance : Legible ContainerConfig where
  depth := 3
  fills _ := .message (.message (.texts (.texts (.one (.messages (.messages (.messages (.map (.map
    (.one (.one (.one (.one (.message .nil))))))))))))))

instance : Legible CreateContainerRequest where
  depth := 4
  fills _ := .one (.message (.message .nil))

instance : Legible CreateContainerResponse where
  fills _ := .one .nil

instance : Legible StartContainerRequest where
  fills _ := .one .nil

instance : Legible StartContainerResponse where
  fills _ := .nil

instance : Legible StopContainerRequest where
  fills _ := .one (.one .nil)

instance : Legible StopContainerResponse where
  fills _ := .nil

instance : Legible RemoveContainerRequest where
  fills _ := .one .nil

instance : Legible RemoveContainerResponse where
  fills _ := .nil

instance : Legible ContainerStateValue where
  fills _ := .one .nil

instance : Legible ContainerFilter where
  depth := 1
  fills _ := .one (.message (.one (.map .nil)))

instance : Legible ListContainersRequest where
  depth := 2
  fills _ := .message .nil

instance : Legible Container where
  depth := 1
  fills _ := .one (.one (.message (.message (.one (.one (.one (.map (.map .nil))))))))

instance : Legible ListContainersResponse where
  depth := 2
  fills _ := .messages .nil

instance : Legible ContainerStatusRequest where
  fills _ := .one (.one .nil)

instance : Legible ContainerStatus where
  depth := 1
  fills _ := .one (.message (.one (.one (.one (.one (.one (.message (.one (.one (.one (.map (.map
    (.messages (.one .nil))))))))))))))

instance : Legible ContainerStatusResponse where
  depth := 2
  fills _ := .message (.map .nil)

instance : Legible UpdateContainerResourcesRequest where
  depth := 1
  fills _ := .one (.message .nil)

instance : Legible UpdateContainerResourcesResponse where
  fills _ := .nil

instance : Legible ReopenContainerLogRequest where
  fills _ := .one .nil

instance : Legible ReopenContainerLogResponse where
  fills _ := .nil

/-! ### Commands -/

instance : Legible ExecSyncRequest where
  fills _ := .one (.texts (.one .nil))

instance : Legible ExecSyncResponse where
  fills _ := .one (.one (.one .nil))

instance : Legible ExecRequest where
  fills _ := .one (.texts (.one (.one (.one (.one .nil)))))

instance : Legible ExecResponse where
  fills _ := .one .nil

instance : Legible AttachRequest where
  fills _ := .one (.one (.one (.one (.one .nil))))

instance : Legible AttachResponse where
  fills _ := .one .nil

/-! ### Images -/

instance : Legible ImageFilter where
  depth := 1
  fills _ := .message .nil

instance : Legible ListImagesRequest where
  depth := 2
  fills _ := .message .nil

instance : Legible Image where
  depth := 1
  fills _ := .one (.texts (.texts (.one (.message (.one .nil)))))

instance : Legible ListImagesResponse where
  depth := 2
  fills _ := .messages .nil

instance : Legible ImageStatusRequest where
  depth := 1
  fills _ := .message (.one .nil)

instance : Legible ImageStatusResponse where
  depth := 2
  fills _ := .message (.map .nil)

instance : Legible AuthConfig where
  fills _ := .one (.one (.one (.one (.one (.one .nil)))))

instance : Legible PullImageRequest where
  depth := 4
  fills _ := .message (.message (.message .nil))

instance : Legible PullImageResponse where
  fills _ := .one .nil

instance : Legible RemoveImageRequest where
  depth := 1
  fills _ := .message .nil

instance : Legible RemoveImageResponse where
  fills _ := .nil

/-! ### Runtimes -/

instance : Legible VersionRequest where
  fills _ := .one .nil

instance : Legible VersionResponse where
  fills _ := .one (.one (.one (.one .nil)))

instance : Legible StatusRequest where
  fills _ := .one .nil

instance : Legible RuntimeCondition where
  fills _ := .one (.one (.one (.one .nil)))

instance : Legible RuntimeStatus where
  depth := 1
  fills _ := .messages .nil

instance : Legible StatusResponse where
  depth := 2
  fills _ := .message (.map .nil)

instance : Legible NetworkConfig where
  fills _ := .one .nil

instance : Legible RuntimeConfig where
  depth := 1
  fills _ := .message .nil

instance : Legible UpdateRuntimeConfigRequest where
  depth := 2
  fills _ := .message .nil

instance : Legible UpdateRuntimeConfigResponse where
  fills _ := .nil

/-! ### Statistics -/

instance : Legible FilesystemIdentifier where
  fills _ := .one .nil

instance : Legible FilesystemUsage where
  depth := 1
  fills _ := .one (.message (.message (.message .nil)))

instance : Legible ContainerAttributes where
  depth := 1
  fills _ := .one (.message (.map (.map .nil)))

instance : Legible CpuUsage where
  depth := 1
  fills _ := .one (.message .nil)

instance : Legible MemoryUsage where
  depth := 1
  fills _ := .one (.message .nil)

instance : Legible ContainerStats where
  depth := 2
  fills _ := .message (.message (.message (.message .nil)))

instance : Legible ContainerStatsRequest where
  fills _ := .one .nil

instance : Legible ContainerStatsResponse where
  depth := 3
  fills _ := .message .nil

instance : Legible ContainerStatsFilter where
  depth := 1
  fills _ := .one (.one (.map .nil))

instance : Legible ListContainerStatsRequest where
  depth := 2
  fills _ := .message .nil

instance : Legible ListContainerStatsResponse where
  depth := 3
  fills _ := .messages .nil

instance : Legible ImageFsInfoRequest where
  fills _ := .nil

instance : Legible ImageFsInfoResponse where
  depth := 2
  fills _ := .messages .nil

/-! ### The legacy schema -/

namespace Legacy

instance : Legible NamespaceOption where
  fills _ := .one (.one (.one .nil))

instance : Legible LinuxSandboxSecurityContext where
  depth := 1
  fills _ := .message (.message (.message (.one (.packed (.one (.one .nil))))))

instance : Legible LinuxPodSandboxConfig where
  depth := 2
  fills _ := .one (.message (.map .nil))

instance : Legible PodSandboxConfig where
  depth := 3
  fills _ := .message (.one (.one (.message (.messages (.map (.map (.message .nil)))))))

instance : Legible RunPodSandboxRequest where
  depth := 4
  fills _ := .message .nil

instance : Legible LinuxContainerSecurityContext where
  depth := 1
  fills _ := .message (.one (.message (.message (.message (.one (.one (.packed (.one (.one (.one
    .nil))))))))))

instance : Legible LinuxContainerConfig where
  depth := 2
  fills _ := .message (.message .nil)

instance : Legible ContainerConfig where
  depth := 3
  fills _ := .message (.message (.texts (.texts (.one (.messages (.messages (.messages (.map (.map
    (.one (.one (.one (.one (.message .nil))))))))))))))

instance : Legible CreateContainerRequest where
  depth := 4
  fills _ := .one (.message (.message .nil))

instance : Legible PullImageRequest where
  depth := 4
  fills _ := .message (.message (.message .nil))

instance : Legible Namespace where
  depth := 1
  fills _ := .message .nil

instance : Legible LinuxPodSandboxStatus where
  depth := 2
  fills _ := .message .nil

instance : Legible PodSandboxStatus where
  depth := 3
  fills _ := .one (.message (.one (.one (.message (.message (.map (.map .nil)))))))

instance : Legible PodSandboxStatusResponse where
  depth := 4
  fills _ := .message (.map .nil)

instance : Legible StorageIdentifier where
  fills _ := .one .nil

instance : Legible FilesystemUsage where
  depth := 1
  fills _ := .one (.message (.message (.message .nil)))

instance : Legible ContainerStats where
  depth := 2
  fills _ := .message (.message (.message (.message .nil)))

instance : Legible ContainerStatsResponse where
  depth := 3
  fills _ := .message .nil

instance : Legible ListContainerStatsResponse where
  depth := 3
  fills _ := .messages .nil

instance : Legible ImageFsInfoResponse where
  depth := 2
  fills _ := .messages .nil

end Legacy

/-! ### The catalog -/

/-- The messages of the type are legible. -/
def MessageType.IsLegible (t : MessageType) : Prop :=
  Nonempty (Legible t.Carrier)

/-- Whatever spells a message of the type is decoded to it. -/
def MessageType.ComesBack (t : MessageType) : Prop :=
  ∀ (m : t.Carrier) (bytes : Bytes), Message.Spells m bytes → bytes.length < UInt64.size →
    t.decode bytes = .ok m

section

variable (M : Type) [Message M] [Views M] [Scoped M] [Convertible M] [legible : Legible M]

theorem MessageType.isLegible_of : (MessageType.of M).IsLegible :=
  ⟨legible⟩

theorem MessageType.isLegible_ofList [Listing M] : (MessageType.ofList M).IsLegible :=
  ⟨legible⟩

end

theorem isLegible_currentTypes : ∀ t ∈ currentTypes, t.IsLegible := by
  simp only [currentTypes, List.forall_mem_cons]
  repeat' refine And.intro ?_ ?_
  all_goals first | exact MessageType.isLegible_of _ | exact MessageType.isLegible_ofList _ | nofun

theorem isLegible_legacyTypes : ∀ t ∈ legacyTypes, t.IsLegible := by
  simp only [legacyTypes, List.forall_mem_cons]
  repeat' refine And.intro ?_ ?_
  all_goals first | exact MessageType.isLegible_of _ | exact MessageType.isLegible_ofList _ | nofun

theorem MessageType.IsLegible.comesBack {t : MessageType} (h : t.IsLegible) : t.ComesBack := by
  obtain ⟨legible⟩ := h
  exact fun m bytes spells short => legible.decode_eq_ok spells short

theorem comesBack_currentTypes : ∀ t ∈ currentTypes, t.ComesBack :=
  fun t declared => (isLegible_currentTypes t declared).comesBack

theorem comesBack_legacyTypes : ∀ t ∈ legacyTypes, t.ComesBack :=
  fun t declared => (isLegible_legacyTypes t declared).comesBack

/-- A message of either schema is decoded to from its bytes, in whatever order the entries of its
maps are written. (No bytes in memory reach the bound on their number, which is that of the lengths
that can be announced.) -/
theorem MessageType.decode_spelled : ∀ t ∈ currentTypes ++ legacyTypes, ∀ m : t.Carrier,
    Message.Spells m (Message.encode m) ∧
      ∀ bytes, Message.Spells m bytes → bytes.length < UInt64.size → t.decode bytes = .ok m := by
  intro t declared m
  refine ⟨Message.spells_encode m, ?_⟩
  rcases List.mem_append.1 declared with current | legacy
  · exact comesBack_currentTypes t current m
  · exact comesBack_legacyTypes t legacy m

/-- A filter with a state that has no name, and labels of which one has neither key nor value, in
the opposite order of their keys. -/
theorem MessageType.decode_spelled_filter :
    let m : PodSandboxFilter :=
      { state := some ⟨-7⟩, labelSelector := .ofList [("", ""), ("b", "")] }
    let bytes : Bytes :=
      [0x12, 0x0b, 0x08, 0xf9, 0xff, 0xff, 0xff, 0xff, 0xff, 0xff, 0xff, 0xff, 0x01,
       0x1a, 0x03, 0x0a, 0x01, 0x62, 0x1a, 0x00]
    MessageType.of PodSandboxFilter ∈ currentTypes ++ legacyTypes ∧ Message.Spells m bytes ∧
      bytes.length < UInt64.size ∧ (MessageType.of PodSandboxFilter).decode bytes = .ok m := by
  intro m bytes
  have declared : MessageType.of PodSandboxFilter ∈ currentTypes ++ legacyTypes := by
    simp [currentTypes]
  have state : Field.spellsPart 2 (⟨-7⟩ : PodSandboxStateValue) (bytes.take 13) :=
    ⟨_, Message.spells_encode _, by decide +kernel⟩
  have spells : Message.Spells m ([] ++ (bytes.take 13 ++ (bytes.drop 13 ++ []))) :=
    .cons rfl (.cons state (.cons ⟨[("b", ""), ("", "")], .swap .., by decide +kernel⟩ .nil))
  have short : bytes.length < UInt64.size := by decide
  exact ⟨declared, spells, short, (MessageType.decode_spelled _ declared m).2 bytes spells short⟩

end RuntimeMux.Cri
