/-!
# Codes in messages

Some fields of messages hold a code out of a small set. The codes of a set are numbered from zero.
A message may hold a number without a meaning, which is kept as it is.
-/

namespace RuntimeMux.Cri

/-- A set of codes, whose names are in the order of their numbers. -/
structure CodeSet where
  name : String
  codes : List String

/-- The name of a code. -/
def CodeSet.codeName? (s : CodeSet) (code : Int32) : Option String :=
  if code < 0 then none else s.codes[code.toInt.toNat]?

/-- How a number without a meaning is reported. -/
def unknownCode (code : Int32) : String :=
  "unknown enumeration value " ++ toString code.toInt

/-! ### The sets -/

/-- The protocols that a port is mapped for. -/
def protocols : CodeSet := ⟨"Protocol", ["Tcp", "Udp", "Sctp"]⟩

/-- How later mounts show through a mount. -/
def mountPropagations : CodeSet :=
  ⟨"MountPropagation",
    ["PropagationPrivate", "PropagationHostToContainer", "PropagationBidirectional"]⟩

/-- Whose kernel namespace is joined. -/
def namespaceModes : CodeSet := ⟨"NamespaceMode", ["Pod", "Container", "Node", "Target"]⟩

/-- The states of a pod sandbox. -/
def podSandboxStates : CodeSet := ⟨"PodSandboxState", ["SandboxReady", "SandboxNotready"]⟩

/-- The states of a container. -/
def containerStates : CodeSet :=
  ⟨"ContainerState",
    ["ContainerCreated", "ContainerRunning", "ContainerExited", "ContainerUnknown"]⟩

/-- All sets of codes. -/
def codeSets : List CodeSet :=
  [protocols, mountPropagations, namespaceModes, podSandboxStates, containerStates]

namespace NamespaceMode

/-- The mode of joining the namespace of the pod. -/
def pod : Int32 := 0

/-- The mode of joining the namespace of the host. -/
def node : Int32 := 2

end NamespaceMode

end RuntimeMux.Cri
