import RuntimeMux.Proofs.Cri.Legible
import RuntimeMux.Routing.Single

/-!
# Requests for lists on the wire

What a runtime reads of a request for pod sandboxes or containers is what has been sent to it,
filter included, and a filter that is made shorter makes the request no longer.
-/

namespace RuntimeMux.Cri

open Wire

/-! ### Lengths -/

theorem length_podSandboxFilter_le {text : String} {m : PodSandboxFilter}
    (shorter : text.utf8ByteSize ≤ m.id.utf8ByteSize)
    (short : (Message.encode m).length < UInt64.size) :
    (Message.encode { m with id := text }).length ≤ (Message.encode m).length := by
  refine Message.length_encode_le short ?_
  refine List.forall_mem_cons.2 ⟨Field.length_write_one_le shorter, ?others⟩
  simp only [List.forall_mem_cons]
  exact ⟨fun _ => Nat.le_refl _, fun _ => Nat.le_refl _, nofun⟩

theorem length_listPodSandboxRequest_le {m : ListPodSandboxRequest}
    {f : PodSandboxFilter → PodSandboxFilter}
    (shorter : ∀ x, m.filter = some x → (Message.encode x).length < UInt64.size →
      (Message.encode (f x)).length ≤ (Message.encode x).length)
    (short : (Message.encode m).length < UInt64.size) :
    (Message.encode (⟨m.filter.map f⟩ : ListPodSandboxRequest)).length ≤
      (Message.encode m).length := by
  refine Message.length_encode_le short ?_
  exact List.forall_mem_singleton.2 (Field.length_write_message_le rfl shorter)

theorem length_containerFilter_le {id podSandboxId : String} {m : ContainerFilter}
    (shorter : id.utf8ByteSize ≤ m.id.utf8ByteSize)
    (shorterSandbox : podSandboxId.utf8ByteSize ≤ m.podSandboxId.utf8ByteSize)
    (short : (Message.encode m).length < UInt64.size) :
    (Message.encode { m with id, podSandboxId }).length ≤ (Message.encode m).length := by
  refine Message.length_encode_le short ?_
  simp only [Message.fields, List.forall_mem_cons]
  exact ⟨Field.length_write_one_le shorter, fun _ => Nat.le_refl _,
    Field.length_write_one_le shorterSandbox, fun _ => Nat.le_refl _, nofun⟩

theorem length_listContainersRequest_le {m : ListContainersRequest}
    {f : ContainerFilter → ContainerFilter}
    (shorter : ∀ x, m.filter = some x → (Message.encode x).length < UInt64.size →
      (Message.encode (f x)).length ≤ (Message.encode x).length)
    (short : (Message.encode m).length < UInt64.size) :
    (Message.encode (⟨m.filter.map f⟩ : ListContainersRequest)).length ≤
      (Message.encode m).length := by
  refine Message.length_encode_le short ?_
  exact List.forall_mem_singleton.2 (Field.length_write_message_le rfl shorter)

/-! ### Requests -/

/-- A type of list requests that runtimes read as they were sent, and whose filters are about
ids. -/
class ObjectRequest (Req : Type) [Message Req] [Views Req] : Prop where
  decode_encode : ∀ m : Req, (Message.encode m).length < UInt64.size →
    Message.decode (Message.encode m) = .ok m
  length_withText_le : ∀ (view : View) (text : String) (m : Req),
    text.utf8ByteSize ≤ (Router.textOf view m).utf8ByteSize →
    (Message.encode m).length < UInt64.size →
    (Message.encode (Router.withText view text m)).length ≤ (Message.encode m).length
  textOf_imageFilter : ∀ m : Req, Router.textOf .imageFilter m = ""

instance : ObjectRequest ListPodSandboxRequest where
  decode_encode m short := Legible.decode_eq_ok (Message.spells_encode m) short
  length_withText_le view text m shorter short := by
    obtain ⟨filter⟩ := m
    cases view with
    | idFilter =>
      refine length_listPodSandboxRequest_le (fun x hx fits => ?_) short
      obtain rfl : filter = some x := hx
      exact length_podSandboxFilter_le shorter fits
    | podSandboxId | containerId | image | podSandboxIdFilter | imageFilter | url =>
      exact Nat.le_refl _
  textOf_imageFilter _ := rfl

instance : ObjectRequest ListContainersRequest where
  decode_encode m short := Legible.decode_eq_ok (Message.spells_encode m) short
  length_withText_le view text m shorter short := by
    obtain ⟨filter⟩ := m
    cases view with
    | idFilter =>
      refine length_listContainersRequest_le (fun x hx fits => ?_) short
      obtain rfl : filter = some x := hx
      exact length_containerFilter_le shorter (Nat.le_refl _) fits
    | podSandboxIdFilter =>
      refine length_listContainersRequest_le (fun x hx fits => ?_) short
      obtain rfl : filter = some x := hx
      exact length_containerFilter_le (Nat.le_refl _) shorter fits
    | podSandboxId | containerId | image | imageFilter | url => exact Nat.le_refl _
  textOf_imageFilter _ := rfl

end RuntimeMux.Cri
