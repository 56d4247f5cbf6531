/-
# Akarin.Ipc.Message -- IPC messages

A message carries inline words and handles: attachments, a buffer descriptor and a reply port. A
message may cross a port only if every handle in it carries SEND, and it may be multiplied for
fan-out only if every handle in it can be cloned. The shape flags of the header are left out: they
are derived from the payload, and nothing reads them.
-/
import Akarin.Objects.Handle

namespace Akarin.Ipc

open List Lib Objects

/-- Errors of the IPC calls. -/
inductive IpcError where
  | invalidArgument
  | invalidMessage
  | unbound
  | portClosed
  | receiverClosed
  | wouldBlock
  | bufferTooSmall
  | fault
  | alreadyBound
  | alreadySubscribed
  | notSubscribed
  | invalidPortKind
  deriving DecidableEq

/-- The header the sender fills in. -/
structure MessageHeader where
  txid : Nat
  protoId : Nat
  opcode : Nat
  deriving DecidableEq

/-- A message with the handles it moves. -/
structure Message where
  header : MessageHeader
  inlineData : List Nat
  attachments : List Handle
  buffer : Option Handle
  replyPort : Option Handle
  deriving DecidableEq

/-- Which handle may not be sent. -/
inductive MessageValidationError where
  | attachmentMissingSend (index : Nat)
  | bufferMissingSend
  | replyPortMissingSend
  deriving DecidableEq

namespace Message

/-- `Message::new`. -/
def new (header : MessageHeader) : Message := ⟨header, [], [], none, none⟩

section

variable (message : Message)

/-- Every handle the message carries. -/
def handles : List Handle :=
  message.attachments ++ message.buffer.toList ++ message.replyPort.toList

/-- `handle.capabilities().contains(Capability::SEND)`. -/
def sendable (handle : Handle) : Bool := handle.capabilities.contains .send

/-- `validate`. -/
def validate : Except MessageValidationError Unit :=
  match message.attachments.findIdx? (!sendable ·) with
  | some index => .error (.attachmentMissingSend index)
  | none =>
    if message.buffer.any (!sendable ·) then .error .bufferMissingSend
    else if message.replyPort.any (!sendable ·) then .error .replyPortMissingSend
    else .ok ()

/-- The clones of a list of handles, up to the first that cannot be cloned. -/
def cloneAll (r : Registry) : List Handle → Except (Fault ObjectError) (List Handle)
  | [] => .ok []
  | handle :: rest =>
    match handle.tryClone r with
    | .error e => .error e
    | .ok clone =>
      match cloneAll r rest with
      | .error e => .error e
      | .ok clones => .ok (clone :: clones)

/-- The clone of an optional handle. -/
def cloneOption (r : Registry) : Option Handle → Except (Fault ObjectError) (Option Handle)
  | none => .ok none
  | some handle =>
    match handle.tryClone r with
    | .error e => .error e
    | .ok clone => .ok (some clone)

/-- `try_clone_for_fanout`. -/
def tryCloneForFanout (r : Registry) : Except (Fault ObjectError) Message :=
  match cloneAll r message.attachments with
  | .error e => .error e
  | .ok attachments =>
    match cloneOption r message.buffer with
    | .error e => .error e
    | .ok buffer =>
      match cloneOption r message.replyPort with
      | .error e => .error e
      | .ok replyPort => .ok { message with
          attachments := attachments
          buffer := buffer
          replyPort := replyPort }

/-- A message passes exactly if every handle in it carries SEND. -/
lemma validate_eq_ok_iff :
    message.validate = .ok () ↔ ∀ handle ∈ message.handles, sendable handle = true := by
  have hattachments : message.attachments.findIdx? (!sendable ·) = none ↔
      ∀ handle ∈ message.attachments, sendable handle = true := by
    rw [findIdx?_eq_none_iff]
    simp
  have hoption : ∀ o : Option Handle, o.any (!sendable ·) = false ↔
      ∀ handle ∈ o.toList, sendable handle = true := by
    intro o
    cases o <;> simp
  have hsplit : (∀ handle ∈ message.handles, sendable handle = true) ↔
      (∀ handle ∈ message.attachments, sendable handle = true) ∧
        (∀ handle ∈ message.buffer.toList, sendable handle = true) ∧
        (∀ handle ∈ message.replyPort.toList, sendable handle = true) := by
    unfold handles
    simp only [mem_append, or_imp, forall_and, and_assoc]
  rw [hsplit, ← hattachments, ← hoption, ← hoption]
  fun_cases validate message <;> simp_all

/-- The handle can be cloned. -/
def Clonable (r : Registry) (handle : Handle) : Prop :=
  handle.capabilities.contains .clone = true ∧ handle.isValid r = true

/-- A clone is the reference that a shared handle already is. -/
lemma tryClone_of_shared {r : Registry} {handle : Handle} (h : handle.object = handle.object.intoShared) :
    (Clonable r handle ∧ handle.tryClone r = .ok handle) ∨
      (¬ Clonable r handle ∧ ∃ e, handle.tryClone r = .error e) := by
  unfold Clonable Handle.tryClone Handle.acquireRef
  cases hclone : handle.capabilities.contains Capability.clone with
  | false => exact .inr ⟨by simp, _, rfl⟩
  | true =>
    cases hvalid : handle.isValid r with
    | false => exact .inr ⟨by simp, _, rfl⟩
    | true => exact .inl ⟨⟨rfl, rfl⟩, by simp [← h]⟩

/-- References to shared objects only, as the handles of a message are. -/
def Shared : Prop :=
  ∀ handle ∈ message.handles, handle.object = handle.object.intoShared

end

lemma cloneAll_of_shared {r : Registry} {handles : List Handle}
    (h : ∀ handle ∈ handles, handle.object = handle.object.intoShared) :
    ((∀ handle ∈ handles, Clonable r handle) ∧ cloneAll r handles = .ok handles) ∨
      ((¬ ∀ handle ∈ handles, Clonable r handle) ∧ ∃ e, cloneAll r handles = .error e) := by
  induction handles with
  | nil => exact .inl ⟨by simp, rfl⟩
  | cons handle rest ih =>
    rw [forall_mem_cons] at h
    rw [forall_mem_cons]
    simp only [cloneAll]
    rcases tryClone_of_shared h.1 with ⟨hclone, heq⟩ | ⟨hclone, e, heq⟩
    · rcases ih h.2 with ⟨hrest, hall⟩ | ⟨hrest, e, hall⟩
      · exact .inl ⟨⟨hclone, hrest⟩, by rw [heq, hall]⟩
      · exact .inr ⟨fun hboth => hrest hboth.2, e, by rw [heq, hall]⟩
    · exact .inr ⟨fun hboth => hclone hboth.1, e, by rw [heq]⟩

lemma cloneOption_eq (r : Registry) (handle : Option Handle) :
    cloneOption r handle = (cloneAll r handle.toList).map List.head? := by
  cases handle with
  | none => rfl
  | some handle =>
    simp only [cloneOption, Option.toList_some, cloneAll]
    cases handle.tryClone r <;> rfl

/-- A message is multiplied for fan-out exactly if every handle in it can be cloned, and then each
copy is the message. -/
lemma tryCloneForFanout_of_shared {r : Registry} {message : Message} (h : message.Shared) :
    ((∀ handle ∈ message.handles, Clonable r handle) ∧ message.tryCloneForFanout r = .ok message) ∨
      ((¬ ∀ handle ∈ message.handles, Clonable r handle) ∧
        ∃ e, message.tryCloneForFanout r = .error e) := by
  unfold Shared at h
  simp only [handles, mem_append, or_imp, forall_and] at h ⊢
  have hoption : ∀ o : Option Handle, o.toList.head? = o := by
    intro o
    cases o <;> rfl
  unfold tryCloneForFanout
  rw [cloneOption_eq, cloneOption_eq]
  rcases cloneAll_of_shared h.1.1 with ⟨hattachments, heq⟩ | ⟨hattachments, e, heq⟩
  · rcases cloneAll_of_shared h.1.2 with ⟨hbuffer, heq'⟩ | ⟨hbuffer, e, heq'⟩
    · rcases cloneAll_of_shared h.2 with ⟨hreply, heq''⟩ | ⟨hreply, e, heq''⟩
      · refine .inl ⟨⟨⟨hattachments, hbuffer⟩, hreply⟩, ?_⟩
        simp only [heq, heq', heq'', Except.map, hoption]
      · refine .inr ⟨fun hall => hreply hall.2, e, ?_⟩
        simp only [heq, heq', heq'', Except.map]
    · refine .inr ⟨fun hall => hbuffer hall.1.2, e, ?_⟩
      simp only [heq, heq', Except.map]
  · refine .inr ⟨fun hall => hattachments hall.1.1, e, ?_⟩
    simp only [heq]

end Message

end Akarin.Ipc
