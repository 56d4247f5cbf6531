/-
# Akarin.Ipc.ReceiveErrors -- a receive that fails after it has a message

A receive first takes a message, then reads the descriptor, and then writes the message out: the words,
the handles with their slots, the descriptor. Nothing puts the message back when one of these fails.
-/
import Akarin.Ipc.Descriptor
import Akarin.Ipc.Receive

namespace Akarin.Ipc

namespace Mailbox

/-- The loop of `recv_message`: the messages of other ports become pending. -/
def drain (id : Nat) : List QueuedMessage → Mailbox → Option QueuedMessage × Mailbox
  | [], box => (none, { box with queue := [] })
  | queued :: rest, box =>
    if queued.portId = id then (some queued, { box with queue := rest })
    else drain id rest (box.pushPending queued)

/-- `recv_message`, `recv_async_for_port`, with nobody else at the mailbox. -/
def recvMessage (box : Mailbox) (id : Nat) : Option QueuedMessage × Mailbox :=
  match (box.popPending id).1 with
  | some queued => (some queued, (box.popPending id).2)
  | none => drain id box.queue (box.popPending id).2

/-- The messages of a port that can be received, in order. -/
def receivable (box : Mailbox) (id : Nat) : List QueuedMessage :=
  box.pendingFor id ++ box.queue.filter (·.portId = id)

lemma drain_spec {id : Nat} {box : Mailbox} (hpending : box.pendingFor id = [])
    (queue : List QueuedMessage) : (drain id queue box).1 = (queue.filter (·.portId = id)).head? ∧
      (drain id queue box).2.receivable id = (queue.filter (·.portId = id)).tail := by
  fun_induction drain id queue box with
  | case1 box =>
    have hnone : pendingFor { box with queue := [] } id = [] := hpending
    exact ⟨rfl, by simp [receivable, hnone]⟩
  | case2 queued rest box hid =>
    rw [List.filter_cons_of_pos (by simpa using hid), receivable,
      show pendingFor { box with queue := rest } id = _ from hpending]
    exact ⟨rfl, rfl⟩
  | case3 queued rest box hid ih =>
    rw [List.filter_cons_of_neg (by simpa using hid)]
    exact ih (by rw [pendingFor_pushPending, if_neg (Ne.symm hid), hpending])

/-- A receive takes the first receivable message. -/
lemma recvMessage_spec (box : Mailbox) (id : Nat) : (box.recvMessage id).1 = (box.receivable id).head? ∧
    (box.recvMessage id).2.receivable id = (box.receivable id).tail := by
  have hpop := box.pendingFor_popPending id id
  rw [if_pos rfl] at hpop
  unfold recvMessage
  rw [popPending_fst]
  cases hpending : box.pendingFor id with
  | nil =>
    rw [hpending] at hpop
    simpa [receivable, hpending] using drain_spec hpop box.queue
  | cons queued rest =>
    rw [hpending] at hpop
    have hqueue : (box.popPending id).2.queue = box.queue := by rw [popPending_rest]
    simp [receivable, hpending, hpop, hqueue]

end Mailbox

/-- Where a message comes from: the inbox of the process, under the id of the port, or the channel of a
reply port. -/
inductive RecvSource where
  | port (id : Nat)
  | reply

/-- A process that receives, and the channel of the reply port. -/
structure Receiver where
  box : Mailbox
  replies : List Message
  repliesClosed : Bool
  table : HandleTable

namespace Receiver

def receivable (s : Receiver) : RecvSource → List Message
  | .port id => (s.box.receivable id).map (·.message)
  | .reply => s.replies

def closed (s : Receiver) : RecvSource → Bool
  | .port _ => s.box.closed
  | .reply => s.repliesClosed

/-- `recv_with_handle`. -/
def dequeue (s : Receiver) : RecvSource → Option Message × Receiver
  | .port id =>
    ((s.box.recvMessage id).1.map (·.message), { s with box := (s.box.recvMessage id).2 })
  | .reply => (s.replies.head?, { s with replies := s.replies.tail })

/-- `recv`, and the method `Recv` of the guards, when the caller may receive. `none` is a receive that
waits, or a descriptor that cannot be read. -/
def recv (s : Receiver) (source : RecvSource) (desc : Option PortUserMessage) (copy : CopyOut) :
    Option (Except IpcError Unit) × Receiver :=
  match s.dequeue source with
  | (none, s') => (if s.closed source then some (.error .receiverClosed) else none, s')
  | (some message, s') =>
    match desc with
    | none => (some (.error .fault), s')
    | some desc =>
      (some (desc.writeMessage s'.table message copy).1,
        { s' with table := (desc.writeMessage s'.table message copy).2 })

variable (s : Receiver) (source : RecvSource) (desc : Option PortUserMessage) (copy : CopyOut)

/-- After an error the same messages can be received, and the handle table is as before. -/
def RecvLaw : Prop :=
  ∀ e, (s.recv source desc copy).1 = some (.error e) →
    (s.recv source desc copy).2.receivable source = s.receivable source ∧
    ∀ slot : Nat, (s.recv source desc copy).2.table[slot]? = s.table[slot]?

lemma dequeue_spec : (s.dequeue source).1 = (s.receivable source).head? ∧
    (s.dequeue source).2.receivable source = (s.receivable source).tail ∧
    (s.dequeue source).2.table = s.table := by
  cases source with
  | port id =>
    obtain ⟨hfirst, hrest⟩ := s.box.recvMessage_spec id
    exact ⟨by simp [dequeue, receivable, hfirst], by simp [dequeue, receivable, hrest], rfl⟩
  | reply => exact ⟨rfl, rfl, rfl⟩

/-- The law holds exactly if, whenever there is a message, the descriptor can be read and the message can
be written: every error after the dequeue loses the message. -/
theorem recvLaw_iff_writable : s.RecvLaw source desc copy ↔
    ∀ message, (s.receivable source).head? = some message →
      ∃ d, desc = some d ∧ d.Writable message copy := by
  obtain ⟨hfirst, hrest, htable⟩ := s.dequeue_spec source
  unfold RecvLaw recv
  rcases hdequeue : s.dequeue source with ⟨first, s'⟩
  simp only [hdequeue] at hfirst hrest htable ⊢
  cases hreceivable : s.receivable source with
  | nil =>
    obtain rfl : first = none := by rw [hfirst, hreceivable]; rfl
    rw [hreceivable] at hrest
    simp [hrest, htable]
  | cons message rest =>
    obtain rfl : first = some message := by rw [hfirst, hreceivable]; rfl
    rw [hreceivable] at hrest
    have hlost : ∀ table, { s' with table := table }.receivable source ≠ message :: rest := by
      intro table hkept
      have hsame : { s' with table := table }.receivable source = s'.receivable source := by
        cases source <;> rfl
      rw [hsame, hrest] at hkept
      simpa using congrArg List.length hkept
    cases desc with
    | none => simpa using fun h => absurd h (hlost s'.table)
    | some d =>
      simp only [List.head?_cons, Option.some.injEq, forall_eq', exists_eq_left',
        ← d.writeMessage_ok_iff s'.table]
      cases (d.writeMessage s'.table message copy).1 with
      | ok => simp
      | error e => simpa using fun h => absurd h (hlost _)

/-- A process with one message, for port 3. -/
def loaded : Receiver := ⟨Mailbox.new.push 3 0 (.new ⟨0, 0, 0⟩), [], false, {}⟩

/-- The descriptor cannot be read: the message is gone. -/
theorem recvLaw_fails : ¬ loaded.RecvLaw (.port 3) none ⟨true, true, true⟩ := fun h =>
  absurd (h .fault (by decide +kernel)).1 (by decide +kernel)

end Receiver

end Akarin.Ipc
