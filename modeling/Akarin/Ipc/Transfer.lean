/-
# Akarin.Ipc.Transfer -- what the send syscall does to the sender's handles

Sending acquires references to the handles a descriptor names, sends the message, and closes the
named slots afterwards. `Conserves` is what a transfer should be: after success the named slots are
empty and the message that was delivered carries each of the handles once; after failure the table
is as before and no message that was delivered carries one. Four things go wrong: a slot that is
named twice, a fan-out port without subscribers, a fan-out that stops at a closed inbox half way, and
a reply that cannot be written back to the sender after the message has been delivered.
`send_conserves_iff` shows that these are all.

The registry effects of dropping handles are left out: nothing reads the registry after a drop within
the call. The reply to a synchronous call and the channel of a new reply port are arguments.
-/
import Akarin.Ipc.Descriptor

namespace Akarin.Ipc

open List Lib Objects Capability HandleTable Message Handle

/-! ## The syscall -/

/-- A send, and the state it meets. -/
structure SendCall where
  table : HandleTable
  registry : Registry
  payloads : Nat → Option Port
  /-- Nobody receives from the channel any more. -/
  closed : Nat → Bool
  slot : Nat
  flags : Nat
  /-- The descriptor, or a fault. -/
  desc : Option PortUserMessage
  /-- The reply to a synchronous call. -/
  reply : Message
  replyChannel : Nat
  copy : CopyOut

/-- The answer, and the state after the call. -/
structure SendResult where
  status : Except Refusal Nat
  table : HandleTable
  delivered : List Delivery
  registry : Registry
  payloads : Nat → Option Port

/-- `PortSendFlags::from_bits`: whether the reply is asynchronous. -/
def asyncReply? (flags : Nat) : Option Bool :=
  if flags = 0 then some false else if flags = 1 then some true else none

/-- What is there when the message is handed to the port. -/
structure Prepared where
  handle : Handle
  desc : PortUserMessage
  message : Message
  transfer : PortCapabilityTransfer
  asyncReply : Bool
  port : Port

/-- The handles of a reply port. -/
structure ReplyEndpoints where
  owner : Handle
  sender : Handle
  receiver : Handle

/-- `ReplyPort::create_endpoints`. -/
def createEndpoints (r : Registry) : Except (Fault ObjectError) ReplyEndpoints × Registry :=
  let created := Handle.newAnonymous (Capability.admin ||| Capability.agent) r
  let owner := created.1
  match owner.deriveHandle (Capability.send ||| Capability.execute) pSendMsg created.2 with
  | .error e => (.error e, created.2)
  | .ok sender =>
    match owner.deriveHandle (Capability.read ||| Capability.execute) (pRecvMsg ||| pQueryState)
      created.2 with
    | .error e => (.error e, created.2)
    | .ok receiver => (.ok ⟨owner, sender, receiver⟩, created.2)

/-- The owner of an anonymous object derives whatever is not privileged. -/
lemma deriveHandle_of_owner {r : Registry} {owner : Handle} (hvalid : owner.isValid r = true)
    (hcaps : owner.capabilities = .adminGrp) (hid : owner.objectId = none)
    {cap : Capability} {caps : BitVec 32}
    (hcap : (clone ||| send ||| read ||| write |||
      execute ||| agent).contains cap = true)
    (hunprivileged : cap.isPrivileged = false) : owner.deriveHandle cap caps r =
      .ok ⟨⟨none, cap, caps⟩, owner.registered, owner.object.intoShared⟩ := by
  have hadmin : adminGrp.contains .admin = true := by decide
  have hexecute : adminGrp.contains .execute = true := by decide
  have hall : unrestricted &&& caps = caps := BitVec.allOnes_and
  simp [deriveHandle, derivable, hvalid, hcaps, hadmin, hexecute, hcap, hall, hid,
    Token.make, Token.new, hunprivileged]

/-- Reply endpoints can always be made; the sending one may cross a port. -/
lemma createEndpoints_eq_ok (r : Registry) : ∃ endpoints,
    (createEndpoints r).1 = .ok endpoints ∧ sendable endpoints.sender = true ∧
      endpoints.sender.object = endpoints.sender.object.intoShared := by
  have hvalid : (newAnonymous (admin ||| agent) r).1.isValid
      (newAnonymous (admin ||| agent) r).2 = true := by
    simp [newAnonymous, isValid, ObjectRef.upgrade, Registry.build, Registry.setObject]
  have hsend : (send ||| execute).contains send = true := by decide
  unfold createEndpoints
  simp only
  rw [deriveHandle_of_owner hvalid rfl rfl (by decide) (by decide),
    deriveHandle_of_owner hvalid rfl rfl (by decide) (by decide)]
  exact ⟨_, rfl, hsend, rfl⟩

namespace SendCall

/-- `send` and `send_with_handle`, up to the port. -/
def prepare (call : SendCall) : Except Refusal Prepared :=
  match asyncReply? call.flags with
  | none => .error (.ipc .invalidArgument)
  | some asyncReply =>
    match call.table.acquire call.registry call.slot with
    | .error e => .error (.object e)
    | .ok handle =>
      match call.desc with
      | none => .error (.ipc .fault)
      | some desc =>
        match desc.intoMessage call.table call.registry with
        | .error e => .error e
        | .ok (message, transfer) =>
          match sendWithHandle call.registry call.payloads handle asyncReply
            message.replyPort.isSome with
          | .error e => .error e
          | .ok port => .ok ⟨handle, desc, message, transfer, asyncReply, port⟩

/-- The call has failed and the table is as it was. -/
def failed (call : SendCall) (error : Refusal) (delivered : List Delivery) : SendResult :=
  ⟨.error error, call.table, delivered, call.registry, call.payloads⟩

/-- The payloads with the port changed. -/
def setPayload (payloads : Nat → Option Port) (uid : Nat) (port : Port) : Nat → Option Port :=
  fun u => if u = uid then some port else payloads u

/-- `transfer.commit` and the answer. -/
def finish (p : Prepared) (table : HandleTable) (delivered : List Delivery) (value : Nat)
    (registry : Registry) (payloads : Nat → Option Port) : SendResult :=
  match p.transfer.commit table with
  | (.ok (), table) => ⟨.ok value, table, delivered, registry, payloads⟩
  | (.error e, table) => ⟨.error (.object e), table, delivered, registry, payloads⟩

variable (call : SendCall)

/-- A send that does not wait for a reply. -/
def sendQueued (p : Prepared) : SendResult :=
  let result := p.port.send call.registry p.message call.closed
  let payloads := setPayload call.payloads p.handle.uid result.2.1
  match result.1 with
  | .error e => { call.failed (.ipc e.ipcError) result.2.2 with payloads := payloads }
  | .ok () => finish p call.table result.2.2 0 call.registry payloads

/-- The rest of `send_unicast`: the message gets a new reply port. -/
def sendRequest (p : Prepared) : SendResult :=
  match createEndpoints call.registry with
  | (.error _, registry) => { call.failed (.ipc .invalidMessage) [] with registry := registry }
  | (.ok endpoints, registry) =>
    let message := { p.message with replyPort := some endpoints.sender }
    let result := p.port.send registry message call.closed
    let payloads := setPayload (setPayload call.payloads p.handle.uid result.2.1)
      endpoints.owner.uid (.reply call.replyChannel)
    match result.1 with
    | .error e =>
      { call.failed (.ipc e.ipcError) result.2.2 with registry := registry, payloads := payloads }
    | .ok () =>
      if p.asyncReply then
        let installed := call.table.install endpoints.receiver
        finish p installed.2 result.2.2 installed.1 registry payloads
      else
        match p.desc.writeMessage call.table call.reply call.copy with
        | (.error e, table) => ⟨.error (.ipc e), table, result.2.2, registry, payloads⟩
        | (.ok (), table) => finish p table result.2.2 0 registry payloads

/-- The `send` syscall. -/
def send : SendResult :=
  match call.prepare with
  | .error e => call.failed e []
  | .ok p =>
    if p.port.kind = .unicast ∧ p.message.replyPort = none then call.sendRequest p
    else call.sendQueued p

/-! ## Conservation -/

/-- The slots the descriptor names. -/
def named : List Nat := (call.desc.map (·.named)).getD []

/-- The descriptor names a reply port. -/
def replyNamed : Bool :=
  (call.desc.bind fun desc => PortUserMessage.slotOperand desc.replyPortSlot).isSome

end SendCall

/-- The handles a message carries on behalf of the sender: a reply port made for the call is not
one of them. -/
def Message.carried (message : Message) (replyNamed : Bool) : List Handle :=
  message.attachments ++ message.buffer.toList ++ if replyNamed then message.replyPort.toList else []

/-- After success the named slots are empty and every message that was delivered, of which there is
one, carries the handle of each named slot once. After failure the table is as before, and no
message that was delivered carries a named handle. -/
def SendCall.Conserves (call : SendCall) (result : SendResult) : Prop :=
  match result.status with
  | .ok _ =>
    (∀ slot ∈ call.named, result.table[slot]? = none) ∧ (call.named ≠ [] → result.delivered ≠ []) ∧
      ∀ delivery ∈ result.delivered, ((delivery.message.carried call.replyNamed).map some).Perm
        (call.named.dedup.map call.table.entry)
  | .error _ =>
    (∀ slot : Nat, result.table[slot]? = call.table[slot]?) ∧
      ∀ delivery ∈ result.delivered, ∀ slot ∈ call.named, ∀ handle ∈ call.table.entry slot,
        handle ∉ delivery.message.carried call.replyNamed

/-- The message carries the handle of each named slot, in order. -/
def SendCall.Filled (call : SendCall) (message : Message) : Prop :=
  (message.carried call.replyNamed).map some = call.named.map call.table.entry

namespace SendCall

variable {call : SendCall}

variable {p : Prepared} {delivered : List Delivery} {registry : Registry} {payloads : Nat → Option Port}

variable {error : Refusal} {table : HandleTable}

section

variable (hfilled : ∀ delivery ∈ delivered, call.Filled delivery.message)
include hfilled

lemma conserves_failed : call.Conserves ⟨.error error, table, delivered, registry, payloads⟩ ↔
      (∀ slot : Nat, table[slot]? = call.table[slot]?) ∧ (call.named = [] ∨ delivered = []) := by
  show (_ ∧ _) ↔ _
  refine and_congr_right fun _ => ?_
  constructor
  · intro h
    by_contra hboth
    push Not at hboth
    obtain ⟨slot, rest, hnamed⟩ := exists_cons_of_ne_nil hboth.1
    obtain ⟨delivery, others, hdelivered⟩ := exists_cons_of_ne_nil hboth.2
    have hmem : delivery ∈ delivered := hdelivered ▸ mem_cons_self
    have hslot : slot ∈ call.named := hnamed ▸ mem_cons_self
    -- the handle of the first named slot is in the message
    have hentry : call.table.entry slot ∈ (delivery.message.carried call.replyNamed).map some := by
      rw [hfilled delivery hmem]
      exact mem_map_of_mem hslot
    obtain ⟨handle, hcarried, heq⟩ := mem_map.1 hentry
    exact h delivery hmem slot hslot handle heq.symm hcarried
  · rintro (hnamed | hdelivered) delivery hdelivery slot hslot
    · rw [hnamed] at hslot
      cases hslot
    · subst hdelivered
      cases hdelivery

lemma conserves_unchanged : call.Conserves ⟨.error error, call.table, delivered, registry, payloads⟩ ↔
      call.named = [] ∨ delivered = [] :=
  (conserves_failed hfilled).trans (and_iff_right fun _ => rfl)

end

/-- A send that has delivered nothing and changed nothing. -/
lemma conserves_refused : call.Conserves ⟨.error error, call.table, [], registry, payloads⟩ :=
  (conserves_unchanged (by simp)).2 (.inr rfl)

lemma conserves_finish {value : Nat} (hcommit : ∀ t, p.transfer.commit t = t.closeAll call.named)
    (hnamed : ∀ slot ∈ call.named, call.table[slot]?.isSome = true) (hextends : call.table.Extends table)
    (hfilled : ∀ delivery ∈ delivered, call.Filled delivery.message) :
    call.Conserves (finish p table delivered value registry payloads) ↔
      call.named.Nodup ∧ (call.named = [] ∨ delivered ≠ []) := by
  have hpresent : ∀ slot ∈ call.named, table[slot]?.isSome = true := by
    intro slot hslot
    rw [hextends slot (hnamed slot hslot)]
    exact hnamed slot hslot
  unfold finish
  rw [hcommit]
  by_cases hnodup : call.named.Nodup
  · -- every slot is closed
    have hok : (table.closeAll call.named).1 = .ok () :=
      closeAll_ok_iff.2 ⟨hnodup, hpresent⟩
    have hclosed := closeAll_closed hok
    rw [show table.closeAll call.named = (.ok (), (table.closeAll call.named).2) from
      Prod.ext hok rfl]
    show (_ ∧ _ ∧ _) ↔ _
    simp only [hnodup, true_and]
    constructor
    · rintro ⟨-, hdelivered, -⟩
      exact or_iff_not_imp_left.2 hdelivered
    · intro hdelivered
      refine ⟨hclosed, or_iff_not_imp_left.1 hdelivered, fun delivery hdelivery => ?_⟩
      rw [hfilled delivery hdelivery, dedup_eq_self.2 hnodup]
  · -- the slot that is named twice stops the commit, after the first slot has been closed
    simp only [hnodup, false_and, iff_false]
    have herror : (table.closeAll call.named).1 ≠ .ok () :=
      fun hok => hnodup (closeAll_ok_iff.1 hok).1
    split
    · rename_i heq
      rw [heq] at herror
      exact absurd rfl herror
    · rename_i e after heq
      rintro ⟨hsame, -⟩
      cases hlist : call.named with
      | nil => exact hnodup (hlist ▸ nodup_nil)
      | cons first rest =>
        have hfirst : first ∈ call.named := hlist ▸ mem_cons_self
        have hgone : (table.closeAll call.named).2[first]? = none := by
          rw [hlist]
          exact closeAll_head (hpresent first hfirst)
        have hstill := hnamed first hfirst
        rw [← hsame first] at hstill
        rw [heq] at hgone
        rw [show after[first]? = none from hgone] at hstill
        cases hstill

/-! ## When a send conserves -/

/-- If the port takes the message, the transfer goes well: no slot is named twice, the message gets
into every channel or into none, and the reply to a synchronous call can be written back. (A send
that names no handle may also fail half way, as long as no handle of the reply has been
installed.) -/
def Safe (call : SendCall) : Prop :=
  ∀ p, call.prepare = .ok p → p.port.Accepts call.registry p.message →
    if p.port.kind = .unicast ∧ p.message.replyPort = none then
      (∀ c ∈ p.port.channels, call.closed c = false) →
        if p.asyncReply = true ∨ p.desc.Writable call.reply call.copy then call.named.Nodup
        else call.named = [] ∧ (p.desc.Fits call.reply call.copy → call.reply.handles = [])
    else
      call.named = [] ∨ ∃ first rest, p.port.channels = first :: rest ∧
        (call.closed first = true ∨ call.named.Nodup ∧ ∀ c ∈ rest, call.closed c = false)

/-- What has been put together when the port is reached. -/
structure Ready (call : SendCall) (p : Prepared) : Prop where
  filled : call.Filled p.message
  shared : p.message.Shared
  present : ∀ slot ∈ call.named, call.table[slot]?.isSome = true
  commit : ∀ t, p.transfer.commit t = t.closeAll call.named
  reply : p.message.replyPort.isSome = call.replyNamed

lemma ready_of_prepare (h : call.prepare = .ok p) : call.Ready p := by
  unfold prepare at h
  repeat' split at h
  any_goals cases h
  rename_i desc hdesc _ message transfer hmessage _ _ _
  obtain ⟨hhandles, hreply, hcommit⟩ := PortUserMessage.intoMessage_eq_ok hmessage
  have hnamed : call.named = desc.named := by rw [named, hdesc]; rfl
  have hreplyNamed : message.replyPort.isSome = call.replyNamed := by
    rw [hreply, replyNamed, hdesc]
    rfl
  have hcarried : message.carried call.replyNamed = message.handles := by
    unfold carried handles
    rw [← hreplyNamed]
    cases message.replyPort <;> rfl
  refine ⟨?_, fun handle hhandle => ?_, fun slot hslot => ?_, ?_, hreplyNamed⟩
  · rw [Filled, hcarried, hhandles, hnamed]
  · have hmem : some handle ∈ desc.named.map call.table.entry := by
      rw [← hhandles]
      exact mem_map_of_mem hhandle
    obtain ⟨slot, -, hentry⟩ := mem_map.1 hmem
    obtain ⟨held, -, rfl⟩ := Option.map_eq_some_iff.1 hentry
    rfl
  · rw [hnamed] at hslot
    have hmem : call.table.entry slot ∈ message.handles.map some := by
      rw [hhandles]
      exact mem_map_of_mem hslot
    obtain ⟨handle, -, hentry⟩ := mem_map.1 hmem
    obtain ⟨held, hheld, -⟩ := Option.map_eq_some_iff.1 hentry.symm
    rw [hheld]
    rfl
  · rw [hnamed]
    exact hcommit

/-- Every message that is delivered is the one that was sent. -/
lemma filled_of_delivered {message : Message} (h : call.Filled message) {channels : List Nat} :
    ∀ delivery ∈ (channels.map (⟨·, message⟩) : List Delivery), call.Filled delivery.message := by
  intro delivery hdelivery
  obtain ⟨c, -, rfl⟩ := mem_map.1 hdelivery
  exact h

lemma sendQueued_conserves_iff (h : call.Ready p) :
    call.Conserves (call.sendQueued p) ↔ (p.port.Accepts call.registry p.message →
      call.named = [] ∨ ∃ first rest, p.port.channels = first :: rest ∧
        (call.closed first = true ∨ call.named.Nodup ∧ ∀ c ∈ rest, call.closed c = false)) := by
  unfold sendQueued
  simp only
  rcases p.port.send_of_shared call.registry p.message call.closed h.shared with
    ⟨haccepts, hok, hdelivered⟩ | ⟨hrefuses, herror, hdelivered⟩
  · have hfilled : ∀ delivery ∈ (p.port.send call.registry p.message call.closed).2.2,
        call.Filled delivery.message := by
      rw [hdelivered]
      exact filled_of_delivered h.filled
    simp only [haccepts, true_implies]
    split
    · -- stopped at a closed channel
      rename_i e herror
      have hclosed : ¬ ∀ c ∈ p.port.channels, call.closed c = false := by
        rw [← hok, herror]
        simp
      refine (conserves_unchanged hfilled).trans ?_
      rw [hdelivered]
      cases hchannels : p.port.channels with
      | nil => simp [hchannels] at hclosed
      | cons first rest =>
        rw [hchannels, forall_mem_cons] at hclosed
        cases hfirst : call.closed first with
        | true => simp [hfirst]
        | false =>
          have hrest : ¬ ∀ c ∈ rest, call.closed c = false := fun hall => hclosed ⟨hfirst, hall⟩
          simp [hfirst, hrest]
    · rename_i hdone
      have hopen := hok.1 hdone
      refine (conserves_finish h.commit h.present (.refl _) hfilled).trans ?_
      rw [hdelivered]
      cases hchannels : p.port.channels with
      | nil =>
        simp only [takeWhile_nil, map_nil, ne_eq, not_true_eq_false, or_false,
          reduceCtorEq, false_and, exists_false]
        exact ⟨And.right, fun hnone => ⟨hnone ▸ nodup_nil, hnone⟩⟩
      | cons first rest =>
        rw [hchannels, forall_mem_cons] at hopen
        simp only [hopen.1, Bool.not_false, takeWhile_cons_of_pos, map_cons, ne_eq,
          reduceCtorEq, not_false_eq_true, or_true, and_true, List.cons.injEq]
        constructor
        · exact fun hnodup => .inr ⟨first, rest, ⟨rfl, rfl⟩, .inr ⟨hnodup, hopen.2⟩⟩
        · rintro (hnone | ⟨_, _, ⟨rfl, rfl⟩, hclosed | ⟨hnodup, -⟩⟩)
          · exact hnone ▸ nodup_nil
          · rw [hopen.1] at hclosed
            cases hclosed
          · exact hnodup
  · split
    · simp only [hdelivered, hrefuses, false_implies, iff_true]
      exact conserves_refused
    · rename_i hdone
      exact absurd hdone herror

/-- A reply port for the call changes neither what the message carries for the sender nor whether a
unicast port takes it. -/
lemma withReplyPort (h : call.Ready p) (hnone : p.message.replyPort = none)
    {sender : Handle} (hsend : sendable sender = true)
    (hshared : sender.object = sender.object.intoShared) {port : UnicastPort} :
    call.Filled { p.message with replyPort := some sender } ∧
      Message.Shared { p.message with replyPort := some sender } ∧
      (port.Accepts { p.message with replyPort := some sender } ↔ port.Accepts p.message) := by
  have hreply : call.replyNamed = false := by
    rw [← h.reply, hnone]
    rfl
  have hhandles : handles { p.message with replyPort := some sender } =
      p.message.handles ++ [sender] := by
    simp [handles, hnone]
  refine ⟨?_, fun handle hhandle => ?_, ?_⟩
  · have hfilled := h.filled
    rw [Filled, hreply] at hfilled ⊢
    exact hfilled
  · rw [hhandles] at hhandle
    rcases mem_append.1 hhandle with hold | hnew
    · exact h.shared handle hold
    · rw [mem_singleton.1 hnew]
      exact hshared
  · unfold UnicastPort.Accepts
    rw [hhandles]
    simp [or_imp, forall_and, hsend]

/-- Once the message is out, the end for the reply is installed, or the reply is written back; if it
cannot be, the call fails. -/
lemma conserves_answered (h : call.Ready p) (receiver : Handle)
    (hfilled : ∀ delivery ∈ delivered, call.Filled delivery.message) (hsome : delivered ≠ []) :
    call.Conserves (if p.asyncReply then
        finish p (call.table.install receiver).2 delivered (call.table.install receiver).1 registry payloads
      else
        match p.desc.writeMessage call.table call.reply call.copy with
        | (.error e, table) => ⟨.error (.ipc e), table, delivered, registry, payloads⟩
        | (.ok (), table) => finish p table delivered 0 registry payloads) ↔
      if p.asyncReply = true ∨ p.desc.Writable call.reply call.copy then call.named.Nodup
      else call.named = [] ∧ (p.desc.Fits call.reply call.copy → call.reply.handles = []) := by
  have hfinish : ∀ {table : HandleTable} {value : Nat}, call.table.Extends table →
      (call.Conserves (finish p table delivered value registry payloads) ↔ call.named.Nodup) :=
    fun hextends =>
      (conserves_finish h.commit h.present hextends hfilled).trans (and_iff_left (.inr hsome))
  by_cases hasync : p.asyncReply = true
  · rw [if_pos hasync, if_pos (.inl hasync)]
    exact hfinish (extends_install _ _)
  · rw [if_neg hasync]
    by_cases hwritable : p.desc.Writable call.reply call.copy
    · have hwritten := (p.desc.writeMessage_ok_iff call.table _ _).2 hwritable
      rw [if_pos (.inr hwritable), show p.desc.writeMessage call.table call.reply call.copy =
        (.ok (), (p.desc.writeMessage call.table call.reply call.copy).2) from Prod.ext hwritten rfl]
      exact hfinish (p.desc.extends_writeMessage call.table call.reply call.copy)
    · rw [if_neg (not_or.2 ⟨hasync, hwritable⟩)]
      have hfails := mt (p.desc.writeMessage_ok_iff call.table _ _).1 hwritable
      have hsame := p.desc.writeMessage_unchanged_iff call.table call.reply call.copy
      split
      · rename_i e after heq
        rw [heq] at hsame
        refine (conserves_failed hfilled).trans ?_
        rw [hsame, or_iff_left hsome, and_comm]
      · rename_i heq
        rw [heq] at hfails
        exact absurd rfl hfails

lemma sendRequest_conserves_iff (h : call.Ready p)
    (hkind : p.port.kind = .unicast) (hnone : p.message.replyPort = none) :
    call.Conserves (call.sendRequest p) ↔ (p.port.Accepts call.registry p.message →
      (∀ c ∈ p.port.channels, call.closed c = false) →
        if p.asyncReply = true ∨ p.desc.Writable call.reply call.copy then call.named.Nodup
        else call.named = [] ∧ (p.desc.Fits call.reply call.copy → call.reply.handles = [])) := by
  obtain ⟨port, hport⟩ : ∃ port, p.port = .unicast port := by
    cases hp : p.port <;> simp_all [Port.kind]
  obtain ⟨endpoints, hendpoints, hsend, hobject⟩ := createEndpoints_eq_ok call.registry
  obtain ⟨hfilled, hshared, haccepts⟩ := @withReplyPort call p h hnone _ hsend hobject port
  unfold sendRequest
  rw [show createEndpoints call.registry = (.ok endpoints, (createEndpoints call.registry).2) from
    Prod.ext hendpoints rfl]
  simp only
  rcases p.port.send_of_shared (createEndpoints call.registry).2
    { p.message with replyPort := some endpoints.sender } call.closed hshared with
    ⟨htakes, hok, hdelivered⟩ | ⟨hrefuses, herror, hdelivered⟩
  · have htaken : p.port.Accepts call.registry p.message := by
      rw [hport] at htakes ⊢
      exact haccepts.1 htakes
    have hfill := @filled_of_delivered call _ hfilled (p.port.channels.takeWhile fun c => !call.closed c)
    rw [← hdelivered] at hfill
    obtain ⟨c, hchannels⟩ : ∃ c, p.port.channels = [c] := by
      rw [hport] at htakes ⊢
      obtain ⟨route, hroute⟩ := Option.isSome_iff_exists.1 htakes.2.2
      exact ⟨route.inbox, by simp [Port.channels, hroute]⟩
    rw [hchannels] at hok hdelivered ⊢
    simp only [forall_mem_singleton, htaken, true_implies] at hok ⊢
    split
    · -- the receiver is gone: nothing was delivered
      rename_i e herror
      have hclosed : call.closed c ≠ false := by
        rw [Ne, ← hok, herror]
        simp
      refine (conserves_unchanged hfill).trans ?_
      simp [hclosed, hdelivered]
    · rename_i hdone
      have hopen := hok.1 hdone
      have hsome : (p.port.send (createEndpoints call.registry).2
          { p.message with replyPort := some endpoints.sender } call.closed).2.2 ≠ [] := by
        simp [hdelivered, hopen]
      refine Iff.trans ?_ (forall_prop_of_true hopen).symm
      exact conserves_answered h endpoints.receiver hfill hsome
  · have hrefused : ¬ p.port.Accepts call.registry p.message := by
      rw [hport] at hrefuses ⊢
      exact fun htaken => hrefuses (haccepts.2 htaken)
    split
    · simp only [hdelivered, hrefused, false_implies, iff_true]
      exact conserves_refused
    · rename_i hdone
      exact absurd hdone herror

/-- A send conserves the sender's handles exactly if the transfer is safe. -/
theorem send_conserves_iff (call : SendCall) : call.Conserves call.send ↔ call.Safe := by
  unfold send Safe
  cases hprepare : call.prepare with
  | error e =>
    simp only [reduceCtorEq, false_implies, implies_true, iff_true]
    exact conserves_refused
  | ok p =>
    have hready := ready_of_prepare hprepare
    simp only [Except.ok.injEq, forall_eq']
    by_cases hrequest : p.port.kind = .unicast ∧ p.message.replyPort = none
    · simp only [if_pos hrequest]
      exact sendRequest_conserves_iff hready hrequest.1 hrequest.2
    · simp only [if_neg hrequest]
      exact sendQueued_conserves_iff hready

end SendCall

/-- A process with a handle to a bound unicast port in slot 0 and a handle that may be sent but not
cloned in slot 1, and a request that names slot 1 twice. -/
def doubledSlot : SendCall where
  table := ((∅ : HandleTable).insert 0
    ⟨⟨none, .execute, pSendMsg⟩, false, .shared anonymousPort.1.uid⟩).insert 1
    ⟨⟨none, .send, 0⟩, false, .shared anonymousPort.1.uid⟩
  registry := anonymousPort.2
  payloads uid := if uid = anonymousPort.1.uid then
    some (.unicast { UnicastPort.new 1 with receiver := some ⟨0, 0⟩ }) else none
  closed _ := false
  slot := 0
  flags := 1
  desc := some ⟨⟨0, 0, 0⟩, some [], some [1, 1], invalidHandleSlot, invalidHandleSlot⟩
  reply := .new ⟨0, 0, 0⟩
  replyChannel := 1
  copy := ⟨true, true, true⟩

/-- The send fails, and yet the handle has left the table and the receiver has it twice. -/
theorem doubledSlot_duplicates : doubledSlot.send.status = .error (.object (.error .objectNotFound)) ∧
      doubledSlot.table[1]? = some ⟨⟨none, Capability.send, 0⟩, false, .shared anonymousPort.1.uid⟩ ∧
      doubledSlot.send.table[1]? = none ∧ doubledSlot.send.delivered.map (·.message.attachments) =
        [[⟨⟨none, Capability.send, 0⟩, false, .shared anonymousPort.1.uid⟩,
          ⟨⟨none, Capability.send, 0⟩, false, .shared anonymousPort.1.uid⟩]] := by
  decide +kernel

end Akarin.Ipc
