/-
# Akarin.Ipc.Authorization -- the two ways to operate a port

A port is operated through the object syscall `invoke`, whose guard checks an access mode, the
interface capability of the method and, for a receive on a fan-out port, the subscription; or through
the dedicated port syscalls, which open the guard of a fixed mode and reach the raw port through it.
Both are modelled up to the port they operate: `.ok port` means that the method runs on `port`.
Reading the operands (message descriptor, process slot) is the same on both ways and left out.

The dedicated syscalls check neither the interface capability nor the subscription, so they perform
only what `invoke` permits exactly for the handles that happen to have them
(`fastPath_permitted_iff`).
-/
import Akarin.Ipc.Port

namespace Akarin.Ipc

open Lib Objects Option

/-! ## Methods, modes and interface capabilities -/

/-- The methods of a port. -/
inductive PortMethod where
  | queryState
  | send
  | recv
  | bindReceiver
  | rebindReceiver
  | close
  | freeze
  | subscribe
  | unsubscribe
  deriving DecidableEq

/-- `CpAccessMode`, and the mode of the guard it opens. -/
inductive GuardMode where
  | read
  | write
  | execute
  | agent
  | admin
  deriving DecidableEq

def pSendMsg : BitVec 32 := 1#32 <<< 0
def pRecvMsg : BitVec 32 := 1#32 <<< 1
def pSubscribe : BitVec 32 := 1#32 <<< 2
def pUnsubscribe : BitVec 32 := 1#32 <<< 3
def pBindRecv : BitVec 32 := 1#32 <<< 4
def pRebindRecv : BitVec 32 := 1#32 <<< 5
def pQueryState : BitVec 32 := 1#32 <<< 6
def pClosePort : BitVec 32 := 1#32 <<< 8
def pPublish : BitVec 32 := 1#32 <<< 11
def pListen : BitVec 32 := 1#32 <<< 12

/-- Why a syscall does not operate the port. -/
inductive Refusal where
  | object (error : Fault ObjectError)
  | ipc (error : IpcError)
  deriving DecidableEq

/-- The payload types of ports. -/
inductive PayloadKind where
  | unicast
  | broadcast
  | bus
  | reply
  deriving DecidableEq

def Port.kind : Port → PayloadKind
  | .unicast _ => .unicast
  | .broadcast _ => .broadcast
  | .bus _ => .bus
  | .reply _ => .reply

/-! ## The object-invoke path -/

/-- `cp_mode_allows`. -/
def cpModeAllows (mode : GuardMode) (caps : Capability) : Bool :=
  match mode with
  | .read => caps.contains .read
  | .write => caps.contains .write
  | .execute => caps.contains .execute
  | .agent => caps.contains .agent
  | .admin => caps.contains .admin

/-- The mode matrix in `GuardMode::require_method` of `port.rs`. -/
def GuardMode.allowsMethod : GuardMode → PortMethod → Bool
  | .admin, _ => true
  | .agent, method => method ≠ .rebindReceiver && method ≠ .close
  | .read, method => method = .queryState
  | .write, method => method = .bindReceiver || method = .subscribe || method = .unsubscribe
  | .execute, method => method = .send || method = .recv

/-- `GuardMode::allows` of `reply.rs`. -/
def GuardMode.allowsReply : GuardMode → PortMethod → Bool
  | .admin, method => method = .queryState || method = .send || method = .recv
  | .agent, method => method = .queryState || method = .send || method = .recv
  | .read, method => method = .queryState
  | .write, _ => false
  | .execute, method => method = .send || method = .recv

/-- The interface capabilities admit a method that needs `caps`. -/
def admits (interfaceCaps caps : BitVec 32) : Bool :=
  interfaceCaps = unrestricted || BitFlags.contains interfaceCaps caps

/-- `require_method`, after the mode has been looked up. -/
def requireMethod (modeAllows : Bool) (interfaceCaps caps : BitVec 32) : Except Refusal Unit :=
  if !modeAllows then .error (.object (.error .insufficientCapabilities))
  else if admits interfaceCaps caps then .ok ()
  else .error (.object (.error .insufficientCapabilities))

/-- `UnicastPortGuard::dispatch`. -/
def dispatchUnicast (mode : GuardMode) (interfaceCaps : BitVec 32) (method : PortMethod) :
    Except Refusal Unit :=
  let require := requireMethod (mode.allowsMethod method) interfaceCaps
  match method with
  | .queryState => require pQueryState
  | .send => require pSendMsg
  | .recv => require pRecvMsg
  | .bindReceiver => require pBindRecv
  | .rebindReceiver => require pRebindRecv
  | .close => require pClosePort
  | .freeze => require pClosePort
  | .subscribe => .error (.ipc .invalidArgument)
  | .unsubscribe => .error (.ipc .invalidArgument)

/-- The dispatch of a guard of a fan-out port; `pid` is the calling process. -/
def dispatchFanout (pSend pRecv : BitVec 32) (port : FanoutPort) (pid : Nat) (mode : GuardMode)
    (interfaceCaps : BitVec 32) (method : PortMethod) : Except Refusal Unit :=
  let require := requireMethod (mode.allowsMethod method) interfaceCaps
  match method with
  | .queryState => require pQueryState
  | .send => require pSend
  | .recv =>
    match require pRecv with
    | .error e => .error e
    | .ok () => if port.isSubscribed pid then .ok () else .error (.ipc .notSubscribed)
  | .subscribe => require pSubscribe
  | .unsubscribe => require pUnsubscribe
  | .close => require pClosePort
  | .freeze => require pClosePort
  | .bindReceiver => .error (.ipc .invalidArgument)
  | .rebindReceiver => .error (.ipc .invalidArgument)

/-- `BroadcastPortGuard::dispatch`. -/
def dispatchBroadcast := dispatchFanout pSendMsg pRecvMsg

/-- `BusPortGuard::dispatch`. -/
def dispatchBus := dispatchFanout pPublish pListen

/-- `ReplyPortGuard::dispatch`. -/
def dispatchReply (mode : GuardMode) (interfaceCaps : BitVec 32) (method : PortMethod) :
    Except Refusal Unit :=
  let require := requireMethod (mode.allowsReply method) interfaceCaps
  match method with
  | .queryState => require pQueryState
  | .send => require pSendMsg
  | .recv => require pRecvMsg
  | _ => .error (.ipc .invalidArgument)

def Port.dispatch (port : Port) (pid : Nat) (mode : GuardMode) (interfaceCaps : BitVec 32)
    (method : PortMethod) : Except Refusal Unit :=
  match port with
  | .unicast _ => dispatchUnicast mode interfaceCaps method
  | .broadcast port => dispatchBroadcast port pid mode interfaceCaps method
  | .bus port => dispatchBus port pid mode interfaceCaps method
  | .reply _ => dispatchReply mode interfaceCaps method

section Paths

/- The registry, and the payloads of the objects that are ports. -/
variable (r : Registry) (payloads : Nat → Option Port)

/-- `Handle::invoke_cp` on a port: the port whose method runs. -/
def invokeCp (handle : Handle) (mode : GuardMode) (method : PortMethod) (pid : Nat) :
    Except Refusal Port :=
  match handle.object.upgrade r with
  | none => .error (.object (.error .objectDestroyed))
  | some uid =>
    if !cpModeAllows mode handle.capabilities then
      .error (.object (.error .insufficientCapabilities))
    else
      match (r.objects uid).verifyCapabilities handle.token handle.token.capabilities with
      | .error e => .error (.object e)
      | .ok () =>
        match payloads uid with
        -- objects that are no ports have guards of their own
        | none => .error (.object (.error .invalidArgument))
        | some port =>
          match port.dispatch pid mode handle.interfaceCaps method with
          | .error e => .error e
          | .ok () => .ok port

/-! ## The dedicated syscalls -/

/-- `read_cp_with`, `write_cp_with`, `execute_cp_with`, `admin_cp_with` at a payload type: the port
behind the guard. -/
def cpWith (handle : Handle) (required : Capability) (kind : PayloadKind) :
    Except (Fault ObjectError) Port :=
  match handle.object.upgrade r with
  | none => .error (.error .objectDestroyed)
  | some uid =>
    match (r.objects uid).verifyCapabilities handle.token required with
    | .error e => .error e
    | .ok () =>
      match payloads uid with
      | none => .error (.error .invalidArgument)
      | some port => if port.kind = kind then .ok port else .error (.error .invalidArgument)

/-- The port behind the first guard that opens. -/
def firstOf (handle : Handle) (required : Capability) : List PayloadKind → Option Port
  | [] => none
  | kind :: kinds =>
    match cpWith r payloads handle required kind with
    | .ok port => some port
    | .error _ => firstOf handle required kinds

section

variable (handle : Handle)

/-- That port, or the answer when no guard opens. -/
def openFirst (required : Capability) (kinds : List PayloadKind)
    (refusal : Refusal) : Except Refusal Port :=
  match firstOf r payloads handle required kinds with
  | none => .error refusal
  | some port => .ok port

/-- `send_with_handle`, `send_unicast`: which port the message is sent through. -/
def sendWithHandle (asyncReply hasReply : Bool) : Except Refusal Port :=
  match openFirst r payloads handle .execute [.unicast, .broadcast, .bus, .reply]
    (.ipc .invalidPortKind) with
  | .error e => .error e
  | .ok port =>
    if asyncReply && (port.kind ≠ .unicast || hasReply) then .error (.ipc .invalidArgument)
    else .ok port

/-- `recv_with_handle`. -/
def recvWithHandle : Except Refusal Port :=
  openFirst r payloads handle .execute [.unicast, .broadcast, .bus, .reply] (.ipc .invalidPortKind)

/-- `bind`. -/
def bind (rebind : Bool) : Except Refusal Port :=
  match cpWith r payloads handle (if rebind then .admin else .write)
    .unicast with
  | .error e => .error (.object e)
  | .ok port => .ok port

/-- `fanout_membership`. -/
def fanoutMembership : Except Refusal Port :=
  openFirst r payloads handle .write [.broadcast, .bus] (.ipc .invalidPortKind)

/-- `query_with_handle`. -/
def queryWithHandle : Except Refusal Port :=
  openFirst r payloads handle .read [.unicast, .broadcast, .bus, .reply]
    (.object (.error .invalidArgument))

/-- `lifecycle`. -/
def lifecycle : Except Refusal Port :=
  openFirst r payloads handle .admin [.unicast, .broadcast, .bus] (.ipc .invalidPortKind)

end

/-- The dedicated syscalls. A send has the flag for an asynchronous reply, and its message may
carry a reply port. -/
inductive PortCall where
  | query
  | send (asyncReply hasReply : Bool)
  | recv
  | bindReceiver
  | rebindReceiver
  | close
  | freeze
  | subscribe
  | unsubscribe

def PortCall.method : PortCall → PortMethod
  | .query => .queryState
  | .send _ _ => .send
  | .recv => .recv
  | .bindReceiver => .bindReceiver
  | .rebindReceiver => .rebindReceiver
  | .close => .close
  | .freeze => .freeze
  | .subscribe => .subscribe
  | .unsubscribe => .unsubscribe

/-- The port a dedicated syscall operates. -/
def fastPath (handle : Handle) : PortCall → Except Refusal Port
  | .query => queryWithHandle r payloads handle
  | .send asyncReply hasReply => sendWithHandle r payloads handle asyncReply hasReply
  | .recv => recvWithHandle r payloads handle
  | .bindReceiver => bind r payloads handle false
  | .rebindReceiver => bind r payloads handle true
  | .close => lifecycle r payloads handle
  | .freeze => lifecycle r payloads handle
  | .subscribe => fanoutMembership r payloads handle
  | .unsubscribe => fanoutMembership r payloads handle

/-! ## What the two ways check -/

/-- The handle points at a live object, under its index, whose payload is `port`. -/
def Leads (handle : Handle) (port : Port) : Prop :=
  ∃ uid, handle.object.upgrade r = some uid ∧ (r.objects uid).status = .active ∧
    handle.token.id.any (· ≠ (r.objects uid).id) = false ∧ payloads uid = some port

end Paths

/-- The guard a dedicated syscall opens. -/
def PortCall.mode : PortCall → GuardMode
  | .query => .read
  | .send _ _ => .execute
  | .recv => .execute
  | .bindReceiver => .write
  | .rebindReceiver => .admin
  | .close => .admin
  | .freeze => .admin
  | .subscribe => .write
  | .unsubscribe => .write

/-- The payload types a dedicated syscall looks for. -/
def PortCall.kinds : PortCall → List PayloadKind
  | .query => [.unicast, .broadcast, .bus, .reply]
  | .send _ _ => [.unicast, .broadcast, .bus, .reply]
  | .recv => [.unicast, .broadcast, .bus, .reply]
  | .bindReceiver => [.unicast]
  | .rebindReceiver => [.unicast]
  | .close => [.unicast, .broadcast, .bus]
  | .freeze => [.unicast, .broadcast, .bus]
  | .subscribe => [.broadcast, .bus]
  | .unsubscribe => [.broadcast, .bus]

/-- An asynchronous reply is asked for on a unicast port only, with no reply port in the message. -/
def PortCall.flagsOk (call : PortCall) (kind : PayloadKind) : Bool :=
  match call with
  | .send asyncReply hasReply => !(asyncReply && (kind ≠ .unicast || hasReply))
  | _ => true

/-- The interface capability the method of a port needs; a port does not have every method. -/
def Port.interfaceCap : Port → PortMethod → Option (BitVec 32)
  | _, .queryState => some pQueryState
  | .bus _, .send => some pPublish
  | .bus _, .recv => some pListen
  | _, .send => some pSendMsg
  | _, .recv => some pRecvMsg
  | .reply _, _ => none
  | .unicast _, .bindReceiver => some pBindRecv
  | .unicast _, .rebindReceiver => some pRebindRecv
  | .unicast _, .subscribe => none
  | .unicast _, .unsubscribe => none
  | _, .bindReceiver => none
  | _, .rebindReceiver => none
  | _, .subscribe => some pSubscribe
  | _, .unsubscribe => some pUnsubscribe
  | _, .close => some pClosePort
  | _, .freeze => some pClosePort

/-- The process may receive: fan-out ports ask for a subscription. -/
def Port.hears (pid : Nat) : Port → Bool
  | .broadcast port => port.isSubscribed pid
  | .bus port => port.isSubscribed pid
  | _ => true

/-- The interface capability is there, and for a receive the subscription. -/
def Port.Grants (port : Port) (interfaceCaps : BitVec 32) (pid : Nat) (method : PortMethod) : Prop :=
  (∀ caps ∈ port.interfaceCap method, admits interfaceCaps caps = true) ∧
    (method = .recv → port.hears pid = true)

lemma requireMethod_eq_ok_iff {modeAllows : Bool} {interfaceCaps caps : BitVec 32} :
    requireMethod modeAllows interfaceCaps caps = .ok () ↔
      modeAllows = true ∧ admits interfaceCaps caps = true := by
  unfold requireMethod
  cases modeAllows <;> cases admits interfaceCaps caps <;> simp

lemma dispatchFanout_recv_eq_ok_iff {pSend pRecv : BitVec 32} {port : FanoutPort} {pid : Nat}
    {mode : GuardMode} {interfaceCaps : BitVec 32} :
    dispatchFanout pSend pRecv port pid mode interfaceCaps .recv = .ok () ↔
      (mode.allowsMethod .recv = true ∧ admits interfaceCaps pRecv = true) ∧
        port.isSubscribed pid = true := by
  rw [← requireMethod_eq_ok_iff]
  simp only [dispatchFanout]
  split
  · rename_i hrequire
    simp [hrequire]
  · rename_i hrequire
    cases port.isSubscribed pid <;> simp [hrequire]

/-- The mode matrix of the port's guard. -/
def Port.modeAllows (port : Port) (mode : GuardMode) (method : PortMethod) : Bool :=
  match port with
  | .reply _ => mode.allowsReply method
  | _ => mode.allowsMethod method

/-- What a guard asks for: a method the port has, the mode, the interface capability, and for a
receive the subscription. -/
lemma Port.dispatch_eq_ok_iff (port : Port) (pid : Nat) (mode : GuardMode)
    (interfaceCaps : BitVec 32) (method : PortMethod) :
    port.dispatch pid mode interfaceCaps method = .ok () ↔
      (port.interfaceCap method).isSome = true ∧ port.modeAllows mode method = true ∧
        port.Grants interfaceCaps pid method := by
  unfold Grants
  cases port with
  | unicast port =>
    cases method <;>
      simp [dispatch, dispatchUnicast, requireMethod_eq_ok_iff, interfaceCap, modeAllows, hears]
  | broadcast port =>
    cases method with
    | recv =>
      simp [dispatch, dispatchBroadcast, dispatchFanout_recv_eq_ok_iff, interfaceCap, modeAllows,
        hears, and_assoc]
    | _ =>
      simp [dispatch, dispatchBroadcast, dispatchFanout, requireMethod_eq_ok_iff, interfaceCap,
        modeAllows, hears]
  | bus port =>
    cases method with
    | recv =>
      simp [dispatch, dispatchBus, dispatchFanout_recv_eq_ok_iff, interfaceCap, modeAllows,
        hears, and_assoc]
    | _ =>
      simp [dispatch, dispatchBus, dispatchFanout, requireMethod_eq_ok_iff, interfaceCap,
        modeAllows, hears]
  | reply channel =>
    cases method <;>
      simp [dispatch, dispatchReply, requireMethod_eq_ok_iff, interfaceCap, modeAllows, hears]

section Paths

variable {r : Registry} {payloads : Nat → Option Port} {handle : Handle} {port : Port}

lemma Leads.unique {port' : Port} (h : Leads r payloads handle port)
    (h' : Leads r payloads handle port') : port = port' := by
  obtain ⟨uid, hup, -, -, hport⟩ := h
  obtain ⟨uid', hup', -, -, hport'⟩ := h'
  obtain rfl := mem_unique hup hup'
  exact mem_unique hport hport'

variable {required : Capability} {kinds : List PayloadKind} {call : PortCall}

lemma verifyCapabilities_eq_ok_iff {object : Object} {token : Token} :
    object.verifyCapabilities token required = .ok () ↔ object.status = .active ∧
      token.id.any (· ≠ object.id) = false ∧ token.contains required = true := by
  fun_cases Object.verifyCapabilities object token required <;> simp_all

lemma cpWith_eq_ok_iff {kind : PayloadKind} : cpWith r payloads handle required kind = .ok port ↔
      Leads r payloads handle port ∧ handle.capabilities.contains required = true ∧ port.kind = kind := by
  unfold cpWith Leads
  cases hup : handle.object.upgrade r with
  | none => simp
  | some uid =>
    cases hverify : (r.objects uid).verifyCapabilities handle.token required with
    | error e =>
      have hnot := mt verifyCapabilities_eq_ok_iff.mpr (by rw [hverify]; simp)
      simp only [hverify, reduceCtorEq, false_iff, some.injEq, exists_eq_left']
      rintro ⟨⟨hactive, hid, -⟩, hcaps, -⟩
      exact hnot ⟨hactive, hid, hcaps⟩
    | ok _ =>
      obtain ⟨hactive, hid, hcaps⟩ := verifyCapabilities_eq_ok_iff.mp hverify
      simp only [hverify, some.injEq, exists_eq_left', hactive, hid, true_and]
      cases hpayload : payloads uid with
      | none => simp
      | some found =>
        simp only [some.injEq]
        constructor
        · intro h
          split at h
          · rename_i hkind
            obtain rfl := Except.ok.inj h
            exact ⟨rfl, hcaps, hkind⟩
          · cases h
        · rintro ⟨rfl, -, hkind⟩
          rw [if_pos hkind]

lemma firstOf_eq_some_iff : firstOf r payloads handle required kinds = some port ↔
      Leads r payloads handle port ∧ handle.capabilities.contains required = true ∧ port.kind ∈ kinds := by
  induction kinds with
  | nil => simp [firstOf]
  | cons kind kinds ih =>
    simp only [firstOf]
    split
    · rename_i found hfound
      obtain ⟨hleads, hcaps, hkind⟩ := cpWith_eq_ok_iff.mp hfound
      constructor
      · intro h
        obtain rfl := some.inj h
        exact ⟨hleads, hcaps, hkind ▸ List.mem_cons_self⟩
      · rintro ⟨hport, -, -⟩
        exact congrArg some (hleads.unique hport)
    · rename_i e herror
      rw [ih]
      refine and_congr_right fun hleads => and_congr_right fun hcaps => ?_
      have hne : port.kind ≠ kind := by
        intro hkind
        rw [cpWith_eq_ok_iff.mpr ⟨hleads, hcaps, hkind⟩] at herror
        cases herror
      simp [hne]

/-- What a dedicated syscall asks for: a port of a type it looks for, one generic capability, and
flags that make sense. -/
structure Opens (r : Registry) (payloads : Nat → Option Port) (handle : Handle) (call : PortCall)
    (port : Port) : Prop where
  leads : Leads r payloads handle port
  capable : cpModeAllows call.mode handle.capabilities = true
  kind : port.kind ∈ call.kinds
  flags : call.flagsOk port.kind = true

lemma openFirst_eq_ok_iff {e : Refusal} : openFirst r payloads handle required kinds e = .ok port ↔
      Leads r payloads handle port ∧ handle.capabilities.contains required = true ∧ port.kind ∈ kinds := by
  rw [← firstOf_eq_some_iff]
  unfold openFirst
  cases firstOf r payloads handle required kinds <;> simp

lemma bind_eq_ok_iff {rebind : Bool} :
    bind r payloads handle rebind = .ok port ↔ Leads r payloads handle port ∧
      handle.capabilities.contains (if rebind then .admin else .write) = true ∧
        port.kind ∈ [PayloadKind.unicast] := by
  rw [List.mem_singleton, ← cpWith_eq_ok_iff]
  unfold bind
  cases cpWith r payloads handle (if rebind then .admin else .write) .unicast
    <;> simp

lemma sendWithHandle_eq_ok_iff {asyncReply hasReply : Bool} :
    sendWithHandle r payloads handle asyncReply hasReply = .ok port ↔
      (Leads r payloads handle port ∧ handle.capabilities.contains .execute = true ∧
        port.kind ∈ [.unicast, .broadcast, .bus, .reply]) ∧
        (PortCall.send asyncReply hasReply).flagsOk port.kind = true := by
  rw [← openFirst_eq_ok_iff (e := .ipc .invalidPortKind)]
  unfold sendWithHandle PortCall.flagsOk
  cases openFirst r payloads handle .execute [.unicast, .broadcast, .bus, .reply]
    (.ipc .invalidPortKind) with
  | error e => simp
  | ok found =>
    simp only [Except.ok.injEq]
    split
    · rename_i hflags
      simp only [reduceCtorEq, false_iff, not_and]
      rintro rfl
      rw [hflags]
      exact Bool.false_ne_true
    · rename_i hflags
      simp only [Except.ok.injEq]
      constructor
      · rintro rfl
        exact ⟨rfl, (Bool.not_eq_true' _).mpr (Bool.eq_false_iff.mpr hflags)⟩
      · exact And.left

lemma fastPath_eq_ok_iff :
    fastPath r payloads handle call = .ok port ↔ Opens r payloads handle call port := by
  have hopens : Opens r payloads handle call port ↔ (Leads r payloads handle port ∧
      cpModeAllows call.mode handle.capabilities = true ∧ port.kind ∈ call.kinds) ∧
      call.flagsOk port.kind = true :=
    ⟨fun h => ⟨⟨h.leads, h.capable, h.kind⟩, h.flags⟩, fun h => ⟨h.1.1, h.1.2.1, h.1.2.2, h.2⟩⟩
  rw [hopens]
  cases call with
  | send asyncReply hasReply => exact sendWithHandle_eq_ok_iff
  | query | recv | close | freeze | subscribe | unsubscribe =>
    exact openFirst_eq_ok_iff.trans (and_iff_left rfl).symm
  | bindReceiver | rebindReceiver => exact bind_eq_ok_iff.trans (and_iff_left rfl).symm

/-- What `invoke` asks for. -/
lemma invokeCp_eq_ok_iff {mode : GuardMode} {method : PortMethod} {pid : Nat} :
    invokeCp r payloads handle mode method pid = .ok port ↔ Leads r payloads handle port ∧
      cpModeAllows mode handle.capabilities = true ∧
      port.dispatch pid mode handle.interfaceCaps method = .ok () := by
  -- a token contains its own capabilities
  have hself : handle.token.contains handle.token.capabilities = true :=
    BitFlags.contains_iff.mpr (BitFlags.Within.refl _)
  unfold invokeCp Leads
  cases hup : handle.object.upgrade r with
  | none => simp
  | some uid =>
    cases hmode : cpModeAllows mode handle.capabilities with
    | false => simp
    | true =>
      cases hverify : (r.objects uid).verifyCapabilities handle.token
        handle.token.capabilities with
      | error e =>
        have hnot := mt verifyCapabilities_eq_ok_iff.mpr (by rw [hverify]; simp)
        simp only [hverify, Bool.not_true, Bool.false_eq_true, if_false, reduceCtorEq,
          false_iff, some.injEq, exists_eq_left']
        rintro ⟨⟨hactive, hid, -⟩, -⟩
        exact hnot ⟨hactive, hid, hself⟩
      | ok _ =>
        obtain ⟨hactive, hid, -⟩ := verifyCapabilities_eq_ok_iff.mp hverify
        simp only [hverify, Bool.not_true, Bool.false_eq_true, if_false,
          some.injEq, exists_eq_left', hactive, hid, true_and]
        cases hpayload : payloads uid with
        | none => simp
        | some found =>
          simp only [some.injEq]
          cases hdispatch : found.dispatch pid mode handle.interfaceCaps method with
          | error e =>
            simp only [reduceCtorEq, false_iff, not_and]
            rintro rfl h
            rw [h] at hdispatch
            cases hdispatch
          | ok _ =>
            simp only [Except.ok.injEq]
            constructor
            · rintro rfl
              exact ⟨rfl, hdispatch⟩
            · exact And.left

/-! ## Agreement -/

/-- The guard a dedicated syscall opens is one that allows its method. -/
lemma Opens.modeAllows (h : Opens r payloads handle call port) :
    (port.interfaceCap call.method).isSome = true ∧ port.modeAllows call.mode call.method = true := by
  have hkind := h.kind
  cases port <;> cases call <;>
    first
    | exact ⟨rfl, rfl⟩
    | simp [PortCall.kinds, Port.kind] at hkind

/-- The dedicated syscall operates only ports that `invoke` permits to operate, in some mode, exactly
if a port that it gets at is one for which the handle has the interface capability of the method,
and, for a receive, the process the subscription. -/
theorem fastPath_permitted_iff (r : Registry) (payloads : Nat → Option Port) (handle : Handle)
    (call : PortCall) (pid : Nat) : (∀ port, fastPath r payloads handle call = .ok port →
      ∃ mode, invokeCp r payloads handle mode call.method pid = .ok port) ↔
    ∀ port, Opens r payloads handle call port → port.Grants handle.interfaceCaps pid call.method := by
  constructor
  · intro h port hopens
    obtain ⟨mode, hinvoke⟩ := h port (fastPath_eq_ok_iff.mpr hopens)
    obtain ⟨-, -, hdispatch⟩ := invokeCp_eq_ok_iff.mp hinvoke
    exact ((port.dispatch_eq_ok_iff _ _ _ _).mp hdispatch).2.2
  · intro h port hfast
    have hopens := fastPath_eq_ok_iff.mp hfast
    obtain ⟨hhas, hallows⟩ := hopens.modeAllows
    have hdispatch : port.dispatch pid call.mode handle.interfaceCaps call.method = .ok () :=
      (port.dispatch_eq_ok_iff _ _ _ _).mpr ⟨hhas, hallows, h port hopens⟩
    exact ⟨call.mode, invokeCp_eq_ok_iff.mpr ⟨hopens.leads, hopens.capable, hdispatch⟩⟩

end Paths

/-- A new anonymous object: its owner's handle and the registry. -/
def anonymousPort : Handle × Registry :=
  Handle.newAnonymous (Capability.admin ||| Capability.agent) .new

/-- The payloads, with a unicast port in that object. -/
def anonymousPayload (uid : Nat) : Option Port :=
  if uid = anonymousPort.1.uid then some (.unicast (.new 1)) else none

/-- A handle to a unicast port that was derived to receive only: `invoke` refuses to send with it in
every mode, and the send syscall sends. -/
theorem receive_only_handle_sends :
    ∃ handle, anonymousPort.1.deriveHandle Capability.execute pRecvMsg anonymousPort.2 = .ok handle ∧
      fastPath anonymousPort.2 anonymousPayload handle (.send false true) = .ok (.unicast (.new 1)) ∧
      ∀ mode, invokeCp anonymousPort.2 anonymousPayload handle mode .send 0 =
        .error (.object (.error .insufficientCapabilities)) := by
  refine ⟨⟨⟨none, Capability.execute, pRecvMsg⟩, false, .shared anonymousPort.1.uid⟩, ?_, ?_, ?_⟩
  · rfl
  · rfl
  · intro mode
    cases mode <;> rfl

end Akarin.Ipc
