/-
# Akarin.Ipc.Port -- unicast, fan-out and reply ports

A port routes messages into channels: the inboxes of processes, or the channel of a reply port. A
channel is a number here, and `closed` says which of them nobody receives from any more. Sending
returns, besides its answer and the port with its counters moved, the messages that have entered a
channel, in order; a fan-out port that meets a closed inbox half way has already delivered the
others.

The subscribers of a fan-out port are a list in the order in which its hash map happens to be
iterated.
-/
import Akarin.Ipc.Message

namespace Akarin.Ipc

open List Lib Objects

/-- The life of a port. -/
inductive PortState where
  | opened
  | frozen
  | closed
  deriving DecidableEq

/-- Why a receiver is not bound. -/
inductive PortBindError where
  | alreadyBound
  | alreadySubscribed
  | notSubscribed
  | closed
  deriving DecidableEq

/-- The error of a send; the source returns the message with it. -/
inductive PortSendError where
  | unbound
  | closed
  | receiverClosed
  | cloneFailed (error : Fault ObjectError)
  | invalidMessage (reason : MessageValidationError)
  deriving DecidableEq

/-- `PortSendError::ipc_error`. -/
def PortSendError.ipcError : PortSendError → IpcError
  | .unbound => .unbound
  | .closed => .portClosed
  | .receiverClosed => .receiverClosed
  | .cloneFailed _ => .invalidMessage
  | .invalidMessage _ => .invalidMessage

/-- A process and its inbox. -/
structure Route where
  pid : Nat
  inbox : Nat
  deriving DecidableEq

/-- A message that has entered a channel. -/
structure Delivery where
  channel : Nat
  message : Message

/-! ## Unicast ports -/

/-- A port with one receiver. -/
structure UnicastPort where
  id : Nat
  state : PortState
  accepted : Nat
  failed : Nat
  receiver : Option Route

namespace UnicastPort

/-- `UnicastPort::new`, with the id that was allocated. -/
def new (id : Nat) : UnicastPort := ⟨id, .opened, 0, 0, none⟩

variable (port : UnicastPort)

def bindReceiver (route : Route) : Except PortBindError Unit × UnicastPort :=
  if port.state ≠ .opened then (.error .closed, port)
  else if port.receiver.isSome then (.error .alreadyBound, port)
  else (.ok (), { port with receiver := some route })

def rebindReceiver (route : Route) : Except PortBindError Unit × UnicastPort :=
  if port.state ≠ .opened then (.error .closed, port)
  else (.ok (), { port with receiver := some route })

def freeze : UnicastPort := { port with state := .frozen }

def close : UnicastPort := { port with state := .closed, receiver := none }

/-- `prepare_route`. -/
def prepareRoute (message : Message) : Except PortSendError Route :=
  if port.state ≠ .opened then .error .closed
  else
    match message.validate with
    | .error reason => .error (.invalidMessage reason)
    | .ok () =>
      match port.receiver with
      | none => .error .unbound
      | some route => .ok route

def send (message : Message) (closed : Nat → Bool) :
    Except PortSendError Unit × UnicastPort × List Delivery :=
  match port.prepareRoute message with
  | .error e => (.error e, { port with failed := port.failed + 1 }, [])
  | .ok route =>
    if closed route.inbox then
      (.error .receiverClosed, { port with failed := port.failed + 1 }, [])
    else (.ok (), { port with accepted := port.accepted + 1 }, [⟨route.inbox, message⟩])

/-- The port takes the message: it is open and bound, and the message may cross it. -/
def Accepts (message : Message) : Prop :=
  (∀ handle ∈ message.handles, Message.sendable handle = true) ∧ port.state = .opened ∧
    port.receiver.isSome = true

lemma send_cases (message : Message) (closed : Nat → Bool) :
    (port.Accepts message ∧ ((port.send message closed).1 = .ok () ↔
          ∀ c ∈ port.receiver.toList.map (·.inbox), closed c = false) ∧ (port.send message closed).2.2 =
          ((port.receiver.toList.map (·.inbox)).takeWhile fun c => !closed c).map (⟨·, message⟩)) ∨
      (¬ port.Accepts message ∧ (port.send message closed).1 ≠ .ok () ∧
        (port.send message closed).2.2 = []) := by
  unfold Accepts
  rw [← message.validate_eq_ok_iff]
  unfold send prepareRoute
  by_cases hstate : port.state = .opened
  · cases hvalid : message.validate with
    | error reason => exact .inr (by simp [hstate])
    | ok _ =>
      cases hreceiver : port.receiver with
      | none => exact .inr (by simp [hstate])
      | some route => cases hclosed : closed route.inbox <;> simp [hstate, hclosed]
  · exact .inr (by simp [hstate])

end UnicastPort

/-! ## Fan-out ports -/

/-- A port that copies to all subscribers. -/
structure FanoutPort where
  id : Nat
  state : PortState
  accepted : Nat
  failed : Nat
  subscribers : List Route

namespace FanoutPort

/-- `FanoutPort::new`, with the id that was allocated. -/
def new (id : Nat) : FanoutPort := ⟨id, .opened, 0, 0, []⟩

section

variable (port : FanoutPort)

def isSubscribed (pid : Nat) : Bool := port.subscribers.any (·.pid = pid)

/-- `subscribe`. The inbox of a process that is already subscribed is replaced before the error. -/
def subscribe (route : Route) : Except PortBindError Unit × FanoutPort :=
  if port.state ≠ .opened then (.error .closed, port)
  else if port.isSubscribed route.pid then
    (.error .alreadySubscribed, { port with
      subscribers := port.subscribers.map fun r => if r.pid = route.pid then route else r })
  else (.ok (), { port with subscribers := port.subscribers ++ [route] })

def unsubscribe (pid : Nat) : Except PortBindError Unit × FanoutPort :=
  if port.isSubscribed pid then
    (.ok (), { port with subscribers := port.subscribers.filter (·.pid ≠ pid) })
  else (.error .notSubscribed, port)

def freeze : FanoutPort := { port with state := .frozen }

def close : FanoutPort := { port with state := .closed, subscribers := [] }

end

/-- The messages for a list of subscribers: clones for all but the last, which gets the message. -/
def plan (r : Registry) (message : Message) :
    List Route → Except (Fault ObjectError) (List (Route × Message))
  | [] => .ok []
  | [route] => .ok [(route, message)]
  | route :: next :: rest =>
    match message.tryCloneForFanout r with
    | .error e => .error e
    | .ok clone =>
      match plan r message (next :: rest) with
      | .error e => .error e
      | .ok planned => .ok ((route, clone) :: planned)

variable {r : Registry} {message : Message} {planned : List (Route × Message)}

/-- Every subscriber is planned for, in order. -/
lemma plan_routes {routes : List Route} (h : plan r message routes = .ok planned) :
    planned.map Prod.fst = routes := by
  revert h
  fun_induction plan r message routes generalizing planned with
  | case1 | case2 =>
    rintro ⟨⟩
    rfl
  | case5 route _ _ _ _ tail htail ih =>
    rintro ⟨⟩
    exact congrArg (route :: ·) (ih htail)
  | _ => exact nofun

/-- Copies are the message, if there are any. -/
lemma plan_of_shared (h : message.Shared) (routes : List Route) :
    ((routes.length ≤ 1 ∨ ∀ handle ∈ message.handles, Message.Clonable r handle) ∧
        plan r message routes = .ok (routes.map (·, message))) ∨
      ((¬ (routes.length ≤ 1 ∨ ∀ handle ∈ message.handles, Message.Clonable r handle)) ∧
        ∃ e, plan r message routes = .error e) := by
  induction routes with
  | nil => exact .inl ⟨.inl (Nat.zero_le 1), rfl⟩
  | cons route rest ih =>
    cases rest with
    | nil => exact .inl ⟨.inl (Nat.le_refl 1), rfl⟩
    | cons next rest =>
      have hmany : ¬ (route :: next :: rest).length ≤ 1 := by simp
      simp only [hmany, false_or, plan]
      rcases Message.tryCloneForFanout_of_shared h with ⟨hclone, heq⟩ | ⟨hclone, e, heq⟩
      · rcases ih with ⟨_, hplan⟩ | ⟨hrest, _⟩
        · exact .inl ⟨hclone, by rw [heq, hplan]; rfl⟩
        · exact absurd (.inr hclone) hrest
      · exact .inr ⟨hclone, e, by rw [heq]⟩

variable (port : FanoutPort)

/-- `validate_fanout`. -/
def validateFanout (r : Registry) (message : Message) : Except PortSendError (List (Route × Message)) :=
  if port.state ≠ .opened then .error .closed
  else
    match message.validate with
    | .error reason => .error (.invalidMessage reason)
    | .ok () =>
      match plan r message port.subscribers with
      | .error e => .error (.cloneFailed e)
      | .ok planned => .ok planned

/-- The loop of `send`: what is delivered up to the first closed inbox, and the subscriber there. -/
def deliver (closed : Nat → Bool) : List (Route × Message) → List Delivery × Option Route
  | [] => ([], none)
  | (route, message) :: rest =>
    if closed route.inbox then ([], some route)
    else
      let result := deliver closed rest
      (⟨route.inbox, message⟩ :: result.1, result.2)

/-- The subscribers before the first closed inbox get their messages. -/
lemma deliver_fst (closed : Nat → Bool) (planned : List (Route × Message)) : (deliver closed planned).1 =
      (planned.takeWhile fun p => !closed p.1.inbox).map fun p => ⟨p.1.inbox, p.2⟩ := by
  induction planned with
  | nil => rfl
  | cons head rest ih =>
    simp only [deliver]
    split
    · simp_all
    · simp_all

/-- The send stops at the first closed inbox. -/
lemma deliver_snd (closed : Nat → Bool) (planned : List (Route × Message)) :
    (deliver closed planned).2 = (planned.map (·.1)).find? (closed ·.inbox) := by
  induction planned with
  | nil => rfl
  | cons head rest ih =>
    simp only [deliver, map_cons, find?_cons]
    split <;> simp_all

def send (r : Registry) (message : Message) (closed : Nat → Bool) :
    Except PortSendError Unit × FanoutPort × List Delivery :=
  match port.validateFanout r message with
  | .error e => (.error e, { port with failed := port.failed + 1 }, [])
  | .ok planned =>
    match deliver closed planned with
    | (delivered, none) => (.ok (), { port with accepted := port.accepted + 1 }, delivered)
    | (delivered, some route) =>
      let port := (port.unsubscribe route.pid).2
      (.error .receiverClosed, { port with failed := port.failed + 1 }, delivered)

lemma validateFanout_plan {port : FanoutPort} (h : port.validateFanout r message = .ok planned) :
    plan r message port.subscribers = .ok planned := by
  revert h
  fun_cases validateFanout port r message with
  | case4 _ _ _ hplan =>
    rintro ⟨⟩
    exact hplan
  | _ => exact nofun

/-- Whatever a send answers, it delivers what was planned, up to the first closed inbox. -/
lemma send_delivered {port : FanoutPort} {closed : Nat → Bool}
    (h : port.validateFanout r message = .ok planned) :
    (port.send r message closed).2.2 = (deliver closed planned).1 := by
  unfold send
  rw [h]
  simp only
  split
  · rename_i hdeliver
    rw [hdeliver]
  · rename_i hdeliver
    rw [hdeliver]

/-- The port takes the message: it is open, the message may cross it, and there can be a copy for
every subscriber. -/
def Accepts (r : Registry) (message : Message) : Prop :=
  (∀ handle ∈ message.handles, Message.sendable handle = true) ∧ port.state = .opened ∧
    (port.subscribers.length ≤ 1 ∨ ∀ handle ∈ message.handles, Message.Clonable r handle)

lemma validateFanout_of_shared (h : message.Shared) : (port.Accepts r message ∧
        port.validateFanout r message = .ok (port.subscribers.map (·, message))) ∨
      (¬ port.Accepts r message ∧ ∃ e, port.validateFanout r message = .error e) := by
  unfold Accepts validateFanout
  rw [← message.validate_eq_ok_iff]
  by_cases hstate : port.state = .opened
  · rw [if_neg (not_not.2 hstate)]
    cases hvalid : message.validate with
    | error reason => exact .inr ⟨by simp, _, rfl⟩
    | ok _ =>
      rcases plan_of_shared h port.subscribers with ⟨hclone, hplan⟩ | ⟨hclone, e, hplan⟩
      · exact .inl ⟨⟨rfl, hstate, hclone⟩, by simp [hplan]⟩
      · exact .inr ⟨fun haccepts => hclone haccepts.2.2, .cloneFailed e, by simp [hplan]⟩
  · exact .inr ⟨fun haccepts => hstate haccepts.2.1, .closed, by simp [hstate]⟩

lemma send_of_shared (r : Registry) (message : Message) (closed : Nat → Bool)
    (h : message.Shared) : (port.Accepts r message ∧ ((port.send r message closed).1 = .ok () ↔
          ∀ c ∈ port.subscribers.map (·.inbox), closed c = false) ∧ (port.send r message closed).2.2 =
          ((port.subscribers.map (·.inbox)).takeWhile fun c => !closed c).map (⟨·, message⟩)) ∨
      (¬ port.Accepts r message ∧ (port.send r message closed).1 ≠ .ok () ∧
        (port.send r message closed).2.2 = []) := by
  rcases port.validateFanout_of_shared h with ⟨haccepts, hplanned⟩ | ⟨haccepts, e, herror⟩
  · refine .inl ⟨haccepts, ?_, ?_⟩
    · have hnone : (deliver closed (port.subscribers.map (·, message))).2 = none ↔
          ∀ c ∈ port.subscribers.map (·.inbox), closed c = false := by
        rw [deliver_snd]
        simp
      rw [← hnone]
      unfold send
      rw [hplanned]
      simp only
      split
      · rename_i hdeliver
        simp [hdeliver]
      · rename_i hdeliver
        simp [hdeliver]
    · rw [send_delivered hplanned, deliver_fst]
      simp [takeWhile_map, Function.comp_def]
  · refine .inr ⟨haccepts, ?_, ?_⟩
    · simp [send, herror]
    · simp [send, herror]

end FanoutPort

/-! ## All ports -/

/-- The payload types of port objects; broadcast and bus ports wrap a fan-out port. -/
inductive Port where
  | unicast (port : UnicastPort)
  | broadcast (port : FanoutPort)
  | bus (port : FanoutPort)
  /-- A reply port, with its channel. -/
  | reply (channel : Nat)

namespace Port

/-- The id under which messages of the port are queued; reply ports do not go through an inbox. -/
def id? : Port → Option Nat
  | .unicast port => some port.id
  | .broadcast port => some port.id
  | .bus port => some port.id
  | .reply _ => none

/-- `ReplyPort::send`. Its channel takes one message; a second sender waits. -/
def sendReply (channel : Nat) (message : Message) (closed : Nat → Bool) :
    Except PortSendError Unit × List Delivery :=
  match message.validate with
  | .error reason => (.error (.invalidMessage reason), [])
  | .ok () =>
    if closed channel then (.error .receiverClosed, [])
    else (.ok (), [⟨channel, message⟩])

/-- `send`, `publish`. -/
def send (port : Port) (r : Registry) (message : Message) (closed : Nat → Bool) :
    Except PortSendError Unit × Port × List Delivery :=
  match port with
  | .unicast port =>
    let result := port.send message closed
    (result.1, .unicast result.2.1, result.2.2)
  | .broadcast port =>
    let result := port.send r message closed
    (result.1, .broadcast result.2.1, result.2.2)
  | .bus port =>
    let result := port.send r message closed
    (result.1, .bus result.2.1, result.2.2)
  | .reply channel =>
    let result := sendReply channel message closed
    (result.1, .reply channel, result.2)

/-- The channels the port is wired to. -/
def channels : Port → List Nat
  | .unicast port => port.receiver.toList.map (·.inbox)
  | .broadcast port => port.subscribers.map (·.inbox)
  | .bus port => port.subscribers.map (·.inbox)
  | .reply channel => [channel]

/-- Messages go into the channels the port is wired to. -/
lemma send_channel {port : Port} {r : Registry} {message : Message} {closed : Nat → Bool}
    {delivery : Delivery} (h : delivery ∈ (port.send r message closed).2.2) :
    delivery.channel ∈ port.channels := by
  have hfanout : ∀ p : FanoutPort, delivery ∈ (p.send r message closed).2.2 →
      delivery.channel ∈ p.subscribers.map (·.inbox) := by
    intro p hp
    cases hplanned : p.validateFanout r message with
    | error e => simp [FanoutPort.send, hplanned] at hp
    | ok planned =>
      rw [FanoutPort.send_delivered hplanned, FanoutPort.deliver_fst] at hp
      obtain ⟨pair, hpair, rfl⟩ := mem_map.1 hp
      have hroute : pair.1 ∈ planned.map Prod.fst :=
        mem_map_of_mem (takeWhile_sublist _ |>.mem hpair)
      rw [FanoutPort.plan_routes (FanoutPort.validateFanout_plan hplanned)] at hroute
      exact mem_map_of_mem hroute
  cases port with
  | unicast port =>
    replace h : delivery ∈ (port.send message closed).2.2 := h
    unfold UnicastPort.send UnicastPort.prepareRoute at h
    show delivery.channel ∈ port.receiver.toList.map (·.inbox)
    cases hreceiver : port.receiver <;> grind
  | broadcast port | bus port => exact hfanout port h
  | reply channel =>
    replace h : delivery ∈ (sendReply channel message closed).2 := h
    unfold sendReply at h
    show delivery.channel ∈ [channel]
    grind

/-- The port takes the message: it is open and wired, and the message may cross it. -/
def Accepts (port : Port) (r : Registry) (message : Message) : Prop :=
  match port with
  | .unicast port => port.Accepts message
  | .broadcast port => port.Accepts r message
  | .bus port => port.Accepts r message
  | .reply _ => ∀ handle ∈ message.handles, Message.sendable handle = true

/-- What a send does: a port that takes the message delivers it into its channels, up to the first
that is closed, and answers whether it met one; any other delivers nothing and fails. -/
lemma send_of_shared (port : Port) (r : Registry) (message : Message) (closed : Nat → Bool)
    (h : message.Shared) : (port.Accepts r message ∧
        ((port.send r message closed).1 = .ok () ↔ ∀ c ∈ port.channels, closed c = false) ∧
        (port.send r message closed).2.2 =
          (port.channels.takeWhile fun c => !closed c).map (⟨·, message⟩)) ∨
      (¬ port.Accepts r message ∧ (port.send r message closed).1 ≠ .ok () ∧
        (port.send r message closed).2.2 = []) := by
  cases port with
  | unicast port => exact port.send_cases message closed
  | broadcast port | bus port => exact port.send_of_shared r message closed h
  | reply channel =>
    unfold Accepts
    rw [← message.validate_eq_ok_iff]
    show (_ ∧ ((sendReply channel message closed).1 = .ok () ↔ ∀ c ∈ [channel], closed c = false) ∧
      (sendReply channel message closed).2 = ([channel].takeWhile fun c => !closed c).map (⟨·, message⟩)) ∨
      (_ ∧ (sendReply channel message closed).1 ≠ .ok () ∧ (sendReply channel message closed).2 = [])
    unfold sendReply
    cases hvalid : message.validate with
    | error reason => exact .inr ⟨by simp, by simp, rfl⟩
    | ok _ => cases hclosed : closed channel <;> simp [hclosed]

end Port

end Akarin.Ipc
