/-
# Akarin.Sync.Mpmc -- the channel of many senders and many receivers

A send tests `closed` and the number of receivers, pushes, and notifies one receiver; when the queue is
full it listens to `space` and tries again. A receive pops and notifies one sender; when the queue is
empty it tests `closed` and the number of senders, listens to `available` and tries again. The last
handle of a side stores `closed` when it is dropped and notifies everyone on the other side. Each
access to the queue, to a flag, to a counter and to an event is an atomic step, and the steps of calls
and drops interleave. The event itself is taken as correct here: one step notifies, and a call parks
only if the epoch is the one it has observed.

The listener is made after the test, not before it. What the channel promises (`ChannelLaw`) holds in the
runs in which nothing happens in between that the test would have seen (`InOrder`).
-/
import Akarin.Lib.Gate

namespace Akarin.Sync

open Lib (runOps resume Place)

/-! ## Model -/

/-- An event that is atomic and correct. -/
structure Signal where
  epoch : Nat
  parked : List Nat

namespace Signal

def idle : Signal := ⟨0, []⟩

def park (s : Signal) (call : Nat) : Signal := { s with parked := s.parked ++ [call] }

def notify (s : Signal) (n : Nat) : Signal := ⟨s.epoch + 1, s.parked.drop n⟩

end Signal

/-- Why nothing is received. -/
inductive RecvError where
  | empty
  | closed
  deriving DecidableEq

/-- The next step of a call of `send`, `send_blocking` or `try_send`. -/
inductive SendStage where
  /-- Loads `closed`. -/
  | testing
  /-- Loads `receiver_count`. -/
  | counting
  | pushing
  | notifying
  | listening
  | watching (seen : Nat)
  | parked
  /-- Accepted, or `Closed`. -/
  | returned (accepted : Bool)
  deriving DecidableEq

/-- `once` is the call of `try_send`. -/
structure SendCall (α : Type) where
  handle : Nat
  value : α
  once : Bool
  stage : SendStage

/-- The next step of a call of `recv`, `recv_blocking` or `try_recv`. -/
inductive RecvStage (α : Type) where
  | popping
  | notifying (value : α)
  /-- Loads `closed`. -/
  | testing
  /-- Loads `sender_count`. -/
  | counting
  | listening
  | watching (seen : Nat)
  | parked
  | returned (result : Except RecvError α)

/-- `once` is the call of `try_recv`. -/
structure RecvCall (α : Type) where
  handle : Nat
  once : Bool
  stage : RecvStage α

/-- A `Sender` or `Receiver`: the last one stores `closed` and notifies when it is dropped. -/
inductive HandleStage where
  | live
  | storing
  | notifying
  | dropped
  deriving DecidableEq

namespace SendCall

variable {α : Type}

section

variable (call : SendCall α)

def place : Place :=
  match call.stage with
  | .testing | .counting | .pushing => .coming
  | .watching seen => .watching seen
  | .parked => .parked
  | .notifying | .listening | .returned _ => .away

/-- The value has been pushed, and the receivers have not been notified. -/
def owed : Nat :=
  match call.stage with
  | .notifying => 1
  | _ => 0

def isActive : Bool :=
  match call.stage with
  | .returned _ => false
  | _ => true

def isListening : Bool :=
  match call.stage with
  | .listening => true
  | _ => false

/-- The call has seen a receiver, and has not observed the epoch of `space` since. -/
def isCommitted : Bool :=
  match call.stage with
  | .pushing | .listening => true
  | _ => false

/-- The call has found the queue full, and has not tried again since. -/
def isHeld : Bool :=
  match call.stage with
  | .listening | .watching _ | .parked => true
  | _ => false

end

lemma stage_of_parked {call : SendCall α} (h : call.place = .parked) : call.stage = .parked := by
  cases hstage : call.stage <;> simp_all [place]

end SendCall

namespace RecvCall

variable {α : Type}

section

variable (call : RecvCall α)

def place : Place :=
  match call.stage with
  | .popping => .coming
  | .watching seen => .watching seen
  | .parked => .parked
  | .notifying _ | .testing | .counting | .listening | .returned _ => .away

/-- The value has been popped, and the senders have not been notified. -/
def owed : Nat :=
  match call.stage with
  | .notifying _ => 1
  | _ => 0

def isActive : Bool :=
  match call.stage with
  | .returned _ => false
  | _ => true

def isListening : Bool :=
  match call.stage with
  | .listening => true
  | _ => false

/-- The call has found the queue empty, and has not observed the epoch of `available` since. -/
def hasMissed : Bool :=
  match call.stage with
  | .testing | .counting | .listening => true
  | _ => false

def isPopping : Bool :=
  match call.stage with
  | .popping => true
  | _ => false

end

lemma stage_of_parked {call : RecvCall α} (h : call.place = .parked) : call.stage = .parked := by
  cases hstage : call.stage <;> simp_all [place]

end RecvCall

/-- The channel, its handles and the calls on them. `bounded(capacity)` has a capacity, `unbounded` has
none. History: the values accepted and received, and what was left in the queue each time a receive
returned `Closed`. -/
structure Channel (α : Type) where
  capacity : Option Nat
  queue : List α
  available : Signal
  space : Signal
  closed : Bool
  senderCount : Nat
  receiverCount : Nat
  senders : List HandleStage
  receivers : List HandleStage
  sends : List (SendCall α)
  recvs : List (RecvCall α)
  accepted : List α
  received : List α
  left : List (List α)

/-- Calls on handles, and their steps. -/
inductive ChannelOp (α : Type) where
  | send (handle : Nat) (value : α) (once : Bool)
  | recv (handle : Nat) (once : Bool)
  | stepSend (call : Nat)
  | stepRecv (call : Nat)
  | cloneSender (handle : Nat)
  | cloneReceiver (handle : Nat)
  /-- The next step of the drop of a sender. -/
  | dropSender (handle : Nat)
  | dropReceiver (handle : Nat)

namespace Channel

variable {α : Type}

/-- The channel with its first two handles. -/
def new (capacity : Option Nat) : Channel α where
  capacity := capacity
  queue := []
  available := .idle
  space := .idle
  closed := false
  senderCount := 1
  receiverCount := 1
  senders := [.live]
  receivers := [.live]
  sends := []
  recvs := []
  accepted := []
  received := []
  left := []

section

variable (c : Channel α)

/-- `push` answers `Full`. -/
def isFull : Bool :=
  match c.capacity with
  | none => false
  | some capacity => capacity ≤ c.queue.length

def setSend (i : Nat) (call : SendCall α) (stage : SendStage) : Channel α :=
  { c with sends := c.sends.set i { call with stage := stage } }

def setRecv (i : Nat) (call : RecvCall α) (stage : RecvStage α) : Channel α :=
  { c with recvs := c.recvs.set i { call with stage := stage } }

/-- `available.notify(n)`: the woken receives go back to the top of their loop. -/
def notifyAvailable (n : Nat) : Channel α :=
  { c with
    available := c.available.notify n
    recvs := resume (c.available.parked.take n) (fun call => { call with stage := .popping }) c.recvs }

/-- `space.notify(n)`: the woken sends go back to the top of their loop. -/
def notifySpace (n : Nat) : Channel α :=
  { c with
    space := c.space.notify n
    sends := resume (c.space.parked.take n) (fun call => { call with stage := .testing }) c.sends }

def moveSend (i : Nat) (call : SendCall α) : Channel α :=
  match call.stage with
  | .testing => c.setSend i call (if c.closed then .returned false else .counting)
  | .counting => c.setSend i call (if c.receiverCount = 0 then .returned false else .pushing)
  | .pushing =>
    if c.isFull then
      c.setSend i call (if call.once then .returned false else .listening)
    else
      { c.setSend i call .notifying with
        queue := c.queue ++ [call.value]
        accepted := c.accepted ++ [call.value] }
  | .notifying => (c.setSend i call (.returned true)).notifyAvailable 1
  | .listening => c.setSend i call (.watching c.space.epoch)
  | .watching seen =>
    if c.space.epoch = seen then
      { c.setSend i call .parked with space := c.space.park i }
    else
      c.setSend i call .testing
  | .parked | .returned _ => c

def moveRecv (i : Nat) (call : RecvCall α) : Channel α :=
  match call.stage with
  | .popping =>
    match c.queue with
    | [] => c.setRecv i call .testing
    | value :: rest =>
      { c.setRecv i call (.notifying value) with
        queue := rest
        received := c.received ++ [value] }
  | .notifying value => (c.setRecv i call (.returned (.ok value))).notifySpace 1
  | .testing =>
    if c.closed then
      { c.setRecv i call (.returned (.error .closed)) with left := c.left ++ [c.queue] }
    else
      c.setRecv i call .counting
  | .counting =>
    if c.senderCount = 0 then
      { c.setRecv i call (.returned (.error .closed)) with left := c.left ++ [c.queue] }
    else
      c.setRecv i call (if call.once then .returned (.error .empty) else .listening)
  | .listening => c.setRecv i call (.watching c.available.epoch)
  | .watching seen =>
    if c.available.epoch = seen then
      { c.setRecv i call .parked with available := c.available.park i }
    else
      c.setRecv i call .popping
  | .parked | .returned _ => c

/-- `Sender::drop`: a handle that is borrowed by a call is not dropped. -/
def moveSender (handle : Nat) : HandleStage → Channel α
  | .live =>
    if c.sends.any fun call => call.isActive && call.handle == handle then c
    else
      { c with
        senderCount := c.senderCount - 1
        senders := c.senders.set handle (if c.senderCount = 1 then .storing else .dropped) }
  | .storing => { c with closed := true, senders := c.senders.set handle .notifying }
  | .notifying =>
    { c.notifyAvailable c.available.parked.length with senders := c.senders.set handle .dropped }
  | .dropped => c

/-- `Receiver::drop`. -/
def moveReceiver (handle : Nat) : HandleStage → Channel α
  | .live =>
    if c.recvs.any fun call => call.isActive && call.handle == handle then c
    else
      { c with
        receiverCount := c.receiverCount - 1
        receivers := c.receivers.set handle (if c.receiverCount = 1 then .storing else .dropped) }
  | .storing => { c with closed := true, receivers := c.receivers.set handle .notifying }
  | .notifying =>
    { c.notifySpace c.space.parked.length with receivers := c.receivers.set handle .dropped }
  | .dropped => c

def step : ChannelOp α → Channel α
  | .send handle value once =>
    if c.senders[handle]? = some .live then
      { c with sends := c.sends ++ [⟨handle, value, once, .testing⟩] }
    else c
  | .recv handle once =>
    if c.receivers[handle]? = some .live then
      { c with recvs := c.recvs ++ [⟨handle, once, .popping⟩] }
    else c
  | .stepSend i =>
    match c.sends[i]? with
    | none => c
    | some call => c.moveSend i call
  | .stepRecv i =>
    match c.recvs[i]? with
    | none => c
    | some call => c.moveRecv i call
  | .cloneSender handle =>
    if c.senders[handle]? = some .live then
      { c with senderCount := c.senderCount + 1, senders := c.senders ++ [.live] }
    else c
  | .cloneReceiver handle =>
    if c.receivers[handle]? = some .live then
      { c with receiverCount := c.receiverCount + 1, receivers := c.receivers ++ [.live] }
    else c
  | .dropSender handle =>
    match c.senders[handle]? with
    | none => c
    | some stage => c.moveSender handle stage
  | .dropReceiver handle =>
    match c.receivers[handle]? with
    | none => c
    | some stage => c.moveReceiver handle stage

def run (ops : List (ChannelOp α)) : Channel α := runOps step c ops

/-! ## What the channel promises -/

/-- No drop is under way, and every call has returned or is parked. -/
def Quiescent : Prop :=
  (∀ handle ∈ c.senders ++ c.receivers, handle = .live ∨ handle = .dropped) ∧
    (∀ call ∈ c.sends, call.isActive → call.place = .parked) ∧
    ∀ call ∈ c.recvs, call.isActive → call.place = .parked
deriving Decidable

/-- How often a receive tries to pop in a run. -/
def attempts (c : Channel α) : List (ChannelOp α) → Nat
  | [] => 0
  | op :: ops =>
    (match op with
      | .stepRecv i => if (c.recvs[i]?).any RecvCall.isPopping then 1 else 0
      | _ => 0) + (c.step op).attempts ops

/-- Values are received once and in order, and all that are accepted are received if the receivers go on;
`Closed` is returned with nothing left; nobody stays parked with something to do. -/
structure ChannelLaw (c : Channel α) : Prop where
  fifo : c.accepted = c.received ++ c.queue
  all_received : ∀ ops, c.queue.length ≤ c.attempts ops → c.accepted <+: (c.run ops).received
  nothing_left : ∀ queue ∈ c.left, queue = []
  receivers_awake : c.Quiescent → (∃ call ∈ c.recvs, call.place = .parked) →
    c.queue = [] ∧ c.closed = false
  senders_awake : c.Quiescent → (∃ call ∈ c.sends, call.place = .parked) →
    c.isFull = true ∧ c.closed = false

/-- The step does not come between a test and the listener that is made after it: no push and no drop of
the last sender while a receive is there, no pop and no drop of the last receiver while a send is. -/
def InOrder : ChannelOp α → Prop
  | .stepSend i =>
    ∀ call ∈ c.sends[i]?, call.stage = .pushing → c.isFull = false →
      ∀ other ∈ c.recvs, other.hasMissed = false
  | .stepRecv i =>
    ∀ call ∈ c.recvs[i]?, call.isPopping → c.queue.isEmpty = false →
      ∀ other ∈ c.sends, other.isListening = false
  | .dropSender handle =>
    c.senders[handle]? = some .storing → ∀ call ∈ c.recvs, call.isListening = false
  | .dropReceiver handle =>
    c.receivers[handle]? = some .storing → ∀ call ∈ c.sends, call.isCommitted = false
  | _ => True

end

instance (c : Channel α) (op : ChannelOp α) : Decidable (c.InOrder op) := by
  cases op <;> unfold InOrder <;> infer_instance

end Channel

end Akarin.Sync
