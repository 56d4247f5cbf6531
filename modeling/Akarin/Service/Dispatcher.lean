/-
# Akarin.Service.Dispatcher -- calls on a userspace service object

`service/object.rs` and `service/pager.rs` hold the same code twice: a caller makes a call and queues
it at the object or delivers it to a waiting service thread; a service thread takes a queued call or
waits for one. `service/dispatcher.rs` keeps the calls in flight and answers them, and the service
half of a task (`sched/task.rs`) says what the task waits for and which call it serves.

A step of a task is one critical section. A call is named by the order of its creation: the source
recycles an identifier only when the last reference to the call is gone. What the source writes and
never reads (the role of a task, the state of a call) is left out.
-/
import Akarin.Lib.Tasks

namespace Akarin.Service

open Lib

/-! ## Requests and replies -/

/-- `ServiceError`. -/
inductive ServiceError where
  | invalidArgument
  | invalidState
  | serviceUnavailable
  | protocolViolation
  | serviceFaulted
  deriving DecidableEq

/-- `SyscallResult` by what the service code tells apart: the values of a success, a service error,
any other known failure, a status that decodes to nothing. -/
inductive SyscallResult where
  | ok (values : List Nat)
  | service (error : ServiceError)
  | failure
  | unknown

/-- `ServiceFrame`: six words. -/
structure ServiceFrame where
  words : Vector Nat 6

/-- `ServiceDelivery`. -/
structure ServiceDelivery where
  usrIp : Nat
  frame : ServiceFrame

/-- `ServiceWaitKind`. -/
inductive ServiceWaitKind where
  | object
  | pager
  | syscallHandler
  deriving DecidableEq

/-- `ServiceCall`: the request and, once published, the reply. -/
structure ServiceCall where
  request : ServiceFrame
  reply : Option SyscallResult

/-! ## The service half of a task -/

/-- What a task keeps for services. -/
structure TaskService where
  waiting : Bool
  waitKind : Option ServiceWaitKind
  activeCall : Option Nat
  pendingDelivery : Option ServiceDelivery

namespace TaskService

/-- A task that has nothing to do with services yet. -/
def new : TaskService := ⟨false, none, none, none⟩

variable (task : TaskService)

def beginServiceWait (kind : ServiceWaitKind) : Option TaskService :=
  if task.waiting = true ∨ task.activeCall.isSome = true ∨ task.pendingDelivery.isSome = true then
    none
  else some { task with waiting := true, waitKind := some kind }

def abortServiceWait (kind : ServiceWaitKind) : TaskService :=
  if task.waitKind ≠ some kind then task
  else { task with waiting := false, waitKind := none, pendingDelivery := none }

def activateServiceCall (call : Nat) (delivery : ServiceDelivery) : Option TaskService :=
  if task.waiting = false ∨ task.waitKind = none then none
  else some ⟨false, none, some call, some delivery⟩

def cancelActiveServiceCall (call : Nat) : TaskService :=
  if task.activeCall ≠ some call then task else new

def takeActiveServiceCall : Option (Nat × TaskService) :=
  task.activeCall.map fun call => (call, { task with activeCall := none })

def takeServiceDelivery : TaskService :=
  { task with pendingDelivery := none }

/-- One look of `wait_for_service_delivery`: a result, or go on listening. -/
def serviceDelivery (kind : ServiceWaitKind) : Option (Except ServiceError Unit) :=
  if task.pendingDelivery.isSome = true then some (.ok ())
  else if task.waitKind ≠ some kind ∨ task.waiting = false then some (.error .invalidState)
  else none

end TaskService

/-! ## The object, the dispatcher and the tasks -/

/-- A service object and its tasks. -/
structure ServiceState where
  /-- The lifecycle is `Active`. -/
  active : Bool
  /-- What the tasks that wait at this object wait for. -/
  kind : ServiceWaitKind
  usrIp : Nat
  waiters : List Nat
  pendingCalls : List Nat
  inflight : Nat → Bool
  tasks : List TaskService
  calls : List ServiceCall
  /-- Whether a wakeup of the task can be queued at its processor. -/
  wakeable : Nat → Bool

namespace ServiceState

/-- A new object, among tasks that have nothing to do with services yet. -/
def new (kind : ServiceWaitKind) (usrIp tasks : Nat) (wakeable : Nat → Bool) : ServiceState :=
  ⟨true, kind, usrIp, [], [], fun _ => false, List.replicate tasks .new, [], wakeable⟩

def task (s : ServiceState) (task : Nat) : TaskService := s.tasks.getD task .new

def setTask (s : ServiceState) (task : Nat) (service : TaskService) : ServiceState :=
  { s with tasks := s.tasks.set task service }

/-- The request of a call, at the entry point of the object. -/
def delivery (s : ServiceState) (call : Nat) : Option ServiceDelivery :=
  s.calls[call]?.map fun c => ⟨s.usrIp, c.request⟩

/-- The reply of a call, if it has been published. -/
def reply (s : ServiceState) (call : Nat) : Option SyscallResult :=
  s.calls[call]?.bind ServiceCall.reply

variable (s : ServiceState) (call : Nat)

def registerCall : ServiceState :=
  { s with inflight := Function.update s.inflight call true }

def removeCall : ServiceState :=
  { s with inflight := Function.update s.inflight call false }

/-- `ServiceCall::complete` and `cancel`: both publish a reply, whatever was there. -/
def publishReply (reply : SyscallResult) : ServiceState :=
  { s with calls := s.calls.modify call fun c => { c with reply := some reply } }

end ServiceState

/-! ## Program counters -/

/-- Who runs `deliver_to_waiter`: the caller, for a thread that waits, or the thread itself, for a call
that was queued. -/
inductive Side where
  | caller
  | waiter
  deriving DecidableEq

/-- Where a call on a service is. -/
inductive ServicePc where
  | create (request : ServiceFrame)
  /-- The loop of `queue_or_deliver_call`. -/
  | enqueue (call : Nat)
  /-- `deliver_to_waiter`: into the map of calls in flight, to the task, wake it; and the ways back. -/
  | register (side : Side) (call task : Nat)
  | activate (side : Side) (call task : Nat)
  | retract (side : Side) (call task : Nat)
  | wakeup (side : Side) (call task : Nat)
  | withdraw (side : Side) (call task : Nat)
  | deactivate (side : Side) (call task : Nat)
  /-- The call has been accepted: `wait_for_reply`. -/
  | awaitReply (call : Nat)
  | invoked (result : Except ServiceError SyscallResult)
  | beginWait (task : Nat)
  | takePending (task : Nat)
  | awaitDelivery (task : Nat)
  | abortWait (task : Nat) (error : ServiceError)
  /-- The task leaves its system call and takes the delivery with it. -/
  | resume (task : Nat) (result : Except ServiceError Unit)
  | waited (result : Except ServiceError Unit)
  /-- `complete_current_call`; and `cancel_call` when the task is dropped. -/
  | takeActive (task : Nat) (reply : SyscallResult)
  | removeInflight (call : Nat) (reply : SyscallResult)
  | publish (call : Nat) (reply : SyscallResult)
  | replied (result : Except ServiceError Unit)

/-- Where `deliver_to_waiter` returns to when it fails: the caller tries the next waiter if the task
could not be activated and gives up otherwise; the waiter gives up. -/
def Side.onFailure (side : Side) (call task : Nat) (error : ServiceError) : ServicePc :=
  match side, error with
  | .caller, .invalidState => .enqueue call
  | .caller, error => .invoked (.error error)
  | .waiter, error => .abortWait task error

def Side.onSuccess (side : Side) (call task : Nat) : ServicePc :=
  match side with
  | .caller => .awaitReply call
  | .waiter => .resume task (.ok ())

/-- One critical section. -/
def ServicePc.move (s : ServiceState) : ServicePc → ServiceState × ServicePc
  | .create request =>
    ({ s with calls := s.calls ++ [⟨request, none⟩] }, .enqueue s.calls.length)
  | .enqueue call =>
    if s.active = false then (s, .invoked (.error .invalidState))
    else
      match s.waiters with
      | task :: waiters => ({ s with waiters := waiters }, .register .caller call task)
      | [] => ({ s with pendingCalls := s.pendingCalls ++ [call] }, .awaitReply call)
  | .register side call task => (s.registerCall call, .activate side call task)
  | .activate side call task =>
    match (s.delivery call).bind ((s.task task).activateServiceCall call) with
    | some service => (s.setTask task service, .wakeup side call task)
    | none => (s, .retract side call task)
  | .retract side call task => (s.removeCall call, side.onFailure call task .invalidState)
  | .wakeup side call task =>
    if s.wakeable task = true then (s, side.onSuccess call task)
    else (s, .withdraw side call task)
  | .withdraw side call task => (s.removeCall call, .deactivate side call task)
  | .deactivate side call task =>
    (s.setTask task ((s.task task).cancelActiveServiceCall call),
      side.onFailure call task .serviceUnavailable)
  | .awaitReply call =>
    match s.reply call with
    | some reply => (s, .invoked (.ok reply))
    | none => (s, .awaitReply call)
  | .invoked result => (s, .invoked result)
  | .beginWait task =>
    match (s.task task).beginServiceWait s.kind with
    | some service => (s.setTask task service, .takePending task)
    | none => (s, .resume task (.error .invalidState))
  | .takePending task =>
    if s.active = false then
      (s.setTask task ((s.task task).abortServiceWait s.kind), .resume task (.error .invalidState))
    else
      match s.pendingCalls with
      | call :: pending => ({ s with pendingCalls := pending }, .register .waiter call task)
      | [] => ({ s with waiters := s.waiters ++ [task] }, .awaitDelivery task)
  | .awaitDelivery task =>
    match (s.task task).serviceDelivery s.kind with
    | some result => (s, .resume task result)
    | none => (s, .awaitDelivery task)
  | .abortWait task error =>
    (s.setTask task ((s.task task).abortServiceWait s.kind), .resume task (.error error))
  | .resume task result => (s.setTask task (s.task task).takeServiceDelivery, .waited result)
  | .waited result => (s, .waited result)
  | .takeActive task reply =>
    match (s.task task).takeActiveServiceCall with
    | some (call, service) => (s.setTask task service, .removeInflight call reply)
    | none => (s, .replied (.error .invalidState))
  | .removeInflight call reply =>
    if s.inflight call = true then (s.removeCall call, .publish call reply)
    else (s, .replied (.error .invalidState))
  | .publish call reply => (s.publishReply call reply, .replied (.ok ()))
  | .replied result => (s, .replied result)

/-- What tasks do: make a call (`UserObject::invoke`, `PagerObject::submit_fault`), wait for one,
answer the one they serve, and be dropped. -/
inductive ServiceOp where
  | invoke (request : ServiceFrame)
  | wait (task : Nat)
  | reply (task : Nat) (result : SyscallResult)
  | exit (task : Nat)

def ServiceOp.enter : ServiceOp → ServicePc
  | .invoke request => .create request
  | .wait task => .beginWait task
  | .reply task result => .takeActive task result
  | .exit task => .takeActive task (.service .serviceFaulted)

/-- The scheduler decides whether wakeups of a task can be queued. -/
structure Wakeups where
  task : Nat
  accepted : Bool

def service : Program ServiceState ServicePc ServiceOp Wakeups where
  enter := fun _ op => some op.enter
  move := ServicePc.move
  act := fun s change => { s with wakeable := Function.update s.wakeable change.task change.accepted }

abbrev ServicePool := Pool ServiceState ServicePc

end Akarin.Service
