/-
# Akarin.Sched.Task -- virtual time, and tasks as the scheduler sees them

Virtual time is a `u128`; every operation on it saturates. A task is eligible from `veligible` on and
its deadline lies one slice, in virtual time, later.

What the scheduler, the wakers and the load balancer keep in a task. Of a trap context only the stack
pointer matters here, of a kernel stack only its range; the saved register frames, the join handle and
the service state of a task are left out.
-/
import Akarin.Collections.LinkedList
import Akarin.Memory.Layout

namespace Akarin.Sched

open Collections (DoubleLink)
open Memory (VmRange)

/-! ## Saturating arithmetic -/

/-- `a.saturating_add(b)` of an unsigned integer of that many bits. -/
def satAdd (bits a b : Nat) : Nat := min (a + b) (2 ^ bits - 1)

/-- `a.saturating_mul(b)`. -/
def satMul (bits a b : Nat) : Nat := min (a * b) (2 ^ bits - 1)

/-- `a.abs_diff(b)`. -/
def absDiff (a b : Nat) : Nat := max a b - min a b

lemma le_satAdd {bits a b : Nat} (ha : a < 2 ^ bits) : a ≤ satAdd bits a b := by
  unfold satAdd
  omega

lemma satAdd_of_lt {bits a b : Nat} (h : a + b < 2 ^ bits) : satAdd bits a b = a + b := by
  unfold satAdd
  omega

lemma satAdd_lt (bits a b : Nat) : satAdd bits a b < 2 ^ bits := by
  have : 0 < 2 ^ bits := Nat.two_pow_pos bits
  unfold satAdd
  omega

/-! ## Durations -/

def nanosPerSec : Nat := 1000000000

/-- `Duration`. `saturating_add` can leave a whole second in `nanos`. -/
structure Duration where
  secs : Nat
  nanos : Nat

/-- `Instant`, a duration since the clock started. -/
abbrev Instant := Duration

namespace Duration

def zero : Duration := ⟨0, 0⟩

def maximum : Duration := ⟨2 ^ 64 - 1, nanosPerSec - 1⟩

def fromMillis (millis : Nat) : Duration := ⟨millis / 1000, millis % 1000 * 1000000⟩

def asNanos (d : Duration) : Nat := d.secs * nanosPerSec + d.nanos

variable (d other : Duration)

def checkedAdd : Option Duration :=
  if d.secs + other.secs < 2 ^ 64 ∧ d.nanos + other.nanos < 2 ^ 32 then
    if d.nanos + other.nanos > nanosPerSec then
      if d.secs + other.secs + 1 < 2 ^ 64 then
        some ⟨d.secs + other.secs + 1, d.nanos + other.nanos - nanosPerSec⟩
      else none
    else some ⟨d.secs + other.secs, d.nanos + other.nanos⟩
  else none

def saturatingAdd : Duration := (d.checkedAdd other).getD maximum

def checkedSub : Option Duration :=
  if d.secs < other.secs then none
  else if d.nanos < other.nanos then
    if d.secs = other.secs then none
    else some ⟨d.secs - other.secs - 1, nanosPerSec - (other.nanos - d.nanos)⟩
  else some ⟨d.secs - other.secs, d.nanos - other.nanos⟩

/-- `d >= other`: `partial_cmp` asks whether the difference exists. -/
def ge : Bool := (d.checkedSub other).isSome

/-- `d - other`, which the callers here use only when `d >= other`. -/
def sub : Duration := (d.checkedSub other).getD zero

end Duration

/-! ## Virtual time -/

/-- `EevdfParams`. -/
structure EevdfParams where
  weight : Nat
  slice : Duration

namespace EevdfParams

def baseWeight : Nat := 1024

def runtimeToVirtual (params : EevdfParams) (runtime : Duration) : Nat :=
  satMul 128 runtime.asNanos baseWeight / max params.weight 1

def sliceToVirtual (params : EevdfParams) : Nat := params.runtimeToVirtual params.slice

def schedulerRuntimeToVirtual (runtime : Duration) (totalWeight : Nat) : Nat :=
  satMul 128 runtime.asNanos baseWeight / max totalWeight 1

def eligible (schedulerVtime vruntime : Nat) : Nat := max vruntime schedulerVtime

def deadlineFromEligible (params : EevdfParams) (veligible : Nat) : Nat :=
  satAdd 128 veligible params.sliceToVirtual

end EevdfParams

/-! ## Tasks -/

abbrev TaskId := Nat

/-- How a task ends. -/
inductive TaskExit where
  | completed
  | threadExited (code : Nat)
  | processExited (code : Nat)
  | killed
  | faulted
  | cancelled
  deriving DecidableEq

/-- Ready or blocked, and how. -/
inductive TaskSchedState where
  | preemptReady
  | asyncReady
  | blocked
  deriving DecidableEq

def TaskSchedState.isReady : TaskSchedState → Bool
  | .preemptReady => true
  | .asyncReady => true
  | .blocked => false

/-- How a ready task resumes. -/
inductive TaskReadyState where
  | preempt
  | async
  deriving DecidableEq

/-- `scheduler_state_for_ready`. -/
def TaskReadyState.schedState : TaskReadyState → TaskSchedState
  | .preempt => .preemptReady
  | .async => .asyncReady

@[simp] lemma TaskReadyState.schedState_isReady (ready : TaskReadyState) :
    ready.schedState.isReady = true := by
  cases ready <;> rfl

/-- The state word of a task. -/
structure TaskState where
  sched : TaskSchedState
  terminal : Option TaskExit
  deriving DecidableEq

/-- How a poll ends. -/
inductive TaskPollOutcome where
  | ready
  | blocked
  | exited (exit : TaskExit)
  deriving DecidableEq

/-- What the boundary decides. -/
inductive TaskBoundaryAction where
  | cancelled
  | outcome (outcome : TaskPollOutcome)
  deriving DecidableEq

/-- The EEVDF accounts of a task. -/
structure TaskSchedMeta where
  weight : Nat
  vruntime : Nat
  veligible : Nat
  vdeadline : Nat
  slice : Duration
  execStart : Option Instant
  execRuntime : Duration
  cpuId : Nat

/-- `TaskExecution`; of the runnable only its presence in the slot. -/
structure TaskExecution where
  runnable : Bool
  recordedExit : Option TaskExit
  boundaryAction : Option TaskBoundaryAction
  readyState : TaskReadyState
  cancelRequested : Bool

/-- What migration looks at. -/
structure TaskPlacement where
  started : Bool
  migrationReady : Bool
  migrationAllowed : Bool
  lastCpu : Nat
  lastStopNanos : Nat

/-- A task as the scheduler sees it. -/
structure Task where
  state : TaskState
  sched : TaskSchedMeta
  kernelStack : VmRange
  execution : TaskExecution
  placement : TaskPlacement
  wakeQueued : Bool
  wakeLink : DoubleLink TaskId

namespace TaskPlacement

def instantNanos (now : Instant) : Nat := min now.asNanos (2 ^ 64 - 1)

def recordStop (placement : TaskPlacement) (cpuId : Nat) (now : Instant) : TaskPlacement :=
  { placement with lastCpu := cpuId, lastStopNanos := instantNanos now }

def isCacheHotOn (placement : TaskPlacement) (cpuId : Nat) (now : Instant) (threshold : Duration) : Bool :=
  placement.lastCpu == cpuId &&
    decide (instantNanos now - placement.lastStopNanos < min threshold.asNanos (2 ^ 64 - 1))

end TaskPlacement

namespace Task

/-- `Task::new`. Every task is created with weight 1024 and a slice of 4 ms; nothing here depends on
it, so both are left open. -/
def new (weight : Nat) (slice : Duration) (kernelStack : VmRange) : Task where
  state := ⟨.blocked, none⟩
  sched := ⟨weight, 0, 0, 0, slice, none, .zero, 0⟩
  kernelStack := kernelStack
  execution := ⟨false, none, none, .async, false⟩
  placement := ⟨false, false, true, 2 ^ 64 - 1, 0⟩
  wakeQueued := false
  wakeLink := .new

def isReady (task : Task) : Bool := task.state.sched.isReady

/-- The weight the scheduler counts a task with. -/
def weight (task : Task) : Nat := max task.sched.weight 1

/-- The parameters the virtual times of the task are computed with. -/
def params (task : Task) : EevdfParams := ⟨task.weight, task.sched.slice⟩

end Task

end Akarin.Sched
