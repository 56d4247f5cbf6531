/-
# Akarin.Sched.Scheduler -- the per-CPU EEVDF scheduler

One scheduler instance and the tasks behind its references. The two trees are intrusive red-black
trees: a linked task sits where the key put it that it had when it was inserted, `(vdeadline, id)` in
the eligible tree and `(veligible, id)` in the ineligible one, and the tree does not notice when the
key in the task changes. A tree is modelled by the keys in their order, each holding the task's id.

Every operation runs under the CPU's scheduler lock and is atomic. Log lines and the debug checks are
left out, and so is `last_balance`, which only the load balancer reads.
-/
import Akarin.Sched.Task

namespace Akarin.Sched

open Collections (DoubleLink LinkedList)

/-! ## Trees -/

/-- `(key, id) <= (key', id')`. -/
def KeyLe (a b : Nat × Nat) : Prop := a.1 < b.1 ∨ a.1 = b.1 ∧ a.2 ≤ b.2

instance : DecidableRel KeyLe := fun a b =>
  inferInstanceAs (Decidable (a.1 < b.1 ∨ a.1 = b.1 ∧ a.2 ≤ b.2))

abbrev RunTree := List (Nat × Nat)

namespace RunTree

/-- `RBTree::insert`. -/
def insert (tree : RunTree) (key : Nat) (id : TaskId) : RunTree :=
  List.orderedInsert KeyLe (key, id) tree

/-- The tasks linked in the tree. -/
def ids (tree : RunTree) : List TaskId := tree.map Prod.snd

end RunTree

/-! ## State -/

/-- `Scheduler`. -/
structure Scheduler where
  cpuId : Nat
  current : Option TaskId
  vtime : Nat
  totalWeight : Nat
  tasks : Finset TaskId
  eligible : RunTree
  ineligible : RunTree
  wakeInbox : LinkedList TaskId

def Scheduler.new (cpuId : Nat) : Scheduler := ⟨cpuId, none, 0, 0, ∅, [], [], .new⟩

/-- A scheduler and the tasks behind the references. -/
structure Cpu where
  scheduler : Scheduler
  task : TaskId → Task

/-- Who asks for the move. -/
inductive MigrationPolicy where
  | steal
  | balanceRequest
  deriving DecidableEq

/-- `TrapBoundaryFinalize`. -/
structure TrapBoundaryFinalize where
  reaped : Option TaskId
  migrationReady : Option TaskId
  deriving DecidableEq

namespace Cpu

/-! ## Fields of a task -/

section

variable (cpu : Cpu) (id : TaskId)

def modifyTask (f : Task → Task) : Cpu :=
  { cpu with task := Function.update cpu.task id (f (cpu.task id)) }

def setState (state : TaskState) : Cpu :=
  cpu.modifyTask id ({ · with state := state })

def setSchedMeta (sched : TaskSchedMeta) : Cpu :=
  cpu.modifyTask id ({ · with sched := sched })

def modifyExecution (f : TaskExecution → TaskExecution) : Cpu :=
  cpu.modifyTask id fun task => { task with execution := f task.execution }

def modifyPlacement (f : TaskPlacement → TaskPlacement) : Cpu :=
  cpu.modifyTask id fun task => { task with placement := f task.placement }

def setWakeQueued (queued : Bool) : Cpu :=
  cpu.modifyTask id ({ · with wakeQueued := queued })

def markReady (ready : TaskReadyState) : Cpu :=
  cpu.modifyExecution id ({ · with readyState := ready })

/-- `meta.exec_start = None; meta.exec_runtime = 0`. -/
def clearExec : Cpu :=
  cpu.setSchedMeta id { (cpu.task id).sched with execStart := none, execRuntime := .zero }

/-! ## Weights and virtual time -/

def addRunnableWeight : Cpu :=
  { cpu with scheduler := { cpu.scheduler with
      totalWeight := satAdd 64 cpu.scheduler.totalWeight (cpu.task id).weight } }

def subRunnableWeight : Cpu :=
  { cpu with scheduler := { cpu.scheduler with
      totalWeight := cpu.scheduler.totalWeight - (cpu.task id).weight } }

/-- `vtime` moves by the lag of the departing task, shared by the others' weight. -/
def adjustVtimeForDeparture : Cpu :=
  let vtime := cpu.scheduler.vtime
  let veligible := (cpu.task id).sched.veligible
  let remaining := cpu.scheduler.totalWeight - (cpu.task id).weight
  if remaining = 0 then cpu
  else
    let correction := satMul 128 (absDiff vtime veligible) (cpu.task id).weight / remaining
    { cpu with scheduler := { cpu.scheduler with
        vtime := if veligible ≤ vtime then satAdd 128 vtime correction else vtime - correction } }

def transitionTaskState (state : TaskState) : Cpu :=
  let moved :=
    match (cpu.task id).isReady, state.sched.isReady with
    | false, true => cpu.addRunnableWeight id
    | true, false => (cpu.adjustVtimeForDeparture id).subRunnableWeight id
    | _, _ => cpu
  moved.setState id state

def refreshDeadlines (sched : TaskSchedMeta) : Cpu :=
  let params : EevdfParams := ⟨max sched.weight 1, sched.slice⟩
  let veligible := EevdfParams.eligible cpu.scheduler.vtime sched.vruntime
  cpu.setSchedMeta id
    { sched with veligible := veligible, vdeadline := params.deadlineFromEligible veligible }

/-! ## The run queue -/

/-- Link the task in the tree its `veligible` asks for. -/
def linkRunnable : Cpu :=
  let sched := (cpu.task id).sched
  if sched.veligible ≤ cpu.scheduler.vtime then
    { cpu with scheduler := { cpu.scheduler with
        eligible := cpu.scheduler.eligible.insert sched.vdeadline id } }
  else
    { cpu with scheduler := { cpu.scheduler with
        ineligible := cpu.scheduler.ineligible.insert sched.veligible id } }

def insertRunnablePointer (ready : TaskReadyState) : Cpu :=
  if id ∈ cpu.scheduler.tasks then
    let cpu := cpu.refreshDeadlines id { (cpu.task id).sched with cpuId := cpu.scheduler.cpuId }
    let cpu := cpu.transitionTaskState id { (cpu.task id).state with sched := ready.schedState }
    (cpu.markReady id .async).linkRunnable id
  else cpu

end

/-- The loop of `promote_eligible`: what stays ineligible, and the eligible tree with the rest. -/
def promote (task : TaskId → Task) (vtime : Nat) : RunTree → RunTree → RunTree × RunTree
  | [], eligible => ([], eligible)
  | (key, id) :: rest, eligible =>
    if (task id).sched.veligible > vtime then ((key, id) :: rest, eligible)
    else promote task vtime rest (eligible.insert (task id).sched.vdeadline id)

section

variable (cpu : Cpu)

def promoteEligible : Cpu :=
  let trees := promote cpu.task cpu.scheduler.vtime cpu.scheduler.ineligible cpu.scheduler.eligible
  { cpu with scheduler := { cpu.scheduler with ineligible := trees.1, eligible := trees.2 } }

/-! ## Admission, removal and wakeups -/

def links (id : TaskId) : DoubleLink TaskId := (cpu.task id).wakeLink

/-- Write back the wake links and the inbox. -/
def setInbox (inbox : (TaskId → DoubleLink TaskId) × LinkedList TaskId) : Cpu where
  scheduler := { cpu.scheduler with wakeInbox := inbox.2 }
  task id := { cpu.task id with wakeLink := inbox.1 id }

def removeTask (id : TaskId) : Option TaskId × Cpu :=
  if id ∈ cpu.scheduler.tasks then
    let queued := (cpu.task id).wakeQueued
    let cpu := { cpu with scheduler := { cpu.scheduler with tasks := cpu.scheduler.tasks.erase id } }
    let cpu := cpu.setWakeQueued id false
    let cpu := if queued then cpu.setInbox (LinkedList.detach cpu.links cpu.scheduler.wakeInbox id)
      else cpu
    (some id, if (cpu.task id).isReady then cpu.subRunnableWeight id else cpu)
  else (none, cpu)

def admitTask (id : TaskId) : Cpu :=
  if id ∈ cpu.scheduler.tasks then cpu
  else
    let cpu := cpu.refreshDeadlines id { (cpu.task id).sched with cpuId := cpu.scheduler.cpuId }
    let cpu := { cpu with scheduler := { cpu.scheduler with tasks := insert id cpu.scheduler.tasks } }
    let state := (cpu.task id).state
    if (cpu.task id).execution.runnable || state.sched.isReady then
      let ready := if state.sched = .preemptReady then .preempt else .async
      let cpu := if state.sched.isReady then cpu.addRunnableWeight id else cpu
      cpu.insertRunnablePointer id ready
    else cpu

def enqueueWakeup (id : TaskId) : Cpu :=
  if id ∈ cpu.scheduler.tasks then
    if (cpu.task id).wakeQueued then cpu
    else
      let cpu := cpu.setWakeQueued id true
      cpu.setInbox (LinkedList.pushBack cpu.links cpu.scheduler.wakeInbox id)
  else cpu

/-- `activate_wakeup_task`; whether the task has been made ready. -/
def activateWakeupTask (id : TaskId) : Bool × Cpu :=
  if id ∈ cpu.scheduler.tasks then
    if (cpu.task id).isReady then (false, cpu)
    else
      let state := (cpu.task id).state
      let ready := (cpu.task id).execution.readyState
      let cpu := cpu.markReady id .async
      let cpu := cpu.transitionTaskState id { state with sched := ready.schedState }
      let cpu := if (cpu.task id).placement.started then
          cpu.modifyPlacement id ({ · with migrationReady := true })
        else cpu
      (true, cpu.insertRunnablePointer id ready)
  else (false, cpu)

end

/-- `drain_wakeups`; how many tasks have been made ready. The loop ends when the inbox is empty, `fuel`
bounds how often it runs. -/
def drainWakeups : (fuel : Nat) → Cpu → Nat × Cpu
  | 0, cpu => (0, cpu)
  | fuel + 1, cpu =>
    let popped := LinkedList.popFront cpu.links cpu.scheduler.wakeInbox
    match popped.1 with
    | none => (0, cpu)
    | some id =>
      let activated := ((cpu.setInbox popped.2).setWakeQueued id false).activateWakeupTask id
      let drained := drainWakeups fuel activated.2
      (drained.1 + activated.1.toNat, drained.2)

/-! ## Migration -/

/-- A task of a tree that may leave: `migration_ready`, `migration_allowed` and not cache hot. -/
def mayMigrate (cpu : Cpu) (now : Instant) (threshold : Duration) (ignoreCacheHot : Bool)
    (id : TaskId) : Bool :=
  let placement := (cpu.task id).placement
  placement.migrationReady && placement.migrationAllowed &&
    (ignoreCacheHot || !placement.isCacheHotOn cpu.scheduler.cpuId now threshold)

/-- `remove_first_migratable_from_tree`. -/
def removeFirstMigratableFromTree (cpu : Cpu) (eligible : Bool) (now : Instant) (threshold : Duration)
    (ignoreCacheHot : Bool) : Option TaskId × Cpu :=
  let tree := if eligible then cpu.scheduler.eligible else cpu.scheduler.ineligible
  match tree.find? fun node => cpu.mayMigrate now threshold ignoreCacheHot node.2 with
  | none => (none, cpu)
  | some node =>
    let cpu := if eligible then
        { cpu with scheduler := { cpu.scheduler with eligible := tree.erase node } }
      else { cpu with scheduler := { cpu.scheduler with ineligible := tree.erase node } }
    (if node.2 ∈ cpu.scheduler.tasks then some node.2 else none, cpu)

/-- `a.or_else(b)`. -/
def orElse (a : Option TaskId × Cpu) (b : Cpu → Option TaskId × Cpu) : Option TaskId × Cpu :=
  match a.1 with
  | some _ => a
  | none => b a.2

section

variable (cpu : Cpu)

def extractMigratableTask (now : Instant) (threshold : Duration) (relaxCacheHot : Bool) :
    Option TaskId × Cpu :=
  orElse (orElse (orElse (cpu.removeFirstMigratableFromTree true now threshold false)
    (·.removeFirstMigratableFromTree false now threshold false))
    fun cpu => if relaxCacheHot then cpu.removeFirstMigratableFromTree true now threshold true
      else (none, cpu))
    fun cpu => if relaxCacheHot then cpu.removeFirstMigratableFromTree false now threshold true
      else (none, cpu)

/-- A ready task leaves for another CPU. -/
def departMigrating (id : TaskId) : Cpu :=
  let cpu := { cpu with scheduler := { cpu.scheduler with tasks := cpu.scheduler.tasks.erase id } }
  ((cpu.adjustVtimeForDeparture id).subRunnableWeight id).clearExec id

def takeMigratable (now : Instant) (threshold : Duration) (policy : MigrationPolicy) :
    Option TaskId × Cpu :=
  let extracted := cpu.extractMigratableTask now threshold (policy = .balanceRequest)
  match extracted.1 with
  | none => extracted
  | some id => (some id, extracted.2.departMigrating id)

/-! ## Selection -/

/-- The first half of `pick_next`: bring the trees up to date, and if no task is eligible move `vtime`
to where the first one is. -/
def refreshEligible : Cpu :=
  let cpu := cpu.promoteEligible
  match cpu.scheduler.eligible, cpu.scheduler.ineligible with
  | [], (_, id) :: _ =>
    { cpu with scheduler := { cpu.scheduler with
        vtime := max cpu.scheduler.vtime (cpu.task id).sched.veligible } }.promoteEligible
  | _, _ => cpu

/-- The eligible task with the first deadline. -/
def pickNext : Option TaskId × Cpu :=
  let cpu := cpu.refreshEligible
  match cpu.scheduler.eligible with
  | [] => (none, cpu)
  | (_, id) :: rest =>
    let cpu := { cpu with scheduler := { cpu.scheduler with eligible := rest } }
    if id ∈ cpu.scheduler.tasks then
      (some id, { cpu with scheduler := { cpu.scheduler with current := some id } })
    else (none, cpu)

def takeNext (now : Instant) : Option TaskId × Cpu :=
  let picked := cpu.pickNext
  match picked.1 with
  | none => picked
  | some id =>
    (some id, picked.2.setSchedMeta id
      { (picked.2.task id).sched with execStart := some now, execRuntime := .zero })

/-! ## The current task -/

/-- `self.current.take()`, with the task if it is in the table. -/
def takeCurrent : Option TaskId × Cpu :=
  (cpu.scheduler.current.filter (· ∈ cpu.scheduler.tasks),
    { cpu with scheduler := { cpu.scheduler with current := none } })

/-- A task that has ended is not queued again. -/
def requeueCurrentWith (ready : TaskReadyState) : Option TaskId × Cpu :=
  match cpu.takeCurrent with
  | (none, cpu) => (none, cpu)
  | (some id, cpu) =>
    let state := (cpu.task id).state
    if state.terminal.isSome then (some id, cpu)
    else
      let cpu := (cpu.clearExec id).transitionTaskState id { state with sched := ready.schedState }
      (some id, cpu.insertRunnablePointer id ready)

/-- The current task leaves the CPU: `block_current` and `exit_current_with` differ in what they record
as terminal. -/
def leaveCurrent (terminal : Option TaskExit → Option TaskExit) : Option TaskId × Cpu :=
  match cpu.takeCurrent with
  | (none, cpu) => (none, cpu)
  | (some id, cpu) =>
    let state := (cpu.task id).state
    (some id, (cpu.clearExec id).transitionTaskState id ⟨.blocked, terminal state.terminal⟩)

def blockCurrent : Option TaskId × Cpu := cpu.leaveCurrent id

def exitCurrentWith (exit : TaskExit) : Option TaskId × Cpu :=
  cpu.leaveCurrent fun _ => some exit

def finalizeCurrentPoll (outcome : TaskPollOutcome) : Option TaskId × Cpu :=
  match outcome with
  | .ready =>
    match cpu.scheduler.current.filter (· ∈ cpu.scheduler.tasks) with
    | none => (none, cpu)
    | some id =>
      (cpu.markReady id .async).requeueCurrentWith (cpu.task id).execution.readyState
  | .blocked => cpu.blockCurrent
  | .exited exit => cpu.exitCurrentWith exit

/-- The body of `account_current_runtime`, for the task it finds. -/
def charge (id : TaskId) (runtime : Duration) (now : Instant) : Cpu :=
  let sched := (cpu.task id).sched
  let taskDelta := (cpu.task id).params.runtimeToVirtual runtime
  let schedDelta := EevdfParams.schedulerRuntimeToVirtual runtime (max cpu.scheduler.totalWeight 1)
  let cpu := { cpu with scheduler := { cpu.scheduler with
    vtime := satAdd 128 cpu.scheduler.vtime schedDelta } }
  cpu.refreshDeadlines id { sched with
    vruntime := satAdd 128 sched.vruntime taskDelta
    execRuntime := sched.execRuntime.saturatingAdd runtime
    execStart := some now }

/-- `account_current_runtime`; both callers drop its result. -/
def accountCurrentRuntime (runtime : Duration) (now : Instant) : Cpu :=
  match cpu.scheduler.current.filter (· ∈ cpu.scheduler.tasks) with
  | none => cpu
  | some id => cpu.charge id runtime now

/-- Account the time since `exec_start` of the task; whether there was any. -/
def accountSince (id : TaskId) (now : Instant) : Bool × Cpu :=
  match (cpu.task id).sched.execStart with
  | none => (false, cpu)
  | some start =>
    if now.ge start && decide (0 < (now.sub start).asNanos) then
      (true, cpu.accountCurrentRuntime (now.sub start) now)
    else (false, cpu)

def accountTrapRuntime (id : TaskId) (now : Option Instant) : Cpu :=
  match now with
  | none => cpu
  | some now => (cpu.accountSince id now).2

/-- An earlier deadline, or a slice used up. -/
def shouldPreemptCurrent : Bool × Cpu :=
  match cpu.scheduler.current.filter (· ∈ cpu.scheduler.tasks) with
  | none => (false, cpu)
  | some id =>
    let cpu := cpu.promoteEligible
    match cpu.scheduler.eligible with
    | [] => (false, cpu)
    | (_, contender) :: _ =>
      let current := (cpu.task id).sched
      (decide ((cpu.task contender).sched.vdeadline < current.vdeadline) ||
        (current.execRuntime.ge current.slice && decide (contender ≠ id)), cpu)

/-- `current_task_from_trap`: the current task, if the trap came from its kernel stack. -/
def currentTaskFromTrap (rsp : Nat) : Option TaskId :=
  (cpu.scheduler.current.filter (· ∈ cpu.scheduler.tasks)).filter
    fun id => (cpu.task id).kernelStack.contains rsp

/-- `if let Some(now) = now { task.record_stop(self.cpu_id, now) }`. -/
def recordStop (id : TaskId) (now : Option Instant) : Cpu :=
  match now with
  | none => cpu
  | some now => cpu.modifyPlacement id (·.recordStop cpu.scheduler.cpuId now)

/-- The current task exits and is removed. -/
def exitAndRemove (id : TaskId) (exit : TaskExit) : Option TaskId × Cpu :=
  (cpu.exitCurrentWith exit).2.removeTask id

def finalizeCurrentBoundary (rsp : Nat) (action : TaskBoundaryAction)
    (now : Option Instant) : Option TrapBoundaryFinalize × Cpu :=
  match cpu.currentTaskFromTrap rsp with
  | none => (none, cpu)
  | some id =>
    let cpu := (cpu.accountTrapRuntime id now).recordStop id now
    match action with
    | .cancelled =>
      let removed := cpu.exitAndRemove id .cancelled
      (some ⟨removed.1, none⟩, removed.2)
    | .outcome (.exited exit) =>
      let removed := cpu.exitAndRemove id exit
      (some ⟨removed.1, none⟩, removed.2)
    | .outcome .ready =>
      let result := cpu.finalizeCurrentPoll .ready
      (some ⟨none, result.1.map fun _ => id⟩, result.2)
    | .outcome .blocked => (some ⟨none, none⟩, (cpu.finalizeCurrentPoll .blocked).2)

def savePreemptedCurrent (rsp : Nat) (now : Option Instant) : Option TaskId × Cpu :=
  match cpu.currentTaskFromTrap rsp with
  | none => (none, cpu)
  | some id =>
    let cpu := (cpu.accountTrapRuntime id now).recordStop id now
    let requeued := (cpu.markReady id .preempt).requeueCurrentWith .preempt
    (if requeued.1 = some id then some id else none, requeued.2)

/-- The accounting half of `on_tick`: whether time has been accounted. -/
def accountTick (now : Instant) : Bool × Cpu :=
  match cpu.scheduler.current.filter (· ∈ cpu.scheduler.tasks) with
  | none => (false, cpu)
  | some id => cpu.accountSince id now

end

/-- `on_tick`; whether the CPU should reschedule. -/
def onTick (fuel : Nat) (cpu : Cpu) (now : Instant) : Bool × Cpu :=
  let drained := cpu.drainWakeups fuel
  let accounted := drained.2.accountTick now
  if accounted.2.scheduler.current.isNone && decide (0 < drained.1) then (true, accounted.2)
  else if accounted.1 || decide (0 < drained.1) then accounted.2.shouldPreemptCurrent
  else (false, accounted.2)

end Cpu

end Akarin.Sched
