/-
# Akarin.Sched.Wakeup -- polling a task and waking it

A task is polled on its CPU while wakers on any CPU wake it. What is to be polled next, the runnable of
the future, is in one place at a time: in the task's slot, with the waker that is about to install it,
or with the poll that runs it. Which of them it is the state of the future decides, which belongs to the
library of the futures and is a parameter here. The task side decides whether the task blocks, and the
scheduler applies the decision later.

The task and its waker agree on the slot, the waker and the scheduler on the inbox. In between, a drain
can throw the entry of the inbox away: it does so for a task that still is ready.
-/
import Akarin.Lib.Tasks
import Akarin.Sched.Inbox

namespace Akarin.Sched

open Collections (LinkedList)
open Lib (Pool Program Event runOps Meets run_invariant)
open Memory (VmRange)

/-! ## Model -/

/-- The library of the futures: the state of a future between its waker and its runnable, and how it changes.
Nothing is assumed of it. -/
class AsyncTask where
  State : Type
  /-- a future that has just been spawned -/
  spawned : State
  /-- a wake, and whether the waker gets the runnable to schedule it -/
  wake : State → State × Bool
  /-- `runnable.run()` begins -/
  run : State → State
  /-- the future is not ready, and whether it has been woken meanwhile and is scheduled again -/
  pending : State → State × Bool
  /-- the future is ready -/
  complete : State → State

/-- Where `dispatch_current_task` is with a task. -/
inductive PollPhase where
  /-- before the cancellation check -/
  | entry
  /-- in `runnable.run()` -/
  | running
  /-- at the end of `run()`, with the runnable of a future that has been woken meanwhile -/
  | reinstall
  | requeue
  /-- after `run()`, which says whether it has rescheduled -/
  | check (yielded : Bool)
  /-- the action is known, and not applied yet -/
  | decided (action : TaskBoundaryAction)
  deriving DecidableEq

/-- One CPU and the futures of its tasks. -/
structure Polled [AsyncTask] where
  cpu : Cpu
  future : TaskId → AsyncTask.State
  phase : TaskId → PollPhase

/-- Where a call of `Waker::wake` is. -/
inductive WakerPc where
  | wake (id : TaskId)
  | install (id : TaskId)
  | queue (id : TaskId)
  | done

/-- What else happens to the tasks of the CPU. -/
inductive PollAct where
  | spawn (id : TaskId) (weight : Nat) (slice : Duration) (kernelStack : VmRange)
  | requestCancel (id : TaskId)
  /-- `queue_wakeup` without a runnable, as after `request_cancel` -/
  | queueWakeup (id : TaskId)
  | onTick (fuel : Nat) (now : Instant)
  | drainWakeups (fuel : Nat)
  | takeNext (now : Instant)
  | savePreemptedCurrent (now : Option Instant)
  /-- the next step of the current task's poll; `result` is what the future returns if it is run -/
  | poll (result : Option TaskExit) (now : Option Instant)

namespace Polled

variable [AsyncTask]

def new (cpuId : Nat) : Polled where
  cpu := ⟨.new cpuId, fun _ => .new 0 .zero ⟨0, 1, Nat.one_pos⟩⟩
  future _ := AsyncTask.spawned
  phase _ := .entry

section

variable (s : Polled)

def setFuture (id : TaskId) (future : AsyncTask.State) : Polled :=
  { s with future := Function.update s.future id future }

def setPhase (id : TaskId) (phase : PollPhase) : Polled :=
  { s with phase := Function.update s.phase id phase }

def setRunnable (id : TaskId) (runnable : Bool) : Polled :=
  { s with cpu := s.cpu.modifyExecution id ({ · with runnable := runnable }) }

/-- One step of `Waker::wake` and of the schedule function it calls. -/
def wakerStep : WakerPc → Polled × WakerPc
  | .wake id =>
    let (future, gets) := AsyncTask.wake (s.future id)
    (s.setFuture id future, if gets then .install id else .done)
  | .install id => (s.setRunnable id true, .queue id)
  | .queue id => ({ s with cpu := s.cpu.enqueueWakeup id }, .done)
  | .done => (s, .done)

/-- A trap of the task comes from its own kernel stack. -/
def stackPointer (id : TaskId) : Nat := (s.cpu.task id).kernelStack.start

/-- One step of `dispatch_current_task`, `poll_once` and the trap that applies its outcome. -/
def pollStep (id : TaskId) (result : Option TaskExit) (now : Option Instant) : Polled :=
  let execution := (s.cpu.task id).execution
  match s.phase id with
  | .entry =>
    if execution.cancelRequested then s.setPhase id (.decided .cancelled)
    else if execution.runnable then
      ((s.setRunnable id false).setFuture id (AsyncTask.run (s.future id))).setPhase id .running
    else s.setPhase id (.decided (.outcome .blocked))
  | .running =>
    match result with
    | some exit =>
      let cpu := s.cpu.modifyExecution id ({ · with recordedExit := some exit })
      ({ s with cpu := cpu }.setFuture id (AsyncTask.complete (s.future id))).setPhase id (.check false)
    | none =>
      let (future, woken) := AsyncTask.pending (s.future id)
      (s.setFuture id future).setPhase id (if woken then .reinstall else .check false)
  | .reinstall => (s.setRunnable id true).setPhase id .requeue
  | .requeue => { s with cpu := s.cpu.enqueueWakeup id }.setPhase id (.check true)
  | .check yielded =>
    match execution.recordedExit with
    | some exit =>
      let cpu := s.cpu.modifyExecution id ({ · with recordedExit := none })
      { s with cpu := cpu }.setPhase id (.decided (.outcome (.exited exit)))
    | none =>
      let outcome := if yielded || execution.runnable then .ready else .blocked
      s.setPhase id (.decided (.outcome outcome))
  | .decided action =>
    let cpu := (s.cpu.finalizeCurrentBoundary (s.stackPointer id) action now).2
    { s with cpu := cpu }.setPhase id .entry

def spawn (id : TaskId) (task : Task) : Polled :=
  let cpu : Cpu := { s.cpu with task := Function.update s.cpu.task id task }
  ({ s with cpu := cpu.admitTask id }.setFuture id AsyncTask.spawned).setPhase id .entry

def act : PollAct → Polled
  | .spawn id weight slice kernelStack =>
    if id ∈ s.cpu.scheduler.tasks then s else s.spawn id (.new weight slice kernelStack)
  | .requestCancel id => { s with cpu := s.cpu.modifyExecution id ({ · with cancelRequested := true }) }
  | .queueWakeup id => { s with cpu := s.cpu.enqueueWakeup id }
  | .onTick fuel now => { s with cpu := (s.cpu.onTick fuel now).2 }
  | .drainWakeups fuel => { s with cpu := (s.cpu.drainWakeups fuel).2 }
  | .takeNext now =>
    if s.cpu.scheduler.current = none then { s with cpu := (s.cpu.takeNext now).2 } else s
  | .savePreemptedCurrent now =>
    match s.cpu.scheduler.current with
    | none => s
    | some id => { s with cpu := (s.cpu.savePreemptedCurrent (s.stackPointer id) now).2 }
  | .poll result now =>
    match s.cpu.scheduler.current with
    | none => s
    | some id => s.pollStep id result now

end

def program : Program Polled WakerPc TaskId PollAct where
  enter _ id := some (.wake id)
  move := wakerStep
  act := act

end Polled

/-! ## What the operations do to a task that may have been woken -/

/-- The task has not blocked, its slot is as before, and it has not left the inbox. -/
structure Task.Calm (task task' : Task) : Prop where
  ready : task'.isReady = false → task.isReady = false
  runnable : task'.execution.runnable = task.execution.runnable
  queued : task.wakeQueued = true → task'.wakeQueued = true

lemma calm_tolerates : Tolerates Task.Calm where
  refl _ := ⟨id, rfl, id⟩
  trans h h' := ⟨fun hb => h.ready (h'.ready hb), h'.runnable.trans h.runnable,
    fun hq => h'.queued (h.queued hq)⟩
  ready _ _ hready := ⟨fun hb => absurd hb (by simp [Task.isReady, hready]), rfl, id⟩
  sched _ _ := ⟨id, rfl, id⟩
  placement _ _ := ⟨id, rfl, id⟩
  readyState _ _ := ⟨id, rfl, id⟩

/-- The slot and the flag are as before. -/
def Task.SameSlot (task task' : Task) : Prop :=
  task'.execution.runnable = task.execution.runnable ∧ task'.wakeQueued = task.wakeQueued

lemma sameSlot_tolerates : Tolerates Task.SameSlot where
  refl _ := ⟨rfl, rfl⟩
  trans h h' := ⟨h'.1.trans h.1, h'.2.trans h.2⟩
  ready _ _ _ := ⟨rfl, rfl⟩
  sched _ _ := ⟨rfl, rfl⟩
  placement _ _ := ⟨rfl, rfl⟩
  readyState _ _ := ⟨rfl, rfl⟩

namespace Cpu

variable {cpu : Cpu} {id j : TaskId}

/-- A task that is activated is ready. -/
lemma activateWakeupTask_ready (hid : id ∈ cpu.scheduler.tasks) :
    ((cpu.activateWakeupTask id).2.task id).isReady = true := by
  unfold activateWakeupTask
  rw [if_pos hid]
  split
  · assumption
  · have hinsert : ∀ (c : Cpu) ready, id ∈ c.scheduler.tasks →
        ((c.insertRunnablePointer id ready).task id).isReady = true := by
      intro c ready hc
      unfold insertRunnablePointer
      rw [if_pos hc]
      have hlink : ∀ c : Cpu, (c.linkRunnable id).task = c.task := by
        intro c
        unfold linkRunnable
        dsimp only
        split <;> rfl
      rw [hlink]
      simp [Task.isReady]
    have htasks : ∀ state, ((cpu.markReady id .async).transitionTaskState id state).scheduler.tasks
        = cpu.scheduler.tasks := fun state =>
      (Moves.transitionTaskState (R := fun _ _ => True) ⟨fun _ => trivial, fun _ _ => trivial,
        fun _ _ _ => trivial, fun _ _ => trivial, fun _ _ => trivial, fun _ _ => trivial⟩
        (cpu.markReady id .async) id trivial).tasks
    dsimp only
    split
    · exact hinsert _ _ ((htasks _).symm ▸ hid)
    · exact hinsert _ _ ((htasks _).symm ▸ hid)

/-- What a drain does to a task of the CPU: if it is blocked afterwards, it has not been taken from the
inbox. -/
structure Drained (task task' : Task) : Prop where
  runnable : task'.execution.runnable = task.execution.runnable
  blocked : task'.isReady = false →
    task.isReady = false ∧ (task.wakeQueued = true → task'.wakeQueued = true)

lemma drainWakeups_drained (fuel : Nat) (hj : j ∈ cpu.scheduler.tasks) :
    Drained (cpu.task j) ((cpu.drainWakeups fuel).2.task j) := by
  induction fuel generalizing cpu with
  | zero => exact ⟨rfl, fun h => ⟨h, id⟩⟩
  | succ fuel ih =>
    simp only [drainWakeups]
    split
    · exact ⟨rfl, fun h => ⟨h, id⟩⟩
    · rename_i id _
      generalize hpopped : (cpu.setInbox (LinkedList.popFront cpu.links
        cpu.scheduler.wakeInbox).2).setWakeQueued id false = popped
      have htasks : popped.scheduler.tasks = cpu.scheduler.tasks := by rw [← hpopped]; rfl
      have hstate : (popped.task j).isReady = (cpu.task j).isReady ∧
          (popped.task j).execution = (cpu.task j).execution ∧
          (j ≠ id → (popped.task j).wakeQueued = (cpu.task j).wakeQueued) := by
        rw [← hpopped]
        by_cases hne : j = id
        · subst hne
          simp [setWakeQueued, setInbox, Task.isReady]
        · simp [setWakeQueued, setInbox, Task.isReady, modifyTask_other _ _ hne]
      have hmoves := Moves.activateWakeupTask calm_tolerates popped id
      have hj' : j ∈ popped.scheduler.tasks := htasks ▸ hj
      have hrest : Drained ((popped.activateWakeupTask id).2.task j) _ :=
        ih (hmoves.tasks.symm ▸ hj')
      refine ⟨hrest.runnable.trans ((hmoves.task j).runnable.trans (by rw [hstate.2.1])),
        fun hblocked => ?_⟩
      obtain ⟨hactivated, hkept⟩ := hrest.blocked hblocked
      -- the task that was popped is ready now
      have hne : j ≠ id := fun heq => by
        subst heq
        exact absurd hactivated (by simp [activateWakeupTask_ready hj'])
      have hbefore := (hmoves.task j).ready hactivated
      exact ⟨hstate.1 ▸ hbefore, fun hqueued => hkept ((hmoves.task j).queued (by
        rw [hstate.2.2 hne]
        exact hqueued))⟩

end Cpu

/-! ## No wakeup is lost -/

namespace Cpu

variable {cpu : Cpu} {id : TaskId}

lemma enqueueWakeup_tasks (cpu : Cpu) (id : TaskId) :
    (cpu.enqueueWakeup id).scheduler.tasks = cpu.scheduler.tasks := by
  unfold enqueueWakeup
  split
  · split <;> rfl
  · rfl

lemma enqueueWakeup_calm (cpu : Cpu) (id j : TaskId) :
    Task.Calm (cpu.task j) ((cpu.enqueueWakeup id).task j) := by
  unfold enqueueWakeup
  split
  · split
    · exact calm_tolerates.refl _
    · by_cases hne : j = id
      · subst hne
        refine ⟨?_, ?_, ?_⟩ <;> simp [setInbox, setWakeQueued, Task.isReady]
      · refine ⟨?_, ?_, ?_⟩ <;>
          simp [setInbox, setWakeQueued, Task.isReady, modifyTask_other cpu _ hne]
  · exact calm_tolerates.refl _

lemma enqueueWakeup_queued (hid : id ∈ cpu.scheduler.tasks) :
    ((cpu.enqueueWakeup id).task id).wakeQueued = true := by
  unfold enqueueWakeup
  rw [if_pos hid]
  split
  · assumption
  · simp [setInbox]

lemma transitionTaskState_other {j : TaskId} (state : TaskState) (hne : j ≠ id) :
    (cpu.transitionTaskState id state).task j = cpu.task j := by
  unfold transitionTaskState
  dsimp only
  rw [setState, modifyTask_other _ _ hne]
  split
  · rfl
  · unfold subRunnableWeight adjustVtimeForDeparture
    dsimp only
    split <;> rfl
  · rfl

lemma leaveCurrent_other {j : TaskId} {terminal : Option TaskExit → Option TaskExit}
    (hcurrent : cpu.scheduler.current = some id) (hne : j ≠ id) :
    (cpu.leaveCurrent terminal).2.task j = cpu.task j := by
  unfold leaveCurrent
  split
  · rename_i htaken
    exact congrArg (fun taken : Option TaskId × Cpu => taken.2.task j) htaken.symm
  · rename_i taken after htaken
    obtain rfl : taken = id := by
      have hfirst : (some id).filter (· ∈ cpu.scheduler.tasks) = some taken := by
        rw [← hcurrent]
        exact congrArg Prod.fst htaken
      exact (Option.some.inj (Option.eq_some_of_filter_eq_some hfirst)).symm
    rw [transitionTaskState_other _ hne, clearExec, setSchedMeta, modifyTask_other _ _ hne]
    exact congrArg (fun taken : Option TaskId × Cpu => taken.2.task j) htaken.symm

lemma notMem_removeTask (cpu : Cpu) (id : TaskId) : id ∉ (cpu.removeTask id).2.scheduler.tasks := by
  have hweigh : ∀ c : Cpu, id ∉ c.scheduler.tasks →
      id ∉ (if (c.task id).isReady then c.subRunnableWeight id else c).scheduler.tasks := by
    intro c hc
    split
    · exact hc
    · exact hc
  unfold removeTask
  split
  · refine hweigh _ ?_
    split <;> exact Finset.notMem_erase id _
  · assumption

lemma removeTask_other {j : TaskId} (hne : j ≠ id) :
    Task.Calm (cpu.task j) ((cpu.removeTask id).2.task j) := by
  have hweigh : ∀ c : Cpu, Task.Calm (cpu.task j) (c.task j) →
      Task.Calm (cpu.task j) ((if (c.task id).isReady then c.subRunnableWeight id else c).task j) := by
    intro c hc
    split
    · exact hc
    · exact hc
  unfold removeTask
  split
  · refine hweigh _ ?_
    split
    · refine ⟨?_, ?_, ?_⟩ <;> simp [setInbox, setWakeQueued, Task.isReady, modifyTask_other _ _ hne]
    · rw [setWakeQueued, modifyTask_other _ _ hne]
      exact calm_tolerates.refl _
  · exact calm_tolerates.refl _

/-- What the end of a poll does to the tasks that stay: only the task itself can have blocked, and only
if that was the decision. -/
structure Finalized (id : TaskId) (action : TaskBoundaryAction) (cpu cpu' : Cpu) : Prop where
  others : ∀ j, j ≠ id → Task.Calm (cpu.task j) (cpu'.task j)
  own : id ∈ cpu'.scheduler.tasks → (cpu.task id).SameSlot (cpu'.task id) ∧
    (Task.Calm (cpu.task id) (cpu'.task id) ∨ action = .outcome .blocked)

lemma Finalized.of_calm {action : TaskBoundaryAction} {cpu' : Cpu}
    (hcalm : Moves Task.Calm cpu cpu') (hslot : Moves Task.SameSlot cpu cpu') :
    Finalized id action cpu cpu' :=
  ⟨fun j _ => hcalm.task j, fun _ => ⟨hslot.task id, .inl (hcalm.task id)⟩⟩

lemma finalizeCurrentBoundary_finalized (rsp : Nat) (action : TaskBoundaryAction)
    (now : Option Instant) (hcurrent : cpu.scheduler.current = some id) :
    Finalized id action cpu (cpu.finalizeCurrentBoundary rsp action now).2 := by
  unfold finalizeCurrentBoundary
  split
  · exact .of_calm (.refl calm_tolerates cpu) (.refl sameSlot_tolerates cpu)
  · rename_i trapped htrap
    obtain rfl : trapped = id := Option.some.inj ((current_of_trap htrap).symm.trans hcurrent)
    have hcalm := Moves.atBoundary calm_tolerates cpu trapped now
    have hslot := Moves.atBoundary sameSlot_tolerates cpu trapped now
    have hcurrent' := (atBoundary_weighs cpu trapped now).current.trans hcurrent
    have hleave : ∀ {terminal} j, j ≠ trapped → Task.Calm (cpu.task j)
        (((cpu.atBoundary trapped now).leaveCurrent terminal).2.task j) := fun j hne =>
      (leaveCurrent_other hcurrent' hne).symm ▸ hcalm.task j
    have hexit : ∀ exit, Finalized trapped action cpu
        ((cpu.atBoundary trapped now).exitAndRemove trapped exit).2 := fun exit =>
      ⟨fun j hne => calm_tolerates.trans (hleave j hne) (removeTask_other hne),
        fun hmem => absurd hmem (notMem_removeTask _ _)⟩
    cases action with
    | cancelled => exact hexit _
    | outcome outcome =>
      cases outcome with
      | ready =>
        change Finalized trapped _ cpu ((cpu.atBoundary trapped now).finalizeCurrentPoll .ready).2
        unfold finalizeCurrentPoll
        dsimp only
        split
        · exact .of_calm hcalm hslot
        · exact .of_calm
            (hcalm.trans calm_tolerates (.trans calm_tolerates (Moves.markReady calm_tolerates _ _ _)
              (Moves.requeueCurrentWith calm_tolerates _ _)))
            (hslot.trans sameSlot_tolerates (.trans sameSlot_tolerates
              (Moves.markReady sameSlot_tolerates _ _ _)
              (Moves.requeueCurrentWith sameSlot_tolerates _ _)))
      | blocked =>
        exact ⟨hleave, fun _ => ⟨(hslot.trans sameSlot_tolerates (Moves.leaveCurrent
          sameSlot_tolerates _ fun _ => ⟨rfl, rfl⟩)).task trapped, .inr rfl⟩⟩
      | exited exit => exact hexit exit

end Cpu

namespace Polled

/-- What moves is not what was noted, or its entry is there now. -/
lemma queue_mem_set {pcs : List WakerPc} {id : TaskId} {task : Nat} {pc pc' : WakerPc}
    (hpc : pcs[task]? = some pc) (hne : pc ≠ .queue id) (hmem : WakerPc.queue id ∈ pcs) : WakerPc.queue id ∈ pcs.set task pc' := by
  obtain ⟨t, ht, rfl⟩ := Lib.exists_set (P := (· = WakerPc.queue id)) (Q := (· = WakerPc.queue id)) hpc
    (fun _ h => h) (fun h => absurd h hne) ⟨_, hmem, rfl⟩
  exact ht

variable [AsyncTask] {s s' : Polled} {pcs pcs' : List WakerPc} {id : TaskId}

/-- The entry in the inbox is there, or a waker is about to make it. -/
def Noted (s : Polled) (pcs : List WakerPc) (id : TaskId) : Prop :=
  (s.cpu.task id).wakeQueued = true ∨ WakerPc.queue id ∈ pcs

/-- If the task is blocked, or has decided to block, and has a runnable, then that is noted. -/
structure Attended (s : Polled) (pcs : List WakerPc) (id : TaskId) : Prop where
  blocked : (s.cpu.task id).isReady = false → (s.cpu.task id).execution.runnable = true → Noted s pcs id
  decided : s.phase id = .decided (.outcome .blocked) → (s.cpu.task id).execution.runnable = true →
    Noted s pcs id

lemma Noted.attended (h : Noted s pcs id) : Attended s pcs id := ⟨fun _ _ => h, fun _ _ => h⟩

lemma attended_of_empty (h : (s.cpu.task id).execution.runnable = false) : Attended s pcs id :=
  ⟨fun _ hrunnable => absurd hrunnable (by simp [h]), fun _ hrunnable => absurd hrunnable (by simp [h])⟩

/-- The task has not blocked or decided to, its slot has not been filled, and what was noted still is. -/
lemma Attended.mono (h : Attended s pcs id)
    (hready : (s'.cpu.task id).isReady = false → (s.cpu.task id).isReady = false)
    (hphase : s'.phase id = .decided (.outcome .blocked) → s.phase id = .decided (.outcome .blocked))
    (hrunnable : (s'.cpu.task id).execution.runnable = true → (s.cpu.task id).execution.runnable = true)
    (hnoted : Noted s pcs id → Noted s' pcs' id) : Attended s' pcs' id :=
  ⟨fun hb hr => hnoted (h.blocked (hready hb) (hrunnable hr)),
    fun hd hr => hnoted (h.decided (hphase hd) (hrunnable hr))⟩

lemma Attended.calm (h : Attended s pcs id) (hcalm : Task.Calm (s.cpu.task id) (s'.cpu.task id))
    (hphase : s'.phase id = .decided (.outcome .blocked) → s.phase id = .decided (.outcome .blocked)) :
    Attended s' pcs id :=
  h.mono hcalm.ready hphase (fun hr => hcalm.runnable ▸ hr) (Or.imp_left hcalm.queued)

/-- Scheduler, inbox and tasks are in step, and every task is attended to. -/
structure Watched (s : Polled) (pcs : List WakerPc) : Prop where
  queue : s.cpu.RunQueue ⟨False, False, s.cpu.scheduler.tasks, s.cpu.task⟩ none
  inbox : s.cpu.Inbox s.cpu.scheduler.tasks s.cpu.task
  attended : ∀ id ∈ s.cpu.scheduler.tasks, Attended s pcs id

lemma new_watched (cpuId : Nat) : Watched (new cpuId) [] where
  queue := Cpu.RunQueue.empty cpuId _
  inbox := Cpu.Inbox.empty cpuId _
  attended _ hid := absurd hid (Finset.notMem_empty _)

/-- An operation of the scheduler on the CPU's own tasks. -/
lemma Watched.operate {cpu : Cpu}
    (hqueue : cpu.RunQueue ⟨False, False, s.cpu.scheduler.tasks, s.cpu.task⟩ none)
    (hinbox : cpu.Inbox s.cpu.scheduler.tasks s.cpu.task)
    (hattended : ∀ id ∈ cpu.scheduler.tasks, Attended { s with cpu := cpu } pcs id) :
    Watched { s with cpu := cpu } pcs :=
  ⟨hqueue.relocate fun _ _ => ⟨rfl, rfl⟩, hinbox.relocate fun _ _ => ⟨rfl, rfl⟩, hattended⟩

section

variable (h : Watched s pcs)
include h

/-- An operation that does not block a task or empty its slot, nor take it from the inbox. -/
lemma Watched.calm {cpu : Cpu}
    (hqueue : cpu.RunQueue ⟨False, False, s.cpu.scheduler.tasks, s.cpu.task⟩ none)
    (hinbox : cpu.Inbox s.cpu.scheduler.tasks s.cpu.task)
    (hcalm : ∀ j, Task.Calm (s.cpu.task j) (cpu.task j)) : Watched { s with cpu := cpu } pcs :=
  .operate hqueue hinbox fun id hid => (h.attended id (hqueue.within hid)).calm (hcalm id) fun hp => hp

lemma Watched.moves {cpu : Cpu}
    (hqueue : cpu.RunQueue ⟨False, False, s.cpu.scheduler.tasks, s.cpu.task⟩ none)
    (hmoves : ∀ {R}, Tolerates R → s.cpu.Moves R cpu) : Watched { s with cpu := cpu } pcs :=
  h.calm hqueue (h.inbox.quiet (hmoves sameWake_tolerates)) (hmoves calm_tolerates).task

lemma Watched.enqueueWakeup (id : TaskId) : Watched { s with cpu := s.cpu.enqueueWakeup id } pcs :=
  h.calm (h.queue.enqueueWakeup id) (h.inbox.enqueueWakeup id) (s.cpu.enqueueWakeup_calm id)

lemma Watched.setFuture (id : TaskId) (future : AsyncTask.State) : Watched (s.setFuture id future) pcs :=
  ⟨h.queue, h.inbox, fun j hj => ⟨(h.attended j hj).blocked, (h.attended j hj).decided⟩⟩

lemma Watched.setPhase {phase : PollPhase}
    (hphase : phase = .decided (.outcome .blocked) → (s.cpu.task id).execution.runnable = false) :
    Watched (s.setPhase id phase) pcs := by
  refine ⟨h.queue, h.inbox, fun j hj => ⟨(h.attended j hj).blocked, fun hdecided hrunnable => ?_⟩⟩
  by_cases hne : j = id
  · subst hne
    simp only [Polled.setPhase, Function.update_self] at hdecided
    exact absurd hrunnable (by simp [hphase hdecided, Polled.setPhase])
  · simp only [Polled.setPhase, Function.update_of_ne hne] at hdecided
    exact (h.attended j hj).decided hdecided hrunnable

/-- Writing into the execution part of a task. -/
lemma Watched.modifyExecution {f : TaskExecution → TaskExecution} (hattended : id ∈ s.cpu.scheduler.tasks →
      Attended { s with cpu := s.cpu.modifyExecution id f } pcs' id)
    (hpcs : ∀ j, WakerPc.queue j ∈ pcs → WakerPc.queue j ∈ pcs') :
    Watched { s with cpu := s.cpu.modifyExecution id f } pcs' := by
  refine .operate (h.queue.modifyExecution id f) (h.inbox.quiet ?_) fun j hj => ?_
  · exact Cpu.Moves.modifyTask sameWake_tolerates s.cpu id ⟨rfl, rfl⟩
  · by_cases hne : j = id
    · subst hne
      exact hattended hj
    · have hsame : (s.cpu.modifyExecution id f).task j = s.cpu.task j :=
        Cpu.modifyTask_other s.cpu _ hne
      refine (h.attended j hj).mono ?_ (fun hp => hp) ?_ (Or.imp ?_ (hpcs j)) <;>
        simp only [hsame, imp_self]

end

/-! ### The steps -/

section

variable (h : Watched s pcs)
include h

lemma Watched.tasks (hpcs : ∀ j ∈ s.cpu.scheduler.tasks,
    WakerPc.queue j ∈ pcs → Noted s pcs' j) : Watched s pcs' :=
  ⟨h.queue, h.inbox, fun id hid => (h.attended id hid).mono (fun hb => hb) (fun hp => hp) (fun hr => hr)
    fun hnoted => hnoted.elim .inl (hpcs id hid)⟩

/-- A waker makes a step. -/
lemma Watched.wakerStep {task : Nat} {pc : WakerPc} (hpc : pcs[task]? = some pc) :
    Watched (s.wakerStep pc).1 (pcs.set task (s.wakerStep pc).2) := by
  have hkeep : ∀ {pc'}, (∀ j, pc ≠ .queue j) → Watched s (pcs.set task pc') := fun hne =>
    h.tasks fun j _ hmem => .inr (queue_mem_set hpc (hne j) hmem)
  cases pc with
  | wake id =>
    exact (hkeep (by simp)).setFuture id _
  | install id =>
    exact h.modifyExecution (fun _ => Noted.attended (.inr (Lib.mem_set_self hpc)))
      fun j hmem => queue_mem_set hpc (by simp) hmem
  | queue id =>
    have hqueued := h.enqueueWakeup id
    refine hqueued.tasks fun j hj hmem => ?_
    by_cases hne : id = j
    · subst hne
      rw [Cpu.enqueueWakeup_tasks] at hj
      exact .inl (Cpu.enqueueWakeup_queued hj)
    · exact .inr (queue_mem_set hpc (by simpa using hne) hmem)
  | done => exact hkeep (by simp)

/-- A task is created blocked, with an empty slot. -/
lemma Watched.spawn (hid : id ∉ s.cpu.scheduler.tasks) (weight : Nat)
    (slice : Duration) (kernelStack : VmRange) :
    Watched (s.spawn id (.new weight slice kernelStack)) pcs := by
  unfold Polled.spawn
  generalize htask : Function.update s.cpu.task id (Task.new weight slice kernelStack) = task
  have hself : task id = .new weight slice kernelStack := by simp [← htask]
  have hother : ∀ j ∈ s.cpu.scheduler.tasks, task j = s.cpu.task j := fun j hj => by
    have hne : j ≠ id := fun heq => hid (heq ▸ hj)
    rw [← htask, Function.update_of_ne hne]
  have hqueue : Cpu.RunQueue ⟨False, False, s.cpu.scheduler.tasks, task⟩ ⟨s.cpu.scheduler, task⟩ none :=
    h.queue.relocate fun j hj => by rw [hother j hj]; exact ⟨rfl, rfl⟩
  have hinbox : Cpu.Inbox s.cpu.scheduler.tasks task ⟨s.cpu.scheduler, task⟩ :=
    h.inbox.relocate fun j hj => by
      rw [hother j hj]
      exact sameWake_tolerates.refl _
  have hqueue := (hqueue.widen (Finset.subset_insert id _)).admitTask (Finset.mem_insert_self id _)
    fun _ => by
      dsimp only
      rw [hself]
      exact ⟨rfl, rfl, by simp [Task.new]⟩
  have hinbox := (hinbox.widen (Finset.subset_insert id _)).admitTask (Finset.mem_insert_self id _)
    fun _ => by
      dsimp only
      rw [hself]
      rfl
  have henroll : Cpu.admitTask ⟨s.cpu.scheduler, task⟩ id = Cpu.enroll ⟨s.cpu.scheduler, task⟩ id := by
    rw [@Cpu.admitTask_eq ⟨s.cpu.scheduler, task⟩ id hid]
    exact if_neg (by simp [hself, Task.new, Task.isReady, TaskSchedState.isReady])
  have hentered : Watched { s with cpu := Cpu.admitTask ⟨s.cpu.scheduler, task⟩ id } pcs := by
    refine ⟨hqueue.relocate fun _ _ => ⟨rfl, rfl⟩, hinbox.relocate fun _ _ => ⟨rfl, rfl⟩, fun j hj => ?_⟩
    simp only [henroll] at hj ⊢
    by_cases hne : j = id
    · subst hne
      refine attended_of_empty ?_
      simp [Cpu.enroll, Cpu.refreshDeadlines, hself, Task.new]
    · have hj : j ∈ s.cpu.scheduler.tasks := Finset.mem_of_mem_insert_of_ne hj hne
      refine (h.attended j hj).calm ?_ fun hp => hp
      simp only [Cpu.enroll_other hne, hother j hj]
      exact calm_tolerates.refl _
  exact (hentered.setFuture id _).setPhase (by simp)

/-- A drain throws the entry of a ready task away; that task has not decided to block. -/
def Spared (s : Polled) : Prop :=
  ∀ id ∈ s.cpu.scheduler.tasks, (s.cpu.task id).wakeQueued = true →
    s.phase id = .decided (.outcome .blocked) → (s.cpu.task id).execution.runnable = false
deriving Decidable

lemma Watched.drainWakeups (hspared : s.Spared) (fuel : Nat) :
    Watched { s with cpu := (s.cpu.drainWakeups fuel).2 } pcs := by
  have hqueue := h.queue.drainWakeups fuel
  refine .operate hqueue (h.inbox.drainWakeups fuel) fun id hid => ?_
  have hid := hqueue.within hid
  have hdrained := Cpu.drainWakeups_drained fuel hid
  have hfilled : ((s.cpu.drainWakeups fuel).2.task id).execution.runnable = true →
      (s.cpu.task id).execution.runnable = true := fun hr => hdrained.runnable ▸ hr
  refine ⟨fun hblocked hrunnable => ?_, fun hdecided hrunnable => ?_⟩
  · obtain ⟨hbefore, hkept⟩ := hdrained.blocked hblocked
    exact ((h.attended id hid).blocked hbefore (hfilled hrunnable)).imp_left hkept
  · -- the entry was not there: a waker is about to make it
    refine .inr (((h.attended id hid).decided hdecided (hfilled hrunnable)).resolve_left fun hqueued => ?_)
    exact absurd (hfilled hrunnable) (by simp [hspared id hid hqueued hdecided])

lemma Watched.onTick (hspared : s.Spared) (fuel : Nat) (now : Instant) :
    Watched { s with cpu := (s.cpu.onTick fuel now).2 } pcs := by
  have hdrained := h.drainWakeups hspared fuel
  have hqueue := (h.queue.onTick fuel now)
  refine ⟨hqueue.relocate fun _ _ => ⟨rfl, rfl⟩, (h.inbox.onTick fuel now).relocate fun _ _ => ⟨rfl, rfl⟩,
    fun id hid => ?_⟩
  have hmoves := Cpu.Moves.onTick_drained calm_tolerates fuel s.cpu now
  refine (hdrained.attended id ?_).calm (hmoves.task id) fun hp => hp
  exact hmoves.tasks ▸ hid

section

variable (hcurrent : s.cpu.scheduler.current = some id)
include hcurrent

/-- The decision is applied to the current task. -/
lemma Watched.finalize {action : TaskBoundaryAction} (hphase : s.phase id = .decided action) (rsp : Nat)
    (now : Option Instant) :
    Watched ({ s with cpu := (s.cpu.finalizeCurrentBoundary rsp action now).2 }.setPhase id .entry)
      pcs := by
  have hqueue := h.queue.finalizeCurrentBoundary rsp action now (fun hfit => hfit.elim) fun hs => hs.elim
  have hinbox := h.inbox.finalizeCurrentBoundary rsp action now
  have hfinal := Cpu.finalizeCurrentBoundary_finalized rsp action now hcurrent
  refine ⟨hqueue.relocate fun _ _ => ⟨rfl, rfl⟩, hinbox.relocate fun _ _ => ⟨rfl, rfl⟩, fun j hj => ?_⟩
  have hbefore := h.attended j (hqueue.within hj)
  by_cases hne : j = id
  · subst hne
    obtain ⟨⟨hslot, hflag⟩, hcalm | rfl⟩ := hfinal.own hj
    · exact hbefore.calm hcalm fun hp => absurd hp (by simp [Polled.setPhase])
    · refine ⟨fun _ hrunnable => (hbefore.decided hphase ?_).imp_left ?_,
        fun hp => absurd hp (by simp [Polled.setPhase])⟩
      · exact hslot ▸ hrunnable
      · exact fun hqueued => hflag.trans hqueued
  · refine hbefore.calm (hfinal.others j hne) fun hp => ?_
    simpa only [Polled.setPhase, Function.update_of_ne hne] using hp

/-- A write into the current task's execution part that may fill its slot: the task is ready, and has
decided nothing. -/
lemma Watched.modify_current
    (hphase : s.phase id ≠ .decided (.outcome .blocked)) (f : TaskExecution → TaskExecution) :
    Watched { s with cpu := s.cpu.modifyExecution id f } pcs := by
  refine h.modifyExecution (fun _ => ⟨fun hblocked => ?_, fun hp => absurd hp hphase⟩) fun _ hmem => hmem
  obtain ⟨-, hready, -⟩ := h.queue.current_mem id hcurrent
  simp only [Cpu.modifyExecution_self, Task.isReady] at hblocked hready
  exact absurd hready (by simp [hblocked])

lemma Watched.pollStep
    (result : Option TaskExit) (now : Option Instant) : Watched (s.pollStep id result now) pcs := by
  unfold Polled.pollStep
  dsimp only
  cases hphase : s.phase id with
  | entry =>
    dsimp only
    split
    · exact h.setPhase (by simp)
    · split
      · exact ((h.modify_current hcurrent (by simp [hphase]) _).setFuture id _).setPhase (by simp)
      · rename_i hempty
        exact h.setPhase fun _ => by simpa using hempty
  | running =>
    cases result with
    | some exit => exact ((h.modify_current hcurrent (by simp [hphase]) _).setFuture id _).setPhase (by simp)
    | none =>
      refine (h.setFuture id _).setPhase fun hdecided => ?_
      split at hdecided <;> cases hdecided
  | reinstall => exact (h.modify_current hcurrent (by simp [hphase]) _).setPhase (by simp)
  | requeue => exact (h.enqueueWakeup id).setPhase (by simp)
  | check yielded =>
    dsimp only
    split
    · exact (h.modify_current hcurrent (by simp [hphase]) _).setPhase (by simp)
    · refine h.setPhase fun hdecided => ?_
      by_contra hfilled
      simp [hfilled] at hdecided
  | decided action => exact h.finalize hcurrent hphase _ now

end

/-! ### The runs -/

/-- No drain takes the entry of a task that has decided to block and has been woken since. -/
def Spares (pool : Pool Polled WakerPc) : Event TaskId PollAct → Prop
  | .environment (.onTick _ _) | .environment (.drainWakeups _) => pool.shared.Spared
  | _ => True

instance (pool : Pool Polled WakerPc) : DecidablePred (Spares pool) := fun x => by
  unfold Spares; split <;> infer_instance

lemma Watched.act (change : PollAct)
    (hspares : Spares ⟨s, pcs⟩ (.environment change)) : Watched (s.act change) pcs := by
  unfold Polled.act
  cases change with
  | spawn id weight slice kernelStack =>
    dsimp only
    split
    · exact h
    · exact h.spawn ‹_› weight slice kernelStack
  | requestCancel id =>
    refine h.modifyExecution (fun hid => ?_) fun _ hmem => hmem
    exact (h.attended id hid).calm ⟨fun hb => by simpa [Task.isReady] using hb, by simp, by simp⟩
      fun hp => hp
  | queueWakeup id => exact h.enqueueWakeup id
  | onTick fuel now => exact h.onTick hspares fuel now
  | drainWakeups fuel => exact h.drainWakeups hspares fuel
  | takeNext now =>
    dsimp only
    split
    · rename_i hidle
      exact h.moves (h.queue.takeNext hidle now) fun hR => .takeNext hR s.cpu now
    · exact h
  | savePreemptedCurrent now =>
    dsimp only
    split
    · exact h
    · exact h.moves (h.queue.savePreemptedCurrent _ now) fun hR => .savePreemptedCurrent hR s.cpu _ now
  | poll result now =>
    dsimp only
    split
    · exact h
    · exact h.pollStep ‹_› result now

end

lemma Watched.step {pool : Pool Polled WakerPc} {event : Event TaskId PollAct}
    (h : Watched pool.shared pool.tasks) (hspares : Spares pool event) :
    Watched (pool.step program event).shared (pool.step program event).tasks := by
  refine Pool.step_keeps (I := fun pool => Watched pool.shared pool.tasks) h ?_ ?_ ?_
  · intro _ _ _ _
    exact h.tasks fun _ _ hmem => .inr (List.mem_append_left _ hmem)
  · intro _ _ _ hpc
    exact h.wakerStep hpc
  · rintro change rfl
    exact h.act change hspares

/-- The tasks linked in the CPU's wake inbox. -/
def inbox (s : Polled) : List TaskId := s.cpu.scheduler.wakeInbox.toList s.cpu.links

lemma Watched.mem_inbox (h : Watched s pcs) : id ∈ s.inbox ↔ id ∈ s.cpu.scheduler.tasks ∧
    (s.cpu.task id).wakeQueued = true := by
  obtain ⟨xs, hxs, hmem⟩ := h.inbox.list
  rw [Polled.inbox, hxs.toList]
  exact hmem id

end Polled

/-- The task a waker wakes. -/
def WakerPc.target : WakerPc → Option TaskId
  | .wake id | .install id | .queue id => some id
  | .done => none

namespace Polled

section

variable [AsyncTask]

/-- The task is blocked though it has a runnable, and nothing will make it ready: it is not in the
inbox, and no wake of it is in progress. -/
def LostWakeup (pool : Pool Polled WakerPc) (id : TaskId) : Prop :=
  id ∈ pool.shared.cpu.scheduler.tasks ∧ (pool.shared.cpu.task id).isReady = false ∧
    (pool.shared.cpu.task id).execution.runnable = true ∧ id ∉ pool.shared.inbox ∧
    ∀ pc ∈ pool.tasks, pc.target ≠ some id
deriving Decidable

/-- As long as no drain takes the entry of a task that is about to block, no wakeup is lost. -/
theorem no_lost_wakeup_of_spares {cpuId : Nat} {events : List (Event TaskId PollAct)}
    (hspares : Meets (Pool.step program) Spares (Pool.idle (new cpuId)) events) (id : TaskId) :
    ¬ LostWakeup (runOps (Pool.step program) (Pool.idle (new cpuId)) events) id := by
  have hwatched : Watched (runOps (Pool.step program) (Pool.idle (new cpuId)) events).shared
      (runOps (Pool.step program) (Pool.idle (new cpuId)) events).tasks :=
    run_invariant (I := fun pool => Watched pool.shared pool.tasks)
      (fun _ _ h hok => h.step hok) (new_watched cpuId) hspares
  rintro ⟨hid, hblocked, hrunnable, hinbox, hwakers⟩
  rcases (hwatched.attended id hid).blocked hblocked hrunnable with hqueued | hwaker
  · exact hinbox (hwatched.mem_inbox.2 ⟨hid, hqueued⟩)
  · exact hwakers _ hwaker rfl

end

/-- The states of a future: idle, with its runnable scheduled, running and woken meanwhile or not, or done. -/
inductive FutureState where
  | idle
  | scheduled
  | running (notified : Bool)
  | completed

/-- A future is scheduled by the first of its wakers; a wake while it runs is left to the end of the run. -/
instance futures : AsyncTask where
  State := FutureState
  spawned := .idle
  wake
    | .idle => (.scheduled, true)
    | .running _ => (.running true, false)
    | future => (future, false)
  run _ := .running false
  pending
    | .running true => (.scheduled, true)
    | _ => (.idle, false)
  complete _ := .completed

/-- A wake of the task, to its end. -/
def wakeAll (id : TaskId) (task : Nat) : List (Event TaskId PollAct) :=
  [.start id, .step task, .step task, .step task]

/-- The task is spawned, woken and polled, and decides to block. -/
def decideToBlock (id : TaskId) : List (Event TaskId PollAct) :=
  [.environment (.spawn id 1024 (.fromMillis 4) Machine.oneStack)] ++ wakeAll id 0 ++
    [.environment (.drainWakeups 1), .environment (.takeNext ⟨1, 0⟩), .environment (.poll none none),
      .environment (.poll none none), .environment (.poll none none)]

/-- It is woken and the CPU's inbox is drained before it blocks. -/
def drainedBeforeBlocking : List (Event TaskId PollAct) :=
  decideToBlock 1 ++ wakeAll 1 1 ++
    [.environment (.onTick 1 ⟨1, 10⟩), .environment (.poll none (some ⟨1, 20⟩))]

/-- The drain finds the task ready and drops the entry; then the task blocks. -/
theorem drainedBeforeBlocking_loses_wakeup :
    LostWakeup (runOps (Pool.step program) (Pool.idle (new 0)) drainedBeforeBlocking) 1 := by
  decide +kernel

/-- The wake comes in the same window, and the drain after the task has blocked. -/
def drainedAfterBlocking : List (Event TaskId PollAct) :=
  decideToBlock 1 ++ wakeAll 1 1 ++
    [.environment (.poll none (some ⟨1, 20⟩)), .environment (.onTick 1 ⟨1, 30⟩)]

theorem no_lost_wakeup_drainedAfterBlocking :
    ((runOps (Pool.step program) (Pool.idle (new 0)) drainedAfterBlocking).shared.cpu.task 1).isReady
      = true ∧ ¬ LostWakeup (runOps (Pool.step program) (Pool.idle (new 0)) drainedAfterBlocking) 1 :=
  ⟨by decide +kernel, no_lost_wakeup_of_spares (by decide +kernel) 1⟩

end Polled

end Akarin.Sched
