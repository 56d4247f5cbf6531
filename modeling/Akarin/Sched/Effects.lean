/-
# Akarin.Sched.Effects -- what the operations on a run queue leave alone

Dispatch, accounting and requeueing change the run queue and, of the tasks, the scheduling data, the
placement and the state, and the state only to a ready one. They touch neither the table nor the inbox.
`Moves R` says so, where `R` is any relation between a task before and after that allows these changes.
-/
import Akarin.Sched.Operations

namespace Akarin.Sched

/-- What an operation may do to a task it does not block. -/
structure Tolerates (R : Task → Task → Prop) : Prop where
  refl : ∀ task, R task task
  trans : ∀ {task task' task''}, R task task' → R task' task'' → R task task''
  ready : ∀ (task : Task) (state : TaskState), state.sched.isReady = true →
    R task { task with state := state }
  sched : ∀ (task : Task) (sched : TaskSchedMeta), R task { task with sched := sched }
  placement : ∀ (task : Task) (placement : TaskPlacement), R task { task with placement := placement }
  readyState : ∀ (task : Task) (ready : TaskReadyState),
    R task { task with execution := { task.execution with readyState := ready } }

namespace Cpu

/-- Table and inbox are as before, and every task has changed along `R`. -/
structure Moves (R : Task → Task → Prop) (cpu cpu' : Cpu) : Prop where
  inbox : cpu'.scheduler.wakeInbox = cpu.scheduler.wakeInbox
  tasks : cpu'.scheduler.tasks = cpu.scheduler.tasks
  task : ∀ j, R (cpu.task j) (cpu'.task j)

variable {R : Task → Task → Prop} {cpu cpu' cpu'' : Cpu}

namespace Moves

lemma trans (hR : Tolerates R) (h : Moves R cpu cpu') (h' : Moves R cpu' cpu'') : Moves R cpu cpu'' :=
  ⟨h'.inbox.trans h.inbox, h'.tasks.trans h.tasks, fun j => hR.trans (h.task j) (h'.task j)⟩

variable (hR : Tolerates R)
include hR

lemma refl (cpu : Cpu) : Moves R cpu cpu := ⟨rfl, rfl, fun _ => hR.refl _⟩

/-- Only the trees, the weight or the virtual time of the scheduler change. -/
lemma queue (cpu : Cpu) {scheduler : Scheduler} (hinbox : scheduler.wakeInbox = cpu.scheduler.wakeInbox)
    (htasks : scheduler.tasks = cpu.scheduler.tasks) : Moves R cpu { cpu with scheduler := scheduler } :=
  ⟨hinbox, htasks, fun _ => hR.refl _⟩

lemma modifyTask (cpu : Cpu) (id : TaskId) {f : Task → Task} (hf : R (cpu.task id) (f (cpu.task id))) :
    Moves R cpu (cpu.modifyTask id f) := by
  refine ⟨rfl, rfl, fun j => ?_⟩
  by_cases hne : j = id
  · subst hne
    rw [modifyTask_self]
    exact hf
  · rw [modifyTask_other cpu f hne]
    exact hR.refl _

lemma setSchedMeta (cpu : Cpu) (id : TaskId) (sched : TaskSchedMeta) :
    Moves R cpu (cpu.setSchedMeta id sched) :=
  modifyTask hR cpu id (f := ({ · with sched := sched })) (hR.sched _ _)

lemma modifyPlacement (cpu : Cpu) (id : TaskId) (f : TaskPlacement → TaskPlacement) :
    Moves R cpu (cpu.modifyPlacement id f) :=
  modifyTask hR cpu id (f := fun task => { task with placement := f task.placement }) (hR.placement _ _)

lemma markReady (cpu : Cpu) (id : TaskId) (ready : TaskReadyState) :
    Moves R cpu (cpu.markReady id ready) :=
  modifyTask hR cpu id
    (f := fun task => { task with execution := { task.execution with readyState := ready } })
    (hR.readyState _ _)

lemma transitionTaskState (cpu : Cpu) (id : TaskId) {state : TaskState}
    (hstate : R (cpu.task id) { cpu.task id with state := state }) :
    Moves R cpu (cpu.transitionTaskState id state) := by
  have hset : ∀ moved : Cpu, moved.task = cpu.task → Moves R cpu moved →
      Moves R cpu (moved.setState id state) := fun moved htask h =>
    h.trans hR (modifyTask hR moved id (f := ({ · with state := state })) (by rw [htask]; exact hstate))
  unfold Cpu.transitionTaskState
  split
  · exact hset _ rfl (queue hR cpu rfl rfl)
  · rw [adjustVtime_eq]
    exact hset _ rfl (queue hR cpu rfl rfl)
  · exact hset _ rfl (refl hR cpu)

lemma linkRunnable (cpu : Cpu) (id : TaskId) : Moves R cpu (cpu.linkRunnable id) := by
  unfold Cpu.linkRunnable
  dsimp only
  split <;> exact queue hR cpu rfl rfl

lemma insertRunnablePointer (cpu : Cpu) (id : TaskId) (ready : TaskReadyState) :
    Moves R cpu (cpu.insertRunnablePointer id ready) := by
  unfold Cpu.insertRunnablePointer
  split
  · refine (setSchedMeta hR cpu id _).trans hR (.trans hR (transitionTaskState hR _ id ?_)
      (.trans hR (markReady hR _ id .async) (linkRunnable hR _ id)))
    exact hR.ready _ _ ready.schedState_isReady
  · exact refl hR cpu

lemma activateWakeupTask (cpu : Cpu) (id : TaskId) : Moves R cpu (cpu.activateWakeupTask id).2 := by
  unfold Cpu.activateWakeupTask
  split
  · split
    · exact refl hR cpu
    · have hmarked := markReady hR cpu id .async
      have htrans := hmarked.trans hR (transitionTaskState hR _ id
        (hR.ready _ ⟨(cpu.task id).execution.readyState.schedState, (cpu.task id).state.terminal⟩
          (TaskReadyState.schedState_isReady _)))
      dsimp only
      split
      · exact htrans.trans hR (.trans hR (modifyPlacement hR _ id _) (insertRunnablePointer hR _ id _))
      · exact htrans.trans hR (insertRunnablePointer hR _ id _)
  · exact refl hR cpu

lemma refreshEligible (cpu : Cpu) : Moves R cpu cpu.refreshEligible := by
  unfold Cpu.refreshEligible
  dsimp only
  split <;> exact queue hR cpu rfl rfl

lemma takeNext (cpu : Cpu) (now : Instant) : Moves R cpu (cpu.takeNext now).2 := by
  have hpicked : Moves R cpu cpu.pickNext.2 := by
    refine (refreshEligible hR cpu).trans hR ?_
    unfold pickNext
    dsimp only
    split
    · exact refl hR _
    · split <;> exact queue hR _ rfl rfl
  unfold Cpu.takeNext
  dsimp only
  split
  · exact hpicked
  · exact hpicked.trans hR (setSchedMeta hR _ _ _)

lemma accountSince (cpu : Cpu) (id : TaskId) (now : Instant) :
    Moves R cpu (cpu.accountSince id now).2 := by
  have hraised : ∀ vtime, Moves R cpu { cpu with scheduler := { cpu.scheduler with vtime := vtime } } :=
    fun _ => queue hR cpu rfl rfl
  have hcharge : ∀ j runtime, Moves R cpu (cpu.charge j runtime now) := fun j runtime =>
    (hraised _).trans hR (setSchedMeta hR _ j _)
  unfold Cpu.accountSince accountCurrentRuntime
  split
  · exact refl hR cpu
  · split
    · split
      · exact refl hR cpu
      · exact hcharge _ _
    · exact refl hR cpu

lemma atBoundary (cpu : Cpu) (id : TaskId) (now : Option Instant) :
    Moves R cpu (cpu.atBoundary id now) := by
  unfold Cpu.atBoundary accountTrapRuntime recordStop
  cases now with
  | none => exact refl hR cpu
  | some now => exact (accountSince hR cpu id now).trans hR (modifyPlacement hR _ id _)

lemma takeCurrent (cpu : Cpu) : Moves R cpu cpu.takeCurrent.2 := queue hR cpu rfl rfl

lemma requeueCurrentWith (cpu : Cpu) (ready : TaskReadyState) :
    Moves R cpu (cpu.requeueCurrentWith ready).2 := by
  refine (takeCurrent hR cpu).trans hR ?_
  unfold Cpu.requeueCurrentWith
  split
  · rename_i htaken
    rw [htaken]
    exact refl hR _
  · rename_i id _ htaken
    rw [htaken]
    dsimp only
    split
    · exact refl hR _
    · refine (setSchedMeta hR _ id _).trans hR (.trans hR (transitionTaskState hR _ id ?_)
        (insertRunnablePointer hR _ id ready))
      exact hR.ready _ _ ready.schedState_isReady

/-- The current task leaves; it blocks, which `R` has to allow. -/
lemma leaveCurrent (cpu : Cpu) {terminal : Option TaskExit → Option TaskExit}
    (hblock : ∀ task : Task, R task { task with state := ⟨.blocked, terminal task.state.terminal⟩ }) :
    Moves R cpu (cpu.leaveCurrent terminal).2 := by
  refine (takeCurrent hR cpu).trans hR ?_
  unfold Cpu.leaveCurrent
  split
  · rename_i htaken
    rw [htaken]
    exact refl hR _
  · rename_i id _ htaken
    rw [htaken]
    refine (setSchedMeta hR _ id _).trans hR (transitionTaskState hR _ id ?_)
    simpa [clearExec] using hblock _

lemma shouldPreemptCurrent (cpu : Cpu) : Moves R cpu cpu.shouldPreemptCurrent.2 := by
  unfold Cpu.shouldPreemptCurrent
  split
  · exact refl hR cpu
  · dsimp only
    split <;> exact queue hR cpu rfl rfl

lemma savePreemptedCurrent (cpu : Cpu) (rsp : Nat) (now : Option Instant) :
    Moves R cpu (cpu.savePreemptedCurrent rsp now).2 := by
  unfold Cpu.savePreemptedCurrent
  split
  · exact refl hR cpu
  · rename_i id _
    exact (atBoundary hR cpu id now).trans hR
      (.trans hR (markReady hR _ id .preempt) (requeueCurrentWith hR _ .preempt))

/-- The part of `on_tick` after the drain. -/
lemma onTick_drained (fuel : Nat) (cpu : Cpu) (now : Instant) :
    Moves R (cpu.drainWakeups fuel).2 (cpu.onTick fuel now).2 := by
  have haccounted : Moves R (cpu.drainWakeups fuel).2 ((cpu.drainWakeups fuel).2.accountTick now).2 := by
    fun_cases accountTick with
    | case1 => exact refl hR _
    | case2 => exact accountSince hR _ _ now
  fun_cases Cpu.onTick fuel cpu now with
  | case2 => exact haccounted.trans hR (shouldPreemptCurrent hR _)
  | _ => exact haccounted

end Moves

end Cpu

end Akarin.Sched
