/-
# Akarin.Sched.Process -- the tasks of a process and how the process ends

A process keeps weak references to its tasks under one lock. Tasks enter the set by `spawn_task`, which
registers first and looks for a cancellation afterwards, and leave it when they are reaped or when
`spawn_task` rolls back. The first task that is reaped with `ProcessExited` makes the process
terminating and fixes its exit code; the siblings it has found under the lock are asked to cancel after
the lock is released.

Every path that removes a task decides about the phase by itself, and one of them does not: the roll
back of `spawn_task` can remove the last task of a terminating process.
-/
import Akarin.Lib.OrderedMap
import Akarin.Lib.Tasks
import Akarin.Objects.Capability
import Akarin.Sched.Task

namespace Akarin.Sched

open List Option
open Lib (Pool Program Event runOps Meets run_invariant run_invariant_all runOps_append
  getElem?_erase mem_toList_iff)
open Objects (ObjectError)
open Std (TreeMap)

/-! ## Model -/

abbrev ProcessId := Nat

/-- A reference to a task: which object it is, and the fields that never change. -/
structure TaskArc where
  serial : Nat
  id : TaskId
  processId : ProcessId
  deriving DecidableEq

/-- The life of a process. -/
inductive ProcessPhase where
  | running
  | terminating
  | exited
  deriving DecidableEq

/-- `ProcessReapAction`. -/
inductive ProcessReapAction where
  | detached
  | processExited (code : Nat) (cancel : List TaskId)
  deriving DecidableEq

/-- What a process records about its tasks: `ProcessTasksState`, and the phase, which the calls here write
under the same lock. -/
structure Process where
  tasks : TreeMap TaskId TaskArc
  terminating : Bool
  exitCode : Option Nat
  phase : ProcessPhase

namespace Process

def new : Process := ⟨∅, false, none, .running⟩

variable (process : Process)

def registerTask (task : TaskArc) : Except ObjectError Unit × Process :=
  if process.terminating then (.error .objectDestroyed, process)
  else
    let inserted := { process with tasks := process.tasks.insert task.id task }
    if (process.tasks[task.id]?).isSome then (.error .invalidArgument, inserted) else (.ok (), inserted)

def unregisterTask (id : TaskId) : Except ObjectError Unit × Process :=
  if (process.tasks[id]?).isSome then (.ok (), { process with tasks := process.tasks.erase id })
  else (.error .objectNotFound, process)

/-- `if terminating && tasks.is_empty() { self.mark_exited() }`. -/
def detach : Process :=
  if process.terminating && process.tasks.isEmpty then { process with phase := .exited } else process

/-- `reap_task` up to the release of the lock, with the siblings that are asked to cancel after it;
`upgrade` says of which tasks there still is a strong reference. -/
def reapTask (upgrade : TaskArc → Bool) (id : TaskId) (exit : TaskExit) :
    Except ObjectError (ProcessReapAction × List TaskArc) × Process :=
  if (process.tasks[id]?).isSome then
    let process := { process with tasks := process.tasks.erase id }
    match exit with
    | .processExited code =>
      if process.terminating then (.ok (.detached, []), process.detach)
      else
        (.ok (.processExited code process.tasks.keys, (process.tasks.toList.map (·.2)).filter upgrade),
          { process with
            terminating := true
            exitCode := some code
            phase := if process.tasks.isEmpty then .exited else .terminating })
    | _ => (.ok (.detached, []), process.detach)
  else (.error .objectNotFound, process)

end Process

open Process

/-- A process and the calls on it. -/
structure Termination where
  process : Process
  cancelRequested : TaskArc → Bool
  /-- the last strong reference is gone -/
  dropped : TaskArc → Bool
  /-- the exits of the tasks that have been reaped so far, in order -/
  reaped : List TaskExit

/-- Calls that change the task table. -/
inductive ProcessCall where
  | spawnTask (task : TaskArc)
  | reapTask (id : TaskId) (exit : TaskExit)

/-- Where a call is. -/
inductive ProcessPc where
  /-- `spawn_task`, once the scheduler has admitted the task -/
  | register (task : TaskArc)
  | check (task : TaskArc)
  | unregister (task : TaskArc)
  | published (task : TaskArc)
  | withdrawn (task : TaskArc)
  | reap (id : TaskId) (exit : TaskExit)
  /-- `reap_task` after the lock -/
  | request (siblings : List TaskArc)
  deriving DecidableEq

/-- What else happens to tasks. -/
inductive ProcessAct where
  /-- a cancellation from elsewhere -/
  | requestCancel (task : TaskArc)
  | drop (task : TaskArc)

namespace Termination

def new : Termination := ⟨.new, fun _ => false, fun _ => false, []⟩

section

variable (s : Termination)

def setProcess (process : Process) : Termination := { s with process := process }

def requestCancel (task : TaskArc) : Termination :=
  { s with cancelRequested := Function.update s.cancelRequested task true }

def move : ProcessPc → Termination × ProcessPc
  | .register task =>
    let registered := s.process.registerTask task
    match registered.1 with
    | .ok _ => (s.setProcess registered.2, .check task)
    | .error _ => (s.setProcess registered.2, .withdrawn task)
  | .check task => if s.cancelRequested task then (s, .unregister task) else (s, .published task)
  | .unregister task => (s.setProcess (s.process.unregisterTask task.id).2, .withdrawn task)
  | .reap id exit =>
    let reaped := s.process.reapTask (fun task => !s.dropped task) id exit
    match reaped.1 with
    | .ok (_, siblings) =>
      ({ s.setProcess reaped.2 with reaped := s.reaped ++ [exit] }, .request siblings)
    | .error _ => (s, .request [])
  | .request (task :: rest) => (s.requestCancel task, .request rest)
  | .request [] => (s, .request [])
  | .published task => (s, .published task)
  | .withdrawn task => (s, .withdrawn task)

def act : ProcessAct → Termination
  | .requestCancel task => s.requestCancel task
  | .drop task => { s with dropped := Function.update s.dropped task true }

end

def program : Program Termination ProcessPc ProcessCall ProcessAct where
  enter _
    | .spawnTask task => some (.register task)
    | .reapTask id exit => some (.reap id exit)
  move := move
  act := act

end Termination

/-- The code of a `ProcessExited`. -/
def TaskExit.processCode : TaskExit → Option Nat
  | .processExited code => some code
  | _ => none

/-! ## What the operations do to the process -/

namespace Process

variable {process process' : Process} {reaped : List TaskExit}

/-- Exit code and phase are what the tasks that have been reaped and the task set make them. -/
structure Settled (reaped : List TaskExit) (process : Process) : Prop where
  exit_code : process.exitCode = reaped.findSome? TaskExit.processCode
  terminating : process.terminating = process.exitCode.isSome
  phase : process.phase = .exited ↔ process.terminating = true ∧ process.tasks.isEmpty = true

lemma new_settled : Settled [] new := ⟨rfl, rfl, by simp [new]⟩

/-- A change of the task set of a process that is not terminating. -/
lemma Settled.tasks (h : Settled reaped process) (halive : process.terminating = false)
    (tasks : TreeMap TaskId TaskArc) : Settled reaped { process with tasks := tasks } := by
  refine ⟨h.exit_code, h.terminating, ?_⟩
  have hphase := h.phase
  simp only [halive, Bool.false_eq_true, false_and, iff_false] at hphase ⊢
  exact hphase

lemma Settled.registerTask (h : Settled reaped process) (task : TaskArc) :
    Settled reaped (process.registerTask task).2 := by
  unfold Process.registerTask
  split
  · exact h
  · rename_i halive
    split <;> exact h.tasks (by simpa using halive) _

/-- The task is the last one of a terminating process. -/
def LastTask (process : Process) (id : TaskId) : Prop :=
  process.terminating = true ∧ (process.tasks[id]?).isSome = true ∧ (process.tasks.erase id).isEmpty = true
deriving Decidable

variable {id : TaskId} {upgrade : TaskArc → Bool} {exit : TaskExit}

lemma isEmpty_of_erase {tasks : TreeMap TaskId TaskArc}
    (hid : (tasks[id]?).isSome = true) : tasks.isEmpty = false := by
  by_contra hempty
  rw [Bool.not_eq_false, TreeMap.isEmpty_iff_forall_not_mem] at hempty
  exact hempty id (TreeMap.mem_iff_isSome_getElem?.2 hid)

lemma Settled.unregisterTask (h : Settled reaped process)
    (hlast : ¬ process.LastTask id) : Settled reaped (process.unregisterTask id).2 := by
  unfold Process.unregisterTask
  split
  · rename_i hid
    refine ⟨h.exit_code, h.terminating, h.phase.trans ?_⟩
    -- neither before nor after is the set of a terminating process empty
    simp only [isEmpty_of_erase hid, Bool.false_eq_true, and_false, false_iff, not_and]
    exact fun hterminating hempty => hlast ⟨hterminating, hid, hempty⟩
  · exact h

lemma Settled.detach (hexit : process.exitCode = reaped.findSome? TaskExit.processCode)
    (hterminating : process.terminating = process.exitCode.isSome) (hphase : process.phase ≠ .exited) :
    Settled reaped process.detach := by
  unfold Process.detach
  split
  · rename_i hempty
    exact ⟨hexit, hterminating, by simpa using hempty⟩
  · rename_i hempty
    exact ⟨hexit, hterminating, by simpa [hphase] using hempty⟩

lemma Settled.reapTask (h : Settled reaped process) {result : ProcessReapAction × List TaskArc}
    (hresult : (process.reapTask upgrade id exit).1 = .ok result) :
    Settled (reaped ++ [exit]) (process.reapTask upgrade id exit).2 := by
  unfold Process.reapTask at hresult ⊢
  split at hresult
  · rename_i hid
    rw [if_pos hid]
    have hrunning : process.phase ≠ .exited := by
      rw [ne_eq, h.phase, isEmpty_of_erase hid]
      simp
    have hcode : ∀ {code}, process.exitCode = some code →
        process.exitCode = (reaped ++ [exit]).findSome? TaskExit.processCode := fun hcode => by
      rw [findSome?_append, ← h.exit_code, hcode, some_or]
    have hother : exit.processCode = none →
        process.exitCode = (reaped ++ [exit]).findSome? TaskExit.processCode := fun hnone => by
      simp [findSome?_append, ← h.exit_code, hnone]
    cases exit with
    | processExited code =>
      dsimp only
      split
      · rename_i hterminating
        obtain ⟨first, hfirst⟩ := isSome_iff_exists.1 (h.terminating.symm.trans hterminating)
        exact .detach (hcode hfirst) h.terminating hrunning
      · rename_i halive
        have hnone : process.exitCode = none := by
          simpa [halive] using h.terminating.symm
        refine ⟨?_, rfl, ?_⟩
        · simp [findSome?_append, ← h.exit_code, hnone, TaskExit.processCode]
        · dsimp only
          split <;> simp_all
    | _ => exact .detach (hother rfl) h.terminating hrunning
  · exact absurd hresult (by simp)

/-- Nothing a terminating process does is undone: the exit code stays and no task is added. -/
def Fixed (process process' : Process) : Prop :=
  process.terminating = true → process'.terminating = true ∧ process'.exitCode = process.exitCode ∧
    ∀ id ∈ process'.tasks, id ∈ process.tasks

lemma Fixed.refl (process : Process) : Fixed process process :=
  fun hterminating => ⟨hterminating, rfl, fun _ hid => hid⟩

lemma Fixed.trans {process'' : Process} (h : Fixed process process') (h' : Fixed process' process'') :
    Fixed process process'' := fun hterminating =>
  have ⟨hbetween, hcode, htasks⟩ := h hterminating
  have ⟨hafter, hcode', htasks'⟩ := h' hbetween
  ⟨hafter, hcode'.trans hcode, fun id hid => htasks id (htasks' id hid)⟩

section

variable (process : Process)

lemma fixed_erase (id : TaskId) :
    Fixed process { process with tasks := process.tasks.erase id } := fun hterminating =>
  ⟨hterminating, rfl, fun _ hid => TreeMap.mem_of_mem_erase hid⟩

lemma fixed_registerTask (task : TaskArc) : Fixed process (process.registerTask task).2 := by
  intro hterminating
  rw [registerTask, if_pos hterminating]
  exact Fixed.refl process hterminating

lemma fixed_unregisterTask (id : TaskId) : Fixed process (process.unregisterTask id).2 := by
  unfold unregisterTask
  split
  · exact fixed_erase process id
  · exact .refl process

lemma fixed_detach : Fixed process process.detach := by
  unfold detach
  split
  · exact fun hterminating => ⟨hterminating, rfl, fun _ hid => hid⟩
  · exact .refl process

lemma fixed_reapTask (upgrade : TaskArc → Bool) (id : TaskId) (exit : TaskExit) :
    Fixed process (process.reapTask upgrade id exit).2 := by
  fun_cases reapTask with
  | case1 | case3 => exact (fixed_erase process id).trans (fixed_detach _)
  | case2 => exact fun hterminating => absurd hterminating ‹_›
  | case4 => exact .refl process

@[simp] lemma tasks_detach : process.detach.tasks = process.tasks := by
  unfold detach
  split <;> rfl

lemma getElem?_unregisterTask (id k : TaskId) :
    (process.unregisterTask id).2.tasks[k]? = if id = k then none else process.tasks[k]? := by
  unfold unregisterTask
  split
  · exact getElem?_erase
  · rename_i habsent
    split
    · rename_i heq
      subst heq
      simpa using habsent
    · rfl

lemma getElem?_reapTask (upgrade : TaskArc → Bool) (id k : TaskId)
    (exit : TaskExit) : (process.reapTask upgrade id exit).2.tasks[k]? =
      if id = k then none else process.tasks[k]? := by
  have herase : (process.tasks.erase id)[k]? = if id = k then none else process.tasks[k]? := getElem?_erase
  fun_cases reapTask with
  | case1 | case3 => simpa using herase
  | case2 => exact herase
  | case4 =>
    split
    · rename_i habsent heq
      subst heq
      simpa using habsent
    · rfl

end

/-- The ids and the siblings an exit of the process returns are those of the tasks left in the set. -/
lemma tasks_of_reapTask {code : Nat} {cancel : List TaskId} {siblings : List TaskArc}
    (h : (process.reapTask upgrade id exit).1 = .ok (.processExited code cancel, siblings)) :
    (∀ k ∈ cancel, ∃ task, (process.reapTask upgrade id exit).2.tasks[k]? = some task) ∧
      ∀ task ∈ siblings, upgrade task = true ∧
        ∃ k : TaskId, (process.reapTask upgrade id exit).2.tasks[k]? = some task := by
  revert h
  fun_cases reapTask with
  | case1 | case3 | case4 => simp
  | case2 =>
    intro h
    obtain ⟨⟨-, rfl⟩, rfl⟩ := by simpa using h
    refine ⟨fun k hk => ?_, fun task htask => ?_⟩
    · exact isSome_iff_exists.1 (TreeMap.mem_iff_isSome_getElem?.1 (TreeMap.mem_keys.1 hk))
    · obtain ⟨hmem, hupgrade⟩ := mem_filter.1 htask
      obtain ⟨⟨k, _⟩, hentry, rfl⟩ := mem_map.1 hmem
      exact ⟨hupgrade, k, mem_toList_iff.1 hentry⟩

@[simp] lemma terminating_detach (process : Process) :
    process.detach.terminating = process.terminating := by
  unfold detach
  split <;> rfl

/-- The process becomes terminating only by a reap, which finds every task of the set that is left. -/
lemma siblings_of_reapTask (halive : process.terminating = false)
    (hterminating : (process.reapTask upgrade id exit).2.terminating = true) :
    ∃ action siblings, (process.reapTask upgrade id exit).1 = .ok (action, siblings) ∧
      ∀ task, (process.reapTask upgrade id exit).2.tasks[task.id]? = some task → upgrade task = true →
        task ∈ siblings := by
  revert hterminating
  fun_cases reapTask with
  | case1 | case3 =>
    rw [terminating_detach]
    exact fun hterminating => nomatch halive.symm.trans hterminating
  | case4 => simp [halive]
  | case2 =>
    refine fun _ => ⟨_, _, rfl, fun task htask hupgrade => mem_filter.2 ⟨?_, hupgrade⟩⟩
    exact mem_map.2 ⟨(task.id, task), mem_toList_iff.2 htask, rfl⟩

end Process

/-! ## Runs -/

/-- The call is about to ask the task to cancel. -/
def ProcessPc.Asks (task : TaskArc) : ProcessPc → Prop
  | .request siblings => task ∈ siblings
  | _ => False

namespace Termination

variable {pool : Pool Termination ProcessPc} {task : TaskArc}

/-- Cancellation of the task is requested, or the `reap_task` that has found it has not returned and
is about to request it. -/
def Asked (pool : Pool Termination ProcessPc) (task : TaskArc) : Prop :=
  pool.shared.cancelRequested task = true ∨ ∃ pc ∈ pool.tasks, pc.Asks task

lemma requestCancel_mono (s : Termination) (other : TaskArc) (h : s.cancelRequested task = true) :
    (s.requestCancel other).cancelRequested task = true := by
  by_cases hne : task = other
  · subst hne
    simp [requestCancel]
  · simpa [requestCancel, Function.update_of_ne hne] using h

lemma move_cancelRequested (s : Termination) (pc : ProcessPc) (h : s.cancelRequested task = true) :
    (s.move pc).1.cancelRequested task = true := by
  fun_cases move with
  | case8 other rest => exact s.requestCancel_mono other h
  | _ => exact h

/-- The call that moves asks the task itself, or still is about to. -/
lemma move_asks (s : Termination) {pc : ProcessPc} (h : pc.Asks task) :
    (s.move pc).1.cancelRequested task = true ∨ (s.move pc).2.Asks task := by
  cases pc with
  | request siblings =>
    cases siblings with
    | nil => exact absurd h not_mem_nil
    | cons other rest =>
      rcases mem_cons.1 h with rfl | hrest
      · exact .inl (by simp [move, requestCancel])
      · exact .inr hrest
  | _ => exact h.elim

lemma Asked.step (h : Asked pool task) (event : Event ProcessCall ProcessAct) :
    Asked (pool.step program event) task := by
  refine Pool.step_keeps (I := fun pool => Asked pool task) h ?_ ?_ ?_
  · intro _ _ _ _
    exact h.imp_right fun ⟨pc, hpc, hasks⟩ => ⟨pc, mem_append_left _ hpc, hasks⟩
  · intro i pc _ hpc
    rcases h with hrequested | hpending
    · exact .inl (move_cancelRequested _ pc hrequested)
    · by_cases hown : pc.Asks task
      · exact (move_asks pool.shared hown).imp_right fun hasks => ⟨_, Lib.mem_set_self hpc, hasks⟩
      · exact .inr (Lib.exists_set hpc (fun _ hasks => hasks) (fun hasks => absurd hasks hown) hpending)
  · intro change _
    refine h.imp_left fun hrequested => ?_
    cases change with
    | requestCancel other => exact pool.shared.requestCancel_mono other hrequested
    | drop other => exact hrequested

variable {event : Event ProcessCall ProcessAct}

/-- At the moment the process becomes terminating, every task of its set is on the list of the call
that makes it so. -/
lemma asked_of_terminating (halive : pool.shared.process.terminating = false)
    (hterminating : (pool.step program event).shared.process.terminating = true)
    (htask : (pool.step program event).shared.process.tasks[task.id]? = some task)
    (hdropped : (pool.step program event).shared.dropped task = false) :
    Asked (pool.step program event) task := by
  have hstill : ∀ {process : Process}, process.terminating = pool.shared.process.terminating →
      ¬ process.terminating = true := fun heq => by simp [heq, halive]
  revert hterminating htask hdropped
  refine Pool.step_keeps (I := fun pool' => pool'.shared.process.terminating = true →
    pool'.shared.process.tasks[task.id]? = some task → pool'.shared.dropped task = false →
    Asked pool' task) ?_ ?_ ?_ ?_
  · intro hterminating
    exact absurd hterminating (hstill rfl)
  · intro _ _ _ _ hterminating
    exact absurd hterminating (hstill rfl)
  · intro i pc _ hpc
    simp only [program]
    fun_cases move with
    | case6 =>
      rename_i hresult
      intro hterminating htask hdropped
      obtain ⟨_, found, hfound, hmem⟩ := siblings_of_reapTask halive hterminating
      rw [hresult] at hfound
      obtain ⟨-, rfl⟩ := Prod.mk.inj (Except.ok.inj hfound)
      refine .inr ⟨_, Lib.mem_set_self hpc, hmem task htask ?_⟩
      simpa [setProcess] using hdropped
    | case1 task | case2 task =>
      refine fun hterminating => absurd hterminating (hstill ?_)
      show (pool.shared.process.registerTask task).2.terminating = _
      rw [registerTask, if_neg (by simp [halive])]
      split <;> rfl
    | case5 =>
      refine fun hterminating => absurd hterminating (hstill ?_)
      simp only [setProcess, unregisterTask]
      split <;> rfl
    | _ => exact fun hterminating => absurd hterminating (hstill rfl)
  · intro change _ hterminating
    refine absurd hterminating (hstill ?_)
    cases change <;> rfl

/-- What holds of a run from one state, `earlier`, to a later one. -/
structure TerminationLaw (earlier later : Termination) : Prop where
  exit_code : later.process.terminating = true → ∃ code, later.process.exitCode = some code ∧
    later.reaped.findSome? TaskExit.processCode = some code
  exit_code_fixed : earlier.process.terminating = true → later.process.exitCode = earlier.process.exitCode
  no_new_task : earlier.process.terminating = true → ∀ id ∈ later.process.tasks, id ∈ earlier.process.tasks
  exited_iff : later.process.phase = .exited ↔
    later.process.terminating = true ∧ later.process.tasks.isEmpty = true

/-- A roll back of `spawn_task` does not remove the last task of a terminating process. -/
def KeepsLast (s : Termination) : ProcessPc → Prop
  | .unregister task => ¬ s.process.LastTask task.id
  | _ => True

instance (s : Termination) : DecidablePred (KeepsLast s) := fun x => by
  unfold KeepsLast; split <;> infer_instance

lemma settled_step (h : pool.shared.process.Settled pool.shared.reaped)
    (hkeeps : Pool.OnSteps KeepsLast pool event) :
    (pool.step program event).shared.process.Settled (pool.step program event).shared.reaped := by
  refine Pool.step_keeps (I := fun pool : Pool Termination ProcessPc =>
    pool.shared.process.Settled pool.shared.reaped) h ?_ ?_ ?_
  · intro _ _ _ _
    exact h
  · rintro i pc rfl hpc
    have hlast := hkeeps pc hpc
    simp only [program]
    fun_cases move with
    | case1 task | case2 task => exact h.registerTask task
    | case5 => exact h.unregisterTask hlast
    | case6 => exact h.reapTask ‹_›
    | _ => exact h
  · intro change _
    cases change <;> exact h

lemma fixed_step {process : Process} (h : process.Fixed pool.shared.process)
    (event : Event ProcessCall ProcessAct) : process.Fixed (pool.step program event).shared.process := by
  refine Pool.step_keeps (I := fun pool : Pool Termination ProcessPc =>
    process.Fixed pool.shared.process) h ?_ ?_ ?_
  · intro _ _ _ _
    exact h
  · intro i pc _ hpc
    refine h.trans ?_
    simp only [program]
    fun_cases move with
    | case1 task | case2 task => exact fixed_registerTask _ task
    | case5 task => exact fixed_unregisterTask _ task.id
    | case6 id exit => exact fixed_reapTask _ _ id exit
    | _ => exact .refl _
  · intro change _
    cases change <;> exact h

def first : TaskArc := ⟨0, 1, 7⟩

def second : TaskArc := ⟨1, 2, 7⟩

/-- The first task exits the process while the second is being spawned. -/
def exitDuringSpawn : List (Event ProcessCall ProcessAct) :=
  [.start (.spawnTask first), .step 0, .step 0, .start (.spawnTask second), .step 1,
    .start (.reapTask 1 (.processExited 3)), .step 2, .step 2, .step 1]

/-- The roll back removes the last task, and the process stays terminating for ever. -/
theorem rollback_leaves_process_terminating :
    let pool := runOps (Pool.step program) (Pool.idle new) (exitDuringSpawn ++ [.step 1])
    pool.tasks = [.published first, .withdrawn second, .request []] ∧
      pool.shared.process.terminating = true ∧ pool.shared.process.tasks.isEmpty = true ∧
      pool.shared.process.phase = .terminating := by
  decide +kernel

/-- The protocol, from any state of a run on, if no roll back removes the last task of a terminating
process. The tasks of the set at the moment it becomes terminating are cancelled by the call that makes
it so, once that call has returned. -/
theorem termination_protocol_of_keepsLast {events more : List (Event ProcessCall ProcessAct)}
    (hkeeps : Meets (Pool.step program) (Pool.OnSteps KeepsLast) (Pool.idle new) (events ++ more)) :
    TerminationLaw (runOps (Pool.step program) (Pool.idle new) events).shared
      (runOps (Pool.step program) (Pool.idle new) (events ++ more)).shared ∧
    ∀ event rest, more = event :: rest → let pool := runOps (Pool.step program) (Pool.idle new) events
      let moment := pool.step program event
      pool.shared.process.terminating = false → moment.shared.process.terminating = true →
        ∀ task, moment.shared.process.tasks[task.id]? = some task → moment.shared.dropped task = false →
          Asked (runOps (Pool.step program) (Pool.idle new) (events ++ more)) task := by
  have hsettled : (runOps (Pool.step program) (Pool.idle new) (events ++ more)).shared.process.Settled
      (runOps (Pool.step program) (Pool.idle new) (events ++ more)).shared.reaped :=
    run_invariant (I := fun pool : Pool Termination ProcessPc => pool.shared.process.Settled pool.shared.reaped)
      (fun _ _ h hok => settled_step h hok) new_settled hkeeps
  rw [runOps_append] at hsettled ⊢
  generalize runOps (Pool.step program) (Pool.idle new) events = pool at hsettled ⊢
  have hfixed : pool.shared.process.Fixed (runOps (Pool.step program) pool more).shared.process :=
    run_invariant_all (I := fun pool' : Pool Termination ProcessPc =>
        pool.shared.process.Fixed pool'.shared.process)
      (fun _ event h => fixed_step h event) (.refl _) more
  refine ⟨⟨fun hterminating => ?_, fun h => (hfixed h).2.1, fun h => (hfixed h).2.2, hsettled.phase⟩, ?_⟩
  · obtain ⟨code, hcode⟩ := isSome_iff_exists.1 (hsettled.terminating.symm.trans hterminating)
    exact ⟨code, hcode, hsettled.exit_code.symm.trans hcode⟩
  · rintro event rest rfl _ _ halive hterminating task htask hdropped
    exact run_invariant_all (I := fun pool' => Asked pool' task) (fun _ event h => h.step event)
      (asked_of_terminating halive hterminating htask hdropped) rest

/-- The spawn is through before the exit; the second task is reaped and the process has exited. -/
def exitAfterSpawn : List (Event ProcessCall ProcessAct) :=
  [.start (.spawnTask first), .step 0, .step 0, .start (.spawnTask second), .step 1, .step 1,
    .start (.reapTask 1 (.processExited 3))]

def exitRest : List (Event ProcessCall ProcessAct) :=
  [.step 2, .step 2, .start (.reapTask 2 .cancelled), .step 3]

theorem termination_protocol_exitAfterSpawn :
    (runOps (Pool.step program) (Pool.idle new) (exitAfterSpawn ++ exitRest)).shared.process.phase
      = .exited ∧ TerminationLaw (runOps (Pool.step program) (Pool.idle new) exitAfterSpawn).shared
      (runOps (Pool.step program) (Pool.idle new) (exitAfterSpawn ++ exitRest)).shared ∧
    Asked (runOps (Pool.step program) (Pool.idle new) (exitAfterSpawn ++ exitRest)) second :=
  have hkeeps : Meets (Pool.step program) (Pool.OnSteps KeepsLast) (Pool.idle new) (exitAfterSpawn ++ exitRest) := by
    decide +kernel
  have hlaw := termination_protocol_of_keepsLast hkeeps
  ⟨by decide +kernel, hlaw.1, hlaw.2 _ _ rfl (by decide +kernel) (by decide +kernel) second
    (by decide +kernel) (by decide +kernel)⟩

end Termination

end Akarin.Sched
