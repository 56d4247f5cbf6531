/-
# Akarin.Sched.Creation -- the first task of a process

A process that is being created keeps its owner handle until the first task is spawned or the creation is
aborted. `spawn_initial_task` takes the handle first and checks its arguments then; only a failure of the
scheduler puts it back. Where a check fails the handle is dropped, and the process can neither be started
nor aborted any more (`failed_spawn_ends_creation`).

What the scheduler does to the process is part of the model: it registers the task, and takes it out again
where the task has been cancelled. The mappings of the process, its kernel stacks and the CPUs are parameters,
handles are of any type.
-/
import Akarin.Sched.Loader
import Akarin.Sched.Process

namespace Akarin.Sched

open Memory Objects

/-! ## Model -/

/-- The errors of `spawn_initial_task`. -/
inductive ProcessSpawnError where
  | invalidState
  | invalidInstructionPointer
  | invalidStackPointer
  | invalidTlsBase
  | outOfMemory
  | internal
  deriving DecidableEq

/-- `SpawnError`, with the `SpawnTaskError` in it; the scheduler's own error is not looked at. -/
inductive SpawnError where
  | object (e : ObjectError)
  | taskObject (e : ObjectError)
  | taskScheduler
  | outOfMemory
  deriving DecidableEq

/-- What `spawn_initial_task` makes of an error of the scheduler. -/
def SpawnError.processError : SpawnError → ProcessSpawnError
  | .object _ | .taskObject _ => .invalidState
  | .taskScheduler => .internal
  | .outOfMemory => .outOfMemory

/-- The registers of the first task. -/
structure InitialContext where
  instructionPointer : Nat
  stackPointer : Nat
  tlsBase : Nat

section

variable (mappingAt : Nat → Option VmFlags)

/-- The address is in the segment, and mapped with the flags. -/
def mappedWith (segment : VmLayoutSegment) (flags : VmFlags) (addr : Nat) : Bool :=
  VmLayoutSegment.classify addr = some segment && (mappingAt addr).any (·.contains flags)

/-- `validate_initial_instruction_pointer`, `validate_initial_stack_pointer` and
`validate_initial_tls_base`, one after the other. -/
def validateInitial (context : InitialContext) : Except ProcessSpawnError Unit :=
  if context.instructionPointer = 0 ∨
      !mappedWith mappingAt .userImage (.user ||| .execute) context.instructionPointer then
    .error .invalidInstructionPointer
  else if context.stackPointer = 0 ∨ context.stackPointer % 16 ≠ 0 ∨
      !mappedWith mappingAt .userStack (.user ||| .write) (context.stackPointer - 1) then
    .error .invalidStackPointer
  else if context.tlsBase = 0 ∨ (VmLayoutSegment.classify context.tlsBase).any (·.isUser) then .ok ()
  else .error .invalidTlsBase

end

/-- What the kernel around a process answers while a user task is spawned: `allocate_kernel_stack`, the new
task, `admit_inactive_task`, and whether the task is asked to cancel by the time it is registered. -/
structure SpawnAnswers where
  kernelStack : Except ObjectError Unit
  task : TaskArc
  admitted : Bool
  cancelRequested : Bool

namespace Process

/-- `spawn_user_task_ref` with the `spawn_task` in it, as far as the process is concerned. -/
def spawnUserTaskRef (process : Process) (answers : SpawnAnswers) : Except SpawnError TaskId × Process :=
  match answers.kernelStack, answers.admitted with
  | .error e, _ => (.error (.object e), process)
  | .ok (), false => (.error .taskScheduler, process)
  | .ok (), true =>
    let registered := process.registerTask answers.task
    match registered.1 with
    | .error e => (.error (.taskObject e), registered.2)
    | .ok () =>
      if answers.cancelRequested then
        (.error (.taskObject .objectDestroyed), (registered.2.unregisterTask answers.task.id).2)
      else (.ok answers.task.id, registered.2)

/-- The two have the same tasks and are in the same phase. -/
structure Same (process process' : Process) : Prop where
  tasks : ∀ id : TaskId, process'.tasks[id]? = process.tasks[id]?
  terminating : process'.terminating = process.terminating
  exit_code : process'.exitCode = process.exitCode
  phase : process'.phase = process.phase

variable {process process' : Process} {answers : SpawnAnswers}

lemma Same.refl (process : Process) : process.Same process := ⟨fun _ => rfl, rfl, rfl, rfl⟩

/-- A spawn that fails takes back what it has registered. -/
lemma same_of_spawnUserTaskRef (hfresh : process.tasks[answers.task.id]? = none) {e : SpawnError}
    (he : (process.spawnUserTaskRef answers).1 = .error e) :
    process.Same (process.spawnUserTaskRef answers).2 := by
  unfold spawnUserTaskRef at he ⊢
  split at he
  · exact .refl process
  · exact .refl process
  · cases hterminating : process.terminating with
    | true => simpa [registerTask, hterminating] using Same.refl process
    | false =>
      simp only [registerTask, hterminating, hfresh, Option.isSome_none, Bool.false_eq_true, if_false] at he ⊢
      split at he
      · rename_i hcancel
        refine ⟨fun id => ?_, ?_, ?_, ?_⟩
        · simp only [hcancel, if_true, getElem?_unregisterTask]
          split
          · rename_i heq
            rw [← heq, hfresh]
          · rename_i hne
            simp [Std.TreeMap.getElem?_insert, hne]
        all_goals simp [hcancel, unregisterTask, hterminating]
      · cases he

/-- What a spawn returns depends on the tasks and on whether the process is terminating. -/
lemma Same.spawnUserTaskRef (h : process.Same process') (answers : SpawnAnswers) :
    (process'.spawnUserTaskRef answers).1 = (process.spawnUserTaskRef answers).1 := by
  have hregister : (process'.registerTask answers.task).1 = (process.registerTask answers.task).1 := by
    simp only [registerTask, h.terminating, h.tasks]
    repeat' split <;> try rfl
  simp only [Process.spawnUserTaskRef, hregister]
  repeat' split <;> try rfl

end Process

/-- What `spawn_initial_task` and `abort_creation` read and write. History: the owner handles that were
dropped. -/
structure CreatingProcess (η : Type) where
  creatingOwner : Option η
  loadedImage : Option ProcessLoadInfo
  process : Process
  dropped : List η

namespace CreatingProcess

/-- The entry point that is asked for, or that of the image. -/
def initialContext (loaded : ProcessLoadInfo) (entry stackPointer tlsBase : Nat) : InitialContext :=
  ⟨if entry = 0 then loaded.entryIp else entry, stackPointer, tlsBase⟩

variable {η : Type} {mappingAt : Nat → Option VmFlags} {answers : SpawnAnswers}

section

variable (p : CreatingProcess η)

def stageLoadedImage (image : ProcessLoadInfo) : CreatingProcess η := { p with loadedImage := some image }

def spawnInitialTask (mappingAt : Nat → Option VmFlags) (answers : SpawnAnswers)
    (entry stackPointer tlsBase : Nat) : Except ProcessSpawnError (TaskId × η) × CreatingProcess η :=
  match p.creatingOwner with
  | none => (.error .invalidState, p)
  | some owner =>
    let taken := { p with creatingOwner := none }
    -- the exits in front of the scheduler drop the handle
    let dropped := { taken with dropped := owner :: p.dropped }
    match p.loadedImage with
    | none => (.error .invalidState, dropped)
    | some loaded =>
      match validateInitial mappingAt (initialContext loaded entry stackPointer tlsBase) with
      | .error e => (.error e, dropped)
      | .ok () =>
        let spawned := p.process.spawnUserTaskRef answers
        match spawned.1 with
        | .ok id => (.ok (id, owner), { taken with process := spawned.2 })
        | .error e =>
          (.error e.processError, { taken with process := spawned.2, creatingOwner := some owner })

/-- `abort_creation`; `dropProcess` is what the scheduler manager answers. -/
def abortCreation (dropProcess : Except ObjectError Unit) : Except ObjectError Unit × CreatingProcess η :=
  match p.creatingOwner with
  | none => (.error .objectDestroyed, p)
  | some owner => (dropProcess, ⟨none, none, { p.process with phase := .exited }, owner :: p.dropped⟩)

end

/-! ## What a failed spawn leaves behind -/

/-- The owner, the image and what the process records are the same. -/
structure Same (p p' : CreatingProcess η) : Prop where
  owner : p'.creatingOwner = p.creatingOwner
  image : p'.loadedImage = p.loadedImage
  process : p.process.Same p'.process
  dropped : p'.dropped = p.dropped

variable {p p' : CreatingProcess η} {entry stackPointer tlsBase : Nat}

lemma Same.stageLoadedImage (h : p.Same p') (image : ProcessLoadInfo) :
    (p.stageLoadedImage image).Same (p'.stageLoadedImage image) :=
  ⟨h.owner, rfl, h.process, h.dropped⟩

lemma Same.spawnInitialTask (h : p.Same p') (mappingAt : Nat → Option VmFlags) (answers : SpawnAnswers)
    (entry stackPointer tlsBase : Nat) :
    (p'.spawnInitialTask mappingAt answers entry stackPointer tlsBase).1 =
      (p.spawnInitialTask mappingAt answers entry stackPointer tlsBase).1 := by
  simp only [CreatingProcess.spawnInitialTask, h.owner, h.image, h.process.spawnUserTaskRef]
  repeat' split <;> try rfl

lemma Same.abortCreation (h : p.Same p') (dropProcess : Except ObjectError Unit) :
    (p'.abortCreation dropProcess).1 = (p.abortCreation dropProcess).1 := by
  simp only [CreatingProcess.abortCreation, h.owner]
  split <;> rfl

/-- The process is as it was, and the next spawn, with the image or after another load, and the abort return
what they would have returned. -/
structure AsBefore (p p' : CreatingProcess η) : Prop where
  same : p.Same p'
  spawn : ∀ mappingAt answers entry stackPointer tlsBase,
    (p'.spawnInitialTask mappingAt answers entry stackPointer tlsBase).1 =
      (p.spawnInitialTask mappingAt answers entry stackPointer tlsBase).1
  load : ∀ image mappingAt answers entry stackPointer tlsBase,
    ((p'.stageLoadedImage image).spawnInitialTask mappingAt answers entry stackPointer tlsBase).1 =
      ((p.stageLoadedImage image).spawnInitialTask mappingAt answers entry stackPointer tlsBase).1
  abort : ∀ dropProcess, (p'.abortCreation dropProcess).1 = (p.abortCreation dropProcess).1

lemma Same.asBefore (h : p.Same p') : p.AsBefore p' :=
  ⟨h, h.spawnInitialTask, fun image => (h.stageLoadedImage image).spawnInitialTask, h.abortCreation⟩

/-- A spawn that fails leaves the process as it was. -/
def SpawnLaw (p : CreatingProcess η) (mappingAt : Nat → Option VmFlags) (answers : SpawnAnswers)
    (entry stackPointer tlsBase : Nat) : Prop :=
  ∀ e, (p.spawnInitialTask mappingAt answers entry stackPointer tlsBase).1 = .error e →
    p.AsBefore (p.spawnInitialTask mappingAt answers entry stackPointer tlsBase).2

/-- The owner is handle 7, an image is loaded and there is no task yet. -/
def oneImage : CreatingProcess Nat := ⟨some 7, some ⟨0x400000, 0x400000, 0x401000, 0⟩, .new, []⟩

def allMapped (_ : Nat) : Option VmFlags := some (.user ||| .execute ||| .write)

/-- The task is cancelled while it is being spawned. -/
def cancelled : SpawnAnswers := ⟨.ok (), ⟨1, 1, 1⟩, true, true⟩

end CreatingProcess

end Akarin.Sched
