/-
# Akarin.Sched.Cancellation -- whom the exit of a process cancels

The exit of a process collects the ids of its tasks under the process's lock and cancels them one by
one afterwards: `cancel_task` looks for a task with that id on every CPU. Between the two a task can
exit, be dropped and give its id back, and the allocator hands ids that were given back out first.

Spawns, exits and cancellations are calls of several atomic steps each, on any number of CPUs and
processes. A task is dropped some time after the last table and the last call have let go of it.
Histories: who has been registered where, and whose exit has requested the cancellation of whom.
-/
import Akarin.Ipc.Receive
import Akarin.Sched.Process

namespace Akarin.Sched

open List hiding getElem?_insert
open Ipc (IdAllocator Allots)
open Lib (Pool Program Event runOps Meets run_invariant getElem?_insert getElem?_erase
  getElem?_insert_cases getElem?_erase_some set_cases)
open Std (TreeMap)

/-! ## Model -/

/-- `n` CPUs, the processes and their tasks. -/
structure TaskWorld (n : Nat) where
  ids : IdAllocator
  /-- how many tasks have been created -/
  created : Nat
  /-- the tasks that have not been dropped -/
  live : List TaskArc
  process : ProcessId → Process
  table : Fin n → TreeMap TaskId TaskArc
  /-- the tasks a wakeup has been queued for: no other task is ever run -/
  woken : TaskArc → Bool
  cancelRequested : TaskArc → Bool
  registrations : List (ProcessId × TaskArc)
  requests : List (ProcessId × TaskArc)

/-- Spawns, and last polls. -/
inductive TaskCall (n : Nat) where
  | spawn (process : ProcessId) (cpu : Fin n)
  /-- the task is at the end of its last poll on the CPU -/
  | finish (cpu : Fin n) (task : TaskArc) (exit : TaskExit)

/-- Where a call is. A task in here is a strong reference. -/
inductive TaskPc (n : Nat) where
  | create (process : ProcessId) (cpu : Fin n)
  | admission (cpu : Fin n) (task : TaskArc)
  | register (cpu : Fin n) (task : TaskArc)
  | check (cpu : Fin n) (task : TaskArc)
  | unregister (cpu : Fin n) (task : TaskArc)
  | withdraw (cpu : Fin n) (task : TaskArc)
  | publish (task : TaskArc)
  | finish (cpu : Fin n) (task : TaskArc) (exit : TaskExit)
  | reap (task : TaskArc) (exit : TaskExit)
  /-- `reap_task` after the lock: the siblings still to be asked, and the ids it will return -/
  | request (task : TaskArc) (siblings : List TaskArc) (cancel : List TaskId)
  /-- the ids still to be cancelled, and the CPUs where the first of them has not been looked for -/
  | cancel (task : TaskArc) (ids : List TaskId) (cpus : List (Fin n))
  /-- `cancel_task` has found a task with the id -/
  | found (task target : TaskArc) (ids : List TaskId)
  | done

namespace TaskPc

variable {n : Nat}

/-- The strong references of the call. The task of `finish` is the one in the table. -/
def held : TaskPc n → List TaskArc
  | .admission _ task | .register _ task | .check _ task | .unregister _ task | .withdraw _ task
  | .publish task | .reap task _ | .cancel task _ _ => [task]
  | .request task siblings _ => task :: siblings
  | .found task target _ => [task, target]
  | .create _ _ | .finish _ _ _ | .done => []

/-- The ids the call is going to cancel. -/
def listed : TaskPc n → List TaskId
  | .request _ _ ids | .cancel _ ids _ | .found _ _ ids => ids
  | _ => []

/-- The call is about to create a task. -/
def creates : TaskPc n → Bool
  | .create _ _ => true
  | _ => false

end TaskPc

namespace TaskWorld

variable {n : Nat}

def new (n : Nat) : TaskWorld n where
  ids := ⟨1, []⟩
  created := 0
  live := []
  process _ := .new
  table _ := ∅
  woken _ := false
  cancelRequested _ := false
  registrations := []
  requests := []

section

variable (s : TaskWorld n)

/-- `Task::new`. -/
def createTask (process : ProcessId) : TaskArc × TaskWorld n :=
  let task : TaskArc := ⟨s.created, s.ids.allocate.1, process⟩
  (task, { s with ids := s.ids.allocate.2, created := s.created + 1, live := task :: s.live })

def setProcess (id : ProcessId) (process : Process) : TaskWorld n :=
  { s with process := Function.update s.process id process }

def setTable (cpu : Fin n) (table : TreeMap TaskId TaskArc) : TaskWorld n :=
  { s with table := Function.update s.table cpu table }

/-- `register_task`; the history has every task that enters the set. -/
def registerTask (s : TaskWorld n) (task : TaskArc) : Bool × TaskWorld n :=
  let process := s.process task.processId
  let registered := process.registerTask task
  let s := s.setProcess task.processId registered.2
  let s := if process.terminating then s
    else { s with registrations := (task.processId, task) :: s.registrations }
  match registered.1 with
  | .ok _ => (true, s)
  | .error _ => (false, s)

/-- `task.request_cancel()`, on behalf of the exit of a process. -/
def requestCancel (process : ProcessId) (task : TaskArc) : TaskWorld n :=
  { s with
    cancelRequested := Function.update s.cancelRequested task true
    requests := (process, task) :: s.requests }

def queueWakeup (task : TaskArc) : TaskWorld n :=
  { s with woken := Function.update s.woken task true }

def move : TaskPc n → TaskWorld n × TaskPc n
  | .create process cpu => ((s.createTask process).2, .admission cpu (s.createTask process).1)
  | .admission cpu task =>
    let table := s.table cpu
    (s.setTable cpu (if (table[task.id]?).isSome then table else table.insert task.id task),
      .register cpu task)
  | .register cpu task =>
    let registered := s.registerTask task
    (registered.2, if registered.1 then .check cpu task else .withdraw cpu task)
  | .check cpu task => (s, if s.cancelRequested task then .unregister cpu task else .publish task)
  | .unregister cpu task =>
    (s.setProcess task.processId ((s.process task.processId).unregisterTask task.id).2,
      .withdraw cpu task)
  | .withdraw cpu task => (s.setTable cpu ((s.table cpu).erase task.id), .done)
  | .publish task => (s.queueWakeup task, .done)
  | .finish cpu task exit =>
    if (s.table cpu)[task.id]? = some task ∧ s.woken task = true then
      (s.setTable cpu ((s.table cpu).erase task.id), .reap task exit)
    else (s, .done)
  | .reap task exit =>
    let reaped := (s.process task.processId).reapTask (· ∈ s.live) task.id exit
    let s := s.setProcess task.processId reaped.2
    match reaped.1 with
    | .ok (.processExited _ cancel, siblings) => (s, .request task siblings cancel)
    | .ok (.detached, _) | .error _ => (s, .done)
  | .request task (sibling :: rest) cancel =>
    (s.requestCancel task.processId sibling, .request task rest cancel)
  | .request task [] cancel => (s, .cancel task cancel (List.finRange n))
  | .cancel task (id :: ids) (cpu :: cpus) =>
    match (s.table cpu)[id]? with
    | some target => (s, .found task target ids)
    | none => (s, .cancel task (id :: ids) cpus)
  | .cancel task (_ :: ids) [] => (s, .cancel task ids (List.finRange n))
  | .cancel _ [] _ => (s, .done)
  | .found task target ids =>
    ((s.requestCancel task.processId target).queueWakeup target, .cancel task ids (List.finRange n))
  | .done => (s, .done)

end

def program (n : Nat) : Program (TaskWorld n) (TaskPc n) (TaskCall n) Empty where
  enter _
    | .spawn process cpu => some (.create process cpu)
    | .finish cpu task exit => some (.finish cpu task exit)
  move := move
  act s _ := s

/-- `Drop for Task`. -/
def dropTask (s : TaskWorld n) (task : TaskArc) : TaskWorld n :=
  { s with live := s.live.erase task, ids := s.ids.recycle task.id }

end TaskWorld

/-- Steps of calls, and dropped references. -/
inductive TaskEvent (n : Nat) where
  | call (event : Event (TaskCall n) Empty)
  | drop (task : TaskArc)

namespace TaskWorld

variable {n : Nat}

/-- Somebody has a strong reference to the task. -/
def Referenced (pool : Pool (TaskWorld n) (TaskPc n)) (task : TaskArc) : Prop :=
  (∃ cpu, (pool.shared.table cpu)[task.id]? = some task) ∨ ∃ pc ∈ pool.tasks, task ∈ pc.held
deriving Decidable

def step (pool : Pool (TaskWorld n) (TaskPc n)) : TaskEvent n → Pool (TaskWorld n) (TaskPc n)
  | .call event => pool.step (program n) event
  | .drop task =>
    if task ∈ pool.shared.live ∧ ¬ Referenced pool task then
      ⟨pool.shared.dropTask task, pool.tasks⟩
    else pool

end TaskWorld

/-! ## Who is registered is alive -/

namespace TaskPc

variable {n : Nat}

/-- The task the call is spawning. -/
def spawning : TaskPc n → Option TaskArc
  | .admission _ task | .register _ task | .check _ task | .unregister _ task | .withdraw _ task
  | .publish task => some task
  | _ => none

end TaskPc

namespace TaskWorld

variable {n : Nat} {s s' : TaskWorld n} {pcs : List (TaskPc n)} {pc pc' : TaskPc n} {i : Nat}
  {task : TaskArc}

/-- The task is in a table, or with the call that is about to reap it. -/
def Anchored (s : TaskWorld n) (pcs : List (TaskPc n)) (task : TaskArc) : Prop :=
  (∃ cpu, (s.table cpu)[task.id]? = some task) ∨ ∃ pc ∈ pcs, ∃ exit, pc = .reap task exit

/-- Whatever task has the id, the exit of the process may cancel it. -/
def MayCancel (s : TaskWorld n) (process : ProcessId) (id : TaskId) : Prop :=
  ∀ task ∈ s.live, task.id = id → (process, task) ∈ s.registrations

/-- What a call relies on where it is. -/
def Fair (s : TaskWorld n) : TaskPc n → Prop
  | .admission _ task => (task.processId, task) ∉ s.registrations
  | .register cpu task =>
    (task.processId, task) ∉ s.registrations ∧ (s.table cpu)[task.id]? = some task
  | .check _ task | .publish task => (task.processId, task) ∈ s.registrations
  | .withdraw _ task => (s.process task.processId).tasks[task.id]? ≠ some task
  | .request task siblings ids =>
    (∀ sibling ∈ siblings, (task.processId, sibling) ∈ s.registrations) ∧
      ∀ id ∈ ids, s.MayCancel task.processId id
  | .cancel task ids _ => ∀ id ∈ ids, s.MayCancel task.processId id
  | .found task target ids =>
    (task.processId, target) ∈ s.registrations ∧ ∀ id ∈ ids, s.MayCancel task.processId id
  | .create _ _ | .unregister _ _ | .finish _ _ _ | .reap _ _ | .done => True

/-- Ids are those of live tasks, a registered task is anchored, and only registered tasks are woken or
cancelled. -/
structure Sound (s : TaskWorld n) (pcs : List (TaskPc n)) : Prop where
  allots : Allots s.ids (s.live.map (·.id))
  serial_lt : ∀ task ∈ s.live, task.serial < s.created
  table_live : ∀ cpu id task, (s.table cpu)[id]? = some task → task.id = id ∧ task ∈ s.live
  held_live : ∀ pc ∈ pcs, ∀ task ∈ pc.held, task ∈ s.live
  registered : ∀ process task, (process, task) ∈ s.registrations →
    task.processId = process ∧ task.serial < s.created
  entry : ∀ process id task, (s.process process).tasks[id]? = some task →
    task.id = id ∧ (process, task) ∈ s.registrations ∧ Anchored s pcs task
  woken : ∀ task, s.woken task = true → (task.processId, task) ∈ s.registrations
  requested : ∀ process task, (process, task) ∈ s.requests → (process, task) ∈ s.registrations
  fair : ∀ pc ∈ pcs, Fair s pc
  one_spawn : ∀ (i j : Nat) (p q : TaskPc n) (task : TaskArc), pcs[i]? = some p → pcs[j]? = some q →
    p.spawning = some task → q.spawning = some task → i = j

lemma new_sound (n : Nat) : Sound (new n) [] where
  allots := ⟨by simp [new], by simp [new], by simp [new]⟩
  serial_lt _ h := absurd h not_mem_nil
  table_live _ _ _ h := absurd h (by simp [new])
  held_live _ h := absurd h not_mem_nil
  registered _ _ h := absurd h not_mem_nil
  entry _ _ _ h := absurd h (by simp [new, Process.new])
  woken _ h := absurd h (by simp [new])
  requested _ _ h := absurd h not_mem_nil
  fair _ h := absurd h not_mem_nil
  one_spawn _ _ _ _ _ h := absurd h (by simp)

lemma Sound.unique (h : Sound s pcs) {task other : TaskArc} (htask : task ∈ s.live)
    (hother : other ∈ s.live) (hid : task.id = other.id) : task = other :=
  inj_on_of_nodup_map (nodup_append.1 h.allots.nodup).2.1 htask hother hid

attribute [local simp] TaskPc.held TaskPc.spawning

lemma Sound.anchored_live (h : Sound s pcs) (hanchored : Anchored s pcs task) : task ∈ s.live := by
  rcases hanchored with ⟨cpu, htable⟩ | ⟨pc, hpc, exit, rfl⟩
  · exact (h.table_live cpu _ task htable).2
  · exact h.held_live _ hpc task (by simp)

/-- What a step leaves to a call that spawns the task. -/
structure Keeps (s s' : TaskWorld n) (task : TaskArc) : Prop where
  registered : (task.processId, task) ∈ s'.registrations → (task.processId, task) ∈ s.registrations
  table : ∀ cpu, (task.processId, task) ∉ s.registrations → (s.table cpu)[task.id]? = some task →
    (s'.table cpu)[task.id]? = some task
  process : (s'.process task.processId).tasks[task.id]? = some task →
    (s.process task.processId).tasks[task.id]? = some task

lemma MayCancel.mono {process : ProcessId} {id : TaskId} (h : s.MayCancel process id)
    (hlive : ∀ task ∈ s'.live, task.id = id → task ∈ s.live)
    (hreg : ∀ x ∈ s.registrations, x ∈ s'.registrations) : s'.MayCancel process id :=
  fun task htask hid => hreg _ (h task (hlive task htask hid) hid)

lemma Fair.mono (h : Fair s pc) (hlive : ∀ id ∈ pc.listed, ∀ task ∈ s'.live, task.id = id → task ∈ s.live)
    (hreg : ∀ x ∈ s.registrations, x ∈ s'.registrations)
    (hkeeps : ∀ task, pc.spawning = some task → Keeps s s' task) : Fair s' pc := by
  cases pc with
  | admission cpu task => exact fun hmem => h ((hkeeps task rfl).registered hmem)
  | register cpu task =>
    exact ⟨fun hmem => h.1 ((hkeeps task rfl).registered hmem), (hkeeps task rfl).table cpu h.1 h.2⟩
  | check | publish => exact hreg _ h
  | withdraw cpu task => exact fun hentry => h ((hkeeps task rfl).process hentry)
  | request task siblings ids =>
    exact ⟨fun sibling hsibling => hreg _ (h.1 sibling hsibling),
      fun id hid => (h.2 id hid).mono (hlive id hid) hreg⟩
  | cancel task ids cpus => exact fun id hid => (h id hid).mono (hlive id hid) hreg
  | found task target ids =>
    exact ⟨hreg _ h.1, fun id hid => (h.2 id hid).mono (hlive id hid) hreg⟩
  | create | unregister | finish | reap | done => trivial

/-! ### One call moves -/

section

variable (h : Sound s pcs)
include h

lemma Sound.held (hpc : pcs[i]? = some pc) : ∀ task ∈ pc.held, task ∈ s.live :=
  h.held_live pc (mem_of_getElem? hpc)

lemma Sound.held_set (hheld : ∀ task ∈ pc'.held, task ∈ s.live) :
    ∀ q ∈ pcs.set i pc', ∀ task ∈ q.held, task ∈ s.live :=
  Lib.forall_set (fun _ _ hq => hq) hheld h.held_live

lemma Sound.spawning_live {q : TaskPc n} (hq : q ∈ pcs)
    (hspawn : q.spawning = some task) : task ∈ s.live := by
  refine h.held_live q hq task ?_
  cases q <;> simp_all

lemma Sound.spawn_set (hpc : pcs[i]? = some pc)
    (hspawn : ∀ task, pc'.spawning = some task → pc.spawning = some task ∨ task ∉ s.live) :
    ∀ (a b : Nat) (p q : TaskPc n) (task : TaskArc), (pcs.set i pc')[a]? = some p →
      (pcs.set i pc')[b]? = some q → p.spawning = some task → q.spawning = some task → a = b := by
  have hother : ∀ {b : Nat} {q : TaskPc n} {task : TaskArc}, pcs[b]? = some q →
      q.spawning = some task → pc'.spawning = some task → i = b := by
    intro b q task hb hq hnew
    rcases hspawn task hnew with hold | hdead
    · exact h.one_spawn i b pc q task hpc hb hold hq
    · exact absurd (h.spawning_live (mem_of_getElem? hb) hq) hdead
  intro a b p q task ha hb hp hq
  rcases set_cases ha with ⟨rfl, rfl⟩ | ⟨-, ha'⟩
  · rcases set_cases hb with ⟨rfl, -⟩ | ⟨-, hb'⟩
    · rfl
    · exact hother hb' hq hp
  · rcases set_cases hb with ⟨rfl, rfl⟩ | ⟨-, hb'⟩
    · exact (hother ha' hp hq).symm
    · exact h.one_spawn a b p q task ha' hb' hp hq

lemma Sound.fair_set (hpc : pcs[i]? = some pc)
    (hkeeps : ∀ task, pc.spawning ≠ some task → task ∈ s.live → Keeps s s' task) (hown : Fair s' pc')
    (hreg : s.registrations ⊆ s'.registrations)
    (hlive : ∀ q ∈ pcs, ∀ id ∈ q.listed, ∀ task ∈ s'.live, task.id = id → task ∈ s.live) :
    ∀ q ∈ pcs.set i pc', Fair s' q := by
  intro q hq
  obtain ⟨j, hj⟩ := mem_iff_getElem?.1 hq
  rcases set_cases hj with ⟨-, rfl⟩ | ⟨hne, hj⟩
  · exact hown
  · have hmem := mem_of_getElem? hj
    refine (h.fair q hmem).mono (hlive q hmem) (fun _ hx => hreg hx) fun task htask => ?_
    exact hkeeps task (fun hpc' => hne (h.one_spawn j i q pc task hj hpc htask hpc'))
      (h.spawning_live hmem htask)

end

lemma Anchored.set (h : Anchored s pcs task) (hpc : pcs[i]? = some pc)
    (htable : ∀ cpu, (s.table cpu)[task.id]? = some task → (s'.table cpu)[task.id]? = some task)
    (hreap : ∀ exit, pc ≠ .reap task exit) : Anchored s' (pcs.set i pc') task := by
  rcases h with ⟨cpu, hcpu⟩ | hpending
  · exact .inl ⟨cpu, htable cpu hcpu⟩
  · refine .inr (Lib.exists_set hpc (fun _ h => h) ?_ hpending)
    rintro ⟨exit, rfl⟩
    exact absurd rfl (hreap exit)

/-- The call moves, and with it tasks between the tables and out of the sets of the processes. -/
lemma Sound.relocate (h : Sound s pcs) (hpc : pcs[i]? = some pc)
    {table : Fin n → TreeMap TaskId TaskArc} {process : ProcessId → Process}
    (htable : ∀ cpu (id : TaskId) task, (table cpu)[id]? = some task → task.id = id ∧ task ∈ s.live)
    (hkeep : ∀ cpu task, pc.spawning ≠ some task → (task.processId, task) ∉ s.registrations →
      (s.table cpu)[task.id]? = some task → (table cpu)[task.id]? = some task)
    (hprocess : ∀ process' (id : TaskId) task, (process process').tasks[id]? = some task →
      (s.process process').tasks[id]? = some task)
    (hanchored : ∀ process' task, (process process').tasks[task.id]? = some task → Anchored s pcs task →
      Anchored { s with table := table, process := process } (pcs.set i pc') task)
    (hheld : ∀ task ∈ pc'.held, task ∈ s.live)
    (hfair : Fair { s with table := table, process := process } pc')
    (hspawn : ∀ task, pc'.spawning = some task → pc.spawning = some task) :
    Sound { s with table := table, process := process } (pcs.set i pc') :=
  { h with
    table_live := htable
    held_live := h.held_set hheld
    entry := fun process' id task hentry => by
      obtain ⟨rfl, hregistered, hold⟩ := h.entry process' id task (hprocess process' id task hentry)
      exact ⟨rfl, hregistered, hanchored process' task hentry hold⟩
    fair := h.fair_set hpc (fun task hother _ => ⟨id, fun cpu => hkeep cpu task hother, hprocess _ _ task⟩)
      hfair (Subset.refl _) fun _ _ _ _ _ hx _ => hx
    one_spawn := h.spawn_set hpc fun task htask => .inl (hspawn task htask) }

/-- A call that changes nothing the others rely on. -/
lemma Sound.local (h : Sound s pcs) (hpc : pcs[i]? = some pc) (hheld : ∀ task ∈ pc'.held, task ∈ s.live)
    (hfair : Fair s pc') (hreap : ∀ task exit, pc ≠ .reap task exit)
    (hspawn : ∀ task, pc'.spawning = some task → pc.spawning = some task) : Sound s (pcs.set i pc') :=
  h.relocate hpc h.table_live (fun _ _ _ _ hcpu => hcpu) (fun _ _ _ hentry => hentry)
    (fun _ task _ hold => hold.set hpc (fun _ hcpu => hcpu) (hreap task)) hheld hfair hspawn

variable {cpu : Fin n} {ids : List TaskId}

/-- `Task::new`, with an id that no call is going to cancel. -/
lemma Sound.create (h : Sound s pcs) {process : ProcessId} (hpc : pcs[i]? = some (.create process cpu))
    (hwrap : s.ids.recycled = [] → s.ids.next + 1 < 2 ^ 64)
    (hlisted : ∀ pc ∈ pcs, s.ids.allocate.1 ∉ pc.listed) :
    Sound (s.createTask process).2 (pcs.set i (.admission cpu (s.createTask process).1)) := by
  have hgrows : ∀ task ∈ s.live, task ∈ (s.createTask process).2.live := fun task htask =>
    mem_cons_of_mem _ htask
  have hfresh : (s.createTask process).1 ∉ s.live := fun hmem =>
    absurd (h.serial_lt _ hmem) (lt_irrefl _)
  exact { h with
    allots := h.allots.allocate hwrap
    serial_lt := fun task htask => by
      rcases mem_cons.1 htask with rfl | htask
      · exact Nat.lt_succ_self _
      · exact Nat.lt_succ_of_lt (h.serial_lt task htask)
    table_live := fun cpu id task htable =>
      (h.table_live cpu id task htable).imp_right (hgrows task)
    held_live := Lib.forall_set (fun _ _ hq task htask => hgrows task (hq task htask))
      (fun task htask => by
        obtain rfl := mem_singleton.1 htask
        exact mem_cons_self) h.held_live
    registered := fun process task hmem =>
      (h.registered process task hmem).imp_right Nat.lt_succ_of_lt
    entry := fun process id task hentry => by
      obtain ⟨hid, hregistered, hold⟩ := h.entry process id task hentry
      exact ⟨hid, hregistered, hold.set hpc (fun _ hcpu => hcpu) (by simp)⟩
    fair := by
      refine h.fair_set hpc (fun task _ _ => ⟨id, fun _ _ h => h, id⟩) ?_ (Subset.refl _) ?_
      · exact fun hmem => absurd (h.registered _ _ hmem).2 (lt_irrefl _)
      · intro q hq id hid task htask heq
        rcases mem_cons.1 htask with rfl | htask
        · subst heq
          exact absurd hid (hlisted q hq)
        · exact htask
    one_spawn := h.spawn_set hpc fun task htask => .inr (by
      obtain rfl := Option.some.inj htask
      exact hfresh) }

lemma table_setTable (s : TaskWorld n) (cpu cpu' : Fin n) (table : TreeMap TaskId TaskArc) :
    (s.setTable cpu table).table cpu' = if cpu' = cpu then table else s.table cpu' := by
  by_cases hne : cpu' = cpu
  · subst hne
    simp [setTable]
  · simp [setTable, hne]

/-- The call that is at `pc` takes its next step. -/
def Moves (s : TaskWorld n) (pcs : List (TaskPc n)) (i : Nat) (pc : TaskPc n) : Prop :=
  Sound (s.move pc).1 (pcs.set i (s.move pc).2)

section

variable (h : Sound s pcs)
include h

lemma Sound.admission (hpc : pcs[i]? = some (.admission cpu task)) : Moves s pcs i (.admission cpu task) := by
  have hmem := mem_of_getElem? hpc
  have hlive : task ∈ s.live := h.held hpc task mem_cons_self
  generalize htable : (if ((s.table cpu)[task.id]?).isSome then s.table cpu
    else (s.table cpu).insert task.id task) = table
  -- what was in the table still is
  have hkept : ∀ {id : TaskId} {other : TaskArc}, (s.table cpu)[id]? = some other → table[id]? = some other := by
    intro id other hother
    rw [← htable]
    split
    · exact hother
    · rename_i habsent
      rw [getElem?_insert, if_neg]
      · exact hother
      · rintro rfl
        exact habsent (by simp [hother])
  have hnew : ∀ {id : TaskId} {other : TaskArc}, table[id]? = some other → other = task ∧ id = task.id ∨
      (s.table cpu)[id]? = some other := by
    intro id other hother
    rw [← htable] at hother
    split at hother
    · exact .inr hother
    · rcases getElem?_insert_cases hother with ⟨heq, rfl⟩ | ⟨_, hold⟩
      · exact .inl ⟨rfl, heq.symm⟩
      · exact .inr hold
  have hself : table[task.id]? = some task := by
    rw [← htable]
    split
    · rename_i hsome
      obtain ⟨other, hother⟩ := Option.isSome_iff_exists.1 hsome
      obtain ⟨hid, hother'⟩ := h.table_live cpu _ other hother
      rw [hother, h.unique hother' hlive hid]
    · rw [getElem?_insert, if_pos rfl]
  have hkeep : ∀ cpu' (other : TaskArc), (s.table cpu')[other.id]? = some other →
      ((s.setTable cpu table).table cpu')[other.id]? = some other := by
    intro cpu' other hother
    rw [table_setTable]
    split
    · rename_i heq
      subst heq
      exact hkept hother
    · exact hother
  simp only [Moves, move, htable]
  refine h.relocate hpc (fun cpu' id other hother => ?_) (fun cpu' other _ _ => hkeep cpu' other)
    (fun _ _ _ hentry => hentry) (fun _ other _ hold => hold.set hpc (fun cpu' => hkeep cpu' other) (by simp))
    (by simpa using hlive) ⟨h.fair _ hmem, by simpa [table_setTable] using hself⟩ fun _ hspawn => hspawn
  replace hother : ((s.setTable cpu table).table cpu')[id]? = some other := hother
  rw [table_setTable] at hother
  split at hother
  · rcases hnew hother with ⟨rfl, rfl⟩ | hold
    · exact ⟨rfl, hlive⟩
    · exact h.table_live cpu id other hold
  · exact h.table_live cpu' id other hother

/-- A task leaves the table of a CPU, and is with the call that will reap it or not registered. -/
lemma Sound.leave (hpc : pcs[i]? = some pc) (hlive : task ∈ s.live)
    (hheld : ∀ other ∈ pc'.held, other ∈ s.live) (hleft : (∃ exit, pc' = .reap task exit) ∨
      ∀ process, (s.process process).tasks[task.id]? ≠ some task)
    (hkeeps : pc.spawning ≠ some task → (task.processId, task) ∈ s.registrations)
    (hfair : Fair (s.setTable cpu ((s.table cpu).erase task.id)) pc')
    (hreap : ∀ other exit, pc ≠ .reap other exit)
    (hspawn : ∀ other, pc'.spawning = some other → pc.spawning = some other) :
    Sound (s.setTable cpu ((s.table cpu).erase task.id)) (pcs.set i pc') := by
  have hsub : ∀ {cpu' : Fin n} {id : TaskId} {other : TaskArc},
      ((s.setTable cpu ((s.table cpu).erase task.id)).table cpu')[id]? = some other →
        (s.table cpu')[id]? = some other := by
    intro cpu' id other hother
    rw [table_setTable] at hother
    split at hother
    · rename_i heq
      subst heq
      exact (getElem?_erase_some hother).2
    · exact hother
  have hkeep : ∀ {cpu' : Fin n} {other : TaskArc}, other ≠ task → (s.table cpu')[other.id]? = some other →
      ((s.setTable cpu ((s.table cpu).erase task.id)).table cpu')[other.id]? = some other := by
    intro cpu' other hne hother
    rw [table_setTable]
    split
    · rename_i heq
      subst heq
      rw [getElem?_erase, if_neg]
      · exact hother
      · exact fun hid => hne (h.unique (h.table_live _ _ other hother).2 hlive hid.symm)
    · exact hother
  refine h.relocate hpc (fun cpu' id other hother => h.table_live cpu' id other (hsub hother))
    (fun cpu' other hother hnot hcpu => hkeep ?_ hcpu) (fun _ _ _ hentry => hentry)
    (fun process other hentry hold => ?_) hheld hfair hspawn
  · rintro rfl
    exact hnot (hkeeps hother)
  · by_cases hne : other = task
    · subst hne
      obtain ⟨exit, rfl⟩ := hleft.resolve_right fun hnot => hnot process hentry
      exact .inr ⟨_, Lib.mem_set_self hpc, exit, rfl⟩
    · exact hold.set hpc (fun cpu' hcpu => hkeep hne hcpu) (hreap other)

lemma Sound.withdraw (hpc : pcs[i]? = some (.withdraw cpu task)) : Moves s pcs i (.withdraw cpu task) := by
  have hmem := mem_of_getElem? hpc
  simp only [Moves, move]
  refine h.leave hpc (h.held hpc task mem_cons_self) (by simp) (.inr fun process hentry => ?_) (by simp) trivial
    (by simp) (by simp)
  obtain ⟨-, hregistered, -⟩ := h.entry process _ task hentry
  obtain rfl := (h.registered process task hregistered).1
  exact h.fair _ hmem hentry

lemma Sound.finish {exit : TaskExit} (hpc : pcs[i]? = some (.finish cpu task exit)) :
    Moves s pcs i (.finish cpu task exit) := by
  simp only [Moves, move]
  split
  · rename_i hguard
    have hlive := (h.table_live cpu _ task hguard.1).2
    exact h.leave hpc hlive (by simpa using hlive) (.inl ⟨exit, rfl⟩) (fun _ => h.woken task hguard.2) trivial
      (by simp) (by simp)
  · exact h.local hpc (by simp) trivial (by simp) (by simp)

end

lemma process_setProcess (s : TaskWorld n) (id id' : ProcessId) (process : Process) :
    (s.setProcess id process).process id' = if id' = id then process else s.process id' := by
  by_cases hne : id' = id
  · subst hne
    simp [setProcess]
  · simp [setProcess, hne]

section

variable (h : Sound s pcs)
include h

/-- A task leaves the set of its process. -/
lemma Sound.detach {process : Process} (hpc : pcs[i]? = some pc)
    (htasks : ∀ id : TaskId, process.tasks[id]? =
      if task.id = id then none else (s.process task.processId).tasks[id]?)
    (hheld : ∀ other ∈ pc'.held, other ∈ s.live) (hfair : Fair (s.setProcess task.processId process) pc')
    (hreap : ∀ other exit, pc = .reap other exit → other = task)
    (hspawn : ∀ other, pc'.spawning = some other → pc.spawning = some other) :
    Sound (s.setProcess task.processId process) (pcs.set i pc') := by
  have hsub : ∀ {id' : ProcessId} {id : TaskId} {other : TaskArc},
      ((s.setProcess task.processId process).process id').tasks[id]? = some other →
        (s.process id').tasks[id]? = some other ∧ (id' = task.processId → task.id ≠ id) := by
    intro id' id other hother
    rw [process_setProcess] at hother
    split at hother
    · rename_i heq
      subst heq
      rw [htasks] at hother
      split at hother
      · exact absurd hother (by simp)
      · exact ⟨hother, fun _ => ‹_›⟩
    · exact ⟨hother, fun heq => absurd heq ‹_›⟩
  refine h.relocate hpc h.table_live (fun _ _ _ _ hcpu => hcpu) (fun _ _ _ hentry => (hsub hentry).1)
    (fun id' other hentry hold => ?_) hheld hfair hspawn
  refine hold.set hpc (fun _ hcpu => hcpu) fun exit heq => ?_
  -- the call would be the one that has just taken the task out of its set
  obtain rfl := hreap other exit heq
  obtain ⟨-, hregistered, -⟩ := h.entry id' _ other (hsub hentry).1
  exact (hsub hentry).2 (h.registered id' other hregistered).1.symm rfl

lemma Sound.unregister (hpc : pcs[i]? = some (.unregister cpu task)) :
    Moves s pcs i (.unregister cpu task) := by
  have hlive : task ∈ s.live := h.held hpc task mem_cons_self
  have htasks := fun k => (s.process task.processId).getElem?_unregisterTask task.id k
  simp only [Moves, move]
  refine h.detach hpc htasks (by simpa using hlive) ?_ (by simp) (by simp)
  simp [Fair, process_setProcess, htasks]

/-- What the exit of a process has found is what was registered in it. -/
lemma Sound.reap {exit : TaskExit} (hpc : pcs[i]? = some (.reap task exit)) :
    Moves s pcs i (.reap task exit) := by
  have hlive : task ∈ s.live := h.held hpc task mem_cons_self
  have htasks := fun k =>
    (s.process task.processId).getElem?_reapTask (· ∈ s.live) task.id k exit
  have hdetach : ∀ {pc' : TaskPc n}, (∀ other ∈ pc'.held, other ∈ s.live) →
      pc'.spawning = none → Fair (s.setProcess task.processId
        ((s.process task.processId).reapTask (· ∈ s.live) task.id exit).2) pc' →
      Sound (s.setProcess task.processId
        ((s.process task.processId).reapTask (· ∈ s.live) task.id exit).2) (pcs.set i pc') :=
    fun hheld hspawn hfair => h.detach hpc htasks hheld hfair
      (fun other exit' heq => by simpa using (TaskPc.reap.inj heq).1.symm) (by rw [hspawn]; simp)
  simp only [Moves, move]
  split
  · rename_i code cancel siblings hresult
    obtain ⟨hcancel, hsiblings⟩ := Process.tasks_of_reapTask hresult
    have hentry : ∀ {k : TaskId} {other : TaskArc}, ((s.process task.processId).reapTask
        (· ∈ s.live) task.id exit).2.tasks[k]? = some other →
        (s.process task.processId).tasks[k]? = some other := by
      intro k other hother
      rw [htasks] at hother
      split at hother
      · exact absurd hother (by simp)
      · exact hother
    refine hdetach ?_ rfl ⟨fun sibling hsibling => ?_, fun id hid other hother heq => ?_⟩
    · intro other hother
      rcases mem_cons.1 hother with rfl | hother
      · exact hlive
      · simpa using (hsiblings other hother).1
    · obtain ⟨-, k, hk⟩ := hsiblings sibling hsibling
      exact (h.entry _ k sibling (hentry hk)).2.1
    · obtain ⟨found, hfound⟩ := hcancel id hid
      obtain ⟨hid', hregistered, hanchored⟩ := h.entry _ id found (hentry hfound)
      -- the task of the set is alive, and no other task has its id
      rw [h.unique hother (h.anchored_live hanchored) (heq.trans hid'.symm)]
      exact hregistered
  · exact hdetach (by simp) rfl trivial
  · exact hdetach (by simp) rfl trivial

/-- Only wakeups and requests are added, for tasks that are registered. -/
lemma Sound.notify (hpc : pcs[i]? = some pc) {woken cancelRequested : TaskArc → Bool}
    {requests : List (ProcessId × TaskArc)}
    (hwoken : ∀ other, woken other = true → (other.processId, other) ∈ s.registrations)
    (hrequested : ∀ process other, (process, other) ∈ requests → (process, other) ∈ s.registrations)
    (hheld : ∀ other ∈ pc'.held, other ∈ s.live) (hfair : Fair s pc')
    (hreap : ∀ other exit, pc ≠ .reap other exit)
    (hspawn : ∀ other, pc'.spawning = some other → pc.spawning = some other) :
    Sound { s with woken := woken, cancelRequested := cancelRequested, requests := requests }
      (pcs.set i pc') :=
  have hlocal := h.local hpc hheld hfair hreap hspawn
  { hlocal with
    woken := hwoken
    requested := hrequested
    fair := fun q hq => (hlocal.fair q hq).mono (fun _ _ _ hother _ => hother) (fun _ hx => hx)
      fun _ _ => ⟨id, fun _ _ h => h, id⟩ }

lemma Sound.publish (hpc : pcs[i]? = some (.publish task)) : Moves s pcs i (.publish task) := by
  have hregistered : (task.processId, task) ∈ s.registrations := h.fair _ (mem_of_getElem? hpc)
  refine h.notify hpc (fun other hother => ?_) h.requested (by simp [move]) trivial (by simp)
    (by simp [move])
  by_cases hne : other = task
  · subst hne
    exact hregistered
  · exact h.woken other (by simpa [move, queueWakeup, hne] using hother)

lemma Sound.request {siblings : List TaskArc} (hpc : pcs[i]? = some (.request task siblings ids)) :
    Moves s pcs i (.request task siblings ids) := by
  have hmem := mem_of_getElem? hpc
  obtain ⟨hsiblings, hids⟩ := h.fair _ hmem
  have hheld := h.held_live _ hmem
  cases siblings with
  | nil =>
    simp only [Moves, move]
    exact h.local hpc hheld hids (by simp) (by simp)
  | cons sibling rest =>
    refine h.notify hpc h.woken (fun process other hother => ?_) (fun other hother => ?_)
      ⟨fun other hother => hsiblings other (mem_cons_of_mem _ hother), hids⟩ (by simp) (by simp [move])
    · rcases mem_cons.1 hother with heq | hold
      · obtain ⟨rfl, rfl⟩ := Prod.mk.inj heq
        exact hsiblings _ mem_cons_self
      · exact h.requested process other hold
    · refine hheld other ?_
      simp only [move, TaskPc.held, mem_cons] at hother ⊢
      exact hother.imp_right .inr

lemma Sound.cancel {cpus : List (Fin n)} (hpc : pcs[i]? = some (.cancel task ids cpus)) :
    Moves s pcs i (.cancel task ids cpus) := by
  have hmem := mem_of_getElem? hpc
  have hids : ∀ id ∈ ids, s.MayCancel task.processId id := h.fair _ hmem
  have hlive : task ∈ s.live := h.held hpc task mem_cons_self
  have hstay : ∀ {pc' : TaskPc n}, (∀ other ∈ pc'.held, other ∈ s.live) → pc'.spawning = none →
      Fair s pc' → Sound s (pcs.set i pc') := fun hheld hspawn hfair =>
    h.local hpc hheld hfair (by simp) (by rw [hspawn]; simp)
  cases ids with
  | nil =>
    simp only [Moves, move]
    exact hstay (by simp) rfl trivial
  | cons id ids =>
    have hrest : ∀ id' ∈ ids, s.MayCancel task.processId id' := fun id' hid' =>
      hids id' (mem_cons_of_mem id hid')
    cases cpus with
    | nil =>
      simp only [Moves, move]
      exact hstay (by simpa using hlive) rfl hrest
    | cons cpu cpus =>
      simp only [Moves, move]
      split
      · rename_i target htarget
        obtain ⟨hid, htarget⟩ := h.table_live cpu id target htarget
        exact hstay (by simpa using ⟨hlive, htarget⟩) rfl
          ⟨hids id mem_cons_self target htarget hid, hrest⟩
      · exact hstay (by simpa using hlive) rfl hids

lemma Sound.found {target : TaskArc} (hpc : pcs[i]? = some (.found task target ids)) :
    Moves s pcs i (.found task target ids) := by
  have hmem := mem_of_getElem? hpc
  obtain ⟨htarget, hids⟩ := h.fair _ hmem
  refine h.notify hpc (fun other hother => ?_) (fun process other hother => ?_)
    (fun other hother => h.held_live _ hmem other ?_) hids (by simp) (by simp [move])
  · by_cases hne : other = target
    · subst hne
      exact (h.registered _ _ htarget).1 ▸ htarget
    · exact h.woken other (by simpa [move, queueWakeup, requestCancel, hne] using hother)
  · rcases mem_cons.1 hother with heq | hold
    · obtain ⟨rfl, rfl⟩ := Prod.mk.inj heq
      exact htarget
    · exact h.requested process other hold
  · simp only [move, TaskPc.held, mem_singleton] at hother
    simp [hother]

/-- The task enters the set of its process; there is no other task with its id in there. -/
lemma Sound.register (hpc : pcs[i]? = some (.register cpu task)) : Moves s pcs i (.register cpu task) := by
  have hmem := mem_of_getElem? hpc
  have hlive : task ∈ s.live := h.held hpc task mem_cons_self
  obtain ⟨hnew, htable⟩ := h.fair _ hmem
  have habsent : (s.process task.processId).tasks[task.id]? = none := by
    refine Option.eq_none_iff_forall_ne_some.2 fun other hother => hnew ?_
    obtain ⟨hid, hregistered, hanchored⟩ := h.entry _ _ other hother
    exact h.unique (h.anchored_live hanchored) hlive hid ▸ hregistered
  cases hterminating : (s.process task.processId).terminating with
  | true =>
    have hsame : s.registerTask task = (false, s) := by
      simp [registerTask, Process.registerTask, hterminating, setProcess]
    simp only [Moves, move, hsame, Bool.false_eq_true, if_false]
    exact h.local hpc (by simpa using hlive) (by simp [Fair, habsent]) (by simp) (by simp)
  | false =>
    generalize hprocess : ({ s.process task.processId with
      tasks := (s.process task.processId).tasks.insert task.id task } : Process) = process
    have hregistered : s.registerTask task = (true, { s.setProcess task.processId process with
        registrations := (task.processId, task) :: s.registrations }) := by
      simp [registerTask, Process.registerTask, hterminating, habsent, ← hprocess, setProcess]
    have htasks : ∀ {id' : ProcessId} {id : TaskId} {other : TaskArc},
        ((s.setProcess task.processId process).process id').tasks[id]? = some other →
          (other = task ∧ id' = task.processId ∧ id = task.id) ∨
            (s.process id').tasks[id]? = some other := by
      intro id' id other hother
      rw [process_setProcess] at hother
      split at hother
      · rename_i heq
        subst heq
        rw [← hprocess] at hother
        rcases getElem?_insert_cases hother with ⟨hid, rfl⟩ | ⟨_, hold⟩
        · exact .inl ⟨rfl, rfl, hid.symm⟩
        · exact .inr hold
      · exact .inr hother
    have hgrows : ∀ x ∈ s.registrations, x ∈ (task.processId, task) :: s.registrations := fun x hx =>
      mem_cons_of_mem _ hx
    simp only [Moves, move, hregistered, if_true]
    exact { h with
      held_live := h.held_set fun other hother => by
        obtain rfl := mem_singleton.1 hother
        exact hlive
      registered := fun process' other hother => by
        rcases mem_cons.1 hother with heq | hold
        · obtain ⟨rfl, rfl⟩ := Prod.mk.inj heq
          exact ⟨rfl, h.serial_lt other hlive⟩
        · exact h.registered process' other hold
      entry := fun process' id other hother => by
        rcases htasks hother with ⟨rfl, rfl, rfl⟩ | hold
        · exact ⟨rfl, mem_cons_self, .inl ⟨cpu, htable⟩⟩
        · obtain ⟨hid, hregistered, hanchored⟩ := h.entry process' id other hold
          exact ⟨hid, hgrows _ hregistered, hanchored.set hpc (fun _ hcpu => hcpu) (by simp)⟩
      woken := fun other hother => hgrows _ (h.woken other hother)
      requested := fun process' other hother => hgrows _ (h.requested process' other hother)
      fair := by
        refine h.fair_set hpc (fun other hne _ => ?_) mem_cons_self hgrows fun _ _ _ _ _ hx _ => hx
        have hne : other ≠ task := fun heq => hne (by rw [heq]; rfl)
        refine ⟨fun hother => ?_, fun _ _ hcpu => hcpu, fun hother => ?_⟩
        · exact (mem_cons.1 hother).resolve_left fun heq => hne (Prod.mk.inj heq).2
        · exact (htasks hother).resolve_left fun heq => hne heq.1
      one_spawn := h.spawn_set hpc fun _ hspawn => .inl hspawn }

lemma Sound.check (hpc : pcs[i]? = some (.check cpu task)) : Moves s pcs i (.check cpu task) := by
  have hheld := h.held hpc
  have hregistered : Fair s (.publish task) := h.fair (.check cpu task) (mem_of_getElem? hpc)
  simp only [Moves, move]
  split
  · exact h.local hpc hheld trivial (by simp) (by simp)
  · exact h.local hpc hheld hregistered (by simp) (by simp)

/-- A call begins. -/
lemma Sound.start (hheld : pc.held = []) (hspawn : pc.spawning = none)
    (hfair : Fair s pc) : Sound s (pcs ++ [pc]) := by
  have hold : ∀ {a : Nat} {p : TaskPc n} {task : TaskArc}, (pcs ++ [pc])[a]? = some p →
      p.spawning = some task → pcs[a]? = some p := by
    intro a p task ha hp
    rw [getElem?_append] at ha
    split at ha
    · exact ha
    · obtain rfl := mem_singleton.1 (mem_of_getElem? ha)
      exact absurd hp (by rw [hspawn]; simp)
  refine { h with held_live := ?_, entry := ?_, fair := ?_, one_spawn := ?_ }
  · intro q hq task htask
    rcases mem_append.1 hq with hq | hq
    · exact h.held_live q hq task htask
    · obtain rfl := mem_singleton.1 hq
      exact absurd htask (by rw [hheld]; simp)
  · intro process id task hentry
    obtain ⟨hid, hregistered, hanchored⟩ := h.entry process id task hentry
    exact ⟨hid, hregistered, hanchored.imp_right fun ⟨q, hq, hreap⟩ =>
      ⟨q, mem_append_left _ hq, hreap⟩⟩
  · intro q hq
    rcases mem_append.1 hq with hq | hq
    · exact h.fair q hq
    · obtain rfl := mem_singleton.1 hq
      exact hfair
  · intro a b p q task ha hb hp hq
    exact h.one_spawn a b p q task (hold ha hp) (hold hb hq) hp hq

/-- A task that nobody refers to is dropped, and its id given back. -/
lemma Sound.drop (hlive : task ∈ s.live)
    (hfree : ¬ Referenced ⟨s, pcs⟩ task) : Sound (s.dropTask task) pcs := by
  obtain ⟨htable, hheld⟩ := not_or.1 hfree
  have hstays : ∀ {other : TaskArc}, other ≠ task → other ∈ s.live → other ∈ s.live.erase task :=
    fun hne hother => (mem_erase_of_ne hne).2 hother
  have hsub : ∀ other ∈ s.live.erase task, other ∈ s.live := fun _ hother => mem_of_mem_erase hother
  exact { h with
    allots := h.allots.recycle (List.Perm.map (·.id) (perm_cons_erase hlive))
    serial_lt := fun other hother => h.serial_lt other (hsub other hother)
    table_live := fun cpu id other hother => by
      obtain ⟨hid, hother'⟩ := h.table_live cpu id other hother
      refine ⟨hid, hstays ?_ hother'⟩
      rintro rfl
      exact htable ⟨cpu, hid ▸ hother⟩
    held_live := fun q hq other hother => by
      refine hstays ?_ (h.held_live q hq other hother)
      rintro rfl
      exact hheld ⟨q, hq, hother⟩
    fair := fun q hq => (h.fair q hq).mono (fun _ _ other hother _ => hsub other hother) (fun _ hx => hx)
      fun _ _ => ⟨id, fun _ _ h => h, id⟩
    one_spawn := h.one_spawn }

end

/-! ## Runs -/

/-- The id a new task gets is not one that a process is still going to cancel, and the counter of ids
does not wrap around. -/
def Unlisted (pool : Pool (TaskWorld n) (TaskPc n)) : TaskEvent n → Prop
  | .call (.step task) => (pool.tasks[task]?).any TaskPc.creates = true →
      (pool.shared.ids.recycled = [] → pool.shared.ids.next + 1 < 2 ^ 64) ∧
        ∀ pc ∈ pool.tasks, pool.shared.ids.allocate.1 ∉ pc.listed
  | _ => True

instance (pool : Pool (TaskWorld n) (TaskPc n)) : DecidablePred (Unlisted pool)
  | .call (.step _) => inferInstanceAs (Decidable (_ → _))
  | .call (.start _) | .drop _ => .isTrue trivial

lemma Sound.step {pool : Pool (TaskWorld n) (TaskPc n)} {event : TaskEvent n}
    (h : Sound pool.shared pool.tasks) (hunlisted : Unlisted pool event) :
    Sound (step pool event).shared (step pool event).tasks := by
  cases event with
  | drop task =>
    simp only [TaskWorld.step]
    split
    · rename_i hguard
      exact h.drop hguard.1 hguard.2
    · exact h
  | call event =>
    refine Pool.step_keeps (I := fun pool : Pool (TaskWorld n) (TaskPc n) =>
      Sound pool.shared pool.tasks) h ?_ ?_ ?_
    · intro call pc _ hpc
      cases call <;> (obtain rfl := Option.some.inj hpc; exact h.start rfl rfl trivial)
    · rintro i pc rfl hpc
      simp only [program]
      cases pc with
      | create process cpu =>
        obtain ⟨hwrap, hlisted⟩ := hunlisted (by rw [hpc]; rfl)
        exact h.create hpc hwrap hlisted
      | admission cpu task => exact h.admission hpc
      | register cpu task => exact h.register hpc
      | check cpu task => exact h.check hpc
      | unregister cpu task => exact h.unregister hpc
      | withdraw cpu task => exact h.withdraw hpc
      | publish task => exact h.publish hpc
      | finish cpu task exit => exact h.finish hpc
      | reap task exit => exact h.reap hpc
      | request task siblings ids => exact h.request hpc
      | cancel task ids cpus => exact h.cancel hpc
      | found task target ids => exact h.found hpc
      | done => exact h.local hpc (h.held hpc) trivial (by simp) fun _ hspawn => hspawn
    · intro change _
      exact change.elim

/-- A spawn up to its publication. -/
def spawnAll (n : Nat) (process : ProcessId) (cpu : Fin n) (task : Nat) : List (TaskEvent n) :=
  [.call (.start (.spawn process cpu)), .call (.step task), .call (.step task), .call (.step task),
    .call (.step task), .call (.step task)]

/-- Two tasks of process 1; the first of them exits the process, and asks its sibling. -/
def exitFirst : List (TaskEvent 1) :=
  spawnAll 1 1 0 0 ++ spawnAll 1 1 0 1 ++
    [.call (.start (.finish 0 ⟨0, 1, 1⟩ (.processExited 3))), .call (.step 2), .call (.step 2),
      .call (.step 2)]

/-- The sibling exits and is dropped. -/
def siblingGone : List (TaskEvent 1) :=
  [.call (.start (.finish 0 ⟨1, 2, 1⟩ .cancelled)), .call (.step 3), .call (.step 3),
    .drop ⟨1, 2, 1⟩]

/-- The rest of the exit: the id of the sibling is looked for and what is found is cancelled. -/
def cancelListed : List (TaskEvent 1) := [.call (.step 2), .call (.step 2), .call (.step 2)]

/-- A task of process 2 gets the sibling's id before that id is cancelled. -/
def reusedBeforeCancel : List (TaskEvent 1) :=
  exitFirst ++ siblingGone ++ spawnAll 1 2 0 4 ++ cancelListed

/-- The exit of process 1 cancels a task of process 2. -/
theorem exit_cancels_other_process : let pool := runOps step (Pool.idle (new 1)) reusedBeforeCancel
    pool.shared.cancelRequested ⟨2, 2, 2⟩ = true ∧ (1, ⟨2, 2, 2⟩) ∈ pool.shared.requests ∧
      (1, ⟨2, 2, 2⟩) ∉ pool.shared.registrations ∧ (2, ⟨2, 2, 2⟩) ∈ pool.shared.registrations := by
  decide +kernel

/-- As long as no task gets an id that an exiting process still is going to cancel, the exit of a
process cancels only tasks that were registered in it. -/
theorem exit_cancels_registered_of_unlisted {events : List (TaskEvent n)}
    (hunlisted : Meets step Unlisted (Pool.idle (new n)) events) (process : ProcessId) (task : TaskArc)
    (hrequested : (process, task) ∈ (runOps step (Pool.idle (new n)) events).shared.requests) :
    (process, task) ∈ (runOps step (Pool.idle (new n)) events).shared.registrations := by
  have hsound : Sound (runOps step (Pool.idle (new n)) events).shared
      (runOps step (Pool.idle (new n)) events).tasks :=
    run_invariant (I := fun pool : Pool (TaskWorld n) (TaskPc n) => Sound pool.shared pool.tasks)
      (fun _ _ h hok => h.step hok) (new_sound n) hunlisted
  exact hsound.requested process task hrequested

/-- The new task is created when the exit has cancelled all it had listed. -/
def reusedAfterCancel : List (TaskEvent 1) :=
  exitFirst ++ siblingGone ++ cancelListed ++ spawnAll 1 2 0 4

theorem exit_cancels_registered_reusedAfterCancel :
    (2, ⟨2, 2, 2⟩) ∈ (runOps step (Pool.idle (new 1)) reusedAfterCancel).shared.registrations ∧
    (1, ⟨1, 2, 1⟩) ∈ (runOps step (Pool.idle (new 1)) reusedAfterCancel).shared.requests ∧
    (1, ⟨1, 2, 1⟩) ∈ (runOps step (Pool.idle (new 1)) reusedAfterCancel).shared.registrations :=
  have hrequested : (1, ⟨1, 2, 1⟩) ∈
      (runOps step (Pool.idle (new 1)) reusedAfterCancel).shared.requests := by decide +kernel
  ⟨by decide +kernel, hrequested, exit_cancels_registered_of_unlisted (by decide +kernel) 1 _ hrequested⟩

end TaskWorld

end Akarin.Sched
