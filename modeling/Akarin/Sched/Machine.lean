/-
# Akarin.Sched.Machine -- the schedulers of all CPUs over the tasks they share

A task is in the table of one CPU, or it is pending: created or taken from a CPU, and not admitted
yet. The operations are those of `Akarin.Sched.Scheduler` on one CPU at a time, the creation of a task,
and what other code writes into a task, which the scheduler's own fields are not part of.

`Owned` is the shape of the invariants here: no task is in two places, and what holds of a CPU does not
depend on the tasks of the others. `Consistent` is the one about the run queues.
-/
import Akarin.Lib.Runs
import Akarin.Sched.Operations

namespace Akarin.Sched

open Finset Function List
open Lib (runOps Meets run_invariant)
open Memory (VmRange)

/-- The schedulers of `n` CPUs, the tasks they share, and the tasks that no CPU has. -/
structure Machine (n : Nat) where
  cpus : Fin n → Scheduler
  task : TaskId → Task
  pending : Finset TaskId

/-- One call on the scheduler of one CPU, the creation of a task, or what other code writes into a task. -/
inductive Op (n : Nat) where
  | spawn (id : TaskId) (weight : Nat) (slice : Duration) (kernelStack : VmRange)
  | admitTask (c : Fin n) (id : TaskId)
  | enqueueWakeup (c : Fin n) (id : TaskId)
  | drainWakeups (c : Fin n) (fuel : Nat)
  | onTick (c : Fin n) (fuel : Nat) (now : Instant)
  | takeNext (c : Fin n) (now : Instant)
  | finalizeCurrentBoundary (c : Fin n) (rsp : Nat) (action : TaskBoundaryAction) (now : Option Instant)
  | savePreemptedCurrent (c : Fin n) (rsp : Nat) (now : Option Instant)
  | takeMigratable (c : Fin n) (now : Instant) (threshold : Duration) (policy : MigrationPolicy)
  | removeTask (c : Fin n) (id : TaskId)
  | touch (id : TaskId) (execution : TaskExecution) (placement : TaskPlacement)

namespace Machine

variable {n : Nat}

/-- No task exists; what the tasks hold does not matter. -/
def new (n : Nat) : Machine n where
  cpus c := .new c
  task _ := .new 0 .zero ⟨0, 1, Nat.one_pos⟩
  pending := ∅

section

variable (m : Machine n)

/-- One CPU's scheduler with the tasks. -/
def cpu (c : Fin n) : Cpu := ⟨m.cpus c, m.task⟩

def put (c : Fin n) (cpu : Cpu) : Machine n :=
  { m with cpus := update m.cpus c cpu.scheduler, task := cpu.task }

def step : Op n → Machine n
  | .spawn id weight slice kernelStack =>
    { m with
      task := update m.task id (.new weight slice kernelStack)
      pending := insert id m.pending }
  | .admitTask c id => { m.put c ((m.cpu c).admitTask id) with pending := m.pending.erase id }
  | .enqueueWakeup c id => m.put c ((m.cpu c).enqueueWakeup id)
  | .drainWakeups c fuel => m.put c ((m.cpu c).drainWakeups fuel).2
  | .onTick c fuel now => m.put c ((m.cpu c).onTick fuel now).2
  | .takeNext c now => m.put c ((m.cpu c).takeNext now).2
  | .finalizeCurrentBoundary c rsp action now =>
    m.put c ((m.cpu c).finalizeCurrentBoundary rsp action now).2
  | .savePreemptedCurrent c rsp now => m.put c ((m.cpu c).savePreemptedCurrent rsp now).2
  | .takeMigratable c now threshold policy =>
    let taken := (m.cpu c).takeMigratable now threshold policy
    { m.put c taken.2 with pending := taken.1.elim m.pending (insert · m.pending) }
  | .removeTask c id => m.put c ((m.cpu c).removeTask id).2
  | .touch id execution placement =>
    let task := { m.task id with execution := execution, placement := placement }
    { m with task := update m.task id task }

/-- How the kernel calls the operations: a new task has a new id, the task that is admitted is pending or in
the CPU's own table already, `take_next` is called while no task is current, and `remove_task` on a task that is
not ready. -/
def Allowed : Op n → Prop
  | .spawn id _ _ _ => id ∉ m.pending ∧ ∀ c, id ∉ (m.cpus c).tasks
  | .admitTask c id => id ∈ m.pending ∨ id ∈ (m.cpus c).tasks
  | .takeNext c _ => (m.cpus c).current = none
  | .removeTask c id => id ∈ (m.cpus c).tasks → (m.task id).isReady = false
  | _ => True

end

instance (m : Machine n) (op : Op n) : Decidable (m.Allowed op) := by
  cases op <;> unfold Allowed <;> infer_instance

/-! ## Invariants of tasks that are in one place -/

section Owned

variable {I : Fin n → Cpu → Prop} {J : Task → Prop} {Same : Task → Task → Prop}
variable {m : Machine n} {c : Fin n} {after : Cpu}

/-- Every task is in one place, each CPU satisfies `I` and each pending task `J`. -/
structure Owned (I : Fin n → Cpu → Prop) (J : Task → Prop) (m : Machine n) : Prop where
  cpu : ∀ c, I c (m.cpu c)
  tables : ∀ c c', c ≠ c' → Disjoint (m.cpus c).tasks (m.cpus c').tasks
  pending : ∀ c, Disjoint m.pending (m.cpus c).tasks
  incoming : ∀ id ∈ m.pending, J (m.task id)

/-- `I` looks only at the tasks in the CPU's table, and `I` and `J` at no more of a task than `Same`
does. -/
structure Local (I : Fin n → Cpu → Prop) (J : Task → Prop) (Same : Task → Task → Prop) : Prop where
  refl : ∀ task, Same task task
  cpu : ∀ {c scheduler task task'}, I c ⟨scheduler, task⟩ →
    (∀ j ∈ scheduler.tasks, Same (task j) (task' j)) → I c ⟨scheduler, task'⟩
  pending : ∀ {task task'}, J task → Same task task' → J task'

/-- An operation on one CPU has kept `I`, and has written the tasks in `scope` only. -/
structure Kept (I : Fin n → Cpu → Prop) (Same : Task → Task → Prop) (m : Machine n) (c : Fin n)
    (scope : Finset TaskId) (after : Cpu) : Prop where
  inv : I c after
  within : after.scheduler.tasks ⊆ scope
  frame : ∀ id, id ∉ scope → Same (m.task id) (after.task id)

section

variable (hlocal : Local I J Same)
include hlocal

section

variable (h : Owned I J m)
include h

/-- An operation on one CPU, and who is pending after it. -/
lemma Owned.put {scope pending : Finset TaskId} (hkept : Kept I Same m c scope after)
    (hscope : ∀ id ∈ scope, id ∈ (m.cpus c).tasks ∨ id ∈ m.pending)
    (hdisjoint : Disjoint pending after.scheduler.tasks)
    (hpending : ∀ id ∈ pending, id ∈ m.pending ∧ id ∉ scope ∨ id ∈ (m.cpus c).tasks ∧ J (after.task id)) :
    Owned I J { m.put c after with pending := pending } := by
  -- the tasks of another CPU are out of reach
  have hfar : ∀ c', c' ≠ c → ∀ id ∈ (m.cpus c').tasks, id ∉ scope := by
    intro c' hne id hid hmem
    rcases hscope id hmem with hown | hwaits
    · exact disjoint_left.1 (h.tables c' c hne) hid hown
    · exact disjoint_left.1 (h.pending c') hwaits hid
  have hself : update m.cpus c after.scheduler c = after.scheduler := update_self ..
  have hother : ∀ c', c' ≠ c → update m.cpus c after.scheduler c' = m.cpus c' :=
    fun c' hne => update_of_ne hne _ _
  refine ⟨fun c' => ?_, fun c' c'' hne => ?_, fun c' => ?_, fun id hid => ?_⟩
  · change I c' ⟨update m.cpus c after.scheduler c', after.task⟩
    by_cases hc : c' = c
    · subst hc
      rw [hself]
      exact hkept.inv
    · rw [hother c' hc]
      exact hlocal.cpu (h.cpu c') fun j hj => hkept.frame j (hfar c' hc j hj)
  · change Disjoint (update m.cpus c after.scheduler c').tasks (update m.cpus c after.scheduler c'').tasks
    have hapart : ∀ d, d ≠ c → Disjoint after.scheduler.tasks (m.cpus d).tasks := fun d hd =>
      disjoint_left.2 fun id hid hid' => hfar d hd id hid' (hkept.within hid)
    by_cases hc : c' = c
    · subst hc
      rw [hself, hother c'' hne.symm]
      exact hapart c'' hne.symm
    · by_cases hc' : c'' = c
      · subst hc'
        rw [hself, hother c' hc]
        exact (hapart c' hc).symm
      · rw [hother c' hc, hother c'' hc']
        exact h.tables c' c'' hne
  · change Disjoint pending (update m.cpus c after.scheduler c').tasks
    by_cases hc : c' = c
    · subst hc
      rwa [hself]
    · rw [hother c' hc]
      refine disjoint_left.2 fun id hid hid' => ?_
      rcases hpending id hid with ⟨hwaits, -⟩ | ⟨hown, -⟩
      · exact disjoint_left.1 (h.pending c') hwaits hid'
      · exact disjoint_left.1 (h.tables c' c hc) hid' hown
  · change J (after.task id)
    rcases hpending id hid with ⟨hwaits, hout⟩ | ⟨-, hin⟩
    · exact hlocal.pending (h.incoming id hwaits) (hkept.frame id hout)
    · exact hin

/-- An operation that keeps to the CPU's own tasks. -/
lemma Owned.put_own (hkept : Kept I Same m c (m.cpus c).tasks after) : Owned I J (m.put c after) :=
  h.put hlocal hkept (fun _ hid => .inl hid) ((h.pending c).mono_right hkept.within)
    fun _ hid => .inl ⟨hid, fun hmem => disjoint_left.1 (h.pending c) hid hmem⟩

/-- A pending task enters the CPU's table, or one that is there already is admitted once more. -/
lemma Owned.admitTask {id : TaskId} (hid : id ∈ m.pending ∨ id ∈ (m.cpus c).tasks)
    (hkept : ∀ scope, (m.cpus c).tasks ⊆ scope → id ∈ scope →
      (id ∉ (m.cpus c).tasks → J (m.task id)) → Kept I Same m c scope ((m.cpu c).admitTask id)) :
    Owned I J (m.step (.admitTask c id)) := by
  by_cases hin : id ∈ (m.cpus c).tasks
  · have hwaits : id ∉ m.pending := fun hmem => disjoint_left.1 (h.pending c) hmem hin
    simp only [step, erase_eq_of_notMem hwaits]
    exact h.put_own hlocal (hkept _ subset_rfl hin fun hnot => absurd hin hnot)
  · have hwaits := hid.resolve_right hin
    have hkept := hkept (insert id (m.cpus c).tasks) (subset_insert _ _)
      (mem_insert_self _ _) fun _ => h.incoming id hwaits
    have hout : ∀ j ∈ m.pending.erase id, j ∉ insert id (m.cpus c).tasks := by
      intro j hj hmem
      rcases mem_insert.1 hmem with rfl | hmem
      · exact notMem_erase j _ hj
      · exact disjoint_left.1 (h.pending c) (mem_of_mem_erase hj) hmem
    refine h.put hlocal hkept (fun j hj => ?_) ?_
      fun j hj => .inl ⟨mem_of_mem_erase hj, hout j hj⟩
    · rcases mem_insert.1 hj with rfl | hj
      · exact .inr hwaits
      · exact .inl hj
    · exact disjoint_left.2 fun j hj hj' => hout j hj (hkept.within hj')

/-- A task that is taken from the CPU's table becomes pending. -/
lemma Owned.takeMigratable {now : Instant} {threshold : Duration} {policy : MigrationPolicy}
    (hkept : Kept I Same m c (m.cpus c).tasks ((m.cpu c).takeMigratable now threshold policy).2)
    (hin : ∀ id, ((m.cpu c).takeMigratable now threshold policy).1 = some id →
      J (((m.cpu c).takeMigratable now threshold policy).2.task id)) :
    Owned I J (m.step (.takeMigratable c now threshold policy)) := by
  cases htaken : ((m.cpu c).takeMigratable now threshold policy).1 with
  | none =>
    simp only [step, htaken, Option.elim_none]
    exact h.put_own hlocal hkept
  | some id =>
    obtain ⟨-, hid, htasks, -⟩ := Cpu.takeMigratable_eq_some htaken
    simp only [step, htaken, Option.elim_some]
    refine h.put hlocal hkept (fun _ hj => .inl hj) ?_ fun j hj => ?_
    · rw [htasks, disjoint_insert_left]
      exact ⟨notMem_erase id _, (h.pending c).mono_right (erase_subset _ _)⟩
    · rcases mem_insert.1 hj with rfl | hj
      · exact .inr ⟨hid, hin j htaken⟩
      · exact .inl ⟨hj, fun hmem => disjoint_left.1 (h.pending c) hj hmem⟩

lemma Owned.touch {id : TaskId} {execution : TaskExecution} {placement : TaskPlacement}
    (hsame : Same (m.task id) { m.task id with execution := execution, placement := placement }) :
    Owned I J (m.step (.touch id execution placement)) := by
  have hall : ∀ j, Same (m.task j) ((m.step (.touch id execution placement)).task j) := by
    intro j
    by_cases hne : j = id
    · subst hne
      simpa only [step, update_self] using hsame
    · simpa only [step, update_of_ne hne] using hlocal.refl (m.task j)
  exact {
    cpu := fun c => hlocal.cpu (h.cpu c) fun j _ => hall j
    tables := h.tables
    pending := h.pending
    incoming := fun j hj => hlocal.pending (h.incoming j hj) (hall j) }

lemma Owned.spawn {id weight : Nat} {slice : Duration}
    {kernelStack : VmRange} (hfresh : id ∉ m.pending ∧ ∀ c, id ∉ (m.cpus c).tasks)
    (hnew : J (.new weight slice kernelStack)) :
    Owned I J (m.step (.spawn id weight slice kernelStack)) where
  cpu c := hlocal.cpu (h.cpu c) fun j hj => by
    have hne : j ≠ id := fun heq => hfresh.2 c (heq ▸ hj)
    simpa only [step, update_of_ne hne] using hlocal.refl (m.task j)
  tables := h.tables
  pending c := disjoint_insert_left.2 ⟨hfresh.2 c, h.pending c⟩
  incoming j hj := by
    by_cases hne : j = id
    · subst hne
      simpa only [step, update_self] using hnew
    · simpa only [step, update_of_ne hne] using
        h.incoming j (mem_of_mem_insert_of_ne hj hne)

end

end

end Owned

/-! ## The run queues are in step -/

/-- `fit` and `strict` name the CPUs whose weights fit and whose departures do not lower `vtime`. -/
def Consistent (fit strict : Fin n → Prop) : Machine n → Prop :=
  Owned (fun c cpu => cpu.RunQueue ⟨fit c, strict c, cpu.scheduler.tasks, cpu.task⟩ none)
    fun task => Cpu.Incoming task ∧ task.sched.InRange

variable {fit strict : Fin n → Prop} {m : Machine n} {c : Fin n}

lemma runQueue_local (fit strict : Fin n → Prop) :
    Local (fun c cpu => cpu.RunQueue ⟨fit c, strict c, cpu.scheduler.tasks, cpu.task⟩ none)
      (fun task => Cpu.Incoming task ∧ task.sched.InRange) Task.SameSched where
  refl _ := ⟨rfl, rfl⟩
  cpu h hsame := h.relocate hsame
  pending h hsame := by
    obtain ⟨⟨hexec, halive, hvruntime⟩, hrange⟩ := h
    obtain ⟨hstate, hsched⟩ := hsame
    exact ⟨⟨hsched ▸ hexec, hstate ▸ halive, hsched ▸ hvruntime⟩, hsched ▸ hrange⟩

lemma new_consistent (fit strict : Fin n → Prop) : Consistent fit strict (.new n) where
  cpu c := Cpu.RunQueue.empty c _
  tables _ _ _ := disjoint_empty_left _
  pending _ := disjoint_empty_left _
  incoming _ hid := absurd hid (notMem_empty _)

lemma kept_of_runQueue {scope : Finset TaskId} {after : Cpu}
    (h : after.RunQueue ⟨fit c, strict c, scope, m.task⟩ none) :
    Kept (fun c cpu => cpu.RunQueue ⟨fit c, strict c, cpu.scheduler.tasks, cpu.task⟩ none) Task.SameSched
      m c scope after :=
  ⟨h.relocate fun _ _ => ⟨rfl, rfl⟩, h.within, h.frame⟩

lemma Consistent.put_own (h : Consistent fit strict m) {after : Cpu}
    (hqueue : after.RunQueue ⟨fit c, strict c, (m.cpus c).tasks, m.task⟩ none) :
    Consistent fit strict (m.put c after) :=
  Owned.put_own (runQueue_local fit strict) h (kept_of_runQueue hqueue)

/-- No departure of the operation moves the CPU's `vtime` back. -/
def KeepsVtime (m : Machine n) (c : Fin n) : Op n → Prop
  | .finalizeCurrentBoundary c' rsp action now =>
    c' = c → ∀ id ∈ (m.cpu c).leaving rsp action, ¬ ((m.cpu c).atBoundary id now).Lowers id
  | .takeMigratable c' now threshold policy =>
    c' = c → ∀ id ∈ ((m.cpu c).extractMigratableTask now threshold (policy = .balanceRequest)).1,
      ¬ (m.cpu c).Lowers id
  | _ => True

instance (m : Machine n) (c : Fin n) (op : Op n) : Decidable (m.KeepsVtime c op) := by
  cases op <;> unfold KeepsVtime <;> infer_instance

lemma Consistent.step (h : Consistent fit strict m) {op : Op n} (hallowed : m.Allowed op)
    (hfits : ∀ c, fit c → (m.cpu c).load < 2 ^ 64) (hkeeps : ∀ c, strict c → m.KeepsVtime c op) :
    Consistent fit strict (m.step op) := by
  have hlocal := runQueue_local fit strict
  cases op with
  | spawn id weight slice kernelStack =>
    refine Owned.spawn hlocal h hallowed ⟨⟨rfl, rfl, ?_⟩, ⟨le_rfl, ?_, ?_, le_rfl⟩⟩ <;> simp [Task.new]
  | admitTask c id =>
    exact Owned.admitTask hlocal h hallowed fun scope hsub hid hnew =>
      kept_of_runQueue (((h.cpu c).widen hsub).admitTask hid fun hnot => (hnew hnot).1)
  | enqueueWakeup c id => exact h.put_own ((h.cpu c).enqueueWakeup id)
  | drainWakeups c fuel => exact h.put_own ((h.cpu c).drainWakeups fuel)
  | onTick c fuel now => exact h.put_own ((h.cpu c).onTick fuel now)
  | takeNext c now => exact h.put_own ((h.cpu c).takeNext hallowed now)
  | finalizeCurrentBoundary c rsp action now =>
    exact h.put_own ((h.cpu c).finalizeCurrentBoundary rsp action now (hfits c)
      fun hstrict => hkeeps c hstrict rfl)
  | savePreemptedCurrent c rsp now => exact h.put_own ((h.cpu c).savePreemptedCurrent rsp now)
  | takeMigratable c now threshold policy =>
    exact Owned.takeMigratable hlocal h (kept_of_runQueue ((h.cpu c).takeMigratable now threshold policy
      (hfits c) fun hstrict => hkeeps c hstrict rfl)) fun id => (h.cpu c).incoming_of_takeMigratable
  | removeTask c id => exact h.put_own ((h.cpu c).removeTask hallowed)
  | touch id execution placement => exact Owned.touch hlocal h ⟨rfl, rfl⟩

end Machine

/-! ## The run queue of one CPU -/

/-- What a scheduler's trees have to do with the tasks in its table. -/
structure Cpu.InStep (cpu : Cpu) : Prop where
  linked_once : ∀ id ∈ cpu.scheduler.tasks, (cpu.task id).isReady = true →
    cpu.scheduler.current ≠ some id →
    cpu.scheduler.eligible.ids.count id + cpu.scheduler.ineligible.ids.count id = 1
  current_unlinked : ∀ id, cpu.scheduler.current = some id →
    id ∉ cpu.scheduler.eligible.ids ∧ id ∉ cpu.scheduler.ineligible.ids
  blocked_unlinked : ∀ id, (cpu.task id).isReady = false →
    id ∉ cpu.scheduler.eligible.ids ∧ id ∉ cpu.scheduler.ineligible.ids
  exec_start : ∀ id ∈ cpu.scheduler.tasks,
    (cpu.task id).sched.execStart.isSome = true ↔ cpu.scheduler.current = some id
  window : ∀ id ∈ cpu.scheduler.tasks, (cpu.task id).sched.veligible ≤ (cpu.task id).sched.vdeadline
  eligible_key : ∀ node ∈ cpu.scheduler.eligible, node.1 = (cpu.task node.2).sched.vdeadline
  ineligible_key : ∀ node ∈ cpu.scheduler.ineligible, node.1 = (cpu.task node.2).sched.veligible

lemma Cpu.RunQueue.inStep {terms : Terms} {cpu : Cpu} (h : RunQueue terms cpu none) : cpu.InStep where
  linked_once id hid hready hcurrent := by
    rw [← count_append]
    exact count_eq_one_of_mem h.nodup ((h.queued_iff id).2 ⟨hid, hready, hcurrent, by simp⟩)
  current_unlinked id hcurrent := by
    rw [← not_or, ← mem_append]
    exact fun hmem => ((h.queued_iff id).1 hmem).2.2.1 hcurrent
  blocked_unlinked id hblocked := by
    rw [← not_or, ← mem_append]
    exact fun hmem => absurd ((h.queued_iff id).1 hmem).2.1 (by simp [hblocked])
  exec_start id hid := h.exec_iff id hid (by simp)
  window id hid := (h.range id hid).window
  eligible_key := h.eligible_key
  ineligible_key := h.ineligible_key

namespace Machine

variable {n : Nat}

variable {ops : List (Op n)}

section

variable (hallowed : Meets step Allowed (new n) ops)
include hallowed

/-- Every run from empty schedulers is consistent, for any choice of the CPUs that are looked at more
closely. -/
lemma run_consistent {fit strict : Fin n → Prop}
    (hfits : Meets step (fun m _ => ∀ c, fit c → (m.cpu c).load < 2 ^ 64) (new n) ops)
    (hkeeps : Meets step (fun m op => ∀ c, strict c → m.KeepsVtime c op) (new n) ops) :
    Consistent fit strict (runOps step (new n) ops) :=
  run_invariant (fun _ _ h hok => h.step hok.1 hok.2.1 hok.2.2) (new_consistent fit strict)
    (hallowed.and (hfits.and hkeeps))

/-- What is asked of every step holds along every run. -/
lemma meets_of_forall {ok : Machine n → Op n → Prop} (hok : ∀ m op, ok m op) : Meets step ok (new n) ops :=
  Meets.upgrade (I := fun _ => True) (fun m op _ _ => ⟨hok m op, trivial⟩) trivial hallowed

lemma run_consistent_anyhow : Consistent (fun _ => False) (fun _ => False) (runOps step (new n) ops) :=
  run_consistent hallowed (meets_of_forall hallowed fun _ _ _ hfit => hfit.elim)
    (meets_of_forall hallowed fun _ _ _ hstrict => hstrict.elim)

/-- No task is in the tables of two CPUs, or in one and pending. -/
theorem run_one_place (c : Fin n) :
    let m : Machine n := runOps step (new n) ops
    Disjoint m.pending (m.cpus c).tasks ∧ ∀ c' ≠ c, Disjoint (m.cpus c').tasks (m.cpus c).tasks := by
  have h := run_consistent_anyhow hallowed
  exact ⟨h.pending c, fun c' hne => h.tables c' c hne⟩

end

/-- In every run, each CPU's trees are in step with its tasks, and as long as the weights of its ready
tasks have never passed 64 bits, `total_weight` is their sum. -/
theorem run_queue_in_step {ops : List (Op n)} (hallowed : Meets step Allowed (new n) ops) (c : Fin n) :
    ((runOps step (new n) ops).cpu c).InStep ∧
      (Meets step (fun m _ => (m.cpu c).load < 2 ^ 64) (new n) ops →
        ((runOps step (new n) ops).cpu c).load < 2 ^ 64 →
        ((runOps step (new n) ops).cpus c).totalWeight = ((runOps step (new n) ops).cpu c).load) := by
  refine ⟨((run_consistent_anyhow hallowed).cpu c).inStep, fun hfits hlast => ?_⟩
  have hmeasured : Consistent (fun c' => c' = c) (fun _ => False) (runOps step (new n) ops) := by
    refine run_consistent hallowed ?_ (meets_of_forall hallowed fun _ _ _ hstrict => hstrict.elim)
    exact Meets.upgrade (I := fun _ => True) (fun m op _ hfit => ⟨fun c' heq => heq ▸ hfit, trivial⟩)
      trivial hfits
  exact (hmeasured.cpu c).weight rfl hlast

/-- A kernel stack of a page. -/
def oneStack : VmRange := ⟨0x1000, 0x2000, by decide⟩

/-- Two tasks on two CPUs: one runs, blocks, is woken and then moved to the other CPU. -/
def wakeAndMigrate : List (Op 2) :=
  let stack := oneStack
  let runnable := ⟨true, none, none, .async, false⟩
  let placement := ⟨true, true, true, 0, 0⟩
  [.spawn 1 1024 (.fromMillis 4) stack, .touch 1 runnable placement, .admitTask 0 1,
    .spawn 2 1024 (.fromMillis 4) stack, .touch 2 runnable placement, .admitTask 0 2,
    .takeNext 0 ⟨1, 0⟩, .onTick 0 0 ⟨1, 10⟩,
    .finalizeCurrentBoundary 0 0x1800 (.outcome .blocked) (some ⟨1, 20⟩),
    .enqueueWakeup 0 1, .drainWakeups 0 1, .takeMigratable 0 ⟨2, 0⟩ .zero .steal, .admitTask 1 2]

theorem run_queue_in_step_wakeAndMigrate : Meets step Allowed (new 2) wakeAndMigrate ∧
    ((runOps step (new 2) wakeAndMigrate).cpus 1).tasks = {2} ∧
    ((runOps step (new 2) wakeAndMigrate).cpu 0).InStep ∧
    ((runOps step (new 2) wakeAndMigrate).cpu 1).InStep :=
  have hallowed : Meets step Allowed (new 2) wakeAndMigrate := by decide +kernel
  ⟨hallowed, by decide +kernel, (run_queue_in_step hallowed 0).1, (run_queue_in_step hallowed 1).1⟩

theorem run_one_place_wakeAndMigrate : Disjoint ((runOps step (new 2) wakeAndMigrate).cpus 0).tasks
    ((runOps step (new 2) wakeAndMigrate).cpus 1).tasks :=
  (run_one_place (by decide +kernel) 1).2 0 (by decide)

end Machine

/-! ## Lag across a migration -/

namespace Cpu

variable {cpu : Cpu} {id : TaskId}

/-- How far the clock is from the task's turn; 0 if the task is eligible. -/
def waiting (cpu : Cpu) (id : TaskId) : Nat := (cpu.task id).sched.veligible - cpu.scheduler.vtime

lemma insertRunnablePointer_waiting (hid : id ∈ cpu.scheduler.tasks) (ready : TaskReadyState) :
    (cpu.insertRunnablePointer id ready).waiting id = (cpu.task id).sched.vruntime - cpu.scheduler.vtime := by
  have hlink : ∀ c : Cpu, (c.linkRunnable id).waiting id = c.waiting id := by
    intro c
    unfold linkRunnable
    dsimp only
    split <;> rfl
  have hready : ∀ (c : Cpu) (state : TaskState), state.sched.isReady = true →
      (c.transitionTaskState id state).scheduler.vtime = c.scheduler.vtime := by
    intro c state hstate
    unfold transitionTaskState
    cases (c.task id).isReady <;> simp only [hstate] <;> rfl
  rw [insertRunnablePointer, if_pos hid, hlink, waiting]
  show _ - (transitionTaskState _ id _).scheduler.vtime = _
  rw [hready _ _ (by simp)]
  simp only [markReady_self, transitionTaskState_self, refreshDeadlines, setSchedMeta_self,
    setSchedMeta_scheduler, EevdfParams.eligible]
  omega

/-- A task that enters a table waits until the clock has reached its runtime. -/
lemma admitTask_waiting (hid : id ∉ cpu.scheduler.tasks) :
    (cpu.admitTask id).waiting id = (cpu.task id).sched.vruntime - cpu.scheduler.vtime := by
  have hentered : ((cpu.enroll id).task id).sched.vruntime = (cpu.task id).sched.vruntime := by
    simp [enroll, refreshDeadlines]
  rw [← hentered, admitTask_eq hid]
  split
  · split
    · exact insertRunnablePointer_waiting (by simp [addRunnableWeight, enroll]) _
    · exact insertRunnablePointer_waiting (by simp [enroll]) _
  · simp only [waiting, enroll, refreshDeadlines, setSchedMeta_self, EevdfParams.eligible]
    omega

/-- A task that is moved has its turn no later than it would have had it exactly if the clock of the CPU it
comes to has at most as far to go to the task's runtime as the clock that it leaves had to its turn. The clocks
and the runtime are those before the move, in any state of the two CPUs. -/
theorem migration_keeps_lag_iff {now : Instant} {threshold : Duration} {policy : MigrationPolicy}
    {destination : Scheduler} (htaken : (cpu.takeMigratable now threshold policy).1 = some id)
    (hnew : id ∉ destination.tasks) :
    (admitTask ⟨destination, (cpu.takeMigratable now threshold policy).2.task⟩ id).waiting id ≤
        cpu.waiting id ↔
      (cpu.task id).sched.vruntime ≤ destination.vtime + cpu.waiting id := by
  obtain ⟨-, -, -, htask⟩ := takeMigratable_eq_some htaken
  rw [admitTask_waiting hnew, htask]
  exact Nat.sub_le_iff_le_add'

end Cpu

namespace Machine

/-- Two CPUs; the task of the first one has run for ten nanoseconds and is taken. -/
def ranOps : List (Op 2) :=
  [.spawn 1 1024 (.fromMillis 4) oneStack,
    .touch 1 ⟨true, none, none, .async, false⟩ ⟨true, true, true, 0, 0⟩, .admitTask 0 1, .takeNext 0 ⟨1, 0⟩,
    .savePreemptedCurrent 0 0x1800 (some ⟨1, 10⟩)]

theorem migration_keeps_lag_ranOps : ((runOps step (new 2) ranOps).cpus 0).vtime = 10 ∧
      (Cpu.admitTask ⟨{ Scheduler.new 1 with vtime := 12 },
        (((runOps step (new 2) ranOps).cpu 0).takeMigratable ⟨2, 0⟩ .zero .steal).2.task⟩ 1).waiting 1 ≤
        ((runOps step (new 2) ranOps).cpu 0).waiting 1 :=
  ⟨by decide +kernel, (Cpu.migration_keeps_lag_iff (by decide +kernel) (by decide +kernel)).2 (by decide +kernel)⟩

/-- The task is eligible where it is taken; on the other CPU, which has not run anything, it has to wait. -/
theorem migration_delays_turn : Meets step Allowed (new 2) ranOps ∧
      (((runOps step (new 2) ranOps).cpu 0).takeMigratable ⟨2, 0⟩ .zero .steal).1 = some 1 ∧
      ((runOps step (new 2) ranOps).cpu 0).waiting 1 = 0 ∧
      (Cpu.admitTask ⟨(runOps step (new 2) ranOps).cpus 1,
        (((runOps step (new 2) ranOps).cpu 0).takeMigratable ⟨2, 0⟩ .zero .steal).2.task⟩ 1).waiting 1 = 10 := by
  decide +kernel

end Machine

end Akarin.Sched
