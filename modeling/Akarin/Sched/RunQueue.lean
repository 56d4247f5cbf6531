/-
# Akarin.Sched.RunQueue -- what holds of a run queue between and within operations

`RunQueue` is the invariant of one scheduler and its tasks. Within an operation one task may be out:
no longer current, or already counted, but not linked yet. Everything an operation does is then a
change of the task that is out (`RunQueue.change_out`), or it takes a task out or puts it back, and
each operation is a chain of these.

Two clauses hold under a condition only, each behind a proposition of its own. `fit` adds that the
weight is the sum over the ready tasks, which needs a sum that fits at every departure. `strict` adds
that the tasks of the eligible tree are eligible, which only a departure that lowers `vtime` can break.
`scope` and `before` say which tasks the operation may write.
-/
import Akarin.Sched.Scheduler

namespace Akarin.Sched

open List
open Collections (DoubleLink LinkedList)

/-! ## Trees -/

instance : IsTrans (Nat × Nat) KeyLe := ⟨fun a b c hab hbc => by unfold KeyLe at *; omega⟩

instance : Std.Total KeyLe := ⟨fun a b => by unfold KeyLe; omega⟩

namespace RunTree

variable {tree : RunTree} {key : Nat} {id : TaskId} {node : Nat × Nat}

lemma mem_insert : node ∈ tree.insert key id ↔ node = (key, id) ∨ node ∈ tree :=
  mem_orderedInsert KeyLe

lemma ids_insert_perm (tree : RunTree) (key : Nat) (id : TaskId) :
    (tree.insert key id).ids.Perm (id :: tree.ids) :=
  (perm_orderedInsert KeyLe (key, id) tree).map Prod.snd

lemma mem_ids : id ∈ tree.ids ↔ ∃ key, (key, id) ∈ tree := by
  simp [ids]

lemma sorted_insert (h : tree.Pairwise KeyLe) : (tree.insert key id).Pairwise KeyLe :=
  h.orderedInsert (key, id) tree

end RunTree

open RunTree

/-- The virtual times are those of an eligible window, and they are `u128`s. -/
structure TaskSchedMeta.InRange (sched : TaskSchedMeta) : Prop where
  window : sched.veligible ≤ sched.vdeadline
  vdeadline_lt : sched.vdeadline < 2 ^ 128
  vruntime_lt : sched.vruntime < 2 ^ 128
  vruntime_le : sched.vruntime ≤ sched.veligible

lemma TaskSchedMeta.InRange.stamp {sched : TaskSchedMeta} (h : sched.InRange)
    {execStart : Option Instant} {execRuntime : Duration} :
    InRange { sched with execStart := execStart, execRuntime := execRuntime } :=
  ⟨h.window, h.vdeadline_lt, h.vruntime_lt, h.vruntime_le⟩

/-- State and scheduling data are as before. -/
structure Task.SameSched (task task' : Task) : Prop where
  state : task'.state = task.state
  sched : task'.sched = task.sched

/-- What a task adds to the runnable weight. -/
def Task.load (task : Task) : Nat := if task.isReady then task.weight else 0

variable {task task' : Task}

lemma Task.load_congr (hstate : task'.state = task.state)
    (hweight : task'.sched.weight = task.sched.weight) : task'.load = task.load := by
  unfold load isReady weight
  rw [hstate, hweight]

lemma Task.SameSched.load (h : task.SameSched task') : task'.load = task.load :=
  load_congr h.state (congrArg TaskSchedMeta.weight h.sched)

lemma Task.SameSched.trans {a b c : Task} (h : a.SameSched b) (h' : b.SameSched c) : a.SameSched c :=
  ⟨h'.state.trans h.state, h'.sched.trans h.sched⟩

namespace Cpu

variable {cpu cpu' : Cpu} {id : TaskId}

/-! ## The runnable weight -/

/-- The sum of the weights of the ready tasks. -/
def load (cpu : Cpu) : Nat := ∑ id ∈ cpu.scheduler.tasks, (cpu.task id).load

lemma load_congr (htasks : cpu'.scheduler.tasks = cpu.scheduler.tasks)
    (hload : ∀ j ∈ cpu.scheduler.tasks, (cpu'.task j).load = (cpu.task j).load) :
    cpu'.load = cpu.load := by
  unfold load
  rw [htasks]
  exact Finset.sum_congr rfl hload

lemma load_change (hid : id ∈ cpu.scheduler.tasks) (htasks : cpu'.scheduler.tasks = cpu.scheduler.tasks)
    (hother : ∀ j, j ≠ id → (cpu'.task j).load = (cpu.task j).load) :
    cpu'.load + (cpu.task id).load = cpu.load + (cpu'.task id).load := by
  unfold load
  rw [htasks, ← Finset.add_sum_erase _ _ hid, ← Finset.add_sum_erase _ (fun j => (cpu.task j).load) hid]
  have hrest : ∑ j ∈ cpu.scheduler.tasks.erase id, (cpu'.task j).load
      = ∑ j ∈ cpu.scheduler.tasks.erase id, (cpu.task j).load :=
    Finset.sum_congr rfl fun j hj => hother j (Finset.ne_of_mem_erase hj)
  omega

/-! ## The invariant -/

/-- The tasks linked in the trees. -/
def queued (cpu : Cpu) : List TaskId := cpu.scheduler.eligible.ids ++ cpu.scheduler.ineligible.ids

/-- What the invariant holds under, and what the operation may write. -/
structure Terms where
  fit : Prop
  strict : Prop
  scope : Finset TaskId
  before : TaskId → Task

/-- Scheduler and tasks are in step, except for the task that is out. -/
structure RunQueue (terms : Terms) (cpu : Cpu) (out : Option TaskId) : Prop where
  nodup : cpu.queued.Nodup
  queued_iff : ∀ id, id ∈ cpu.queued ↔ id ∈ cpu.scheduler.tasks ∧ (cpu.task id).isReady = true ∧
    cpu.scheduler.current ≠ some id ∧ out ≠ some id
  current_mem : ∀ id, cpu.scheduler.current = some id →
    id ∈ cpu.scheduler.tasks ∧ (cpu.task id).isReady = true ∧ out ≠ some id
  out_mem : ∀ id, out = some id → id ∈ cpu.scheduler.tasks
  exec_iff : ∀ id ∈ cpu.scheduler.tasks, out ≠ some id →
    ((cpu.task id).sched.execStart.isSome = true ↔ cpu.scheduler.current = some id)
  alive : ∀ id ∈ cpu.scheduler.tasks, out ≠ some id → (cpu.task id).state.terminal = none
  range : ∀ id ∈ cpu.scheduler.tasks, (cpu.task id).sched.InRange
  vtime_lt : cpu.scheduler.vtime < 2 ^ 128
  eligible_key : ∀ node ∈ cpu.scheduler.eligible, node.1 = (cpu.task node.2).sched.vdeadline
  ineligible_key : ∀ node ∈ cpu.scheduler.ineligible, node.1 = (cpu.task node.2).sched.veligible
  eligible_sorted : cpu.scheduler.eligible.Pairwise KeyLe
  ineligible_sorted : cpu.scheduler.ineligible.Pairwise KeyLe
  timely : terms.strict → ∀ node ∈ cpu.scheduler.eligible,
    (cpu.task node.2).sched.veligible ≤ cpu.scheduler.vtime
  weight : terms.fit → cpu.load < 2 ^ 64 → cpu.scheduler.totalWeight = cpu.load
  within : cpu.scheduler.tasks ⊆ terms.scope
  frame : ∀ id, id ∉ terms.scope → (terms.before id).SameSched (cpu.task id)

variable {terms : Terms} {out : Option TaskId}

lemma mem_queued : id ∈ cpu.queued ↔
    (∃ key, (key, id) ∈ cpu.scheduler.eligible) ∨ ∃ key, (key, id) ∈ cpu.scheduler.ineligible := by
  rw [queued, mem_append, mem_ids, mem_ids]

variable {node : Nat × Nat} {j : TaskId} {scope : Finset TaskId}

lemma mem_queued_of_eligible (h : node ∈ cpu.scheduler.eligible) : node.2 ∈ cpu.queued :=
  mem_queued.2 (.inl ⟨node.1, h⟩)

lemma mem_queued_of_ineligible (h : node ∈ cpu.scheduler.ineligible) : node.2 ∈ cpu.queued :=
  mem_queued.2 (.inr ⟨node.1, h⟩)

/-- The task that is out is in no tree. -/
lemma RunQueue.ne_of_queued (h : RunQueue terms cpu (some id)) (hj : j ∈ cpu.queued) : j ≠ id := by
  rintro rfl
  exact ((h.queued_iff j).1 hj).2.2.2 rfl

/-- The current task and the trees are as before. -/
structure SameQueue (cpu cpu' : Cpu) : Prop where
  current : cpu'.scheduler.current = cpu.scheduler.current
  eligible : cpu'.scheduler.eligible = cpu.scheduler.eligible
  ineligible : cpu'.scheduler.ineligible = cpu.scheduler.ineligible

lemma SameQueue.queued (h : SameQueue cpu cpu') : cpu'.queued = cpu.queued := by
  rw [Cpu.queued, Cpu.queued, h.eligible, h.ineligible]

/-- The trees and the current task are as before, and so is every task that is in the table and not out.
Another task may be out now, or none. -/
lemma RunQueue.transport (h : RunQueue terms cpu out) {before : TaskId → Task} {out' : Option TaskId}
    (hqueue : SameQueue cpu cpu')
    (hin : ∀ j, j ∈ cpu'.scheduler.tasks ∧ out' ≠ some j ↔ j ∈ cpu.scheduler.tasks ∧ out ≠ some j)
    (hsame : ∀ j ∈ cpu.scheduler.tasks, out ≠ some j → (cpu.task j).SameSched (cpu'.task j))
    (hout : ∀ j, out' = some j → j ∈ cpu'.scheduler.tasks ∧ (cpu'.task j).sched.InRange)
    (hvtime : cpu'.scheduler.vtime < 2 ^ 128)
    (hmono : terms.strict → cpu.scheduler.vtime ≤ cpu'.scheduler.vtime)
    (hweight : terms.fit → cpu'.load < 2 ^ 64 → cpu'.scheduler.totalWeight = cpu'.load)
    (hwithin : cpu'.scheduler.tasks ⊆ scope)
    (hframe : ∀ id, id ∉ scope → (before id).SameSched (cpu'.task id)) :
    RunQueue ⟨terms.fit, terms.strict, scope, before⟩ cpu' out' := by
  have ⟨hcurrent, heligible, hineligible⟩ := hqueue
  have hready : ∀ j ∈ cpu.scheduler.tasks, out ≠ some j →
      (cpu'.task j).isReady = (cpu.task j).isReady := fun j hj ho => by
    rw [Task.isReady, Task.isReady, (hsame j hj ho).1]
  have hnode : ∀ {j}, j ∈ cpu.queued → (cpu'.task j).sched = (cpu.task j).sched := fun hj => by
    obtain ⟨hmem, -, -, ho⟩ := (h.queued_iff _).1 hj
    exact (hsame _ hmem ho).2
  exact {
    nodup := hqueue.queued ▸ h.nodup
    queued_iff := fun j => by
      rw [hqueue.queued, hcurrent, h.queued_iff j]
      constructor
      · rintro ⟨hj, hr, hc, ho⟩
        obtain ⟨hj', ho'⟩ := (hin j).2 ⟨hj, ho⟩
        exact ⟨hj', (hready j hj ho).trans hr, hc, ho'⟩
      · rintro ⟨hj', hr, hc, ho'⟩
        obtain ⟨hj, ho⟩ := (hin j).1 ⟨hj', ho'⟩
        exact ⟨hj, (hready j hj ho).symm.trans hr, hc, ho⟩
    current_mem := fun j hj => by
      obtain ⟨hmem, hr, ho⟩ := h.current_mem j (hcurrent ▸ hj)
      obtain ⟨hmem', ho'⟩ := (hin j).2 ⟨hmem, ho⟩
      exact ⟨hmem', (hready j hmem ho).trans hr, ho'⟩
    out_mem := fun j hj => (hout j hj).1
    exec_iff := fun j hj ho => by
      obtain ⟨hj, ho⟩ := (hin j).1 ⟨hj, ho⟩
      rw [(hsame j hj ho).2, hcurrent]
      exact h.exec_iff j hj ho
    alive := fun j hj ho => by
      obtain ⟨hj, ho⟩ := (hin j).1 ⟨hj, ho⟩
      rw [(hsame j hj ho).1]
      exact h.alive j hj ho
    range := fun j hj => by
      by_cases ho : out' = some j
      · exact (hout j ho).2
      · obtain ⟨hj, ho⟩ := (hin j).1 ⟨hj, ho⟩
        rw [(hsame j hj ho).2]
        exact h.range j hj
    vtime_lt := hvtime
    eligible_key := fun node hmem => by
      rw [heligible] at hmem
      rw [hnode (mem_queued_of_eligible hmem)]
      exact h.eligible_key node hmem
    ineligible_key := fun node hmem => by
      rw [hineligible] at hmem
      rw [hnode (mem_queued_of_ineligible hmem)]
      exact h.ineligible_key node hmem
    eligible_sorted := heligible ▸ h.eligible_sorted
    ineligible_sorted := hineligible ▸ h.ineligible_sorted
    timely := fun hstrict node hmem => by
      rw [heligible] at hmem
      rw [hnode (mem_queued_of_eligible hmem)]
      exact (h.timely hstrict node hmem).trans (hmono hstrict)
    weight := hweight
    within := hwithin
    frame := hframe }

/-- The weight is right as long as neither it nor the load has changed. -/
lemma RunQueue.weighed (h : RunQueue terms cpu out) (hload : cpu'.load = cpu.load) (hfit : terms.fit)
    (hfits : cpu'.load < 2 ^ 64) (htotal : cpu'.scheduler.totalWeight = cpu.scheduler.totalWeight := by rfl) :
    cpu'.scheduler.totalWeight = cpu'.load := by
  rw [hload] at hfits ⊢
  exact htotal.trans (h.weight hfit hfits)

/-- Nothing the invariant speaks of has changed. -/
lemma RunQueue.quiet (h : RunQueue terms cpu out)
    (hscheduler : { cpu'.scheduler with wakeInbox := cpu.scheduler.wakeInbox } = cpu.scheduler)
    (htask : ∀ j, (cpu.task j).SameSched (cpu'.task j)) : RunQueue terms cpu' out := by
  obtain ⟨⟨cpuId, current, vtime, total, tasks, eligible, ineligible, inbox⟩, task⟩ := cpu
  obtain ⟨⟨cpuId', current', vtime', total', tasks', eligible', ineligible', inbox'⟩, task'⟩ := cpu'
  simp only [Scheduler.mk.injEq, and_true] at hscheduler
  obtain ⟨rfl, rfl, rfl, rfl, rfl, rfl, rfl⟩ := hscheduler
  have hload : load ⟨⟨cpuId', current', vtime', total', tasks', eligible', ineligible', inbox'⟩, task'⟩
      = load ⟨⟨cpuId', current', vtime', total', tasks', eligible', ineligible', inbox⟩, task⟩ :=
    load_congr rfl fun j _ => (htask j).load
  refine h.transport ⟨rfl, rfl, rfl⟩ (fun _ => Iff.rfl) (fun j _ _ => htask j) (fun j hj => ?_) h.vtime_lt
    (fun _ => le_rfl) (h.weighed hload) h.within fun j hj => (h.frame j hj).trans (htask j)
  exact ⟨h.out_mem j hj, (htask j).2 ▸ h.range j (h.out_mem j hj)⟩

lemma RunQueue.empty {fit strict : Prop} (cpuId : Nat) (task : TaskId → Task) :
    RunQueue ⟨fit, strict, ∅, task⟩ ⟨.new cpuId, task⟩ none := by
  refine ⟨nodup_nil, fun id => ?_, ?_, ?_, ?_, ?_, ?_, ?_, ?_, ?_, .nil, .nil, ?_, ?_, ?_, ?_⟩
  · simp [Cpu.queued, Scheduler.new, ids]
  case refine_13 => exact fun _ _ => ⟨rfl, rfl⟩
  all_goals simp [Scheduler.new, load]

/-- The operation may write more tasks. -/
lemma RunQueue.widen (h : RunQueue terms cpu out)
    (hscope : terms.scope ⊆ scope) : RunQueue { terms with scope := scope } cpu out :=
  { h with
    within := h.within.trans hscope
    frame := fun id hid => h.frame id fun hmem => hid (hscope hmem) }

/-- Between operations only the tasks of the table matter. -/
lemma RunQueue.relocate (h : RunQueue terms cpu none) {task : TaskId → Task}
    (htask : ∀ j ∈ cpu.scheduler.tasks, (cpu.task j).SameSched (task j)) :
    RunQueue ⟨terms.fit, terms.strict, cpu.scheduler.tasks, task⟩ ⟨cpu.scheduler, task⟩ none := by
  have hload : load ⟨cpu.scheduler, task⟩ = cpu.load := load_congr rfl fun j hj => (htask j hj).load
  exact h.transport ⟨rfl, rfl, rfl⟩ (fun _ => Iff.rfl) (fun j hj _ => htask j hj) (by simp) h.vtime_lt
    (fun _ => le_rfl) (h.weighed hload) subset_rfl fun _ _ => ⟨rfl, rfl⟩

/-- Only the task that is out, `vtime` and the weight have changed. -/
lemma RunQueue.change_out (h : RunQueue terms cpu (some id))
    (htasks : cpu'.scheduler.tasks = cpu.scheduler.tasks) (hqueue : SameQueue cpu cpu')
    (hother : ∀ j, j ≠ id → cpu'.task j = cpu.task j) (hrange : (cpu'.task id).sched.InRange)
    (hvtime : cpu'.scheduler.vtime < 2 ^ 128)
    (hmono : terms.strict → cpu.scheduler.vtime ≤ cpu'.scheduler.vtime)
    (hweight : terms.fit → cpu'.load < 2 ^ 64 → cpu'.scheduler.totalWeight = cpu'.load) :
    RunQueue terms cpu' (some id) := by
  have hid : id ∈ cpu.scheduler.tasks := h.out_mem id rfl
  refine h.transport hqueue (fun j => by rw [htasks]) (fun j _ hne => ?_) (fun j hj => ?_) hvtime hmono
    hweight (htasks ▸ h.within) fun j hj => ?_
  · rw [hother j fun heq => hne (congrArg some heq.symm)]
    exact ⟨rfl, rfl⟩
  · cases hj
    exact ⟨htasks ▸ hid, hrange⟩
  · rw [hother j fun heq => hj (heq ▸ h.within hid)]
    exact h.frame j hj

/-! ## Changing the task that is out -/

@[simp] lemma modifyTask_scheduler (cpu : Cpu) (id : TaskId) (f : Task → Task) :
    (cpu.modifyTask id f).scheduler = cpu.scheduler := rfl

@[simp] lemma modifyTask_self (cpu : Cpu) (id : TaskId) (f : Task → Task) :
    (cpu.modifyTask id f).task id = f (cpu.task id) := by
  simp [modifyTask]

lemma modifyTask_other (cpu : Cpu) (f : Task → Task) (hne : j ≠ id) :
    (cpu.modifyTask id f).task j = cpu.task j := by
  simp [modifyTask, hne]

lemma modifyTask_quiet (cpu : Cpu) (id : TaskId) {f : Task → Task}
    (hf : ∀ task : Task, task.SameSched (f task)) (j : TaskId) :
    (cpu.task j).SameSched ((cpu.modifyTask id f).task j) := by
  by_cases hne : j = id
  · subst hne
    rw [modifyTask_self]
    exact hf (cpu.task j)
  · rw [modifyTask_other cpu f hne]
    exact ⟨rfl, rfl⟩

section

variable (h : RunQueue terms cpu out)
include h

lemma RunQueue.modifyExecution (id : TaskId)
    (f : TaskExecution → TaskExecution) : RunQueue terms (cpu.modifyExecution id f) out :=
  h.quiet rfl (modifyTask_quiet cpu id fun _ => ⟨rfl, rfl⟩)

lemma RunQueue.modifyPlacement (id : TaskId)
    (f : TaskPlacement → TaskPlacement) : RunQueue terms (cpu.modifyPlacement id f) out :=
  h.quiet rfl (modifyTask_quiet cpu id fun _ => ⟨rfl, rfl⟩)

lemma RunQueue.setWakeQueued (id : TaskId) (queued : Bool) :
    RunQueue terms (cpu.setWakeQueued id queued) out :=
  h.quiet rfl (modifyTask_quiet cpu id fun _ => ⟨rfl, rfl⟩)

lemma RunQueue.setInbox (inbox : (TaskId → DoubleLink TaskId) × LinkedList TaskId) :
    RunQueue terms (cpu.setInbox inbox) out :=
  h.quiet rfl fun _ => ⟨rfl, rfl⟩

end

section

variable (h : RunQueue terms cpu (some id))
include h

variable {sched : TaskSchedMeta}

section

variable (hweight : sched.weight = (cpu.task id).sched.weight)
include hweight

lemma RunQueue.setSchedMeta_out
    (hrange : sched.InRange) : RunQueue terms (cpu.setSchedMeta id sched) (some id) := by
  have hload : (cpu.setSchedMeta id sched).load = cpu.load := by
    refine load_congr rfl fun j _ => ?_
    by_cases hne : j = id
    · subst hne
      exact Task.load_congr (by simp [setSchedMeta]) (by simpa [setSchedMeta] using hweight)
    · rw [setSchedMeta, modifyTask_other cpu _ hne]
  refine h.change_out rfl ⟨rfl, rfl, rfl⟩ (fun j hne => modifyTask_other cpu _ hne) ?_ h.vtime_lt
    (fun _ => le_rfl) (h.weighed hload)
  simpa [setSchedMeta] using hrange

lemma RunQueue.refreshDeadlines_out (hvruntime : sched.vruntime < 2 ^ 128) :
    RunQueue terms (cpu.refreshDeadlines id sched) (some id) := by
  refine h.setSchedMeta_out hweight ⟨le_satAdd ?_, satAdd_lt 128 _ _, hvruntime, le_max_left _ _⟩
  have hvtime := h.vtime_lt
  simp only [EevdfParams.eligible]
  omega

end

lemma RunQueue.clearExec_out : RunQueue terms (cpu.clearExec id) (some id) :=
  h.setSchedMeta_out rfl (h.range id (h.out_mem id rfl)).stamp

end

/-- The departure moves `vtime` back: the task is not eligible and others share its lag. -/
def Lowers (cpu : Cpu) (id : TaskId) : Prop :=
  cpu.scheduler.totalWeight - (cpu.task id).weight ≠ 0 ∧
    cpu.scheduler.vtime < (cpu.task id).sched.veligible
deriving Decidable

lemma adjustVtime_lt (hvtime : cpu.scheduler.vtime < 2 ^ 128) :
    (cpu.adjustVtimeForDeparture id).scheduler.vtime < 2 ^ 128 := by
  unfold adjustVtimeForDeparture
  dsimp only
  split
  · exact hvtime
  · dsimp only
    split
    · exact satAdd_lt 128 _ _
    · exact (Nat.sub_le _ _).trans_lt hvtime

lemma le_adjustVtime (hvtime : cpu.scheduler.vtime < 2 ^ 128) (hlow : ¬ cpu.Lowers id) :
    cpu.scheduler.vtime ≤ (cpu.adjustVtimeForDeparture id).scheduler.vtime := by
  unfold adjustVtimeForDeparture
  dsimp only
  split
  · exact le_rfl
  · rename_i hremaining
    have hle : (cpu.task id).sched.veligible ≤ cpu.scheduler.vtime := by
      by_contra hlt
      exact hlow ⟨hremaining, by omega⟩
    rw [if_pos hle]
    exact le_satAdd hvtime

/-- `adjust_vtime_for_departure` moves `vtime` only. -/
lemma adjustVtime_eq (cpu : Cpu) (id : TaskId) : cpu.adjustVtimeForDeparture id
    = { cpu with scheduler := { cpu.scheduler with
          vtime := (cpu.adjustVtimeForDeparture id).scheduler.vtime } } := by
  unfold adjustVtimeForDeparture
  dsimp only
  split <;> rfl

section

variable (h : RunQueue terms cpu (some id))
include h

variable {state : TaskState}

lemma RunQueue.transition_ready_out (hready : state.sched.isReady = true) :
    RunQueue terms (cpu.transitionTaskState id state) (some id) := by
  have hid := h.out_mem id rfl
  have hnow : ∀ c : Cpu, c.task = cpu.task →
      ((c.setState id state).task id).load = (cpu.task id).weight := by
    intro c hc
    simp [setState, Task.load, Task.isReady, hready, Task.weight, hc]
  have hsame : ∀ j, j ≠ id → (cpu.setState id state).task j = cpu.task j := fun j hne =>
    modifyTask_other cpu _ hne
  cases hwas : (cpu.task id).isReady with
  | true =>
    simp only [transitionTaskState, hwas, hready]
    have hload : (cpu.setState id state).load = cpu.load := by
      have hchange := @load_change cpu (cpu.setState id state) id hid rfl fun j hne => by
        rw [hsame j hne]
      rw [hnow cpu rfl, Task.load, if_pos hwas] at hchange
      omega
    refine h.change_out rfl ⟨rfl, rfl, rfl⟩ hsame ?_ h.vtime_lt (fun _ => le_rfl) (h.weighed hload)
    simpa [setState] using h.range id hid
  | false =>
    simp only [transitionTaskState, hwas, hready]
    have hchange := @load_change cpu ((cpu.addRunnableWeight id).setState id state) id hid rfl
      fun j hne => by rw [setState, modifyTask_other _ _ hne]; rfl
    rw [hnow (cpu.addRunnableWeight id) rfl, Task.load, if_neg (by simp [hwas])] at hchange
    refine h.change_out rfl ⟨rfl, rfl, rfl⟩ (fun j hne => modifyTask_other _ _ hne) ?_ h.vtime_lt
      (fun _ => le_rfl) fun hfit hfits => ?_
    · simpa [setState, addRunnableWeight] using h.range id hid
    · have htotal : ((cpu.addRunnableWeight id).setState id state).scheduler.totalWeight
          = satAdd 64 cpu.scheduler.totalWeight (cpu.task id).weight := rfl
      rw [htotal, h.weight hfit (by omega), satAdd_of_lt (by omega)]
      omega

lemma RunQueue.transition_blocked_out (hwas : (cpu.task id).isReady = true)
    (hblocked : state.sched.isReady = false) (hfits : terms.fit → cpu.load < 2 ^ 64)
    (hlow : terms.strict → ¬ cpu.Lowers id) :
    RunQueue terms (cpu.transitionTaskState id state) (some id) := by
  have hid := h.out_mem id rfl
  simp only [transitionTaskState, hwas, hblocked]
  rw [adjustVtime_eq]
  set moved : Cpu := { cpu with scheduler := { cpu.scheduler with
    vtime := (cpu.adjustVtimeForDeparture id).scheduler.vtime } }
  have hchange := @load_change cpu ((moved.subRunnableWeight id).setState id state) id hid rfl
    fun j hne => by rw [setState, modifyTask_other _ _ hne]; rfl
  have hnow : ((moved.subRunnableWeight id).setState id state).task id = { cpu.task id with state := state } := by
    simp [setState, subRunnableWeight, moved]
  rw [hnow, Task.load, if_pos hwas, Task.load, if_neg (by simp [Task.isReady, hblocked])] at hchange
  refine h.change_out rfl ⟨rfl, rfl, rfl⟩ (fun j hne => modifyTask_other _ _ hne) ?_ ?_ ?_ fun hfit _ => ?_
  · rw [hnow]
    exact h.range id hid
  · exact adjustVtime_lt h.vtime_lt
  · exact fun hstrict => le_adjustVtime h.vtime_lt (hlow hstrict)
  · have htotal : ((moved.subRunnableWeight id).setState id state).scheduler.totalWeight
        = cpu.scheduler.totalWeight - (cpu.task id).weight := rfl
    rw [htotal, h.weight hfit (hfits hfit)]
    omega

/-! ## Taking a task out and putting it back -/

lemma RunQueue.current_ne : cpu.scheduler.current ≠ some id :=
  fun hcurrent => (h.current_mem id hcurrent).2.2 rfl

end

/-- The current task is taken off the CPU. -/
lemma RunQueue.clear_current (h : RunQueue terms cpu none) (hcurrent : cpu.scheduler.current = some id) :
    RunQueue terms { cpu with scheduler := { cpu.scheduler with current := none } }
      (some id) := by
  refine { h with
    queued_iff := fun j => ?_
    current_mem := nofun
    out_mem := fun j hj => ?_
    exec_iff := fun j hj hout => ?_
    alive := fun j hj _ => h.alive j hj (by simp) }
  · refine (h.queued_iff j).trans ?_
    rw [hcurrent]
    simp
  · cases hj
    exact (h.current_mem id hcurrent).1
  · rw [h.exec_iff j hj (by simp), hcurrent]
    simpa using hout

/-- What is asked of a task that goes back into a tree. -/
structure Linkable (cpu : Cpu) (id : TaskId) : Prop where
  ready : (cpu.task id).isReady = true
  exec : (cpu.task id).sched.execStart = none
  alive : (cpu.task id).state.terminal = none

section

variable (h : RunQueue terms cpu (some id))
include h

/-! The clauses of the invariant that do not look at the trees, with the task back. -/

lemma RunQueue.exec_back (hexec : (cpu.task id).sched.execStart = none) : ∀ j ∈ cpu.scheduler.tasks,
    none ≠ some j → ((cpu.task j).sched.execStart.isSome = true ↔ cpu.scheduler.current = some j) := by
  intro j hj _
  by_cases hne : j = id
  · subst hne
    simpa [hexec] using h.current_ne
  · exact h.exec_iff j hj (by simpa using Ne.symm hne)

lemma RunQueue.alive_back (halive : (cpu.task id).state.terminal = none) : ∀ j ∈ cpu.scheduler.tasks,
    none ≠ some j → (cpu.task j).state.terminal = none := by
  intro j hj _
  by_cases hne : j = id
  · exact hne ▸ halive
  · exact h.alive j hj (by simpa using Ne.symm hne)

/-- A task that is blocked need not be linked. -/
lemma RunQueue.release (hblocked : (cpu.task id).isReady = false)
    (hexec : (cpu.task id).sched.execStart = none) (halive : (cpu.task id).state.terminal = none) :
    RunQueue terms cpu none := by
  refine { h with
    queued_iff := fun j => (h.queued_iff j).trans ?_
    current_mem := fun j hj => ⟨(h.current_mem j hj).1, (h.current_mem j hj).2.1, by simp⟩
    out_mem := nofun
    exec_iff := h.exec_back hexec
    alive := h.alive_back halive }
  by_cases hne : j = id
  · subst hne
    simp [hblocked]
  · simp [Ne.symm hne]

/-- The task that was out is in a tree. -/
lemma RunQueue.link (hlink : cpu.Linkable id) {eligible ineligible : RunTree}
    (hperm : (eligible.ids ++ ineligible.ids).Perm (id :: cpu.queued))
    (hkey : ∀ node ∈ eligible, node.1 = (cpu.task node.2).sched.vdeadline)
    (hkey' : ∀ node ∈ ineligible, node.1 = (cpu.task node.2).sched.veligible)
    (hsorted : eligible.Pairwise KeyLe) (hsorted' : ineligible.Pairwise KeyLe)
    (htimely : terms.strict → ∀ node ∈ eligible, (cpu.task node.2).sched.veligible ≤ cpu.scheduler.vtime) :
    RunQueue terms { cpu with scheduler := { cpu.scheduler with
      eligible := eligible, ineligible := ineligible } } none := by
  have hid : id ∉ cpu.queued := fun hmem => h.ne_of_queued hmem rfl
  refine { h with
    nodup := hperm.nodup_iff.2 (nodup_cons.2 ⟨hid, h.nodup⟩)
    queued_iff := fun j => ?_
    current_mem := fun j hj => ⟨(h.current_mem j hj).1, (h.current_mem j hj).2.1, by simp⟩
    out_mem := nofun
    exec_iff := h.exec_back hlink.exec
    alive := h.alive_back hlink.alive
    eligible_key := hkey
    ineligible_key := hkey'
    eligible_sorted := hsorted
    ineligible_sorted := hsorted'
    timely := htimely }
  refine hperm.mem_iff.trans ?_
  rw [mem_cons, h.queued_iff j]
  by_cases hne : j = id
  · subst hne
    simpa [hlink.ready, h.current_ne] using h.out_mem j rfl
  · simp [hne, Ne.symm hne]

lemma RunQueue.linkRunnable (hlink : cpu.Linkable id) : RunQueue terms (cpu.linkRunnable id) none := by
  unfold Cpu.linkRunnable
  dsimp only
  split
  · rename_i hle
    refine h.link hlink ((ids_insert_perm ..).append_right _) (fun node hnode => ?_) h.ineligible_key
      (sorted_insert h.eligible_sorted) h.ineligible_sorted fun hstrict node hnode => ?_
    · rcases mem_insert.1 hnode with rfl | hnode
      · rfl
      · exact h.eligible_key node hnode
    · rcases mem_insert.1 hnode with rfl | hnode
      · exact hle
      · exact h.timely hstrict node hnode
  · refine h.link hlink (((ids_insert_perm ..).append_left _).trans perm_middle) h.eligible_key
      (fun node hnode => ?_) h.eligible_sorted (sorted_insert h.ineligible_sorted) h.timely
    rcases mem_insert.1 hnode with rfl | hnode
    · rfl
    · exact h.ineligible_key node hnode

end

/-! ## Entering and leaving the table -/

/-- A task enters the table. -/
lemma RunQueue.enter (h : RunQueue terms cpu none) (hid : id ∉ cpu.scheduler.tasks)
    (hscope : id ∈ terms.scope) (htasks : cpu'.scheduler.tasks = insert id cpu.scheduler.tasks)
    (hqueue : SameQueue cpu cpu') (hvtime : cpu'.scheduler.vtime = cpu.scheduler.vtime)
    (hother : ∀ j, j ≠ id → cpu'.task j = cpu.task j) (hrange : (cpu'.task id).sched.InRange)
    (hweight : terms.fit → cpu'.load < 2 ^ 64 → cpu'.scheduler.totalWeight = cpu'.load) :
    RunQueue terms cpu' (some id) := by
  refine h.transport hqueue (fun j => ?_) (fun j hj _ => ?_) (fun j hj => ?_) (hvtime ▸ h.vtime_lt)
    (fun _ => hvtime ▸ le_rfl) hweight (htasks ▸ Finset.insert_subset hscope h.within) fun j hj => ?_
  · rw [htasks, Finset.mem_insert]
    by_cases hne : j = id
    · simp [hne, hid]
    · simp [hne, Ne.symm hne]
  · rw [hother j fun heq => hid (heq ▸ hj)]
    exact ⟨rfl, rfl⟩
  · cases hj
    exact ⟨htasks ▸ Finset.mem_insert_self _ _, hrange⟩
  · rw [hother j fun heq => hj (heq ▸ hscope)]
    exact h.frame j hj

/-- The task that is out leaves the table. -/
lemma RunQueue.drop (h : RunQueue terms cpu (some id))
    (htasks : cpu'.scheduler.tasks = cpu.scheduler.tasks.erase id) (hqueue : SameQueue cpu cpu')
    (hother : ∀ j, j ≠ id → (cpu.task j).SameSched (cpu'.task j)) (hvtime : cpu'.scheduler.vtime < 2 ^ 128)
    (hmono : terms.strict → cpu.scheduler.vtime ≤ cpu'.scheduler.vtime)
    (hweight : terms.fit → cpu'.load < 2 ^ 64 → cpu'.scheduler.totalWeight = cpu'.load) :
    RunQueue terms cpu' none := by
  have hne : ∀ {j}, some id ≠ some j → j ≠ id := fun hout heq => hout (congrArg some heq.symm)
  refine h.transport hqueue (fun j => ?_) (fun j _ hout => hother j (hne hout)) (by simp) hvtime hmono
    hweight (htasks ▸ (Finset.erase_subset id _).trans h.within) fun j hj => ?_
  · rw [htasks, Finset.mem_erase]
    by_cases hj : j = id
    · simp [hj]
    · simp [hj, Ne.symm hj]
  · exact (h.frame j hj).trans (hother j fun heq => hj (heq ▸ h.within (h.out_mem id rfl)))

lemma load_erase (hid : id ∈ cpu.scheduler.tasks)
    (htasks : cpu'.scheduler.tasks = cpu.scheduler.tasks.erase id)
    (hother : ∀ j, j ≠ id → (cpu.task j).SameSched (cpu'.task j)) :
    cpu'.load + (cpu.task id).load = cpu.load := by
  unfold load
  rw [htasks, ← Finset.add_sum_erase _ (fun j => (cpu.task j).load) hid, Nat.add_comm]
  congr 1
  exact Finset.sum_congr rfl fun j hj => (hother j (Finset.ne_of_mem_erase hj)).load

/-! ## Promotion -/

section Promotion

variable {task : TaskId → Task} {vtime : Nat} {ineligible eligible : RunTree}

lemma promote_perm (task : TaskId → Task) (vtime : Nat) (ineligible eligible : RunTree) :
    ((promote task vtime ineligible eligible).2.ids ++
      (promote task vtime ineligible eligible).1.ids).Perm (eligible.ids ++ ineligible.ids) := by
  fun_induction promote task vtime ineligible eligible with
  | case1 | case2 => exact .refl _
  | case3 _ id _ eligible _ ih =>
    refine ih.trans (((ids_insert_perm eligible _ id).append_right _).trans ?_)
    exact perm_middle.symm

/-- What stays ineligible is an end of the tree. -/
lemma promote_suffix (task : TaskId → Task) (vtime : Nat) (ineligible eligible : RunTree) :
    (promote task vtime ineligible eligible).1 <:+ ineligible := by
  fun_induction promote task vtime ineligible eligible with
  | case1 | case2 => exact suffix_rfl
  | case3 key id rest _ _ ih => exact ih.trans (suffix_cons (key, id) rest)

lemma promote_sorted (h : eligible.Pairwise KeyLe) :
    (promote task vtime ineligible eligible).2.Pairwise KeyLe := by
  fun_induction promote task vtime ineligible eligible with
  | case1 | case2 => exact h
  | case3 _ _ _ _ _ ih => exact ih (sorted_insert h)

variable {node : Nat × Nat}

/-- What the eligible tree holds has been there before or is eligible now. -/
lemma mem_promote (h : node ∈ (promote task vtime ineligible eligible).2) :
    node ∈ eligible ∨ node.1 = (task node.2).sched.vdeadline ∧ (task node.2).sched.veligible ≤ vtime := by
  fun_induction promote task vtime ineligible eligible with
  | case1 | case2 => exact .inl h
  | case3 _ id rest eligible hle ih =>
    rcases ih h with hmem | hnew
    · rcases mem_insert.1 hmem with rfl | hmem
      · exact .inr ⟨rfl, by simpa using hle⟩
      · exact .inl hmem
    · exact .inr hnew

/-- In a tree that is sorted by the present keys, whatever stays is not eligible. -/
lemma promote_complete (hsorted : ineligible.Pairwise KeyLe)
    (hkey : ∀ node ∈ ineligible, node.1 = (task node.2).sched.veligible)
    (h : node ∈ (promote task vtime ineligible eligible).1) : vtime < (task node.2).sched.veligible := by
  fun_induction promote task vtime ineligible eligible with
  | case1 => cases h
  | case2 key id rest _ hlt =>
    rcases mem_cons.1 h with rfl | hrest
    · exact hlt
    · have hle := (pairwise_cons.1 hsorted).1 node hrest
      rw [KeyLe, hkey _ mem_cons_self, hkey node (mem_cons_of_mem _ hrest)] at hle
      dsimp only at hle
      omega
  | case3 _ _ _ _ _ ih => exact ih hsorted.of_cons (fun n hn => hkey n (mem_cons_of_mem _ hn)) h

end Promotion

lemma queued_promoteEligible (cpu : Cpu) : cpu.promoteEligible.queued.Perm cpu.queued :=
  promote_perm cpu.task cpu.scheduler.vtime cpu.scheduler.ineligible cpu.scheduler.eligible

lemma RunQueue.promoteEligible (h : RunQueue terms cpu out) : RunQueue terms cpu.promoteEligible out := by
  have hperm := queued_promoteEligible cpu
  have hsuffix := promote_suffix cpu.task cpu.scheduler.vtime cpu.scheduler.ineligible
    cpu.scheduler.eligible
  exact { h with
    nodup := hperm.nodup_iff.2 h.nodup
    queued_iff := fun j => hperm.mem_iff.trans (h.queued_iff j)
    eligible_key := fun node hnode => by
      rcases mem_promote hnode with hmem | ⟨hkey, -⟩
      · exact h.eligible_key node hmem
      · exact hkey
    ineligible_key := fun node hnode => h.ineligible_key node (hsuffix.subset hnode)
    eligible_sorted := promote_sorted h.eligible_sorted
    ineligible_sorted := h.ineligible_sorted.sublist hsuffix.sublist
    timely := fun hstrict node hnode => by
      rcases mem_promote hnode with hmem | ⟨-, hle⟩
      · exact h.timely hstrict node hmem
      · exact hle }

/-- `vtime` moves on. -/
lemma RunQueue.raise (h : RunQueue terms cpu out) {vtime : Nat}
    (hlt : vtime < 2 ^ 128) (hle : cpu.scheduler.vtime ≤ vtime) :
    RunQueue terms { cpu with scheduler := { cpu.scheduler with vtime := vtime } } out :=
  { h with
    vtime_lt := hlt
    timely := fun hstrict node hnode => (h.timely hstrict node hnode).trans hle }

/-! ## Dispatch -/

/-- A task is taken out of its tree. -/
lemma RunQueue.unlink (h : RunQueue terms cpu none) {eligible ineligible : RunTree}
    (heligible : eligible.Sublist cpu.scheduler.eligible)
    (hineligible : ineligible.Sublist cpu.scheduler.ineligible)
    (hperm : cpu.queued.Perm (id :: (eligible.ids ++ ineligible.ids))) :
    RunQueue terms { cpu with scheduler := { cpu.scheduler with
      eligible := eligible, ineligible := ineligible } } (some id) := by
  obtain ⟨hfresh, hnodup⟩ := nodup_cons.1 (hperm.nodup_iff.1 h.nodup)
  have hmem := (h.queued_iff id).1 (hperm.mem_iff.2 mem_cons_self)
  refine { h with
    nodup := hnodup
    queued_iff := fun j => ?_
    current_mem := fun j hj => ⟨(h.current_mem j hj).1, (h.current_mem j hj).2.1, ?_⟩
    out_mem := fun j hj => by cases hj; exact hmem.1
    exec_iff := fun j hj _ => h.exec_iff j hj (by simp)
    alive := fun j hj _ => h.alive j hj (by simp)
    eligible_key := fun n hn => h.eligible_key n (heligible.subset hn)
    ineligible_key := fun n hn => h.ineligible_key n (hineligible.subset hn)
    eligible_sorted := h.eligible_sorted.sublist heligible
    ineligible_sorted := h.ineligible_sorted.sublist hineligible
    timely := fun hstrict n hn => h.timely hstrict n (heligible.subset hn) }
  · have hiff := h.queued_iff j
    rw [hperm.mem_iff, mem_cons] at hiff
    by_cases hne : j = id
    · subst hne
      exact iff_of_false hfresh (by simp)
    · rw [or_iff_right hne] at hiff
      refine hiff.trans ?_
      simp [Ne.symm hne]
  · rintro heq
    cases heq
    exact hmem.2.2.1 hj

/-- A blocked task is in no tree, so it may be taken out as it is. -/
lemma RunQueue.borrow (h : RunQueue terms cpu none) (hid : id ∈ cpu.scheduler.tasks)
    (hblocked : (cpu.task id).isReady = false) : RunQueue terms cpu (some id) := by
  have hcurrent : cpu.scheduler.current ≠ some id := fun heq =>
    absurd (h.current_mem id heq).2.1 (by simp [hblocked])
  refine { h with
    queued_iff := fun j => (h.queued_iff j).trans ?_
    current_mem := fun j hj => ⟨(h.current_mem j hj).1, (h.current_mem j hj).2.1, ?_⟩
    out_mem := fun j hj => by cases hj; exact hid
    exec_iff := fun j hj _ => h.exec_iff j hj (by simp)
    alive := fun j hj _ => h.alive j hj (by simp) }
  · by_cases hne : j = id
    · subst hne
      simp [hblocked]
    · simp [Ne.symm hne]
  · rintro heq
    cases heq
    exact hcurrent hj

/-- The task that is out becomes the current one. -/
lemma RunQueue.dispatch (h : RunQueue terms cpu (some id))
    (hcurrent : cpu.scheduler.current = none) (hready : (cpu.task id).isReady = true)
    (hexec : (cpu.task id).sched.execStart.isSome = true) (halive : (cpu.task id).state.terminal = none) :
    RunQueue terms { cpu with scheduler := { cpu.scheduler with current := some id } }
      none := by
  refine { h with
    queued_iff := fun j => ?_
    current_mem := fun j hj => by cases hj; exact ⟨h.out_mem id rfl, hready, by simp⟩
    out_mem := nofun
    exec_iff := fun j hj _ => ?_
    alive := h.alive_back halive }
  · refine (h.queued_iff j).trans ?_
    rw [hcurrent]
    simp
  · by_cases hne : j = id
    · subst hne
      simpa using hexec
    · rw [h.exec_iff j hj (by simpa using Ne.symm hne), hcurrent]
      simpa using Ne.symm hne

end Cpu

end Akarin.Sched
