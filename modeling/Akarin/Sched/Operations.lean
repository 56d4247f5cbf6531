/-
# Akarin.Sched.Operations -- the scheduler's operations keep the run queue in step

One lemma for each operation, from the changes `RunQueue` is closed under. An operation takes at most
one task out at a time, so each proof follows that task through the operation.
-/
import Akarin.Sched.RunQueue

namespace Akarin.Sched.Cpu

open List Option Bool

variable {terms : Terms} {cpu : Cpu} {id : TaskId}

/-! ## The task an operation works on -/

section

variable (cpu : Cpu) (id : TaskId)

@[simp] lemma adjustVtime_task : (cpu.adjustVtimeForDeparture id).task = cpu.task := by
  rw [adjustVtime_eq]

@[simp] lemma transitionTaskState_self (state : TaskState) :
    (cpu.transitionTaskState id state).task id = { cpu.task id with state := state } := by
  unfold transitionTaskState
  split <;> simp [setState, addRunnableWeight, subRunnableWeight]

@[simp] lemma modifyExecution_self (f : TaskExecution → TaskExecution) :
    (cpu.modifyExecution id f).task id = { cpu.task id with execution := f (cpu.task id).execution } := by
  simp [modifyExecution]

@[simp] lemma markReady_self (ready : TaskReadyState) :
    (cpu.markReady id ready).task id = { cpu.task id with
      execution := { (cpu.task id).execution with readyState := ready } } :=
  modifyExecution_self cpu id _

@[simp] lemma modifyPlacement_self (f : TaskPlacement → TaskPlacement) :
    (cpu.modifyPlacement id f).task id = { cpu.task id with placement := f (cpu.task id).placement } := by
  simp [modifyPlacement]

@[simp] lemma setSchedMeta_self (sched : TaskSchedMeta) :
    (cpu.setSchedMeta id sched).task id = { cpu.task id with sched := sched } := by
  simp [setSchedMeta]

@[simp] lemma setSchedMeta_scheduler (sched : TaskSchedMeta) :
    (cpu.setSchedMeta id sched).scheduler = cpu.scheduler := rfl

lemma clearExec_load : (cpu.clearExec id).load = cpu.load := by
  refine load_congr rfl fun j _ => ?_
  by_cases hne : j = id
  · subst hne
    exact Task.load_congr (by simp [clearExec]) (by simp [clearExec])
  · rw [clearExec, setSchedMeta, modifyTask_other _ _ hne]

end

/-! ## Becoming runnable -/

lemma RunQueue.insertRunnablePointer (h : RunQueue terms cpu (some id))
    (hexec : (cpu.task id).sched.execStart = none) (halive : (cpu.task id).state.terminal = none)
    (ready : TaskReadyState) : RunQueue terms (cpu.insertRunnablePointer id ready) none := by
  have hid := h.out_mem id rfl
  unfold Cpu.insertRunnablePointer
  rw [if_pos hid]
  have hrefresh : RunQueue terms (cpu.refreshDeadlines id
      { (cpu.task id).sched with cpuId := cpu.scheduler.cpuId }) (some id) :=
    h.refreshDeadlines_out rfl (h.range id hid).vruntime_lt
  refine RunQueue.linkRunnable ((hrefresh.transition_ready_out (by simp)).modifyExecution id _)
    ⟨?_, ?_, ?_⟩
  · simp [Task.isReady]
  · simpa [refreshDeadlines] using hexec
  · simpa [refreshDeadlines] using halive

section

variable (h : RunQueue terms cpu none)
include h

lemma RunQueue.activateWakeupTask (id : TaskId) : RunQueue terms (cpu.activateWakeupTask id).2 none := by
  unfold Cpu.activateWakeupTask
  by_cases hid : id ∈ cpu.scheduler.tasks
  · cases hready : (cpu.task id).isReady with
    | true => simpa only [if_pos hid, if_pos] using h
    | false =>
      have hexec : (cpu.task id).sched.execStart = none := by
        have hcurrent : cpu.scheduler.current ≠ some id := fun heq =>
          absurd (h.current_mem id heq).2.1 (by simp [hready])
        have hiff := h.exec_iff id hid (by simp)
        cases hstart : (cpu.task id).sched.execStart with
        | none => rfl
        | some start => exact absurd (hiff.1 (by simp [hstart])) hcurrent
      have halive := h.alive id hid (by simp)
      simp only [if_pos hid, false_eq_true, if_false]
      have htrans := ((h.borrow hid hready).modifyExecution id
        ({ · with readyState := .async })).transition_ready_out
        (show TaskSchedState.isReady ({ (cpu.task id).state with
          sched := (cpu.task id).execution.readyState.schedState } : TaskState).sched = true by simp)
      split
      · refine (htrans.modifyPlacement id _).insertRunnablePointer ?_ ?_ _
        · simpa using hexec
        · simpa using halive
      · refine RunQueue.insertRunnablePointer htrans ?_ ?_ _
        · simpa using hexec
        · simpa using halive
  · simpa only [if_neg hid] using h

lemma RunQueue.drainWakeups (fuel : Nat) : RunQueue terms (cpu.drainWakeups fuel).2 none := by
  induction fuel generalizing cpu with
  | zero => exact h
  | succ fuel ih =>
    simp only [drainWakeups]
    split
    · exact h
    · exact ih (((h.setInbox _).setWakeQueued _ false).activateWakeupTask _)

lemma RunQueue.enqueueWakeup (id : TaskId) : RunQueue terms (cpu.enqueueWakeup id) none := by
  unfold Cpu.enqueueWakeup
  split
  · split
    · exact h
    · exact (h.setWakeQueued id true).setInbox _
  · exact h

end

/-! ## Admission -/

/-- What is asked of a task that enters the table. -/
structure Incoming (task : Task) : Prop where
  exec : task.sched.execStart = none
  alive : task.state.terminal = none
  vruntime_lt : task.sched.vruntime < 2 ^ 128

variable {cpu' : Cpu} {P : Option TaskId × Cpu → Prop} {now : Instant} {threshold : Duration}
  {policy : MigrationPolicy}

lemma load_insert (hid : id ∉ cpu.scheduler.tasks)
    (htasks : cpu'.scheduler.tasks = insert id cpu.scheduler.tasks)
    (hother : ∀ j, j ≠ id → cpu'.task j = cpu.task j) : cpu'.load = (cpu'.task id).load + cpu.load := by
  unfold load
  rw [htasks, Finset.sum_insert hid]
  congr 1
  refine Finset.sum_congr rfl fun j hj => ?_
  rw [hother j fun heq => hid (heq ▸ hj)]

/-- The task in the table, before its weight is counted. -/
def enroll (cpu : Cpu) (id : TaskId) : Cpu :=
  { cpu.refreshDeadlines id { (cpu.task id).sched with cpuId := cpu.scheduler.cpuId } with
    scheduler := { cpu.scheduler with tasks := insert id cpu.scheduler.tasks } }

lemma enroll_other {j : TaskId} (hne : j ≠ id) : (cpu.enroll id).task j = cpu.task j := by
  simp [enroll, refreshDeadlines, setSchedMeta, modifyTask, hne]

/-- The task is linked if it is ready or has a runnable; if it is ready, it is counted first. -/
lemma admitTask_eq (hid : id ∉ cpu.scheduler.tasks) : cpu.admitTask id =
    if (cpu.task id).execution.runnable || (cpu.task id).isReady then
      (if (cpu.task id).isReady then (cpu.enroll id).addRunnableWeight id
        else cpu.enroll id).insertRunnablePointer id
          (if (cpu.task id).state.sched = .preemptReady then .preempt else .async)
    else cpu.enroll id := by
  have hself : (cpu.enroll id).task id = { cpu.task id with sched := ((cpu.enroll id).task id).sched } := by
    simp [enroll, refreshDeadlines]
  have hready : (cpu.task id).isReady = ((cpu.enroll id).task id).state.sched.isReady := by
    rw [hself, Task.isReady]
  have hstate : (cpu.task id).state = ((cpu.enroll id).task id).state := by rw [hself]
  have hrunnable : (cpu.task id).execution = ((cpu.enroll id).task id).execution := by rw [hself]
  rw [admitTask, if_neg hid, hready, hstate, hrunnable]
  rfl

lemma RunQueue.enroll (h : RunQueue terms cpu none)
    (hid : id ∉ cpu.scheduler.tasks) (hscope : id ∈ terms.scope) (hin : Incoming (cpu.task id)) :
    RunQueue terms (if (cpu.task id).isReady then
      (cpu.enroll id).addRunnableWeight id else cpu.enroll id) (some id) := by
  have hrange : ((cpu.enroll id).task id).sched.InRange := by
    have hvtime := h.vtime_lt
    have hvruntime := hin.vruntime_lt
    simp only [Cpu.enroll, refreshDeadlines, setSchedMeta_self]
    refine ⟨le_satAdd ?_, satAdd_lt 128 _ _, hvruntime, le_max_left _ _⟩
    simp only [EevdfParams.eligible]
    omega
  have hself : ((cpu.enroll id).task id).load = (cpu.task id).load := by
    refine Task.load_congr ?_ ?_ <;> simp [Cpu.enroll, refreshDeadlines]
  have hweight : ((cpu.enroll id).task id).weight = (cpu.task id).weight := by
    simp [Cpu.enroll, refreshDeadlines, Task.weight]
  have hload := @load_insert cpu id (cpu.enroll id) hid rfl fun j => enroll_other
  rw [hself, Task.load] at hload
  split
  · rename_i hready
    rw [if_pos hready] at hload
    refine h.enter hid hscope rfl ⟨rfl, rfl, rfl⟩ rfl (fun j => enroll_other) hrange fun hfit hfits => ?_
    have hsame : ((cpu.enroll id).addRunnableWeight id).load = (cpu.enroll id).load := rfl
    have htotal : ((cpu.enroll id).addRunnableWeight id).scheduler.totalWeight
        = satAdd 64 cpu.scheduler.totalWeight ((cpu.enroll id).task id).weight := rfl
    rw [htotal, h.weight hfit (by omega), satAdd_of_lt (by omega)]
    omega
  · rename_i hready
    rw [if_neg hready, zero_add] at hload
    exact h.enter hid hscope rfl ⟨rfl, rfl, rfl⟩ rfl (fun j => enroll_other) hrange (h.weighed hload)

lemma RunQueue.admitTask (h : RunQueue terms cpu none) (hscope : id ∈ terms.scope)
    (hin : id ∉ cpu.scheduler.tasks → Incoming (cpu.task id)) :
    RunQueue terms (cpu.admitTask id) none := by
  by_cases hid : id ∈ cpu.scheduler.tasks
  · rw [Cpu.admitTask, if_pos hid]
    exact h
  · have hentered := h.enroll hid hscope (hin hid)
    have hexec : ((cpu.enroll id).task id).sched.execStart = none := by
      simpa [Cpu.enroll, refreshDeadlines] using (hin hid).exec
    have halive : ((cpu.enroll id).task id).state.terminal = none := by
      simpa [Cpu.enroll, refreshDeadlines] using (hin hid).alive
    rw [admitTask_eq hid]
    cases hready : (cpu.task id).isReady with
    | true =>
      simp only [hready, if_true, Bool.or_true] at hentered ⊢
      exact hentered.insertRunnablePointer hexec halive _
    | false =>
      simp only [hready, Bool.false_eq_true, if_false, Bool.or_false] at hentered ⊢
      split
      · exact hentered.insertRunnablePointer hexec halive _
      · refine hentered.release ?_ hexec halive
        simpa [Cpu.enroll, refreshDeadlines, Task.isReady] using hready

/-! ## Removal -/

/-- The scheduler after a blocked task is removed, up to the inbox, and the tasks, up to the wake
links. -/
lemma removeTask_blocked (hid : id ∈ cpu.scheduler.tasks) (hblocked : (cpu.task id).isReady = false) :
    (∃ inbox, (cpu.removeTask id).2.scheduler = { cpu.scheduler with
      tasks := cpu.scheduler.tasks.erase id, wakeInbox := inbox }) ∧
    ∀ j, (cpu.task j).SameSched ((cpu.removeTask id).2.task j) := by
  have hquiet : ∀ (c : Cpu) j, (c.task j).SameSched ((c.setWakeQueued id false).task j) := fun c =>
    modifyTask_quiet c id fun _ => ⟨rfl, rfl⟩
  have hstill : ∀ (c : Cpu), (c.task id).state = (cpu.task id).state → (c.task id).isReady ≠ true :=
    fun c hc => by rw [Task.isReady, hc]; exact ne_of_eq_of_ne hblocked (by simp)
  unfold removeTask
  rw [if_pos hid]
  cases (cpu.task id).wakeQueued <;>
  · simp only [false_eq_true, if_false, if_true]
    split
    · rename_i hready
      exact absurd hready (hstill _ (hquiet _ id).1)
    · exact ⟨⟨_, rfl⟩, fun j => ⟨(hquiet _ j).state, (hquiet _ j).sched⟩⟩

/-- A blocked task leaves the table. -/
lemma RunQueue.removeTask_out (h : RunQueue terms cpu (some id))
    (hblocked : (cpu.task id).isReady = false) : RunQueue terms (cpu.removeTask id).2 none := by
  have hid := h.out_mem id rfl
  obtain ⟨⟨inbox, hscheduler⟩, htask⟩ := removeTask_blocked hid hblocked
  have htasks : (cpu.removeTask id).2.scheduler.tasks = cpu.scheduler.tasks.erase id := by
    rw [hscheduler]
  have hload := load_erase hid htasks fun j _ => htask j
  rw [Task.load, if_neg (by simp [hblocked]), add_zero] at hload
  have hvtime : (cpu.removeTask id).2.scheduler.vtime = cpu.scheduler.vtime := by rw [hscheduler]
  refine h.drop htasks ⟨?_, ?_, ?_⟩ (fun j _ => htask j) (hvtime ▸ h.vtime_lt) (fun _ => hvtime.ge)
    fun hfit hfits => h.weighed hload hfit hfits ?_
  all_goals rw [hscheduler]

section

variable (h : RunQueue terms cpu none)
include h

lemma RunQueue.removeTask (hblocked : id ∈ cpu.scheduler.tasks → (cpu.task id).isReady = false) :
    RunQueue terms (cpu.removeTask id).2 none := by
  by_cases hid : id ∈ cpu.scheduler.tasks
  · exact (h.borrow hid (hblocked hid)).removeTask_out (hblocked hid)
  · rw [Cpu.removeTask, if_neg hid]
    exact h

/-! ## Migration -/

/-- What a search of the trees gives back: the task it found is out. -/
structure Taken (terms : Terms) (found : Option TaskId × Cpu) : Prop where
  queue : RunQueue terms found.2 found.1
  ready : ∀ id, found.1 = some id → (found.2.task id).isReady = true
  alive : ∀ id, found.1 = some id → (found.2.task id).state.terminal = none

lemma RunQueue.nothing : Taken terms (none, cpu) where
  queue := h
  ready := nofun
  alive := nofun

lemma RunQueue.take_node {node : Nat × Nat}
    {eligible ineligible : RunTree} (heligible : eligible.Sublist cpu.scheduler.eligible)
    (hineligible : ineligible.Sublist cpu.scheduler.ineligible)
    (hperm : cpu.queued.Perm (node.2 :: (eligible.ids ++ ineligible.ids))) :
    Taken terms (some node.2, { cpu with scheduler := { cpu.scheduler with
      eligible := eligible, ineligible := ineligible } }) := by
  have hmem := (h.queued_iff node.2).1 (hperm.mem_iff.2 mem_cons_self)
  exact {
    queue := h.unlink heligible hineligible hperm
    ready := fun id hid => by cases hid; exact hmem.2.1
    alive := fun id hid => by cases hid; exact h.alive node.2 hmem.1 (by simp) }

lemma RunQueue.removeFirstMigratable (eligible : Bool)
    (now : Instant) (threshold : Duration) (ignoreCacheHot : Bool) : Taken terms
      (cpu.removeFirstMigratableFromTree eligible now threshold ignoreCacheHot) := by
  unfold removeFirstMigratableFromTree
  cases eligible with
  | true =>
    simp only [if_true]
    split
    · exact h.nothing
    · rename_i node hfind
      have hnode := mem_of_find?_eq_some hfind
      rw [if_pos ((h.queued_iff node.2).1 (mem_queued_of_eligible hnode)).1]
      exact h.take_node erase_sublist (.refl _) (((perm_cons_erase hnode).map Prod.snd).append_right _)
  | false =>
    simp only [false_eq_true, if_false]
    split
    · exact h.nothing
    · rename_i node hfind
      have hnode := mem_of_find?_eq_some hfind
      rw [if_pos ((h.queued_iff node.2).1 (mem_queued_of_ineligible hnode)).1]
      exact h.take_node (.refl _) erase_sublist
        ((((perm_cons_erase hnode).map Prod.snd).append_left _).trans perm_middle)

end

lemma orElse_rule {found : Option TaskId × Cpu} {next : Cpu → Option TaskId × Cpu} (h : P found)
    (hnext : ∀ c, P (none, c) → P (next c)) : P (orElse found next) := by
  obtain ⟨_ | id, c⟩ := found
  · exact hnext c h
  · exact h

/-- What holds before anything is found and is kept by every search. -/
lemma extractMigratableTask_rule (hnone : P (none, cpu))
    (hsearch : ∀ c eligible ignoreCacheHot, P (none, c) →
      P (c.removeFirstMigratableFromTree eligible now threshold ignoreCacheHot))
    (relaxCacheHot : Bool) : P (cpu.extractMigratableTask now threshold relaxCacheHot) := by
  refine orElse_rule (orElse_rule (orElse_rule ?_ fun c => hsearch c false false) fun c hc => ?_)
    fun c hc => ?_
  · exact hsearch cpu true false hnone
  · split
    · exact hsearch c true true hc
    · exact hc
  · split
    · exact hsearch c false true hc
    · exact hc

lemma RunQueue.extractMigratableTask (h : RunQueue terms cpu none) (now : Instant)
    (threshold : Duration) (relaxCacheHot : Bool) :
    Taken terms (cpu.extractMigratableTask now threshold relaxCacheHot) :=
  extractMigratableTask_rule h.nothing
    (fun _ eligible ignoreCacheHot hc => hc.queue.removeFirstMigratable eligible now threshold ignoreCacheHot) _

lemma departMigrating_eq (cpu : Cpu) (id : TaskId) : cpu.departMigrating id
    = clearExec { cpu with scheduler := { cpu.scheduler with
        tasks := cpu.scheduler.tasks.erase id
        vtime := (cpu.adjustVtimeForDeparture id).scheduler.vtime
        totalWeight := cpu.scheduler.totalWeight - (cpu.task id).weight } } id := by
  unfold departMigrating adjustVtimeForDeparture
  dsimp only
  split <;> rfl

lemma RunQueue.departMigrating (h : RunQueue terms cpu (some id))
    (hready : (cpu.task id).isReady = true) (hfits : terms.fit → cpu.load < 2 ^ 64)
    (hlow : terms.strict → ¬ cpu.Lowers id) : RunQueue terms (cpu.departMigrating id) none := by
  have hid := h.out_mem id rfl
  rw [departMigrating_eq]
  have hother : ∀ (c : Cpu) j, j ≠ id → c.task = cpu.task →
      (cpu.task j).SameSched ((c.clearExec id).task j) := by
    intro c j hne hc
    rw [clearExec, setSchedMeta, modifyTask_other c _ hne, hc]
    exact ⟨rfl, rfl⟩
  refine h.drop rfl ⟨rfl, rfl, rfl⟩ (fun j hne => hother _ j hne rfl) ?_ ?_ fun hfit _ => ?_
  · exact adjustVtime_lt h.vtime_lt
  · exact fun hstrict => le_adjustVtime h.vtime_lt (hlow hstrict)
  · have hload := @load_erase cpu (clearExec { cpu with scheduler := { cpu.scheduler with
        tasks := cpu.scheduler.tasks.erase id
        vtime := (cpu.adjustVtimeForDeparture id).scheduler.vtime
        totalWeight := cpu.scheduler.totalWeight - (cpu.task id).weight } } id) id hid rfl
      fun j hne => hother _ j hne rfl
    have htotal := h.weight hfit (hfits hfit)
    rw [Task.load, if_pos hready] at hload
    simp only [clearExec, setSchedMeta, modifyTask_scheduler] at hload ⊢
    omega

/-- A search touches nothing but the trees, and finds a task of the table. -/
structure Extraction (cpu : Cpu) (found : Option TaskId × Cpu) : Prop where
  task : found.2.task = cpu.task
  scheduler : ∃ eligible ineligible,
    found.2.scheduler = { cpu.scheduler with eligible := eligible, ineligible := ineligible }
  chosen : ∀ id, found.1 = some id → id ∈ cpu.scheduler.tasks

lemma Extraction.removeFirstMigratable {c : Cpu} (h : Extraction cpu (none, c)) (eligible : Bool)
    (now : Instant) (threshold : Duration) (ignoreCacheHot : Bool) :
    Extraction cpu (c.removeFirstMigratableFromTree eligible now threshold ignoreCacheHot) := by
  obtain ⟨scheduler, task⟩ := c
  obtain ⟨rfl, ⟨_, _, rfl⟩, -⟩ := h
  unfold removeFirstMigratableFromTree
  dsimp only
  split
  · exact ⟨rfl, ⟨_, _, rfl⟩, nofun⟩
  · cases eligible <;>
    · refine ⟨rfl, ⟨_, _, rfl⟩, fun id hid => ?_⟩
      obtain ⟨hmem, ⟨⟩⟩ := ite_none_right_eq_some.1 hid
      exact hmem

lemma extractMigratable_extraction (cpu : Cpu) (now : Instant) (threshold : Duration)
    (relaxCacheHot : Bool) : Extraction cpu (cpu.extractMigratableTask now threshold relaxCacheHot) :=
  extractMigratableTask_rule ⟨rfl, ⟨_, _, rfl⟩, nofun⟩
    (fun _ eligible ignoreCacheHot hc => hc.removeFirstMigratable eligible now threshold ignoreCacheHot) _

/-- The task that was found leaves, if there was one. -/
lemma takeMigratable_cases (cpu : Cpu) (now : Instant) (threshold : Duration) (policy : MigrationPolicy) :
    ∃ found, Extraction cpu found ∧
      cpu.extractMigratableTask now threshold (policy = .balanceRequest) = found ∧
      (found.1 = none ∧ cpu.takeMigratable now threshold policy = found ∨
        ∃ id ∈ cpu.scheduler.tasks, found.1 = some id ∧
          cpu.takeMigratable now threshold policy = (some id, found.2.departMigrating id)) := by
  have hextraction := extractMigratable_extraction cpu now threshold (policy = .balanceRequest)
  refine ⟨_, hextraction, rfl, ?_⟩
  unfold takeMigratable
  dsimp only
  split
  · exact .inl ⟨‹_›, rfl⟩
  · exact .inr ⟨_, hextraction.chosen _ ‹_›, ‹_›, rfl⟩

lemma RunQueue.takeMigratable (h : RunQueue terms cpu none) (now : Instant)
    (threshold : Duration) (policy : MigrationPolicy) (hfits : terms.fit → cpu.load < 2 ^ 64)
    (hlow : terms.strict → ∀ id,
      (cpu.extractMigratableTask now threshold (policy = .balanceRequest)).1 = some id → ¬ cpu.Lowers id) :
    RunQueue terms (cpu.takeMigratable now threshold policy).2 none := by
  have htaken := h.extractMigratableTask now threshold (policy = .balanceRequest)
  obtain ⟨found, ⟨htask, ⟨_, _, hscheduler⟩, -⟩, rfl, ⟨hnone, heq⟩ | ⟨id, -, hid, heq⟩⟩ :=
    takeMigratable_cases cpu now threshold policy
  · rw [heq]
    exact hnone ▸ htaken.queue
  · rw [heq]
    refine RunQueue.departMigrating (hid ▸ htaken.queue) (htaken.ready id hid) (fun hfit => ?_)
      fun hstrict => ?_
    · rw [load, htask, hscheduler]
      exact hfits hfit
    · have hstays := hlow hstrict id hid
      rw [Lowers] at hstays ⊢
      rw [htask, hscheduler]
      exact hstays

/-- The task that leaves keeps its virtual times. -/
lemma takeMigratable_eq_some (hid : (cpu.takeMigratable now threshold policy).1 = some id) :
    (cpu.extractMigratableTask now threshold (policy = .balanceRequest)).1 = some id ∧
      id ∈ cpu.scheduler.tasks ∧
      (cpu.takeMigratable now threshold policy).2.scheduler.tasks = cpu.scheduler.tasks.erase id ∧
      (cpu.takeMigratable now threshold policy).2.task id = { cpu.task id with
        sched := { (cpu.task id).sched with execStart := none, execRuntime := .zero } } := by
  obtain ⟨found, ⟨htask, ⟨_, _, hscheduler⟩, -⟩, rfl, ⟨hnone, heq⟩ | ⟨j, hmem, hsome, heq⟩⟩ :=
    takeMigratable_cases cpu now threshold policy
  · rw [heq, hnone] at hid
    cases hid
  · rw [heq] at hid ⊢
    cases hid
    refine ⟨hsome, hmem, ?_, ?_⟩
    · simp [departMigrating_eq, clearExec, hscheduler]
    · simp [departMigrating_eq, clearExec, htask]

/-- The task that leaves can enter another table. -/
lemma RunQueue.incoming_of_takeMigratable (h : RunQueue terms cpu none)
    (hid : (cpu.takeMigratable now threshold policy).1 = some id) :
    Incoming ((cpu.takeMigratable now threshold policy).2.task id) ∧
      ((cpu.takeMigratable now threshold policy).2.task id).sched.InRange := by
  obtain ⟨-, hmem, -, htask⟩ := takeMigratable_eq_some hid
  have hrange := h.range id hmem
  rw [htask]
  exact ⟨⟨rfl, h.alive id hmem (by simp), hrange.vruntime_lt⟩, hrange.stamp⟩

/-! ## Selection -/

lemma RunQueue.refreshEligible (h : RunQueue terms cpu none) :
    RunQueue terms cpu.refreshEligible none := by
  have hpromoted := h.promoteEligible
  unfold Cpu.refreshEligible
  dsimp only
  split
  · rename_i key id rest heligible hineligible
    have hnode : (key, id) ∈ cpu.promoteEligible.scheduler.ineligible := by
      rw [hineligible]
      exact mem_cons_self
    have hid := ((hpromoted.queued_iff id).1 (mem_queued_of_ineligible hnode)).1
    have hrange := hpromoted.range id hid
    refine (hpromoted.raise ?_ (le_max_left _ _)).promoteEligible
    exact max_lt hpromoted.vtime_lt (hrange.window.trans_lt hrange.vdeadline_lt)
  · exact hpromoted

@[simp] lemma refreshEligible_current (cpu : Cpu) :
    cpu.refreshEligible.scheduler.current = cpu.scheduler.current := by
  unfold refreshEligible
  dsimp only
  split <;> rfl

section

variable (h : RunQueue terms cpu none)
include h

/-- What `take_next` does once the trees are up to date. -/
lemma RunQueue.takeNext_eq (now : Instant) :
    cpu.takeNext now = match cpu.refreshEligible.scheduler.eligible with
      | [] => (none, cpu.refreshEligible)
      | (_, id) :: rest =>
        let picked := { cpu.refreshEligible with scheduler := { cpu.refreshEligible.scheduler with
          eligible := rest, current := some id } }
        (some id, picked.setSchedMeta id
          { (picked.task id).sched with execStart := some now, execRuntime := .zero }) := by
  have hrefreshed := h.refreshEligible
  unfold takeNext pickNext
  cases heligible : cpu.refreshEligible.scheduler.eligible with
  | nil => simp only [heligible]
  | cons node rest =>
    have hnode : node ∈ cpu.refreshEligible.scheduler.eligible := by
      rw [heligible]
      exact mem_cons_self
    have hid := ((hrefreshed.queued_iff node.2).1 (mem_queued_of_eligible hnode)).1
    simp only [heligible, if_pos hid]

lemma RunQueue.takeNext (hcurrent : cpu.scheduler.current = none) (now : Instant) :
    RunQueue terms (cpu.takeNext now).2 none := by
  have hrefreshed := h.refreshEligible
  rw [h.takeNext_eq now]
  cases heligible : cpu.refreshEligible.scheduler.eligible with
  | nil => exact hrefreshed
  | cons node rest =>
    have htaken : Taken terms (some node.2, { cpu.refreshEligible with
        scheduler := { cpu.refreshEligible.scheduler with eligible := rest } }) :=
      hrefreshed.take_node (heligible ▸ sublist_cons_self node rest) (.refl _) (by
        rw [queued, heligible]
        exact .refl _)
    have hstamped : RunQueue terms (setSchedMeta { cpu.refreshEligible with
        scheduler := { cpu.refreshEligible.scheduler with eligible := rest } } node.2
        { (cpu.refreshEligible.task node.2).sched with execStart := some now, execRuntime := .zero })
        (some node.2) :=
      htaken.queue.setSchedMeta_out rfl (hrefreshed.range node.2 (htaken.queue.out_mem node.2 rfl)).stamp
    refine hstamped.dispatch ?_ ?_ ?_ ?_
    · exact (refreshEligible_current cpu).trans hcurrent
    · simpa [Task.isReady] using htaken.ready node.2 rfl
    · simp
    · simpa using htaken.alive node.2 rfl

/-! ## The current task -/

lemma RunQueue.current_filter :
    cpu.scheduler.current.filter (· ∈ cpu.scheduler.tasks) = cpu.scheduler.current := by
  cases hcurrent : cpu.scheduler.current with
  | none => rfl
  | some id => simp [Option.filter, (h.current_mem id hcurrent).1]

end

lemma refreshDeadlines_current {sched : TaskSchedMeta} (hcurrent : cpu.scheduler.current = some id) :
    cpu.refreshDeadlines id sched = (let off := { cpu with scheduler := { cpu.scheduler with
        current := none } }.refreshDeadlines id sched
      { off with scheduler := { off.scheduler with current := some id } }) := by
  obtain ⟨⟨cpuId, current, vtime, total, tasks, eligible, ineligible, inbox⟩, task⟩ := cpu
  cases hcurrent
  rfl

section

variable (h : RunQueue terms cpu none)
include h

section

variable (hcurrent : cpu.scheduler.current = some id)
include hcurrent

/-- Time passes for the current task. -/
lemma RunQueue.refresh_current {vruntime : Nat} (hvruntime : vruntime < 2 ^ 128)
    (execRuntime : Duration) (now : Instant) :
    RunQueue terms (cpu.refreshDeadlines id { (cpu.task id).sched with
      vruntime := vruntime, execRuntime := execRuntime, execStart := some now }) none := by
  obtain ⟨hid, hready, -⟩ := h.current_mem id hcurrent
  rw [refreshDeadlines_current hcurrent]
  have hrefreshed : RunQueue terms (refreshDeadlines { cpu with scheduler :=
      { cpu.scheduler with current := none } } id { (cpu.task id).sched with
      vruntime := vruntime, execRuntime := execRuntime, execStart := some now }) (some id) :=
    (h.clear_current hcurrent).refreshDeadlines_out rfl hvruntime
  refine hrefreshed.dispatch rfl ?_ ?_ ?_
  · simpa [refreshDeadlines, Task.isReady] using hready
  · simp [refreshDeadlines]
  · simpa [refreshDeadlines] using h.alive id hid (by simp)

lemma RunQueue.advance_current {vtime vruntime : Nat} (hvtime : vtime < 2 ^ 128)
    (hle : cpu.scheduler.vtime ≤ vtime) (hvruntime : vruntime < 2 ^ 128) (execRuntime : Duration)
    (now : Instant) : RunQueue terms (refreshDeadlines
      { cpu with scheduler := { cpu.scheduler with vtime := vtime } } id { (cpu.task id).sched with
        vruntime := vruntime, execRuntime := execRuntime, execStart := some now }) none :=
  (h.raise hvtime hle).refresh_current hcurrent hvruntime execRuntime now

lemma RunQueue.charge (runtime : Duration) (now : Instant) :
    RunQueue terms (cpu.charge id runtime now) none :=
  h.advance_current hcurrent (satAdd_lt 128 _ _) (le_satAdd h.vtime_lt) (satAdd_lt 128 _ _) _ now

end

lemma RunQueue.accountCurrentRuntime (runtime : Duration) (now : Instant) :
    RunQueue terms (cpu.accountCurrentRuntime runtime now) none := by
  unfold Cpu.accountCurrentRuntime
  rw [h.current_filter]
  cases hcurrent : cpu.scheduler.current with
  | none => exact h
  | some id => exact h.charge hcurrent runtime now

lemma RunQueue.accountSince (id : TaskId)
    (now : Instant) : RunQueue terms (cpu.accountSince id now).2 none := by
  unfold Cpu.accountSince
  split
  · exact h
  · split
    · exact h.accountCurrentRuntime _ now
    · exact h

lemma RunQueue.accountTrapRuntime (id : TaskId) (now : Option Instant) :
    RunQueue terms (cpu.accountTrapRuntime id now) none := by
  unfold Cpu.accountTrapRuntime
  split
  · exact h
  · exact h.accountSince id _

lemma RunQueue.recordStop (id : TaskId)
    (now : Option Instant) : RunQueue terms (cpu.recordStop id now) none := by
  unfold Cpu.recordStop
  split
  · exact h
  · exact h.modifyPlacement id _

/-- `account_trap_runtime` and `record_stop`, with which every trap boundary begins. -/
def atBoundary (cpu : Cpu) (id : TaskId) (now : Option Instant) : Cpu :=
  (cpu.accountTrapRuntime id now).recordStop id now

lemma RunQueue.atBoundary (id : TaskId)
    (now : Option Instant) : RunQueue terms (cpu.atBoundary id now) none :=
  (h.accountTrapRuntime id now).recordStop id now

end

/-- The scheduler is the same up to `vtime`, and no task changed its state or its weight. -/
structure Weighs (cpu cpu' : Cpu) : Prop where
  scheduler : ∃ vtime, cpu'.scheduler = { cpu.scheduler with vtime := vtime }
  state : ∀ j, (cpu'.task j).state = (cpu.task j).state
  weight : ∀ j, (cpu'.task j).sched.weight = (cpu.task j).sched.weight

lemma Weighs.refl (cpu : Cpu) : Weighs cpu cpu := ⟨⟨_, rfl⟩, fun _ => rfl, fun _ => rfl⟩

lemma Weighs.load (h : Weighs cpu cpu') : cpu'.load = cpu.load := by
  obtain ⟨vtime, hscheduler⟩ := h.scheduler
  exact load_congr (by rw [hscheduler]) fun j _ => Task.load_congr (h.state j) (h.weight j)

lemma Weighs.current (h : Weighs cpu cpu') : cpu'.scheduler.current = cpu.scheduler.current := by
  obtain ⟨vtime, hscheduler⟩ := h.scheduler
  rw [hscheduler]

section

variable (cpu : Cpu) (id : TaskId)

lemma charge_weighs (runtime : Duration) (now : Instant) : Weighs cpu (cpu.charge id runtime now) := by
  refine ⟨⟨_, rfl⟩, fun j => ?_, fun j => ?_⟩ <;>
  · by_cases hne : j = id
    · subst hne
      simp [charge, refreshDeadlines]
    · simp [charge, refreshDeadlines, setSchedMeta, modifyTask_other _ _ hne]

lemma accountSince_weighs (now : Instant) : Weighs cpu (cpu.accountSince id now).2 := by
  unfold accountSince accountCurrentRuntime
  split
  · exact .refl cpu
  · split
    · split
      · exact .refl cpu
      · exact charge_weighs cpu _ _ now
    · exact .refl cpu

lemma atBoundary_weighs (now : Option Instant) : Weighs cpu (cpu.atBoundary id now) := by
  unfold atBoundary accountTrapRuntime recordStop
  cases now with
  | none => exact .refl cpu
  | some now =>
    have h := accountSince_weighs cpu id now
    have hquiet := modifyTask_quiet (cpu.accountSince id now).2 id (f := fun task => { task with
      placement := task.placement.recordStop (cpu.accountSince id now).2.scheduler.cpuId now })
      fun _ => ⟨rfl, rfl⟩
    exact ⟨h.scheduler, fun j => (hquiet j).1.trans (h.state j),
      fun j => (congrArg TaskSchedMeta.weight (hquiet j).2).trans (h.weight j)⟩

end

/-! ## Leaving the CPU -/

section

variable (h : RunQueue terms cpu none)
include h

lemma RunQueue.takeCurrent_eq : cpu.takeCurrent = (cpu.scheduler.current,
      { cpu with scheduler := { cpu.scheduler with current := none } }) := by
  rw [takeCurrent, h.current_filter]

lemma RunQueue.requeueCurrentWith (ready : TaskReadyState) :
    RunQueue terms (cpu.requeueCurrentWith ready).2 none := by
  unfold Cpu.requeueCurrentWith
  rw [h.takeCurrent_eq]
  cases hcurrent : cpu.scheduler.current with
  | none =>
    obtain ⟨⟨cpuId, current, vtime, total, tasks, eligible, ineligible, inbox⟩, task⟩ := cpu
    cases hcurrent
    exact h
  | some id =>
    have halive := h.alive id (h.current_mem id hcurrent).1 (by simp)
    have hcleared := (h.clear_current hcurrent).clearExec_out
    simp only [halive, isSome_none, false_eq_true, if_false]
    refine (hcleared.transition_ready_out (by simp)).insertRunnablePointer ?_ ?_ ready
    · simp [clearExec]
    · simp

section

variable (hcurrent : cpu.scheduler.current = some id)
include hcurrent

/-- The current task blocks. -/
lemma RunQueue.leaveCurrent_out (terminal : Option TaskExit → Option TaskExit)
    (hfits : terms.fit → cpu.load < 2 ^ 64) (hlow : terms.strict → ¬ cpu.Lowers id) :
    RunQueue terms (cpu.leaveCurrent terminal).2 (some id) ∧
      ((cpu.leaveCurrent terminal).2.task id).isReady = false ∧
      ((cpu.leaveCurrent terminal).2.task id).sched.execStart = none ∧
      ((cpu.leaveCurrent terminal).2.task id).state.terminal = terminal none := by
  obtain ⟨hid, hready, -⟩ := h.current_mem id hcurrent
  have halive := h.alive id hid (by simp)
  have hcleared := (h.clear_current hcurrent).clearExec_out
  unfold leaveCurrent
  rw [h.takeCurrent_eq, hcurrent]
  refine ⟨hcleared.transition_blocked_out ?_ rfl ?_ ?_, ?_, ?_, ?_⟩
  · simpa [clearExec, Task.isReady] using hready
  · intro hfit
    rw [clearExec_load]
    exact hfits hfit
  · intro hstrict
    have hstays := hlow hstrict
    simpa [Lowers, clearExec, Task.weight] using hstays
  · simp [Task.isReady, TaskSchedState.isReady]
  · simp [clearExec]
  · simp [halive]

lemma RunQueue.blockCurrent (hfits : terms.fit → cpu.load < 2 ^ 64)
    (hlow : terms.strict → ¬ cpu.Lowers id) : RunQueue terms cpu.blockCurrent.2 none := by
  obtain ⟨hout, hblocked, hexec, halive⟩ := h.leaveCurrent_out hcurrent (fun terminal => terminal) hfits hlow
  exact hout.release hblocked hexec halive

lemma RunQueue.exitAndRemove (exit : TaskExit) (hfits : terms.fit → cpu.load < 2 ^ 64)
    (hlow : terms.strict → ¬ cpu.Lowers id) : RunQueue terms (cpu.exitAndRemove id exit).2 none := by
  obtain ⟨hout, hblocked, -, -⟩ := h.leaveCurrent_out hcurrent (fun _ => some exit) hfits hlow
  exact hout.removeTask_out hblocked

end

end

/-! ## Traps and ticks -/

/-- The task a trap boundary is about, if it leaves. -/
def leaving (cpu : Cpu) (rsp : Nat) (action : TaskBoundaryAction) : Option TaskId :=
  if action = .outcome .ready then none else cpu.currentTaskFromTrap rsp

lemma current_of_trap {rsp : Nat} (h : cpu.currentTaskFromTrap rsp = some id) :
    cpu.scheduler.current = some id := by
  unfold currentTaskFromTrap at h
  exact (eq_some_of_filter_eq_some (eq_some_of_filter_eq_some h))

variable (h : RunQueue terms cpu none)
include h

lemma RunQueue.finalizeCurrentBoundary (rsp : Nat)
    (action : TaskBoundaryAction) (now : Option Instant) (hfits : terms.fit → cpu.load < 2 ^ 64)
    (hlow : terms.strict → ∀ id, cpu.leaving rsp action = some id → ¬ (cpu.atBoundary id now).Lowers id) :
    RunQueue terms (cpu.finalizeCurrentBoundary rsp action now).2 none := by
  unfold Cpu.finalizeCurrentBoundary
  cases htrap : cpu.currentTaskFromTrap rsp with
  | none => exact h
  | some id =>
    have hboundary := h.atBoundary id now
    have hweighs := atBoundary_weighs cpu id now
    have hcurrent := hweighs.current.trans (current_of_trap htrap)
    have hfits' : terms.fit → (cpu.atBoundary id now).load < 2 ^ 64 := fun hfit =>
      hweighs.load ▸ hfits hfit
    have hlow' : action ≠ .outcome .ready → terms.strict → ¬ (cpu.atBoundary id now).Lowers id :=
      fun hne hstrict => hlow hstrict id (by rw [leaving, if_neg hne, htrap])
    cases action with
    | cancelled => exact hboundary.exitAndRemove hcurrent .cancelled hfits' (hlow' (by simp))
    | outcome outcome =>
      cases outcome with
      | ready =>
        change RunQueue terms ((cpu.atBoundary id now).finalizeCurrentPoll .ready).2 none
        unfold finalizeCurrentPoll
        rw [hboundary.current_filter, hcurrent]
        exact (hboundary.modifyExecution id _).requeueCurrentWith _
      | blocked => exact hboundary.blockCurrent hcurrent hfits' (hlow' (by simp))
      | exited exit => exact hboundary.exitAndRemove hcurrent exit hfits' (hlow' (by simp))

lemma RunQueue.savePreemptedCurrent (rsp : Nat) (now : Option Instant) :
    RunQueue terms (cpu.savePreemptedCurrent rsp now).2 none := by
  unfold Cpu.savePreemptedCurrent
  cases cpu.currentTaskFromTrap rsp with
  | none => exact h
  | some id => exact ((h.atBoundary id now).modifyExecution id _).requeueCurrentWith .preempt

lemma RunQueue.onTick (fuel : Nat) (now : Instant) : RunQueue terms (cpu.onTick fuel now).2 none := by
  have hdrained := h.drainWakeups fuel
  have haccounted : RunQueue terms ((cpu.drainWakeups fuel).2.accountTick now).2 none := by
    fun_cases accountTick with
    | case1 => exact hdrained
    | case2 => exact hdrained.accountSince _ now
  have hpreempt : RunQueue terms
      ((cpu.drainWakeups fuel).2.accountTick now).2.shouldPreemptCurrent.2 none := by
    fun_cases shouldPreemptCurrent with
    | case1 => exact haccounted
    | _ => exact haccounted.promoteEligible
  fun_cases Cpu.onTick fuel cpu now with
  | case2 => exact hpreempt
  | _ => exact haccounted

end Akarin.Sched.Cpu
