/-
# Akarin.Sched.Inbox -- wake inboxes and the tasks linked in them

The inbox is a list of the CPU, the link and the flag `wake_queued` are in the task. `Inbox` says that
they agree: the list holds the CPU's own tasks whose flag is set. Each operation either leaves all of
this alone (`Inbox.quiet`) or does one thing to it.

`take_migratable` looks at neither, so it can take a task away that is still linked.
-/
import Akarin.Sched.Effects
import Akarin.Sched.Machine

namespace Akarin.Sched

open List
open Collections (LinkedList)
open Collections.LinkedList (Represents)
open Lib (runOps Meets run_invariant)

/-- The link and the flag are as before. -/
def Task.SameWake (task task' : Task) : Prop :=
  task'.wakeQueued = task.wakeQueued ∧ task'.wakeLink = task.wakeLink

lemma sameWake_tolerates : Tolerates Task.SameWake where
  refl _ := ⟨rfl, rfl⟩
  trans h h' := ⟨h'.1.trans h.1, h'.2.trans h.2⟩
  ready _ _ _ := ⟨rfl, rfl⟩
  sched _ _ := ⟨rfl, rfl⟩
  placement _ _ := ⟨rfl, rfl⟩
  readyState _ _ := ⟨rfl, rfl⟩

namespace Cpu

variable {cpu cpu' : Cpu} {id : TaskId}

/-! ## The inbox -/

/-- The inbox holds the CPU's own tasks whose flag is set. -/
structure Inbox (scope : Finset TaskId) (before : TaskId → Task) (cpu : Cpu) : Prop where
  list : ∃ xs, Represents cpu.links cpu.scheduler.wakeInbox xs ∧
    ∀ id, id ∈ xs ↔ id ∈ cpu.scheduler.tasks ∧ (cpu.task id).wakeQueued = true
  within : cpu.scheduler.tasks ⊆ scope
  frame : ∀ id, id ∉ scope → (before id).SameWake (cpu.task id)

variable {scope : Finset TaskId} {before : TaskId → Task}

lemma Inbox.empty (cpuId : Nat) (task : TaskId → Task) : Inbox ∅ task ⟨.new cpuId, task⟩ :=
  ⟨⟨[], .new, fun id => by simp [Scheduler.new]⟩, subset_rfl, fun _ _ => ⟨rfl, rfl⟩⟩

section

variable (h : Inbox scope before cpu)
include h

lemma Inbox.quiet (hquiet : Moves Task.SameWake cpu cpu') : Inbox scope before cpu' := by
  obtain ⟨xs, hxs, hmem⟩ := h.list
  refine ⟨⟨xs, ?_, fun id => ?_⟩, hquiet.tasks ▸ h.within, fun id hid => ?_⟩
  · rw [hquiet.inbox]
    exact hxs.congr fun y _ => (hquiet.task y).2
  · rw [hmem id, hquiet.tasks, (hquiet.task id).1]
  · have hbefore := h.frame id hid
    exact ⟨(hquiet.task id).1.trans hbefore.1, (hquiet.task id).2.trans hbefore.2⟩

lemma Inbox.relocate {task : TaskId → Task}
    (hsame : ∀ j ∈ cpu.scheduler.tasks, (cpu.task j).SameWake (task j)) :
    Inbox cpu.scheduler.tasks task ⟨cpu.scheduler, task⟩ := by
  obtain ⟨xs, hxs, hmem⟩ := h.list
  refine ⟨⟨xs, ?_, fun id => ?_⟩, subset_rfl, fun _ _ => ⟨rfl, rfl⟩⟩
  · exact hxs.congr fun y hy => (hsame y ((hmem y).1 hy).1).2
  · refine (hmem id).trans (and_congr_right fun hid => ?_)
    rw [(hsame id hid).1]

lemma Inbox.widen {scope' : Finset TaskId} (hscope : scope ⊆ scope') : Inbox scope' before cpu :=
  ⟨h.list, h.within.trans hscope, fun id hid => h.frame id fun hmem => hid (hscope hmem)⟩

end

@[simp] lemma scheduler_setWakeQueued (cpu : Cpu) (id : TaskId) (queued : Bool) :
    (cpu.setWakeQueued id queued).scheduler = cpu.scheduler := rfl

@[simp] lemma links_setWakeQueued (cpu : Cpu) (id : TaskId) (queued : Bool) :
    (cpu.setWakeQueued id queued).links = cpu.links := by
  funext j
  by_cases hne : j = id
  · subst hne
    simp [links, setWakeQueued]
  · simp [links, setWakeQueued, modifyTask_other cpu _ hne]

@[simp] lemma wakeQueued_setWakeQueued (cpu : Cpu) (id j : TaskId) (queued : Bool) :
    ((cpu.setWakeQueued id queued).task j).wakeQueued
      = if j = id then queued else (cpu.task j).wakeQueued := by
  by_cases hne : j = id
  · subst hne
    simp [setWakeQueued]
  · simp [setWakeQueued, modifyTask_other cpu _ hne, hne]

variable (h : Inbox scope before cpu)
include h

lemma Inbox.enqueueWakeup (id : TaskId) : Inbox scope before (cpu.enqueueWakeup id) := by
  unfold Cpu.enqueueWakeup
  by_cases hid : id ∈ cpu.scheduler.tasks
  · cases hqueued : (cpu.task id).wakeQueued with
    | true => simpa only [if_pos hid, if_true] using h
    | false =>
      simp only [if_pos hid, Bool.false_eq_true, if_false, links_setWakeQueued]
      obtain ⟨xs, hxs, hmem⟩ := h.list
      have hfresh : id ∉ xs := fun hin => absurd ((hmem id).1 hin).2 (by simp [hqueued])
      refine ⟨⟨xs ++ [id], hxs.pushBack hfresh, fun j => ?_⟩, h.within, fun j hj => ?_⟩
      · rw [mem_append, mem_singleton, hmem j]
        by_cases hne : j = id
        · subst hne
          simpa [setInbox] using hid
        · simp [setInbox, hne]
      · have hout : j ∉ cpu.scheduler.tasks := fun hin => hj (h.within hin)
        have hne : j ≠ id := fun heq => hout (heq ▸ hid)
        refine ⟨?_, ?_⟩
        · simpa [setInbox, hne] using (h.frame j hj).1
        · exact (hxs.pushBack_other (fun hin => hout ((hmem j).1 hin).1) hne).trans (h.frame j hj).2
  · simpa only [if_neg hid] using h

/-- One round of the drain loop, up to the activation. -/
lemma Inbox.pop (hpopped : (LinkedList.popFront cpu.links cpu.scheduler.wakeInbox).1 = some id) :
    Inbox scope before ((cpu.setInbox (LinkedList.popFront cpu.links cpu.scheduler.wakeInbox).2)
      |>.setWakeQueued id false) := by
  obtain ⟨xs, hxs, hmem⟩ := h.list
  cases xs with
  | nil =>
    rw [hxs.popFront_nil] at hpopped
    cases hpopped
  | cons x rest =>
    obtain ⟨hfirst, hrest⟩ := hxs.popFront
    cases hfirst.symm.trans hpopped
    have hfresh := (nodup_cons.1 hxs.nodup).1
    have hid := ((hmem id).1 mem_cons_self).1
    refine ⟨⟨rest, ?_, fun j => ?_⟩, h.within, fun j hj => ?_⟩
    · rw [links_setWakeQueued]
      exact hrest
    · have hiff := hmem j
      rw [mem_cons] at hiff
      by_cases hne : j = id
      · subst hne
        simpa using hfresh
      · simpa [hne, setInbox] using hiff
    · have hout : j ∉ cpu.scheduler.tasks := fun hin => hj (h.within hin)
      have hne : j ≠ id := fun heq => hout (heq ▸ hid)
      refine ⟨?_, ?_⟩
      · simpa [hne, setInbox] using (h.frame j hj).1
      · refine (congrFun (links_setWakeQueued _ id false) j).trans (.trans ?_ (h.frame j hj).2)
        exact hxs.popFront_other fun hin => hout ((hmem j).1 (mem_cons_of_mem _ hin)).1

lemma Inbox.drainWakeups (fuel : Nat) : Inbox scope before (cpu.drainWakeups fuel).2 := by
  induction fuel generalizing cpu with
  | zero => exact h
  | succ fuel ih =>
    simp only [Cpu.drainWakeups]
    split
    · exact h
    · rename_i id hpopped
      exact ih ((h.pop hpopped).quiet (Moves.activateWakeupTask sameWake_tolerates _ id))

/-- A task leaves the table, and the inbox if it is in there. -/
lemma Inbox.removeTask (id : TaskId) : Inbox scope before (cpu.removeTask id).2 := by
  unfold Cpu.removeTask
  by_cases hid : id ∈ cpu.scheduler.tasks
  · obtain ⟨xs, hxs, hmem⟩ := h.list
    have hweigh : ∀ c : Cpu, Inbox scope before c →
        Inbox scope before (if (c.task id).isReady then c.subRunnableWeight id else c) := by
      intro c hc
      split
      · exact hc.quiet ⟨rfl, rfl, fun _ => ⟨rfl, rfl⟩⟩
      · exact hc
    have hsub : cpu.scheduler.tasks.erase id ⊆ scope := (Finset.erase_subset _ _).trans h.within
    have hne : ∀ j, j ∉ scope → j ≠ id := fun j hj heq => hj (heq ▸ h.within hid)
    simp only [if_pos hid]
    refine hweigh _ ?_
    cases hqueued : (cpu.task id).wakeQueued with
    | true =>
      obtain ⟨ys, zs, rfl⟩ := append_of_mem ((hmem id).2 ⟨hid, hqueued⟩)
      simp only [if_true, links_setWakeQueued]
      refine ⟨⟨ys ++ zs, hxs.detach, fun j => ?_⟩, hsub, fun j hj => ⟨?_, ?_⟩⟩
      · have hiff := hmem j
        rw [mem_append, mem_cons] at hiff
        by_cases heq : j = id
        · subst heq
          have hnodup := nodup_middle.1 hxs.nodup
          simpa [setInbox] using (nodup_cons.1 hnodup).1
        · rw [mem_append]
          simpa [setInbox, heq] using hiff
      · simpa [setInbox, hne j hj] using (h.frame j hj).1
      · have hout : j ∉ ys ++ id :: zs := fun hin => hj (h.within ((hmem j).1 hin).1)
        rw [mem_append, mem_cons, not_or, not_or] at hout
        exact (hxs.detach_other hout.1 hout.2.2).trans (h.frame j hj).2
    | false =>
      simp only [Bool.false_eq_true, if_false]
      refine ⟨⟨xs, ?_, fun j => ?_⟩, hsub, fun j hj => ⟨?_, ?_⟩⟩
      · rw [links_setWakeQueued]
        exact hxs
      · by_cases heq : j = id
        · subst heq
          have hout : j ∉ xs := fun hin => absurd ((hmem j).1 hin).2 (by simp [hqueued])
          simpa using hout
        · rw [hmem j]
          simp [heq]
      · simpa [hne j hj] using (h.frame j hj).1
      · exact (congrFun (links_setWakeQueued _ id false) j).trans (h.frame j hj).2
  · simpa only [if_neg hid] using h

lemma Inbox.enroll (hid : id ∉ cpu.scheduler.tasks) (hscope : id ∈ scope)
    (hclear : (cpu.task id).wakeQueued = false) : Inbox scope before (cpu.enroll id) := by
  obtain ⟨xs, hxs, hmem⟩ := h.list
  have hsame : ∀ j, (cpu.task j).SameWake ((cpu.enroll id).task j) :=
    (Moves.setSchedMeta sameWake_tolerates cpu id _).task
  have htasks : (cpu.enroll id).scheduler.tasks = insert id cpu.scheduler.tasks := rfl
  refine ⟨⟨xs, hxs.congr fun y _ => (hsame y).2, fun j => ?_⟩, ?_, fun j hj => ?_⟩
  · rw [hmem j, htasks, (hsame j).1, Finset.mem_insert]
    by_cases hne : j = id
    · subst hne
      simp [hclear]
    · simp [hne]
  · exact Finset.insert_subset hscope h.within
  · exact ⟨(hsame j).1.trans (h.frame j hj).1, (hsame j).2.trans (h.frame j hj).2⟩

lemma Inbox.admitTask (hscope : id ∈ scope)
    (hclear : id ∉ cpu.scheduler.tasks → (cpu.task id).wakeQueued = false) :
    Inbox scope before (cpu.admitTask id) := by
  by_cases hid : id ∈ cpu.scheduler.tasks
  · rw [Cpu.admitTask, if_pos hid]
    exact h
  · have hentered := h.enroll hid hscope (hclear hid)
    rw [admitTask_eq hid]
    split
    · refine Inbox.quiet ?_ (Moves.insertRunnablePointer sameWake_tolerates _ id _)
      split
      · exact hentered.quiet ⟨rfl, rfl, fun _ => ⟨rfl, rfl⟩⟩
      · exact hentered
    · exact hentered

/-- A task that is not linked leaves the table. -/
lemma Inbox.departMigrating (hid : id ∈ cpu.scheduler.tasks)
    (hclear : (cpu.task id).wakeQueued = false) : Inbox scope before (cpu.departMigrating id) := by
  rw [departMigrating_eq]
  refine Inbox.quiet ?_ (Moves.setSchedMeta sameWake_tolerates _ id _)
  obtain ⟨xs, hxs, hmem⟩ := h.list
  refine ⟨⟨xs, hxs, fun j => ?_⟩, (Finset.erase_subset _ _).trans h.within, h.frame⟩
  rw [hmem j, Finset.mem_erase]
  by_cases hne : j = id
  · subst hne
    simp [hclear]
  · simp [hne]

lemma Inbox.takeMigratable (now : Instant) (threshold : Duration) (policy : MigrationPolicy)
    (hclear : ∀ id ∈ (cpu.extractMigratableTask now threshold (policy = .balanceRequest)).1,
      (cpu.task id).wakeQueued = false) :
    Inbox scope before (cpu.takeMigratable now threshold policy).2 := by
  obtain ⟨found, ⟨htask, ⟨_, _, hscheduler⟩, -⟩, rfl, hcases⟩ := takeMigratable_cases cpu now threshold policy
  have hfound : Inbox scope before (cpu.extractMigratableTask now threshold (policy = .balanceRequest)).2 :=
    h.quiet ⟨by rw [hscheduler], by rw [hscheduler], fun j => by rw [htask]; exact ⟨rfl, rfl⟩⟩
  obtain ⟨-, heq⟩ | ⟨id, hmem, hid, heq⟩ := hcases
  · rw [heq]
    exact hfound
  · rw [heq]
    refine hfound.departMigrating ?_ ?_
    · rw [hscheduler]
      exact hmem
    · rw [htask]
      exact hclear id hid

lemma Inbox.finalizeCurrentBoundary (rsp : Nat) (action : TaskBoundaryAction) (now : Option Instant) :
    Inbox scope before (cpu.finalizeCurrentBoundary rsp action now).2 := by
  unfold Cpu.finalizeCurrentBoundary
  split
  · exact h
  · rename_i id _
    have hboundary := h.quiet (Moves.atBoundary sameWake_tolerates cpu id now)
    cases action with
    | cancelled =>
      exact (hboundary.quiet (Moves.leaveCurrent sameWake_tolerates _ fun _ => ⟨rfl, rfl⟩)).removeTask id
    | outcome outcome =>
      cases outcome with
      | ready =>
        change Inbox scope before ((cpu.atBoundary id now).finalizeCurrentPoll .ready).2
        unfold finalizeCurrentPoll
        dsimp only
        split
        · exact hboundary
        · exact hboundary.quiet (.trans sameWake_tolerates (Moves.markReady sameWake_tolerates _ _ _)
            (Moves.requeueCurrentWith sameWake_tolerates _ _))
      | blocked => exact hboundary.quiet (Moves.leaveCurrent sameWake_tolerates _ fun _ => ⟨rfl, rfl⟩)
      | exited exit =>
        exact (hboundary.quiet (Moves.leaveCurrent sameWake_tolerates _ fun _ => ⟨rfl, rfl⟩)).removeTask id

lemma Inbox.onTick (fuel : Nat) (now : Instant) : Inbox scope before (cpu.onTick fuel now).2 :=
  (h.drainWakeups fuel).quiet (Moves.onTick_drained sameWake_tolerates fuel cpu now)

end Cpu

namespace Machine

variable {n : Nat} {m : Machine n} {c : Fin n}

/-! ## Inboxes across CPUs -/

/-- The tasks linked in the inbox of the CPU. -/
def inbox (m : Machine n) (c : Fin n) : List TaskId :=
  (m.cpus c).wakeInbox.toList (m.cpu c).links

/-- Links, flags and tables of all CPUs agree. -/
structure InboxesOwned (m : Machine n) : Prop where
  represents : ∀ c, Represents (m.cpu c).links (m.cpus c).wakeInbox (m.inbox c)
  linked_owned : ∀ c, ∀ id ∈ m.inbox c, id ∈ (m.cpus c).tasks
  queued_iff : ∀ c, ∀ id ∈ (m.cpus c).tasks, (m.task id).wakeQueued = true ↔ id ∈ m.inbox c
  pending_clear : ∀ id ∈ m.pending, (m.task id).wakeQueued = false
  /-- `remove_task` detaches a task of the table whose flag is set from the CPU's own inbox. -/
  detaches_own : ∀ c, ∀ id ∈ (m.cpus c).tasks, (m.task id).wakeQueued = true →
    ∀ c', id ∈ m.inbox c' ↔ c' = c

/-- How tasks are created and handed over. -/
def Hands (m : Machine n) : Op n → Prop
  | .spawn id _ _ _ => id ∉ m.pending ∧ ∀ c, id ∉ (m.cpus c).tasks
  | .admitTask c id => id ∈ m.pending ∨ id ∈ (m.cpus c).tasks
  | _ => True

/-- The task that leaves is not linked in the inbox. -/
def LeavesUnlinked (m : Machine n) : Op n → Prop
  | .takeMigratable c now threshold policy =>
    ∀ id ∈ ((m.cpu c).extractMigratableTask now threshold (policy = .balanceRequest)).1,
      (m.task id).wakeQueued = false
  | _ => True

instance (m : Machine n) (op : Op n) : Decidable (m.Hands op) := by
  rcases op <;> unfold Hands <;> infer_instance

instance (m : Machine n) (op : Op n) : Decidable (m.LeavesUnlinked op) := by
  rcases op <;> unfold LeavesUnlinked <;> infer_instance

def Posted : Machine n → Prop :=
  Owned (fun _ cpu => cpu.Inbox cpu.scheduler.tasks cpu.task) fun task => task.wakeQueued = false

lemma inbox_local : Local (fun (_ : Fin n) cpu => cpu.Inbox cpu.scheduler.tasks cpu.task)
    (fun task => task.wakeQueued = false) Task.SameWake where
  refl _ := ⟨rfl, rfl⟩
  cpu h hsame := h.relocate hsame
  pending h hsame := hsame.1.trans h

lemma new_posted : Posted (.new n) where
  cpu c := Cpu.Inbox.empty c _
  tables _ _ _ := Finset.disjoint_empty_left _
  pending _ := Finset.disjoint_empty_left _
  incoming _ hid := absurd hid (Finset.notMem_empty _)

lemma kept_of_inbox {scope : Finset TaskId} {after : Cpu} (h : after.Inbox scope m.task) :
    Kept (fun _ cpu => cpu.Inbox cpu.scheduler.tasks cpu.task) Task.SameWake m c scope after :=
  ⟨h.relocate fun _ _ => ⟨rfl, rfl⟩, h.within, h.frame⟩

lemma Posted.put_own (h : Posted m) {after : Cpu}
    (hinbox : after.Inbox (m.cpus c).tasks m.task) : Posted (m.put c after) :=
  Owned.put_own inbox_local h (kept_of_inbox hinbox)

lemma Posted.step (h : Posted m) {op : Op n} (hhands : m.Hands op) (hleaves : m.LeavesUnlinked op) :
    Posted (m.step op) := by
  have hlocal := inbox_local (n := n)
  cases op with
  | spawn id weight slice kernelStack => exact Owned.spawn hlocal h hhands rfl
  | admitTask c id =>
    exact Owned.admitTask hlocal h hhands fun scope hsub hid hnew =>
      kept_of_inbox (((h.cpu c).widen hsub).admitTask hid hnew)
  | enqueueWakeup c id => exact h.put_own ((h.cpu c).enqueueWakeup id)
  | drainWakeups c fuel => exact h.put_own ((h.cpu c).drainWakeups fuel)
  | onTick c fuel now => exact h.put_own ((h.cpu c).onTick fuel now)
  | takeNext c now => exact h.put_own ((h.cpu c).quiet (Cpu.Moves.takeNext sameWake_tolerates _ now))
  | finalizeCurrentBoundary c rsp action now =>
    exact h.put_own ((h.cpu c).finalizeCurrentBoundary rsp action now)
  | savePreemptedCurrent c rsp now =>
    exact h.put_own ((h.cpu c).quiet (Cpu.Moves.savePreemptedCurrent sameWake_tolerates _ rsp now))
  | takeMigratable c now threshold policy =>
    refine Owned.takeMigratable hlocal h
      (kept_of_inbox ((h.cpu c).takeMigratable now threshold policy hleaves)) fun id htaken => ?_
    obtain ⟨hfound, -, -, htask⟩ := Cpu.takeMigratable_eq_some htaken
    exact htask ▸ hleaves id hfound
  | removeTask c id => exact h.put_own ((h.cpu c).removeTask id)
  | touch id execution placement => exact Owned.touch hlocal h ⟨rfl, rfl⟩

lemma Posted.owned (h : Posted m) : m.InboxesOwned := by
  have hlist : ∀ c, Represents (m.cpu c).links (m.cpus c).wakeInbox (m.inbox c) ∧
      ∀ id, id ∈ m.inbox c ↔ id ∈ (m.cpus c).tasks ∧ (m.task id).wakeQueued = true := by
    intro c
    obtain ⟨xs, hxs, hmem⟩ := (h.cpu c).list
    have heq : m.inbox c = xs := hxs.toList
    rw [heq]
    exact ⟨hxs, hmem⟩
  refine ⟨fun c => (hlist c).1, fun c id hid => (((hlist c).2 id).1 hid).1, fun c id hid => ?_,
    h.incoming, fun c id hid hqueued c' => ⟨fun hin => ?_, ?_⟩⟩
  · rw [(hlist c).2 id, and_iff_right hid]
  · by_contra hne
    exact Finset.disjoint_left.1 (h.tables c' c hne) (((hlist c').2 id).1 hin).1 hid
  · rintro rfl
    exact ((hlist c').2 id).2 ⟨hid, hqueued⟩

/-- A queued task is taken to another CPU. -/
def migrateQueued : List (Op 2) :=
  let stack := oneStack
  let runnable := ⟨true, none, none, .async, false⟩
  let cpu : Fin 2 := ⟨0, Nat.two_pos⟩
  [.spawn 1 1024 (.fromMillis 4) stack, .touch 1 runnable ⟨true, true, true, 0, 0⟩, .admitTask cpu 1,
    .enqueueWakeup cpu 1, .takeMigratable cpu ⟨1, 0⟩ .zero .steal,
    .touch 1 runnable ⟨true, false, true, 0, 0⟩, .admitTask (Fin.last 1) 1]

/-- The task is linked in the inbox of a CPU that does not have it, and `remove_task` on the one that
does detaches it from the wrong inbox. -/
theorem migrateQueued_leaves_inbox_behind : Meets step Hands (new 2) migrateQueued ∧
    (runOps step (new 2) migrateQueued).inbox 0 = [1] ∧
    ((runOps step (new 2) migrateQueued).cpus 0).tasks = ∅ ∧
    ((runOps step (new 2) migrateQueued).cpus 1).tasks = {1} ∧
    ((runOps step (new 2) migrateQueued).task 1).wakeQueued = true ∧
    (runOps step (new 2) migrateQueued).inbox 1 = [] := by
  decide +kernel

/-- In every run in which `take_migratable` takes no task whose flag is set, links, flags and tables
agree on every CPU. -/
theorem inboxes_owned_of_leavesUnlinked {ops : List (Op n)} (hhands : Meets step Hands (new n) ops)
    (hleaves : Meets step LeavesUnlinked (new n) ops) : InboxesOwned (runOps step (new n) ops) := by
  have hposted : Posted (runOps step (new n) ops) :=
    run_invariant (fun _ _ h hok => h.step hok.1 hok.2) new_posted (hhands.and hleaves)
  exact hposted.owned

/-- Drained before it is taken, the task arrives unlinked. -/
def migrateDrained : List (Op 2) :=
  migrateQueued.take 4 ++ .drainWakeups ⟨0, Nat.two_pos⟩ 1 :: migrateQueued.drop 4

theorem inboxes_owned_migrateDrained : Meets step LeavesUnlinked (new 2) migrateDrained ∧
    ((runOps step (new 2) migrateDrained).cpus 1).tasks = {1} ∧
    InboxesOwned (runOps step (new 2) migrateDrained) :=
  have hleaves : Meets step LeavesUnlinked (new 2) migrateDrained := by decide +kernel
  ⟨hleaves, by decide +kernel, inboxes_owned_of_leavesUnlinked (by decide +kernel) hleaves⟩

end Machine

end Akarin.Sched
