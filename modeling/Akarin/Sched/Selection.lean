/-
# Akarin.Sched.Selection -- which task `take_next` picks

The eligible tree is meant to hold the ready tasks with `veligible <= vtime`. `pick_next` moves in what
has become eligible and takes the first, so it selects by the law of EEVDF as long as nothing in the
tree has stopped being eligible. A departure can do that: when a task leaves that is not eligible
itself, `vtime` moves back.
-/
import Akarin.Sched.Machine

namespace Akarin.Sched

open List
open Lib (runOps Meets)

namespace Cpu

variable {terms : Terms} {cpu : Cpu} {id : TaskId}

/-- A ready task of the CPU. -/
def Ready (cpu : Cpu) (id : TaskId) : Prop :=
  id ∈ cpu.scheduler.tasks ∧ (cpu.task id).isReady = true

/-- A ready task that is eligible at that time. -/
def EligibleAt (cpu : Cpu) (vtime : Nat) (id : TaskId) : Prop :=
  cpu.Ready id ∧ (cpu.task id).sched.veligible ≤ vtime

/-- The virtual time of a selection: the present one if some task is eligible, else the first one at
which a task is. -/
structure SelectionTime (cpu : Cpu) (vtime : Nat) : Prop where
  stays : (∃ id, cpu.EligibleAt cpu.scheduler.vtime id) → vtime = cpu.scheduler.vtime
  attained : (¬ ∃ id, cpu.EligibleAt cpu.scheduler.vtime id) → (∃ id, cpu.Ready id) →
    ∃ id, cpu.Ready id ∧ (cpu.task id).sched.veligible = vtime
  least : (¬ ∃ id, cpu.EligibleAt cpu.scheduler.vtime id) →
    ∀ id, cpu.Ready id → vtime ≤ (cpu.task id).sched.veligible

/-- The selection law of EEVDF. -/
structure Selects (cpu : Cpu) (picked : Option TaskId) (vtime : Nat) : Prop where
  time : cpu.SelectionTime vtime
  eligible : ∀ id, picked = some id → cpu.EligibleAt vtime id
  first : ∀ id, picked = some id → ∀ j, cpu.EligibleAt vtime j →
    KeyLe ((cpu.task id).sched.vdeadline, id) ((cpu.task j).sched.vdeadline, j)
  idle : picked = none → ∀ id, ¬ cpu.Ready id

/-- The trees of `cpu'` split the ready tasks of `cpu` at the virtual time of a selection. -/
structure Split (cpu cpu' : Cpu) : Prop where
  task : cpu'.task = cpu.task
  time : cpu.SelectionTime cpu'.scheduler.vtime
  eligible_iff : ∀ id, (∃ key, (key, id) ∈ cpu'.scheduler.eligible) ↔
    cpu.EligibleAt cpu'.scheduler.vtime id
  nonempty : cpu'.scheduler.eligible = [] → ∀ id, ¬ cpu.Ready id

variable (h : RunQueue terms cpu none)
include h

/-- Without a current task the ready tasks are those in the trees. -/
lemma RunQueue.ready_iff (hcurrent : cpu.scheduler.current = none) : cpu.Ready id ↔ id ∈ cpu.queued := by
  rw [h.queued_iff id, hcurrent, Ready]
  simp

section

variable (hstrict : terms.strict)
include hstrict

/-- After a promotion the eligible tree holds the tasks that are eligible. -/
lemma RunQueue.promote_split : (∃ key, (key, id) ∈ cpu.promoteEligible.scheduler.eligible) ↔
      id ∈ cpu.queued ∧ (cpu.task id).sched.veligible ≤ cpu.scheduler.vtime := by
  constructor
  · rintro ⟨key, hnode⟩
    exact ⟨(queued_promoteEligible cpu).mem_iff.1 (mem_queued_of_eligible hnode),
      h.promoteEligible.timely hstrict (key, id) hnode⟩
  · rintro ⟨hqueued, hle⟩
    rcases mem_queued.1 ((queued_promoteEligible cpu).mem_iff.2 hqueued) with hin | ⟨key, hnode⟩
    · exact hin
    · exact absurd hle (promote_complete h.ineligible_sorted h.ineligible_key hnode).not_ge

section

variable (hcurrent : cpu.scheduler.current = none)
include hcurrent

/-- No task is eligible, and the first one becomes so. -/
lemma RunQueue.raise_split {key : Nat} {rest : RunTree}
    (heligible : cpu.promoteEligible.scheduler.eligible = [])
    (hineligible : cpu.promoteEligible.scheduler.ineligible = (key, id) :: rest) :
    Split cpu (Cpu.promoteEligible { cpu.promoteEligible with scheduler :=
      { cpu.promoteEligible.scheduler with
        vtime := max cpu.scheduler.vtime (cpu.task id).sched.veligible } }) := by
  have hpromoted := h.promoteEligible
  have hnode : (key, id) ∈ cpu.promoteEligible.scheduler.ineligible := by
    rw [hineligible]
    exact mem_cons_self
  have hid := (hpromoted.queued_iff id).1 (mem_queued_of_ineligible hnode)
  have hrange := hpromoted.range id hid.1
  have hlater : cpu.scheduler.vtime < (cpu.task id).sched.veligible :=
    promote_complete h.ineligible_sorted h.ineligible_key hnode
  have hmax : max cpu.scheduler.vtime (cpu.task id).sched.veligible = (cpu.task id).sched.veligible :=
    max_eq_right hlater.le
  rw [hmax]
  have hraised := hpromoted.raise (hrange.window.trans_lt hrange.vdeadline_lt) hlater.le
  have hnone : ¬ ∃ j, cpu.EligibleAt cpu.scheduler.vtime j := by
    rintro ⟨j, hready, hle⟩
    obtain ⟨key', hmem⟩ := (h.promote_split hstrict).2 ⟨(h.ready_iff hcurrent).1 hready, hle⟩
    rw [heligible] at hmem
    cases hmem
  have hiff : ∀ j, (∃ key, (key, j) ∈ (Cpu.promoteEligible { cpu.promoteEligible with scheduler :=
      { cpu.promoteEligible.scheduler with vtime := (cpu.task id).sched.veligible } }).scheduler.eligible) ↔
      cpu.EligibleAt (cpu.task id).sched.veligible j := by
    intro j
    refine (hraised.promote_split hstrict).trans ?_
    rw [EligibleAt, h.ready_iff hcurrent]
    exact and_congr_left fun _ => (queued_promoteEligible cpu).mem_iff
  refine ⟨rfl, ⟨fun hsome => absurd hsome hnone, fun _ _ => ⟨id, ⟨hid.1, hid.2.1⟩, rfl⟩,
    fun _ j hready => ?_⟩, hiff, fun hempty => ?_⟩
  · rcases mem_queued.1 ((queued_promoteEligible cpu).mem_iff.2 ((h.ready_iff hcurrent).1 hready))
      with ⟨key', hmem⟩ | ⟨key', hmem⟩
    · rw [heligible] at hmem
      cases hmem
    · have hsorted := hpromoted.ineligible_sorted
      have hkey : key = (cpu.task id).sched.veligible := hpromoted.ineligible_key (key, id) hnode
      have hkey' : key' = (cpu.task j).sched.veligible := hpromoted.ineligible_key (key', j) hmem
      rw [hineligible] at hsorted hmem
      rcases mem_cons.1 hmem with heq | hmem
      · cases heq
        exact le_rfl
      · have hle := (pairwise_cons.1 hsorted).1 (key', j) hmem
        simp only [KeyLe] at hle
        change (cpu.task id).sched.veligible ≤ (cpu.task j).sched.veligible
        omega
  · obtain ⟨key', hmem⟩ := (hiff id).2 ⟨⟨hid.1, hid.2.1⟩, le_rfl⟩
    rw [hempty] at hmem
    cases hmem

lemma RunQueue.refreshEligible_split : Split cpu cpu.refreshEligible := by
  unfold Cpu.refreshEligible
  dsimp only
  split
  · rename_i key id rest heligible hineligible
    exact h.raise_split hstrict hcurrent heligible hineligible
  · rename_i hsome
    -- a ready task is in one of the trees, and if it is ineligible the other tree is not empty
    have hready : ∀ j, cpu.Ready j → cpu.promoteEligible.scheduler.eligible ≠ [] := by
      intro j hready heligible
      rcases mem_queued.1 ((queued_promoteEligible cpu).mem_iff.2 ((h.ready_iff hcurrent).1 hready))
        with ⟨key, hmem⟩ | ⟨key, hmem⟩
      · rw [heligible] at hmem
        cases hmem
      · cases hineligible : cpu.promoteEligible.scheduler.ineligible with
        | nil =>
          rw [hineligible] at hmem
          cases hmem
        | cons node rest => exact hsome node.1 node.2 rest heligible hineligible
    have hiff : ∀ j, (∃ key, (key, j) ∈ cpu.promoteEligible.scheduler.eligible) ↔
        cpu.EligibleAt cpu.scheduler.vtime j := fun j => by
      rw [h.promote_split hstrict, EligibleAt, h.ready_iff hcurrent]
    have heligible : ∀ j, cpu.Ready j → ∃ j, cpu.EligibleAt cpu.scheduler.vtime j := fun j hj => by
      obtain ⟨node, hnode⟩ := exists_mem_of_ne_nil _ (hready j hj)
      exact ⟨node.2, (hiff node.2).1 ⟨node.1, hnode⟩⟩
    exact {
      task := rfl
      time := {
        stays := fun _ => rfl
        attained := fun hnone ⟨j, hj⟩ => absurd (heligible j hj) hnone
        least := fun hnone j hj => absurd (heligible j hj) hnone }
      eligible_iff := hiff
      nonempty := fun hempty j hj => hready j hj hempty }

lemma RunQueue.takeNext_selects (now : Instant) :
    cpu.Selects (cpu.takeNext now).1 (cpu.takeNext now).2.scheduler.vtime := by
  obtain ⟨htask, htime, hiff, hnonempty⟩ := h.refreshEligible_split hstrict hcurrent
  have hsorted := h.refreshEligible.eligible_sorted
  have hkeys := h.refreshEligible.eligible_key
  rw [h.takeNext_eq now]
  cases heligible : cpu.refreshEligible.scheduler.eligible with
  | nil =>
    refine ⟨htime, fun id hid => ?_, fun id hid => ?_, fun _ => hnonempty heligible⟩
    · cases hid
    · cases hid
  | cons node rest =>
    rw [heligible] at hsorted hkeys hiff
    refine ⟨htime, fun id hid => ?_, fun id hid j hj => ?_, nofun⟩
    · cases hid
      exact (hiff node.2).1 ⟨node.1, mem_cons_self⟩
    · cases hid
      obtain ⟨key, hmem⟩ := (hiff j).2 hj
      have hkey : node.1 = (cpu.task node.2).sched.vdeadline := by
        rw [← htask]
        exact hkeys node mem_cons_self
      have hkey' : key = (cpu.task j).sched.vdeadline := by
        rw [← htask]
        exact hkeys (key, j) hmem
      rw [← hkey, ← hkey']
      rcases mem_cons.1 hmem with heq | hmem
      · rw [← heq]
        exact .inr ⟨rfl, le_rfl⟩
      · exact (pairwise_cons.1 hsorted).1 (key, j) hmem

end

end

end Cpu

namespace Machine

variable {n : Nat}

/-- Task 1 has run ahead of `vtime` when it blocks, and task 3 has been admitted at the `vtime` before
that. -/
def blockAhead : List (Op 1) :=
  let stack := oneStack
  let runnable := ⟨true, none, none, .async, false⟩
  let placement := ⟨true, false, true, 0, 0⟩
  let cpu : Fin 1 := ⟨0, Nat.one_pos⟩
  [.spawn 1 1024 (.fromMillis 4) stack, .touch 1 runnable placement, .admitTask cpu 1,
    .spawn 2 1024 (.fromMillis 4) stack, .touch 2 runnable placement, .admitTask cpu 2,
    .takeNext cpu ⟨1, 0⟩, .onTick cpu 0 ⟨1, 10⟩,
    .spawn 3 1024 (.fromMillis 4) stack, .touch 3 runnable placement, .admitTask cpu 3,
    .finalizeCurrentBoundary cpu 0x1800 (.outcome .blocked) none]

/-- The departure leaves tasks in the eligible tree that are not eligible any more. -/
theorem blockAhead_lowers_vtime : Meets step Allowed (new 1) blockAhead ∧
    ((runOps step (new 1) blockAhead).cpus 0).vtime = 3 ∧
    ((runOps step (new 1) blockAhead).cpus 0).eligible.ids = [2, 3] ∧
    ((runOps step (new 1) blockAhead).task 3).sched.veligible = 5 := by
  decide +kernel

/-- In every run in which no departure lowers the CPU's `vtime`, the eligible tree holds eligible tasks
only and `take_next` selects by the law. -/
theorem takeNext_selects_of_keepsVtime {ops : List (Op n)} (c : Fin n)
    (hallowed : Meets step Allowed (new n) ops)
    (hkeeps : Meets step (fun m op => m.KeepsVtime c op) (new n) ops) :
    (∀ node ∈ ((runOps step (new n) ops).cpus c).eligible,
      ((runOps step (new n) ops).task node.2).sched.veligible ≤ ((runOps step (new n) ops).cpus c).vtime) ∧
    (((runOps step (new n) ops).cpus c).current = none → ∀ now,
      ((runOps step (new n) ops).cpu c).Selects (((runOps step (new n) ops).cpu c).takeNext now).1
        (((runOps step (new n) ops).cpu c).takeNext now).2.scheduler.vtime) := by
  have hstrict : Consistent (fun _ => False) (fun c' => c' = c) (runOps step (new n) ops) := by
    refine run_consistent hallowed ?_ ?_
    · exact Meets.upgrade (I := fun _ => True) (fun _ _ _ _ => ⟨fun _ hfit => hfit.elim, trivial⟩)
        trivial hallowed
    · exact Meets.upgrade (I := fun _ => True) (fun _ _ _ hok => ⟨fun c' heq => heq ▸ hok, trivial⟩)
        trivial hkeeps
  have hqueue := hstrict.cpu c
  exact ⟨hqueue.timely rfl, fun hcurrent now => hqueue.takeNext_selects rfl hcurrent now⟩

/-- Task 1 blocks right after it was dispatched, when it is not ahead of `vtime`. -/
def blockLevel : List (Op 1) :=
  blockAhead.take 7 ++ blockAhead.drop 11

theorem takeNext_selects_blockLevel : Meets step (fun m op => m.KeepsVtime 0 op) (new 1) blockLevel ∧
    ((runOps step (new 1) blockLevel).task 1).isReady = false ∧
    ((runOps step (new 1) blockLevel).cpu 0).Selects
      (((runOps step (new 1) blockLevel).cpu 0).takeNext ⟨1, 0⟩).1
      (((runOps step (new 1) blockLevel).cpu 0).takeNext ⟨1, 0⟩).2.scheduler.vtime :=
  have hkeeps : Meets step (fun m op => m.KeepsVtime 0 op) (new 1) blockLevel := by decide +kernel
  ⟨hkeeps, by decide +kernel,
    (takeNext_selects_of_keepsVtime 0 (by decide +kernel) hkeeps).2 (by decide +kernel) ⟨1, 0⟩⟩

end Machine

end Akarin.Sched
