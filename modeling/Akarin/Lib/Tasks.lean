/-
# Akarin.Lib.Tasks -- interleavings of tasks over a shared state

A pool is a shared state and the program counters of the tasks that run on it. An event starts a
task, lets one task make its next atomic step, or lets the environment act; a list of events is a
schedule. `Pool.step` is a step function in the sense of `Akarin.Lib.Runs`, so that the invariant
rules there apply to schedules.

`exists_set` carries "some task is in charge of it" across a step of one task, `forall_set` what holds
of every task, `weigh_set` how many of them there are of a kind.
-/
import Akarin.Lib.Runs

namespace Akarin.Lib

open List

/-- The shared state `σ` and the program counters `π`. -/
structure Pool (σ π : Type) where
  shared : σ
  tasks : List π

/-- What a schedule is made of. -/
inductive Event (α ε : Type) where
  | start (call : α)
  | step (task : Nat)
  | environment (change : ε)

/-- A program: where a call begins (a call that nobody can make begins nowhere), what one atomic
step does, and what the environment may do. -/
structure Program (σ π α ε : Type) where
  enter : σ → α → Option π
  move : σ → π → σ × π
  act : σ → ε → σ

namespace Pool

variable {σ π α ε : Type}

def step (program : Program σ π α ε) (pool : Pool σ π) : Event α ε → Pool σ π
  | .start call =>
    match program.enter pool.shared call with
    | none => pool
    | some pc => ⟨pool.shared, pool.tasks ++ [pc]⟩
  | .step task =>
    match pool.tasks[task]? with
    | none => pool
    | some pc =>
      ⟨(program.move pool.shared pc).1, pool.tasks.set task (program.move pool.shared pc).2⟩
  | .environment change => ⟨program.act pool.shared change, pool.tasks⟩

/-- The pool no task has been started in. -/
def idle (s : σ) : Pool σ π := ⟨s, []⟩

/-- A condition on the atomic steps of tasks, as a condition on events. -/
def OnSteps (ok : σ → π → Prop) (pool : Pool σ π) : Event α ε → Prop
  | .step task => ∀ pc ∈ pool.tasks[task]?, ok pool.shared pc
  | _ => True

instance (ok : σ → π → Prop) [∀ s pc, Decidable (ok s pc)] (pool : Pool σ π) (event : Event α ε) :
    Decidable (OnSteps ok pool event) := by
  cases event <;> unfold OnSteps <;> infer_instance

/-- A pool's property survives an event if it survives the start of a task, a step of a task and an
act of the environment, whichever of them the event is. -/
lemma step_keeps {program : Program σ π α ε} {I : Pool σ π → Prop} {pool : Pool σ π}
    {event : Event α ε} (hI : I pool)
    (hstart : ∀ call pc, event = .start call → program.enter pool.shared call = some pc →
      I ⟨pool.shared, pool.tasks ++ [pc]⟩)
    (hmove : ∀ task pc, event = .step task → pool.tasks[task]? = some pc →
      I ⟨(program.move pool.shared pc).1, pool.tasks.set task (program.move pool.shared pc).2⟩)
    (hact : ∀ change, event = .environment change → I ⟨program.act pool.shared change, pool.tasks⟩) :
    I (pool.step program event) := by
  fun_cases step program pool event with
  | case2 call pc henter => exact hstart call pc rfl henter
  | case4 task pc hpc => exact hmove task pc rfl hpc
  | case5 change => exact hact change rfl
  | _ => exact hI

end Pool

variable {π : Type}

variable {tasks : List π} {pc pc' : π} {task : Nat}

section

variable (hpc : tasks[task]? = some pc)
include hpc

/-- The task that has moved is one of the tasks. -/
lemma mem_set_self : pc' ∈ tasks.set task pc' :=
  mem_iff_getElem?.2 ⟨task, by
    rw [getElem?_set_self (List.getElem?_eq_some_iff.1 hpc).1]⟩

/-- Some task is in charge before, so some task is in charge after one of them has moved: the others
keep what they are in charge of, and the one that moved hands on what it was in charge of. -/
lemma exists_set {P Q : π → Prop} (hothers : ∀ t, P t → Q t) (hown : P pc → Q pc')
    (h : ∃ t ∈ tasks, P t) : ∃ t ∈ tasks.set task pc', Q t := by
  obtain ⟨t, ht, hP⟩ := h
  obtain ⟨i, hi⟩ := mem_iff_getElem?.1 ht
  by_cases hit : task = i
  · subst hit
    obtain rfl := Option.mem_unique hpc hi
    exact ⟨pc', mem_set_self hpc, hown hP⟩
  · refine ⟨t, mem_iff_getElem?.2 ⟨i, ?_⟩, hothers t hP⟩
    rw [getElem?_set_ne hit]
    exact hi

/-- The tasks around the one that moves. -/
lemma set_split : ∃ before after, tasks = before ++ pc :: after ∧
      ∀ pc', tasks.set task pc' = before ++ pc' :: after := by
  obtain ⟨hlt, rfl⟩ := List.getElem?_eq_some_iff.1 hpc
  refine ⟨tasks.take task, tasks.drop (task + 1), ?_, fun pc' => ?_⟩
  · exact (take_append_drop task tasks).symm.trans (by rw [drop_eq_getElem_cons hlt])
  · rw [set_eq_take_append_cons_drop, if_pos hlt]

/-- A task that stays where it is. -/
lemma set_same : tasks.set task pc = tasks := by
  obtain ⟨before, after, heq, hset⟩ := set_split hpc
  rw [hset pc]
  exact heq.symm

end

/-- How much all of them weigh. -/
def weigh (weight : π → Nat) (tasks : List π) : Nat := (tasks.map weight).sum

section

variable (weight : π → Nat)
include weight

@[simp] lemma weigh_nil : weigh weight [] = 0 := rfl
@[simp] lemma weigh_cons (pc : π) (tasks : List π) :
    weigh weight (pc :: tasks) = weight pc + weigh weight tasks := by
  simp [weigh]

@[simp] lemma weigh_append (tasks tasks' : List π) :
    weigh weight (tasks ++ tasks') = weigh weight tasks + weigh weight tasks' := by
  simp [weigh]

/-- One of them is exchanged for another. -/
lemma weigh_set (hpc : tasks[task]? = some pc) (pc' : π) :
    weigh weight (tasks.set task pc') + weight pc = weigh weight tasks + weight pc' := by
  obtain ⟨before, after, heq, hset⟩ := set_split hpc
  rw [hset, heq]
  simp only [weigh_append, weigh_cons]
  omega

lemma le_weigh (hpc : pc ∈ tasks) : weight pc ≤ weigh weight tasks := by
  obtain ⟨before, after, rfl⟩ := append_of_mem hpc
  simp only [weigh_append, weigh_cons]
  omega

end

lemma weigh_eq_zero {weight : π → Nat} (h : ∀ pc ∈ tasks, weight pc = 0) : weigh weight tasks = 0 := by
  induction tasks with
  | nil => rfl
  | cons pc tasks ih =>
    rw [weigh_cons, h pc (mem_cons_self ..), ih fun t ht => h t (mem_cons_of_mem _ ht)]

/-- Whoever is there after one task has moved is that task, or was there before. -/
lemma set_cases {i : Nat} {other : π} (h : (tasks.set task pc')[i]? = some other) :
    (i = task ∧ other = pc') ∨ (i ≠ task ∧ tasks[i]? = some other) := by
  by_cases hi : i = task
  · subst hi
    rw [getElem?_set_self'] at h
    cases hother : tasks[i]? with
    | none => simp [hother] at h
    | some _ => exact .inl ⟨rfl, by simpa [hother] using h.symm⟩
  · exact .inr ⟨hi, by rwa [getElem?_set_ne fun heq => hi heq.symm] at h⟩

/-- What holds of every task holds of every task after one has moved. -/
lemma forall_set {P Q : π → Prop}
    (hothers : ∀ t ∈ tasks, P t → Q t) (hown : Q pc') (h : ∀ t ∈ tasks, P t) :
    ∀ t ∈ tasks.set task pc', Q t := by
  intro t ht
  rcases mem_or_eq_of_mem_set ht with hmem | rfl
  · exact hothers t hmem (h t hmem)
  · exact hown

end Akarin.Lib
