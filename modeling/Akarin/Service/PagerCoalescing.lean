/-
# Akarin.Service.PagerCoalescing -- faults on one page

Faults on the same page meet in its request slot: the first one asks the pager, the others are to
wait and to return what the first one publishes. In every run at most one request for a page is with
the pager, and whoever returns, returns what was published.

Waiting itself does not work. `resolve_mapping_fault` decides to wait inside the critical section of
the slot and calls `wait_until_ready` with the guard alive; the first thing that does is take the same
lock. A fault that finds the request in flight stops there for ever, and so does whoever needs the
lock, the publishing task included (`second_fault_deadlocks`).
-/
import Akarin.Service.Pager

namespace Akarin.Service

open List PagerPc PagerRequestState Lib Memory

/-! ## The property -/

/-- The task has a request for the page with the pager. -/
def PagerPc.asks (key : Nat × Nat) : PagerPc → Nat
  | .awaitAnswer fault _ => if fault.key = key then 1 else 0
  | _ => 0

/-- The invariant of the request slots. -/
structure Coalesced (pool : PagerPool) : Prop where
  /-- At most one request for a page is with the pager. -/
  single : ∀ key, weigh (asks key) pool.tasks ≤ 1
  /-- Whoever has returned has returned what was published. -/
  published : ∀ fault result, .returned fault result ∈ pool.tasks →
    (pool.shared.slots fault.key).state = .outcome result
  /-- Nobody goes to take the lock of a slot that it holds. -/
  reentry : ∀ fault, .waitUntilReady fault true ∉ pool.tasks

/-- A fault does not find a request for its page in flight. -/
def Alone (s : PagerState) : PagerPc → Prop
  | .look fault _ => (s.slots fault.key).state ≠ .inFlight
  | _ => True

instance (s : PagerState) : DecidablePred (Alone s) := fun x => by
  unfold Alone; split <;> infer_instance

/-! ## The invariant -/

/-- What holds in every run: nobody works on a request that is not in flight, at most one task works on
one that is, and whoever has returned has returned what was published. -/
structure Led (s : PagerState) (tasks : List PagerPc) : Prop where
  idle : ∀ key, (s.slots key).state ≠ .inFlight → weigh (leads key) tasks = 0
  one : ∀ key, weigh (leads key) tasks ≤ 1
  published : ∀ fault result, .returned fault result ∈ tasks → (s.slots fault.key).state = .outcome result

lemma PagerRequestState.outcome_ne_inFlight (result : Except ServiceError Unit) :
    outcome result ≠ .inFlight := by
  rcases result with error | ok <;> exact nofun

lemma PagerRequestState.outcome_ne_missing (result : Except ServiceError Unit) :
    outcome result ≠ .missing := by
  rcases result with error | ok <;> exact nofun

variable {s s' : PagerState} {tasks : List PagerPc} {task : Nat} {pc' pc : PagerPc}

section

variable (h : Led s tasks)
include h

/-- Slots that are not in flight and not missing stay as they are. -/
lemma Led.published_set (hkept : ∀ key result, (s.slots key).state = .outcome result →
      (s'.slots key).state = .outcome result) (hnew : ∀ fault result, pc' = .returned fault result →
      (s'.slots fault.key).state = .outcome result) :
    ∀ fault result, returned fault result ∈ tasks.set task pc' →
      (s'.slots fault.key).state = .outcome result := by
  intro fault result hmem
  rcases mem_or_eq_of_mem_set hmem with hold | heq
  · exact hkept fault.key result (h.published fault result hold)
  · exact hnew fault result heq.symm

section

variable (hpc : tasks[task]? = some pc)
include hpc

/-- The slots stay; the task works on no more than before. -/
lemma Led.keep (hslots : s'.slots = s.slots)
    (hleads : ∀ key, pc'.leads key ≤ pc.leads key) (hnew : ∀ fault result, pc' = .returned fault result →
      (s.slots fault.key).state = .outcome result) : Led s' (tasks.set task pc') := by
  have hweigh : ∀ key, weigh (leads key) (tasks.set task pc') ≤ weigh (leads key) tasks := by
    intro key
    have hset := weigh_set (leads key) hpc pc'
    have hle := hleads key
    omega
  refine ⟨fun key hstate => ?_, fun key => le_trans (hweigh key) (h.one key), ?_⟩
  · rw [hslots] at hstate
    exact Nat.le_zero.1 (h.idle key hstate ▸ hweigh key)
  · refine h.published_set (fun key result hstate => ?_) fun fault result heq => ?_
    · rw [hslots]
      exact hstate
    · rw [hslots]
      exact hnew fault result heq

/-- One slot changes; what has to be seen is about that slot. -/
lemma Led.setSlot {key : Nat × Nat} {slot : PagerRequestSlot}
    (hothers : ∀ other ≠ key, pc'.leads other ≤ pc.leads other)
    (hidle : slot.state ≠ .inFlight → weigh (leads key) (tasks.set task pc') = 0)
    (hone : weigh (leads key) (tasks.set task pc') ≤ 1)
    (hkept : ∀ result, (s.slots key).state ≠ .outcome result)
    (hnew : ∀ fault result, pc' = .returned fault result →
      fault.key = key ∧ slot.state = .outcome result) :
    Led (s.setSlot key slot) (tasks.set task pc') := by
  have hweigh : ∀ other ≠ key, weigh (leads other) (tasks.set task pc') ≤ weigh (leads other) tasks := by
    intro other hother
    have hset := weigh_set (leads other) hpc pc'
    have hle := hothers other hother
    omega
  refine ⟨fun other hstate => ?_, fun other => ?_, ?_⟩
  · by_cases hother : other = key
    · subst hother
      rw [slots_setSlot_self] at hstate
      exact hidle hstate
    · rw [slots_setSlot_ne s _ hother] at hstate
      exact Nat.le_zero.1 (h.idle other hstate ▸ hweigh other hother)
  · by_cases hother : other = key
    · exact hother ▸ hone
    · exact le_trans (hweigh other hother) (h.one other)
  · refine h.published_set (fun other result hstate => ?_) fun fault result heq => ?_
    · have hother : other ≠ key := by
        rintro rfl
        exact hkept result hstate
      rw [slots_setSlot_ne s _ hother]
      exact hstate
    · obtain ⟨rfl, hstate⟩ := hnew fault result heq
      rw [slots_setSlot_self]
      exact hstate

lemma Led.moves (hmove : pc.Moves s s' pc') : Led s' (tasks.set task pc') := by
  have hset := fun key => weigh_set (leads key) hpc pc'
  cases hmove with
  | idle state =>
    rw [state, set_same hpc]
    exact h
  | proceed system slots leads vmo plain underway =>
    refine h.keep hpc slots (fun key => (leads key).le) fun fault result heq => ?_
    rw [heq] at underway
    exact underway.elim
  | answered outcome vmo state =>
    refine h.keep hpc (by rw [state]) (fun _ => Nat.zero_le _) fun fault' result' heq => ?_
    cases heq
    exact outcome
  | commit leads vmo next state =>
    refine h.keep hpc (by rw [state]; rfl) leads fun fault result heq => ?_
    subst heq
    rcases next with ⟨-, underway⟩ | ⟨heq, -⟩
    · exact underway.elim
    · cases heq
  | fill found state =>
    exact h.keep hpc (by rw [state]; rfl) (fun _ => le_rfl) nofun
  | @claim fault cookie missing state =>
    subst state
    -- the slot was not in flight, so nobody worked on the request before
    have hnone : weigh (leads fault.key) tasks = 0 :=
      h.idle fault.key (by rw [missing]; exact nofun)
    have hone := hset fault.key
    simp only [leads, if_true] at hone
    refine h.setSlot hpc (fun other hother => ?_) (fun hstate => absurd rfl hstate) (by omega)
      (fun result hstate => ?_) nofun
    · simp only [leads, if_neg (Ne.symm hother), Nat.le_refl]
    · exact outcome_ne_missing result (hstate.symm.trans missing)
  | @block fault cookie inFlight state =>
    subst state
    have hone := hset fault.key
    have hold := h.one fault.key
    simp only [leads] at hone
    exact h.setSlot hpc (fun _ _ => le_rfl) (fun hstate => absurd rfl hstate) (by omega)
      (fun result hstate => outcome_ne_inFlight result (hstate.symm.trans inFlight))
      nofun
  | @publish fault result state =>
    subst state
    -- the task that publishes is the one that worked on the request
    have hlead := le_weigh (leads fault.key) (mem_of_getElem? hpc)
    have hone := h.one fault.key
    have hnone := hset fault.key
    simp only [leads, if_true] at hlead hnone
    refine h.setSlot hpc (fun _ _ => Nat.zero_le _) (fun _ => by omega) (by omega)
      (fun result' hstate => ?_) fun fault' result' heq => ?_
    · have hidle := h.idle fault.key (hstate ▸ outcome_ne_inFlight result')
      omega
    · cases heq
      exact ⟨rfl, rfl⟩

end

end

/-! ## Runs -/

lemma PagerState.slots_act (s : PagerState) (change : PagerChange) : (s.act change).slots = s.slots := by
  fun_cases PagerState.act s change with
  | case4 target pager cookie vmo => fun_cases bindVmo s vmo pager cookie <;> rfl
  | _ => rfl

/-- A task that has just been started. -/
lemma pagerRuntime_enter {call : PagerCall}
    (h : pagerRuntime.enter s call = some pc) : pc.Underway ∧ ∀ key, pc.leads key = 0 := by
  simp only [pagerRuntime] at h
  split at h
  · cases h
    exact ⟨trivial, fun _ => rfl⟩
  · cases h

lemma Led.step {pool : PagerPool} (h : Led pool.shared pool.tasks) (event : Event PagerCall PagerChange) :
    Led (pool.step pagerRuntime event).shared (pool.step pagerRuntime event).tasks := by
  refine Pool.step_keeps (I := fun pool => Led pool.shared pool.tasks) h ?_ ?_ ?_
  · intro call pc _ hpc
    obtain ⟨hunderway, hleads⟩ := pagerRuntime_enter hpc
    have hweigh : ∀ key, weigh (leads key) (pool.tasks ++ [pc]) = weigh (leads key) pool.tasks := by
      intro key
      simp [hleads key]
    refine ⟨fun key hstate => ?_, fun key => ?_, fun fault result hmem => ?_⟩
    · exact (hweigh key).trans (h.idle key hstate)
    · exact (hweigh key).symm ▸ h.one key
    · rcases mem_append.1 hmem with hold | hnew
      · exact h.published fault result hold
      · rw [← mem_singleton.1 hnew] at hunderway
        exact hunderway.elim
  · intro task pc _ hpc
    exact h.moves hpc (pc.move_moves pool.shared)
  · intro change _
    have hslots := pool.shared.slots_act change
    refine ⟨fun key hstate => ?_, h.one, fun fault result hmem => ?_⟩
    · exact h.idle key (by rw [← hslots]; exact hstate)
    · exact (congrArg (fun slots => (slots fault.key).state) hslots).trans (h.published fault result hmem)

/-- Nobody waits inside a slot. -/
def Unblocked (tasks : List PagerPc) : Prop := ∀ fault, .waitUntilReady fault true ∉ tasks

lemma Unblocked.step {pool : PagerPool} (h : Unblocked pool.tasks)
    (event : Event PagerCall PagerChange) (hok : pool.OnSteps Alone event) :
    Unblocked (pool.step pagerRuntime event).tasks := by
  refine Pool.step_keeps (I := fun pool : PagerPool => Unblocked pool.tasks) h ?_ ?_ ?_
  · intro call pc _ hpc fault hmem
    obtain ⟨hunderway, -⟩ := pagerRuntime_enter hpc
    rcases mem_append.1 hmem with hold | hnew
    · exact h fault hold
    · rw [← mem_singleton.1 hnew] at hunderway
      exact hunderway
  · rintro task pc rfl hpc fault hmem
    rcases mem_or_eq_of_mem_set hmem with hold | heq
    · exact h fault hold
    · have hmove : pc.Moves pool.shared _ (.waitUntilReady fault true) :=
        heq ▸ pc.move_moves pool.shared
      cases hmove with
      | idle state => exact h fault (mem_of_getElem? hpc)
      | proceed system slots leads vmo plain underway => exact underway
      | block inFlight state => exact hok _ hpc inFlight
      | commit leads vmo next state =>
        rcases next with ⟨-, underway⟩ | ⟨heq, -⟩
        · exact underway
        · cases heq
  · intro change _
    exact h

lemma PagerPc.asks_le_leads (key : Nat × Nat) (tasks : List PagerPc) :
    weigh (asks key) tasks ≤ weigh (leads key) tasks := by
  induction tasks with
  | nil => exact le_refl 0
  | cons pc tasks ih =>
    have hpc : pc.asks key ≤ pc.leads key := by
      cases pc <;> first | exact le_rfl | exact Nat.zero_le _
    simp only [weigh_cons]
    omega

/-- In every run in which no fault finds a request for its page in flight, at most one request for a page
is with the pager, whoever has returned has returned what was published, and nobody goes to take a lock
that it holds. -/
theorem run_coalesced (system : VmoSystem) (bindings : Nat → Option Nat)
    (sources : Nat → Nat → Option Vmo) (schedule : List (Event PagerCall PagerChange))
    (hschedule : Meets (Pool.step pagerRuntime) (Pool.OnSteps Alone)
      (Pool.idle (PagerState.new system bindings sources)) schedule) :
    Coalesced (runOps (Pool.step pagerRuntime) (Pool.idle (PagerState.new system bindings sources))
      schedule) := by
  have hnew : Led (PagerState.new system bindings sources) [] :=
    ⟨fun _ _ => rfl, fun _ => Nat.zero_le _, by simp⟩
  have hrun := run_invariant_all (I := fun pool : PagerPool => Led pool.shared pool.tasks)
    (fun _ event h => h.step event) (s := .idle _) hnew schedule
  have hfree := run_invariant (I := fun pool : PagerPool => Unblocked pool.tasks)
    (fun _ event h hok => h.step event hok) (fun _ hmem => (not_mem_nil hmem).elim) hschedule
  exact ⟨fun key => le_trans (asks_le_leads key _) (hrun.one key), hrun.published, hfree⟩

/-- A fault that finds the page fetched by another one. -/
def laterFault : List (Event PagerCall PagerChange) :=
  pagedSetup ++ pagedFetch 0 0 ++ [.start pagedCall, .step 1, .step 1, .step 1]

theorem run_coalesced_laterFault : Coalesced (runOps (Pool.step pagerRuntime)
      (Pool.idle (PagerState.new pagedSystem (fun _ => none) fun _ _ => none)) laterFault) :=
  run_coalesced pagedSystem (fun _ => none) (fun _ _ => none) laterFault (by decide +kernel)

/-- A fault that finds the request of another one in flight. -/
def secondFault : List (Event PagerCall PagerChange) :=
  pagedSetup ++ [.start pagedCall, .step 0, .step 0, .step 0, .step 0, .start pagedCall, .step 1,
    .step 1, .step 1]

/-- It goes to take the lock of the slot, which it holds. -/
theorem second_fault_deadlocks : ¬ Coalesced (runOps (Pool.step pagerRuntime)
      (Pool.idle (PagerState.new pagedSystem (fun _ => none) fun _ _ => none)) secondFault) := by
  intro h
  refine h.reentry ⟨.root 0 0x1000 .paged, 0, 7, 0x400010, MMUFlags.read, .fileBacked⟩
    (mem_of_getElem? (i := 1) ?_)
  rfl

end Akarin.Service
