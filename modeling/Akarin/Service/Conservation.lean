/-
# Akarin.Service.Conservation -- where an accepted call is

A call that has been accepted and not yet answered is in one place: in the queue of its object, or in
the map of calls in flight and the active call of one task. On its way between the two it is in the
hands of one task.

The one way out is a service thread that takes a call out of the queue and cannot be given it: when
the task cannot be activated or its wakeup cannot be queued, `wait` returns the error to the service
thread, and the call, which is in no queue and no map any more, is dropped. Its caller waits for ever.
The caller's own attempts lose nothing: it tries the next waiter, or gets the error itself.
-/
import Akarin.Service.Dispatcher

namespace Akarin.Service

open List TaskService ServicePc Lib Option ServiceState Function

/-! ## Where a call is -/

/-- 1 for the call `c`, 0 for any other. -/
def mark (c call : Nat) : Nat := if call = c then 1 else 0

/-- The task has the call in its hands: it is on its way to the queue or to a task, or on its way from a
task to its caller. -/
def ServicePc.held (c : Nat) : ServicePc → Nat
  | .enqueue call => mark c call
  | .register _ call _ => mark c call
  | .activate _ call _ => mark c call
  | .retract .caller call _ => mark c call
  | .removeInflight call _ => mark c call
  | .publish call _ => mark c call
  | _ => 0

def TaskService.serves (c : Nat) (task : TaskService) : Nat :=
  if task.activeCall = some c then 1 else 0

section

variable (s : ServiceState)

/-- How often the call is in the queue. -/
def ServiceState.queued (c : Nat) : Nat := s.pendingCalls.count c

/-- How many tasks serve the call. -/
def ServiceState.bound (c : Nat) : Nat := weigh (serves c) s.tasks

/-- How many tasks have the call in their hands. -/
def inHand (tasks : List ServicePc) (c : Nat) : Nat := weigh (held c) tasks

/-- The call has been accepted: its caller waits for the reply. -/
def Accepted (pool : ServicePool) (c : Nat) : Prop :=
  ∃ pc ∈ pool.tasks, pc = .awaitReply c

/-- The places of an accepted call. -/
inductive InOnePlace (pool : ServicePool) (c : Nat) : Prop where
  | queue (queued : pool.shared.queued c = 1) (bound : pool.shared.bound c = 0)
      (inHand : inHand pool.tasks c = 0) (unmapped : pool.shared.inflight c = false)
  | task (queued : pool.shared.queued c = 0) (bound : pool.shared.bound c = 1)
      (inHand : inHand pool.tasks c = 0) (mapped : pool.shared.inflight c = true)
  | hand (queued : pool.shared.queued c = 0) (bound : pool.shared.bound c = 0)
      (inHand : inHand pool.tasks c = 1)

/-- Every accepted call that has not been answered is in one place. -/
def Conserved (pool : ServicePool) : Prop :=
  ∀ c, Accepted pool c → pool.shared.reply c = none → InOnePlace pool c

/-- A service thread that has taken a call out of the queue can be given it: it waits, and its wakeup
can be queued. -/
def Lands : ServicePc → Prop
  | .activate .waiter _ task => (s.task task).waiting = true ∧ (s.task task).waitKind ≠ none
  | .wakeup .waiter _ task => s.wakeable task = true
  | _ => True

instance (s : ServiceState) : DecidablePred (Lands s) := fun x => by
  unfold Lands; split <;> infer_instance

/-! ## The invariant -/

/-- The task has the call in its hands and it is not in the map of calls in flight. -/
def ServicePc.loose (c : Nat) : ServicePc → Nat
  | .enqueue call => mark c call
  | .register _ call _ => mark c call
  | _ => 0

/-- The task has the call in its hands and it is in the map of calls in flight. -/
def ServicePc.filed (c : Nat) : ServicePc → Nat
  | .activate _ call _ => mark c call
  | .retract .caller call _ => mark c call
  | .removeInflight call _ => mark c call
  | _ => 0

/-- The caller of the call, as long as it may come to wait for the reply. -/
def ServicePc.asks (c : Nat) : ServicePc → Nat
  | .enqueue call => mark c call
  | .register .caller call _ => mark c call
  | .activate .caller call _ => mark c call
  | .retract .caller call _ => mark c call
  | .wakeup .caller call _ => mark c call
  | .awaitReply call => mark c call
  | _ => 0

/-- The caller of the call, once it is bound to get an error. -/
def ServicePc.fails (c : Nat) : ServicePc → Nat
  | .withdraw .caller call _ => mark c call
  | .deactivate .caller call _ => mark c call
  | _ => 0

/-- A service thread about to drop a call. -/
def ServicePc.Drops : ServicePc → Prop
  | .retract .waiter _ _ => True
  | .withdraw .waiter _ _ => True
  | .deactivate .waiter _ _ => True
  | _ => False

/-- What the state says of one call: how often it is queued, how many tasks serve it, whether it is in
the map of calls in flight, whether it has been answered, whether it has been created. -/
structure Books where
  queued : Nat
  bound : Nat
  mapped : Nat
  replied : Nat
  made : Nat

def ServiceState.books (c : Nat) : Books where
  queued := s.queued c
  bound := s.bound c
  mapped := (s.inflight c).toNat
  replied := (s.reply c).isSome.toNat
  made := if c < s.calls.length then 1 else 0

/-- Everything that is counted of one call. -/
structure Tally extends Books where
  held : Nat
  loose : Nat
  filed : Nat
  asks : Nat
  fails : Nat

def tally (tasks : List ServicePc) (c : Nat) : Tally where
  toBooks := s.books c
  held := weigh (held c) tasks
  loose := weigh (loose c) tasks
  filed := weigh (filed c) tasks
  asks := weigh (asks c) tasks
  fails := weigh (fails c) tasks

end

/-- What holds of the counts: there is one caller and one place; while the caller may come to wait and
is not answered, there is a place; a task serves a call that is in the map; what is queued is not. -/
structure Tally.Sound (t : Tally) : Prop where
  place : t.queued + t.bound + t.held ≤ 1
  caller : t.asks + t.fails ≤ 1
  kept : t.asks = 1 → t.replied = 0 → t.queued + t.bound + t.held = 1
  mapped : t.asks = 1 → 1 ≤ t.bound + t.filed → t.mapped = 1
  unmapped : t.asks = 1 → 1 ≤ t.queued + t.loose → t.mapped = 0
  blank : t.made = 0 → t.queued + t.bound + t.held + t.asks + t.fails + t.mapped + t.replied = 0

/-- A task waits only while it serves no call. -/
def TaskService.Vacant (task : TaskService) : Prop := task.waiting = true → task.activeCall = none

/-- The invariant of the ledger. -/
structure Orderly (s : ServiceState) (tasks : List ServicePc) : Prop where
  sound : ∀ c, (tally s tasks c).Sound
  vacant : ∀ task ∈ s.tasks, task.Vacant
  lands : ∀ pc ∈ tasks, ¬ pc.Drops

/-! ## How the counts move -/

/-- What a task that goes on from `pc` to `pc'` adds to the counts of the call. -/
structure Shift (c : Nat) (pc pc' : ServicePc) (t t' : Tally) : Prop where
  held : t'.held + pc.held c = t.held + pc'.held c
  loose : t'.loose + pc.loose c = t.loose + pc'.loose c
  filed : t'.filed + pc.filed c = t.filed + pc'.filed c
  asks : t'.asks + pc.asks c = t.asks + pc'.asks c
  fails : t'.fails + pc.fails c = t.fails + pc'.fails c
  heldLe : pc.held c ≤ t.held
  asksLe : pc.asks c ≤ t.asks
  failsLe : pc.fails c ≤ t.fails

lemma shift_set {tasks : List ServicePc} {task : Nat} {pc : ServicePc}
    (hpc : tasks[task]? = some pc) (pc' : ServicePc) (s s' : ServiceState) (c : Nat) :
    Shift c pc pc' (tally s tasks c) (tally s' (tasks.set task pc') c) where
  held := weigh_set _ hpc pc'
  loose := weigh_set _ hpc pc'
  filed := weigh_set _ hpc pc'
  asks := weigh_set _ hpc pc'
  fails := weigh_set _ hpc pc'
  heldLe := le_weigh _ (mem_of_getElem? hpc)
  asksLe := le_weigh _ (mem_of_getElem? hpc)
  failsLe := le_weigh _ (mem_of_getElem? hpc)

lemma loose_add_filed_le (tasks : List ServicePc) (c : Nat) :
    weigh (loose c) tasks + weigh (filed c) tasks ≤ weigh (held c) tasks := by
  induction tasks with
  | nil => exact Nat.le_refl 0
  | cons pc tasks ih =>
    have hpc : pc.loose c + pc.filed c ≤ pc.held c := by
      cases pc with
      | retract side call task =>
        cases side <;> simp [loose, filed, held]
      | _ => simp [loose, filed, held]
    simp only [weigh_cons]
    omega

/-- What the task adds to the counts. -/
def ServicePc.weights (pc : ServicePc) (c : Nat) : Nat × Nat × Nat × Nat × Nat :=
  (pc.held c, pc.loose c, pc.filed c, pc.asks c, pc.fails c)

lemma mark_le (c call : Nat) : mark c call ≤ 1 := by
  unfold mark
  split <;> omega

/-- `value` for the call, what it was for any other. -/
def put (c call value old : Nat) : Nat := if call = c then value else old

lemma put_cases (c call value old : Nat) :
    mark c call = 1 ∧ put c call value old = value ∨ mark c call = 0 ∧ put c call value old = old := by
  unfold mark put
  split
  · exact .inl ⟨rfl, rfl⟩
  · exact .inr ⟨rfl, rfl⟩

/-- A step of a task, as far as calls are concerned. -/
inductive ServicePc.Moves (s s' : ServiceState) : ServicePc → ServicePc → Prop where
  | idle {pc pc'} (books : s'.books = s.books) (weights : pc'.weights = pc.weights) : Moves s s' pc pc'
  | create {request call} (fresh : ∀ c, (s.books c).made + mark c call ≤ 1) (books : ∀ c, s'.books c =
      { s.books c with made := (s.books c).made + mark c call }) :
      Moves s s' (.create request) (.enqueue call)
  | refuse {call error} (books : ∀ c, s'.books c = s.books c) :
      Moves s s' (.enqueue call) (.invoked (.error error))
  | queue {call} (books : ∀ c, s'.books c =
      { s.books c with queued := (s.books c).queued + mark c call }) :
      Moves s s' (.enqueue call) (.awaitReply call)
  | register {side call task} (books : ∀ c, s'.books c =
      { s.books c with mapped := put c call 1 (s.books c).mapped }) :
      Moves s s' (.register side call task) (.activate side call task)
  | activate {side call task} (books : ∀ c, s'.books c =
      { s.books c with bound := (s.books c).bound + mark c call }) :
      Moves s s' (.activate side call task) (.wakeup side call task)
  | retract {call task} (books : ∀ c, s'.books c =
      { s.books c with mapped := put c call 0 (s.books c).mapped }) :
      Moves s s' (.retract .caller call task) (.enqueue call)
  | unwakeable {call task} (books : ∀ c, s'.books c = s.books c) :
      Moves s s' (.wakeup .caller call task) (.withdraw .caller call task)
  | withdraw {call task} (books : ∀ c, s'.books c =
      { s.books c with mapped := put c call 0 (s.books c).mapped }) :
      Moves s s' (.withdraw .caller call task) (.deactivate .caller call task)
  | deactivate {call task error} (books : ∀ c, ∃ bound, s'.books c =
      { s.books c with bound := bound } ∧ bound ≤ (s.books c).bound ∧
        (mark c call = 0 → bound = (s.books c).bound)) :
      Moves s s' (.deactivate .caller call task) (.invoked (.error error))
  | answered {call reply} (books : ∀ c, s'.books c = s.books c) :
      Moves s s' (.awaitReply call) (.invoked (.ok reply))
  | takePending {call task} (books : ∀ c, s.books c =
      { s'.books c with queued := (s'.books c).queued + mark c call }) :
      Moves s s' (.takePending task) (.register .waiter call task)
  | takeActive {task call reply} (books : ∀ c, s.books c =
      { s'.books c with bound := (s'.books c).bound + mark c call }) :
      Moves s s' (.takeActive task reply) (.removeInflight call reply)
  | removeInflight {call reply} (books : ∀ c, s'.books c =
      { s.books c with mapped := put c call 0 (s.books c).mapped }) :
      Moves s s' (.removeInflight call reply) (.publish call reply)
  | missing {call reply error} (unmapped : ∀ c, mark c call = 1 → (s.books c).mapped = 0)
      (books : ∀ c, s'.books c = s.books c) :
      Moves s s' (.removeInflight call reply) (.replied (.error error))
  | publish {call reply} (books : ∀ c, ∃ replied, s'.books c = { s.books c with replied := replied } ∧
        (mark c call = 1 → (s.books c).made ≠ 0 → replied = 1) ∧
        (mark c call = 0 → replied = (s.books c).replied)) :
      Moves s s' (.publish call reply) (.replied (.ok ()))

variable {tasks : List ServicePc} {task c call : Nat} {pc : ServicePc} {s : ServiceState} {pool : ServicePool}

lemma Tally.Sound.moves {s' : ServiceState} {pc' : ServicePc} (h : (tally s tasks c).Sound)
    (hpc : tasks[task]? = some pc)
    (hmove : pc.Moves s s' pc') : (tally s' (tasks.set task pc') c).Sound := by
  obtain ⟨h1, h2, h3, h4, h5, h6⟩ := h
  obtain ⟨g1, g2, g3, g4, g5, g6, g7, g8⟩ := shift_set hpc pc' s s' c
  have hwithin := loose_add_filed_le tasks c
  have hwithin' := loose_add_filed_le (tasks.set task pc') c
  cases hmove
  case' idle books weights =>
    have hbooks := congrFun books c
    have hw := congrFun weights c
    simp only [ServicePc.weights, Prod.mk.injEq] at hw
  case' create request call fresh books =>
    have hfresh := fresh c
    have hbooks := books c
  case' register side call _ books =>
    have hm := put_cases c call 1 (s.books c).mapped
    have hbooks := books c
    cases side
  case' retract call _ books | withdraw call _ books | removeInflight call _ books =>
    have hm := put_cases c call 0 (s.books c).mapped
    have hbooks := books c
  case' deactivate call _ _ books =>
    have hm := mark_le c call
    obtain ⟨bound, hbooks, hbound⟩ := books c
  case' publish call _ books =>
    have hm := mark_le c call
    obtain ⟨replied, hbooks, hreplied⟩ := books c
  case' missing call _ _ unmapped books =>
    have hm := mark_le c call
    have hunmapped := unmapped c
    have hbooks := books c
  case' refuse call _ books | queue call books | unwakeable call _ books | answered call _ books
      | takePending call _ books | takeActive _ call _ books | activate side call _ books =>
    have hm := mark_le c call
    have hbooks := books c
  case' activate => cases side
  -- what is left is arithmetic
  all_goals
    simp only [tally, hbooks, ServicePc.held, ServicePc.loose, ServicePc.filed, ServicePc.asks,
      ServicePc.fails] at *
    constructor <;> simp only <;> omega

/-! ## The steps of the source -/

namespace ServiceState

variable {s : ServiceState} {task call : Nat} {service : TaskService}

lemma getElem?_eq_task (h : task < s.tasks.length) : s.tasks[task]? = some (s.task task) := by
  simp [ServiceState.task, getD_eq_getElem?_getD, getElem?_eq_getElem h]

lemma task_eq_new (h : ¬ task < s.tasks.length) : s.task task = TaskService.new := by
  simp [ServiceState.task, getD_eq_getElem?_getD, getElem?_eq_none (Nat.le_of_not_lt h)]

/-- A task that exists takes another service state. -/
lemma bound_setTask (h : task < s.tasks.length) (service : TaskService) (c : Nat) :
    (s.setTask task service).bound c + (s.task task).serves c = s.bound c + service.serves c :=
  weigh_set _ (getElem?_eq_task h) service

lemma setTask_of_not_lt (h : ¬ task < s.tasks.length)
    (service : TaskService) : s.setTask task service = s := by
  simp [setTask, set_eq_of_length_le (Nat.le_of_not_lt h)]

/-- The task serves what it served. -/
lemma books_setTask
    (h : service.activeCall = (s.task task).activeCall) : (s.setTask task service).books = s.books := by
  by_cases hlt : task < s.tasks.length
  · funext c
    have hbound : (s.setTask task service).bound c = s.bound c := by
      have hset := bound_setTask hlt service c
      have hserves : service.serves c = (s.task task).serves c := by
        simp only [serves, h]
      omega
    show ({ s.books c with bound := (s.setTask task service).bound c } : Books) = s.books c
    rw [hbound]
    rfl
  · rw [setTask_of_not_lt hlt]

lemma mapped_update (inflight : Nat → Bool) (c call : Nat) (b : Bool) :
    (update inflight call b c).toNat = put c call b.toNat (inflight c).toNat := by
  unfold put
  split
  · subst call
    rw [update_self]
  · rw [update_of_ne (Ne.symm ‹_›)]

section

variable (s : ServiceState)

lemma books_registerCall (call c : Nat) : (s.registerCall call).books c =
    { s.books c with mapped := put c call 1 (s.books c).mapped } := by
  show ({ s.books c with mapped := (update s.inflight call true c).toNat } : Books) = _
  rw [mapped_update]
  rfl

lemma books_removeCall (call c : Nat) : (s.removeCall call).books c =
    { s.books c with mapped := put c call 0 (s.books c).mapped } := by
  show ({ s.books c with mapped := (update s.inflight call false c).toNat } : Books) = _
  rw [mapped_update]
  rfl

lemma books_create (request : ServiceFrame) (c : Nat) :
    ({ s with calls := s.calls ++ [⟨request, none⟩] } : ServiceState).books c =
      { s.books c with made := (s.books c).made + mark c s.calls.length } := by
  have hreply : ((s.calls ++ [⟨request, none⟩])[c]?.bind ServiceCall.reply) = s.reply c := by
    rcases Nat.lt_trichotomy c s.calls.length with h | rfl | h
    · rw [getElem?_append_left h]
      rfl
    · simp [reply]
    · simp [reply, getElem?_append_right (Nat.le_of_lt h), Nat.le_of_lt h,
        show c - s.calls.length ≠ 0 by omega]
  have hmade : (if c < (s.calls ++ [(⟨request, none⟩ : ServiceCall)]).length then 1 else 0) =
      (if c < s.calls.length then 1 else 0) + mark c s.calls.length := by
    simp only [length_append, length_singleton, mark]
    split_ifs <;> omega
  simp only [books, queued, bound, hmade]
  rw [← hreply]
  rfl

lemma made_le (c : Nat) : (s.books c).made + mark c s.calls.length ≤ 1 := by
  simp only [books, mark]
  split_ifs <;> omega

lemma books_publishReply (call c : Nat) (result : SyscallResult) :
    ∃ replied, (s.publishReply call result).books c = { s.books c with replied := replied } ∧
      (mark c call = 1 → (s.books c).made ≠ 0 → replied = 1) ∧
      (mark c call = 0 → replied = (s.books c).replied) := by
  refine ⟨((s.publishReply call result).reply c).isSome.toNat, ?_, fun hm hmade => ?_, fun hm => ?_⟩
  · simp only [books, publishReply, queued, bound, length_modify]
  · obtain rfl : call = c := by
      by_contra hne
      simp [mark, hne] at hm
    have hlt : call < s.calls.length := by
      by_contra hnot
      simp [books, hnot] at hmade
    simp [reply, publishReply, getElem?_eq_getElem hlt]
  · have hne : call ≠ c := by
      rintro rfl
      simp [mark] at hm
    simp only [books, reply, publishReply, getElem?_modify, if_neg hne, Option.map_eq_map, Option.map_id']

lemma books_queue (call c : Nat) :
    ({ s with pendingCalls := s.pendingCalls ++ [call] } : ServiceState).books c =
      { s.books c with queued := (s.books c).queued + mark c call } := by
  have hcount : (s.pendingCalls ++ [call]).count c = s.pendingCalls.count c + mark c call := by
    simp [mark, count_singleton]
  simp only [books, queued, bound, reply, hcount]

end

lemma books_takePending {pending : List Nat} (h : s.pendingCalls = call :: pending) (c : Nat) :
    s.books c = { ({ s with pendingCalls := pending } : ServiceState).books c with
      queued := (({ s with pendingCalls := pending } : ServiceState).books c).queued + mark c call } := by
  have hcount : s.pendingCalls.count c = pending.count c + mark c call := by
    simp [h, mark, count_cons]
  simp only [books, queued, bound, reply, hcount]

lemma lt_of_waiting (h : (s.task task).waiting = true) : task < s.tasks.length := by
  by_contra hnot
  rw [task_eq_new hnot] at h
  cases h

lemma lt_of_activeCall (h : (s.task task).activeCall = some call) : task < s.tasks.length := by
  by_contra hnot
  rw [task_eq_new hnot] at h
  cases h

/-- A task that served nothing serves the call. -/
lemma books_activate (hlt : task < s.tasks.length) (hold : (s.task task).activeCall = none)
    (hnew : service.activeCall = some call) (c : Nat) : (s.setTask task service).books c =
      { s.books c with bound := (s.books c).bound + mark c call } := by
  have hset := bound_setTask hlt service c
  simp only [serves, hold, hnew, reduceCtorEq, if_false, some.injEq] at hset
  show ({ s.books c with bound := (s.setTask task service).bound c } : Books) = _
  rw [show (s.setTask task service).bound c = s.bound c + mark c call from hset]
  rfl

/-- The task that served the call serves nothing. -/
lemma books_release (hold : (s.task task).activeCall = some call) (hnew : service.activeCall = none)
    (c : Nat) : s.books c = { (s.setTask task service).books c with
      bound := ((s.setTask task service).books c).bound + mark c call } := by
  have hset := bound_setTask (lt_of_activeCall hold) service c
  simp only [serves, hold, hnew, reduceCtorEq, if_false, some.injEq] at hset
  show s.books c = { s.books c with bound := (s.setTask task service).bound c + mark c call }
  rw [show (s.setTask task service).bound c + mark c call = s.bound c from hset]
  rfl

end ServiceState

lemma TaskService.activateServiceCall_eq_some {task service : TaskService} {delivery : ServiceDelivery}
    (h : task.activateServiceCall call delivery = some service) :
    task.waiting = true ∧ service = ⟨false, none, some call, some delivery⟩ := by
  simp only [activateServiceCall] at h
  split at h
  · cases h
  · simp only [not_or, Bool.not_eq_false] at *
    exact ⟨(‹_ ∧ _› : _ ∧ _).1, (some.inj h).symm⟩

lemma TaskService.beginServiceWait_eq_some {task service : TaskService} {kind : ServiceWaitKind}
    (h : task.beginServiceWait kind = some service) :
    task.activeCall = none ∧ service.activeCall = none := by
  simp only [beginServiceWait] at h
  split at h
  · cases h
  · simp only [not_or, Bool.not_eq_true, isSome_eq_false_iff, isNone_iff_eq_none] at *
    cases h
    exact ⟨(‹_ ∧ _ ∧ _› : _ ∧ _ ∧ _).2.1, (‹_ ∧ _ ∧ _› : _ ∧ _ ∧ _).2.1⟩

@[simp] lemma TaskService.activeCall_abortServiceWait (task : TaskService)
    (kind : ServiceWaitKind) : (task.abortServiceWait kind).activeCall = task.activeCall := by
  simp only [abortServiceWait]
  split <;> rfl

lemma ServiceState.vacant_task (h : ∀ task ∈ s.tasks, task.Vacant)
    (task : Nat) : (s.task task).Vacant := by
  by_cases hlt : task < s.tasks.length
  · exact h _ (mem_of_getElem? (getElem?_eq_task hlt))
  · rw [task_eq_new hlt]
    exact nofun

/-- A call that was taken out of the queue is given to its task. -/
lemma activate_of_lands (hmade : call < s.calls.length) (hok : Lands s (.activate .waiter call task)) :
    ∃ service, (s.delivery call).bind ((s.task task).activateServiceCall call) = some service := by
  obtain ⟨hwaiting, hkind⟩ := hok
  simp [delivery, getElem?_eq_getElem hmade, activateServiceCall, hwaiting, hkind]

lemma ServiceState.vacant_setTask {service : TaskService} (h : ∀ t ∈ s.tasks, t.Vacant)
    (hnew : service.Vacant) : ∀ t ∈ (s.setTask task service).tasks, t.Vacant :=
  forall_set (fun _ _ ht => ht) hnew h

lemma TaskService.Vacant.abort {task : TaskService} (h : task.Vacant) (kind : ServiceWaitKind) :
    (task.abortServiceWait kind).Vacant := by
  intro hwaiting
  simp only [abortServiceWait] at hwaiting ⊢
  split at hwaiting
  · rw [if_pos ‹_›]
    exact h hwaiting
  · cases hwaiting

/-- Cancelling takes the call from the task that serves it, and nothing from any other. -/
lemma ServiceState.books_cancel (s : ServiceState) (task call c : Nat) : ∃ bound,
    (s.setTask task ((s.task task).cancelActiveServiceCall call)).books c =
      { s.books c with bound := bound } ∧ bound ≤ (s.books c).bound ∧
        (mark c call = 0 → bound = (s.books c).bound) := by
  simp only [cancelActiveServiceCall]
  split
  · exact ⟨_, congrFun (books_setTask rfl) c, Nat.le_refl _, fun _ => rfl⟩
  · have hold : (s.task task).activeCall = some call := not_not.1 ‹_›
    have hbooks := books_release hold (show TaskService.new.activeCall = none from rfl) c
    refine ⟨((s.setTask task TaskService.new).books c).bound, rfl, ?_, fun hm => ?_⟩
    · rw [hbooks]
      exact Nat.le_add_right _ _
    · rw [hbooks, hm]
      rfl

lemma TaskService.Vacant.cancel {task : TaskService} (h : task.Vacant) (call : Nat) :
    (task.cancelActiveServiceCall call).Vacant := by
  simp only [cancelActiveServiceCall]
  split
  · exact h
  · exact fun _ => rfl

/-- What a step that drops no call leaves behind. -/
structure ServicePc.Keeps (s : ServiceState) (pc : ServicePc) (next : ServiceState × ServicePc) : Prop where
  moves : pc.Moves s next.1 next.2
  lands : ¬ next.2.Drops
  vacant : ∀ task ∈ next.1.tasks, task.Vacant

section

variable (hvacant : ∀ task ∈ s.tasks, task.Vacant)
include hvacant

lemma keeps_activate {side : Side} (hmade : call < s.calls.length)
    (hok : Lands s (.activate side call task)) :
    Keeps s (.activate side call task) ((ServicePc.activate side call task).move s) := by
  simp only [move]
  split
  case h_1 service hservice =>
    obtain ⟨delivery, -, hactivate⟩ := bind_eq_some_iff.1 hservice
    obtain ⟨hwaiting, rfl⟩ := activateServiceCall_eq_some hactivate
    exact ⟨.activate (books_activate (lt_of_waiting hwaiting) (s.vacant_task hvacant task hwaiting) rfl),
      id, s.vacant_setTask hvacant nofun⟩
  case h_2 hnone =>
    cases side with
    | caller => exact ⟨.idle rfl rfl, id, hvacant⟩
    | waiter =>
      obtain ⟨service, hservice⟩ := activate_of_lands hmade hok
      rw [hnone] at hservice
      cases hservice

lemma keeps_wakeup {side : Side} (hok : Lands s (.wakeup side call task)) :
    Keeps s (.wakeup side call task) ((ServicePc.wakeup side call task).move s) := by
  simp only [move]
  split
  · cases side with
    | caller | waiter => exact ⟨.idle rfl rfl, id, hvacant⟩
  · cases side with
    | caller => exact ⟨.unwakeable fun _ => rfl, id, hvacant⟩
    | waiter => exact absurd hok ‹_›

lemma keeps_takePending : Keeps s (.takePending task) ((ServicePc.takePending task).move s) := by
  simp only [move]
  split
  · exact ⟨.idle (books_setTask (activeCall_abortServiceWait ..)) rfl, id,
      s.vacant_setTask hvacant ((s.vacant_task hvacant task).abort s.kind)⟩
  · split
    case h_1 call pending hpending => exact ⟨.takePending (books_takePending hpending), id, hvacant⟩
    case h_2 => exact ⟨.idle rfl rfl, id, hvacant⟩

lemma keeps_removeInflight (reply : SyscallResult) :
    Keeps s (.removeInflight call reply) ((ServicePc.removeInflight call reply).move s) := by
  simp only [move]
  split
  · exact ⟨.removeInflight (books_removeCall s call), id, hvacant⟩
  · refine ⟨.missing (fun c hm => ?_) fun _ => rfl, id, hvacant⟩
    obtain rfl : call = c := by
      by_contra hne
      simp [mark, hne] at hm
    simp [books, ‹¬ s.inflight call = true›]

/-- Every step that drops no call. -/
lemma ServicePc.keeps_move (hmade : ∀ c, 1 ≤ pc.held c → c < s.calls.length) (hdrops : ¬ pc.Drops)
    (hok : Lands s pc) : pc.Keeps s (pc.move s) := by
  have htask := s.vacant_task hvacant
  cases pc with
  | create request => exact ⟨.create (made_le s) (books_create s request), id, hvacant⟩
  | enqueue call =>
    simp only [move]
    split
    · exact ⟨.refuse fun _ => rfl, id, hvacant⟩
    · split
      · exact ⟨.idle rfl rfl, id, hvacant⟩
      · exact ⟨.queue (books_queue s call), id, hvacant⟩
  | register side call task => exact ⟨.register (books_registerCall s call), id, hvacant⟩
  | activate side call task => exact keeps_activate hvacant (hmade call (by simp [held, mark])) hok
  | retract side call task =>
    cases side with
    | caller => exact ⟨.retract (books_removeCall s call), id, hvacant⟩
    | waiter => exact absurd trivial hdrops
  | wakeup side call task => exact keeps_wakeup hvacant hok
  | withdraw side call task =>
    cases side with
    | caller => exact ⟨.withdraw (books_removeCall s call), id, hvacant⟩
    | waiter => exact absurd trivial hdrops
  | deactivate side call task =>
    cases side with
    | caller =>
      exact ⟨.deactivate (s.books_cancel task call), id, s.vacant_setTask hvacant ((htask task).cancel call)⟩
    | waiter => exact absurd trivial hdrops
  | awaitReply call =>
    simp only [move]
    split
    · exact ⟨.answered fun _ => rfl, id, hvacant⟩
    · exact ⟨.idle rfl rfl, id, hvacant⟩
  | beginWait task =>
    simp only [move]
    split
    case h_1 service hservice =>
      obtain ⟨hold, hnew⟩ := beginServiceWait_eq_some hservice
      exact ⟨.idle (books_setTask (hnew.trans hold.symm)) rfl, id, s.vacant_setTask hvacant fun _ => hnew⟩
    case h_2 => exact ⟨.idle rfl rfl, id, hvacant⟩
  | takePending task => exact keeps_takePending hvacant
  | awaitDelivery task =>
    simp only [move]
    split
    · exact ⟨.idle rfl rfl, id, hvacant⟩
    · exact ⟨.idle rfl rfl, id, hvacant⟩
  | abortWait task error =>
    exact ⟨.idle (books_setTask (activeCall_abortServiceWait ..)) rfl, id,
      s.vacant_setTask hvacant ((htask task).abort s.kind)⟩
  | resume task result => exact ⟨.idle (books_setTask rfl) rfl, id, s.vacant_setTask hvacant (htask task)⟩
  | takeActive task reply =>
    simp only [move, takeActiveServiceCall]
    cases hactive : (s.task task).activeCall with
    | none => exact ⟨.idle rfl rfl, id, hvacant⟩
    | some call =>
      exact ⟨.takeActive (books_release hactive rfl), id, s.vacant_setTask hvacant fun _ => rfl⟩
  | removeInflight call reply => exact keeps_removeInflight hvacant reply
  | publish call reply => exact ⟨.publish fun c => books_publishReply s call c reply, id, hvacant⟩
  | invoked | waited | replied => exact ⟨.idle rfl rfl, id, hvacant⟩

end

/-! ## Runs -/

lemma ServiceOp.enter_weights (op : ServiceOp) : op.enter.weights = fun _ => (0, 0, 0, 0, 0) := by
  cases op <;> rfl

/-- A call that has just been entered has nothing in its hands. -/
lemma tally_start (s : ServiceState) (tasks : List ServicePc) (op : ServiceOp) (c : Nat) :
    tally s (tasks ++ [op.enter]) c = tally s tasks c := by
  have hw := congrFun op.enter_weights c
  simp only [weights, Prod.mk.injEq] at hw
  obtain ⟨h1, h2, h3, h4, h5⟩ := hw
  simp [tally, h1, h2, h3, h4, h5]

lemma Orderly.step (h : Orderly pool.shared pool.tasks) (event : Event ServiceOp Wakeups)
    (hok : pool.OnSteps Lands event) :
    Orderly (pool.step service event).shared (pool.step service event).tasks := by
  refine Pool.step_keeps (I := fun pool => Orderly pool.shared pool.tasks) h ?_ ?_ ?_
  · rintro op pc rfl hpc
    cases hpc
    refine ⟨fun c => ?_, h.vacant, fun pc hpc => ?_⟩
    · show (tally pool.shared (pool.tasks ++ [op.enter]) c).Sound
      rw [tally_start]
      exact h.sound c
    · rcases mem_append.1 hpc with hold | hnew
      · exact h.lands pc hold
      · rw [mem_singleton.1 hnew]
        cases op <;> exact id
  · rintro task pc rfl hpc
    have hmem := mem_of_getElem? hpc
    have hmade : ∀ c, 1 ≤ pc.held c → c < pool.shared.calls.length := by
      intro c hheld
      by_contra hnot
      have hblank := (h.sound c).blank (by simp [tally, books, hnot])
      have hle := le_weigh (held c) hmem
      simp only [tally] at hblank
      omega
    obtain ⟨hmoves, hlands, hvacant⟩ := keeps_move h.vacant hmade (h.lands pc hmem) (hok pc hpc)
    exact ⟨fun c => (h.sound c).moves hpc hmoves, hvacant, forall_set (fun _ _ ht => ht) hlands h.lands⟩
  · rintro change rfl
    exact ⟨h.sound, h.vacant, h.lands⟩

lemma orderly_new (kind : ServiceWaitKind) (usrIp tasks : Nat) (wakeable : Nat → Bool) :
    Orderly (ServiceState.new kind usrIp tasks wakeable) [] := by
  refine ⟨fun c => ?_, fun task htask => ?_, by simp⟩
  · constructor <;>
      simp [tally, books, queued, bound, reply, ServiceState.new, weigh, serves, TaskService.new]
  · rw [eq_of_mem_replicate htask]
    exact fun _ => rfl

lemma Tally.Sound.inOnePlace (h : (tally pool.shared pool.tasks c).Sound)
    (haccepted : Accepted pool c) (hreply : pool.shared.reply c = none) : InOnePlace pool c := by
  obtain ⟨pc, hpc, rfl⟩ := haccepted
  have hasks : 1 ≤ weigh (ServicePc.asks c) pool.tasks := by
    refine Nat.le_trans ?_ (le_weigh (ServicePc.asks c) hpc)
    simp [ServicePc.asks, mark]
  obtain ⟨hplace, hcaller, hkept, hmapped, hunmapped, -⟩ := h
  simp only [tally, books, hreply, isSome_none, Bool.toNat_false] at *
  have hone := hkept (by omega) trivial
  by_cases hqueued : pool.shared.queued c = 1
  · exact .queue hqueued (by omega) (by unfold inHand; omega)
      (by simpa using hunmapped (by omega) (by omega))
  · by_cases hbound : pool.shared.bound c = 1
    · exact .task (by omega) hbound (by unfold inHand; omega)
        (by simpa using hmapped (by omega) (by omega))
    · exact .hand (by omega) (by omega) (by unfold inHand; omega)

/-- In every run in which a service thread that has taken a call out of the queue can be given it, every
accepted call that has not been answered is in one place. -/
theorem run_conserved (kind : ServiceWaitKind) (usrIp tasks : Nat) (wakeable : Nat → Bool)
    (schedule : List (Event ServiceOp Wakeups))
    (hschedule : Meets (Pool.step service) (Pool.OnSteps Lands)
      (Pool.idle (ServiceState.new kind usrIp tasks wakeable)) schedule) :
    Conserved (runOps (Pool.step service) (Pool.idle (ServiceState.new kind usrIp tasks wakeable))
      schedule) := by
  have horderly := run_invariant (I := fun pool : ServicePool => Orderly pool.shared pool.tasks)
    (fun _ event h hok => h.step event hok) (orderly_new kind usrIp tasks wakeable) hschedule
  exact fun c haccepted hreply => (horderly.sound c).inOnePlace haccepted hreply

/-- A call is queued; a service thread takes it, is woken, and answers. -/
def answeredCall : List (Event ServiceOp Wakeups) :=
  [.start (.invoke ⟨#v[1, 0, 0, 7, 0, 0]⟩), .step 0, .step 0, .start (.wait 0), .step 1, .step 1,
    .step 1, .step 1, .step 1, .step 1, .start (.reply 0 (.ok [42])), .step 2, .step 2]

theorem run_conserved_answeredCall : Conserved (runOps (Pool.step service)
      (Pool.idle (ServiceState.new .object 0x4000 1 fun _ => true)) answeredCall) :=
  run_conserved .object 0x4000 1 (fun _ => true) answeredCall (by decide +kernel)

/-- A call is queued; a service thread takes it, and its wakeup cannot be queued. -/
def droppedCall : List (Event ServiceOp Wakeups) :=
  [.start (.invoke ⟨#v[1, 0, 0, 7, 0, 0]⟩), .step 0, .step 0, .start (.wait 0), .step 1, .step 1,
    .step 1, .step 1, .environment ⟨0, false⟩, .step 1, .step 1, .step 1, .step 1, .step 1]

/-- The service thread has got an error and the caller still waits, for a call that is nowhere. -/
theorem failed_wait_drops_call : ¬ Conserved (runOps (Pool.step service)
      (Pool.idle (ServiceState.new .object 0x4000 1 fun _ => true)) droppedCall) := by
  intro h
  have htasks : (runOps (Pool.step service)
      (Pool.idle (new .object 0x4000 1 fun _ => true)) droppedCall).tasks =
      [.awaitReply 0, .waited (.error .serviceUnavailable)] := rfl
  have haccepted : Accepted (runOps (Pool.step service)
      (Pool.idle (new .object 0x4000 1 fun _ => true)) droppedCall) 0 :=
    ⟨.awaitReply 0, by rw [htasks]; exact mem_cons_self .., rfl⟩
  cases h 0 haccepted rfl with
  | queue queued => exact absurd queued (by decide +kernel)
  | task _ bound => exact absurd bound (by decide +kernel)
  | hand _ _ inHand => exact absurd inHand (by decide +kernel)

end Akarin.Service
