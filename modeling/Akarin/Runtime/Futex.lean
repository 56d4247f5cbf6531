/-
# Akarin.Runtime.Futex -- waiting on a word of user memory

`FutexManager::wait` reads the word, puts a waiter into the queue of the word's key, and parks on the
waiter's event; `wake` takes waiters from the front of the queue and notifies them. Reading, inserting,
each load and each notification are atomic steps, and user threads store to the words in between. A
poll of the waiter's event is one step here; what happens inside of it is the subject of
`Akarin.Sync.Event`.

No wakeup is lost if a waiter whose word has changed since it was read does not stay asleep once enough
waiters have been woken (`NoLostWakeup`). The word is not looked at again after the waiter is inserted,
so this takes a run in which no word changes between the two (`StoresOutside`).
-/
import Akarin.Sync.Event

namespace Akarin.Runtime

open List Option Bool
open Lib (runOps Meets run_invariant mem_set_self exists_set)
open Sync (usizeMax)

/-! ## Model -/

/-- `FutexKey`. -/
structure FutexKey where
  vmoId : Nat
  vmoOffset : Nat
  deriving DecidableEq

/-- Errors of the futex calls. -/
inductive FutexError where
  | invalidArgument
  | fault
  | wouldBlock
  | timedOut
  deriving DecidableEq

/-- Address translation: the key of an address of a process, and whether the word there can be read. -/
structure FutexEnv where
  addrToKey : (process userAddr : Nat) → Except FutexError FutexKey
  readable : (process userAddr : Nat) → Bool

/-- The next step of a call of `wait`. -/
inductive WaitStage where
  | reading
  | inserting
  | listening
  /-- Loads `woken`, after `listen` has seen the epoch. -/
  | checking (observed : Nat)
  | polling (observed : Nat)
  /-- The last poll has returned `Pending`. -/
  | parked (observed : Nat)
  /-- Loads `woken`, after the listener (`woke`) or the timer has become ready. -/
  | resumed (woke : Bool)
  | removing
  /-- Loads `woken`, after `remove_waiter`. -/
  | removed
  | returned (result : Except FutexError Unit)
  /-- The future has been dropped. -/
  | dropped

/-- A call of `wait` with its `FutexWaiter`. The epoch is that of the waiter's event, which is notified
once at most. History: the word has changed since it was read (`changed`), and enough waiters have been
asked to be woken since (`owed`). -/
structure WaitCall where
  process : Nat
  userAddr : Nat
  key : FutexKey
  expected : UInt32
  timeoutNs : Nat
  stage : WaitStage
  woken : Bool
  queued : Bool
  epoch : Nat
  expired : Bool
  changed : Bool
  owed : Bool

namespace WaitCall

/-- The word has been read as expected, and the call has not returned. -/
def isWaiting (call : WaitCall) : Bool :=
  match call.stage with
  | .reading | .returned _ | .dropped => false
  | _ => true

/-- Parked, and not notified since. -/
def isAsleep (call : WaitCall) : Bool :=
  match call.stage with
  | .parked observed => call.epoch = observed
  | _ => false

def isInserting (call : WaitCall) : Bool :=
  match call.stage with
  | .inserting => true
  | _ => false

end WaitCall

/-- Where a call of `wake` is. -/
inductive WakeStage where
  | taking
  /-- The waiters that are still to be notified, and how many were taken. -/
  | notifying (ready : List Nat) (taken : Nat)
  | returned (result : Except FutexError Nat)

/-- A call of `wake`. History: the waiters it owes a wakeup. -/
structure WakeCall where
  key : FutexKey
  count : Nat
  stage : WakeStage
  owes : List Nat

namespace WakeCall

variable (wake : WakeCall) (w : Nat)

/-- The call has yet to take waiters, this one among them. -/
def owesTo : Bool :=
  match wake.stage with
  | .taking => wake.owes.contains w
  | _ => false

/-- The call has taken the waiter and has yet to notify it. -/
def notifies : Bool :=
  match wake.stage with
  | .notifying ready _ => ready.contains w
  | _ => false

/-- The call is still to wake the waiter. -/
def isFor : Bool := wake.owesTo w || wake.notifies w

end WakeCall

/-- The futex words, the manager's queues and the calls. An empty queue is removed from the manager's
map; here it is the empty list. -/
structure FutexWorld where
  words : FutexKey → UInt32
  queues : FutexKey → List Nat
  waits : List WaitCall
  wakes : List WakeCall

/-- Steps of calls, timers and stores. -/
inductive FutexOp where
  | wait (process userAddr : Nat) (expected : UInt32) (timeoutNs : Nat)
  /-- The next atomic step of a call of `wait`; of a parked one, another poll. -/
  | stepWait (w : Nat)
  /-- The timer of a call of `wait` fires. -/
  | expire (w : Nat)
  /-- The future of a call of `wait` is dropped. -/
  | drop (w : Nat)
  | wake (process userAddr : Nat) (wakeCount : Nat)
  | stepWake (k : Nat)
  /-- A user thread stores to a word. -/
  | store (key : FutexKey) (value : UInt32)

namespace FutexWorld

/-- `FutexManager::new`, with the words as they are. -/
def new (words : FutexKey → UInt32) : FutexWorld := ⟨words, fun _ => [], [], []⟩

/-- The queue of one key is exchanged. -/
def setQueue (s : FutexWorld) (key : FutexKey) (queue : List Nat) : FutexKey → List Nat := fun k =>
  if k = key then queue else s.queues k

/-- What `wait` does before its first look at the word. -/
def enterWait (env : FutexEnv) (process userAddr : Nat) : Except FutexError FutexKey :=
  if userAddr % 4 ≠ 0 then .error .invalidArgument else env.addrToKey process userAddr

def wait (env : FutexEnv) (s : FutexWorld) (process userAddr : Nat) (expected : UInt32)
    (timeoutNs : Nat) : FutexWorld :=
  { s with waits := s.waits ++ [
      match enterWait env process userAddr with
      | .ok key => ⟨process, userAddr, key, expected, timeoutNs, .reading, false, false, 0, false, false, false⟩
      | .error e => ⟨process, userAddr, ⟨0, 0⟩, expected, timeoutNs, .returned (.error e), false, false, 0,
          false, false, false⟩] }

section

variable (s : FutexWorld) (w : Nat)

/-- The call goes on to another stage. -/
def goto (call : WaitCall) (stage : WaitStage) : FutexWorld :=
  { s with waits := s.waits.set w { call with stage := stage } }

def insertWaiter (call : WaitCall) : FutexWorld :=
  { s with
    queues := s.setQueue call.key (s.queues call.key ++ [w])
    waits := s.waits.set w { call with queued := true, stage := .listening } }

def removeWaiter (call : WaitCall) (stage : WaitStage) : FutexWorld :=
  { s with
    queues := if call.queued then s.setQueue call.key ((s.queues call.key).erase w) else s.queues
    waits := s.waits.set w { call with queued := false, stage := stage } }

/-- The poll of the listener, then of the timer if there is one. -/
def poll (call : WaitCall) (observed : Nat) : FutexWorld :=
  if call.epoch ≠ observed then s.goto w call (.resumed true)
  else if call.timeoutNs ≠ usizeMax ∧ call.expired = true then s.goto w call (.resumed false)
  else s.goto w call (.parked observed)

end

def stepWait (env : FutexEnv) (s : FutexWorld) (w : Nat) : FutexWorld :=
  match s.waits[w]? with
  | none => s
  | some call =>
    match call.stage with
    | .reading =>
      if !env.readable call.process call.userAddr then s.goto w call (.returned (.error .fault))
      else if s.words call.key ≠ call.expected then s.goto w call (.returned (.error .wouldBlock))
      else if call.timeoutNs = 0 then s.goto w call (.returned (.error .timedOut))
      else s.goto w call .inserting
    | .inserting => s.insertWaiter w call
    | .listening => s.goto w call (.checking call.epoch)
    | .checking observed =>
      if call.woken then s.goto w call (.returned (.ok ())) else s.goto w call (.polling observed)
    | .polling observed | .parked observed => s.poll w call observed
    | .resumed woke =>
      if call.woken || woke then s.goto w call (.returned (.ok ())) else s.goto w call .removing
    | .removing => s.removeWaiter w call .removed
    | .removed =>
      if call.woken then s.goto w call (.returned (.ok ()))
      else s.goto w call (.returned (.error .timedOut))
    | .returned _ | .dropped => s

section

variable (s : FutexWorld)

def expire (w : Nat) : FutexWorld :=
  match s.waits[w]? with
  | none => s
  | some call => { s with waits := s.waits.set w { call with expired := true } }

/-- A future that is dropped is parked; its registration is still armed. -/
def drop (w : Nat) : FutexWorld :=
  match s.waits[w]? with
  | none => s
  | some call =>
    match call.stage with
    | .parked _ => s.removeWaiter w call .dropped
    | _ => s

/-- The waiters of the key whose word has changed since they read it, and that are not woken yet. -/
def outdated (key : FutexKey) : List Nat :=
  (List.range s.waits.length).filter fun w =>
    match s.waits[w]? with
    | some call => call.key = key && call.isWaiting && call.changed && !call.woken
    | none => false

/-- A call of `wake` that returns before it takes anybody. -/
def endWake (wakeCount : Nat) (result : Except FutexError Nat) : FutexWorld :=
  { s with wakes := s.wakes ++ [⟨⟨0, 0⟩, wakeCount, .returned result, []⟩] }

def startWake (key : FutexKey) (wakeCount : Nat) (owes : List Nat) : FutexWorld :=
  { s with
    waits := s.waits.mapIdx fun w call => { call with owed := call.owed || owes.contains w }
    wakes := s.wakes ++ [⟨key, wakeCount, .taking, owes⟩] }

end

section

variable (env : FutexEnv) (s : FutexWorld)

def wake (process userAddr wakeCount : Nat) : FutexWorld :=
  if userAddr % 4 ≠ 0 then s.endWake wakeCount (.error .invalidArgument)
  else if wakeCount = 0 then s.endWake wakeCount (.ok 0)
  else
    match env.addrToKey process userAddr with
    | .error e => s.endWake wakeCount (.error e)
    | .ok key =>
      s.startWake key wakeCount (if (s.outdated key).length ≤ wakeCount then s.outdated key else [])

/-- `take_woken_waiters`. -/
def takeWokenWaiters (s : FutexWorld) (k : Nat) (wake : WakeCall) : FutexWorld :=
  { s with
    queues := s.setQueue wake.key ((s.queues wake.key).drop wake.count)
    waits := s.waits.mapIdx fun w call =>
      if w ∈ (s.queues wake.key).take wake.count then { call with queued := false, woken := true } else call
    wakes := s.wakes.set k { wake with
      stage := .notifying ((s.queues wake.key).take wake.count)
        ((s.queues wake.key).take wake.count).length } }

def stepWake (s : FutexWorld) (k : Nat) : FutexWorld :=
  match s.wakes[k]? with
  | none => s
  | some wake =>
    match wake.stage with
    | .taking => s.takeWokenWaiters k wake
    | .notifying [] taken => { s with wakes := s.wakes.set k { wake with stage := .returned (.ok taken) } }
    | .notifying (w :: ready) taken =>
      { s with
        waits := s.waits.mapIdx fun i call =>
          if i = w then { call with epoch := call.epoch + 1 } else call
        wakes := s.wakes.set k { wake with stage := .notifying ready taken } }
    | .returned _ => s

/-- A store of the value that is there already is no change. -/
def store (s : FutexWorld) (key : FutexKey) (value : UInt32) : FutexWorld :=
  { s with
    words := fun k => if k = key then value else s.words k
    waits := s.waits.mapIdx fun _ call =>
      if call.key = key ∧ call.isWaiting = true ∧ value ≠ s.words key then { call with changed := true }
      else call }

def step : FutexOp → FutexWorld
  | .wait process userAddr expected timeoutNs => s.wait env process userAddr expected timeoutNs
  | .stepWait w => s.stepWait env w
  | .expire w => s.expire w
  | .drop w => s.drop w
  | .wake process userAddr wakeCount => s.wake env process userAddr wakeCount
  | .stepWake k => s.stepWake k
  | .store key value => s.store key value

def run (ops : List FutexOp) : FutexWorld := runOps (step env) s ops

end

/-- A waiter that is owed a wakeup and asleep is one that a call of `wake` under way is still to wake. -/
def NoLostWakeup (s : FutexWorld) : Prop :=
  ∀ w < s.waits.length, ∀ call ∈ s.waits[w]?, call.owed = true → call.isAsleep = true →
    ∃ wake ∈ s.wakes, wake.isFor w = true

instance (s : FutexWorld) : Decidable s.NoLostWakeup :=
  inferInstanceAs (Decidable (∀ w < s.waits.length, _))

/-- No word changes between a waiter's look at it and the waiter's insertion. -/
def StoresOutside (s : FutexWorld) : FutexOp → Prop
  | .store key value => value ≠ s.words key → ∀ call ∈ s.waits, call.key = key → call.isInserting = false
  | _ => True

instance (s : FutexWorld) (op : FutexOp) : Decidable (s.StoresOutside op) := by
  cases op <;> unfold StoresOutside <;> infer_instance

/-! ## The invariant -/

variable {env : FutexEnv} {s s' : FutexWorld}

/-- What a stage says about the waiter. A waiter is in the queue or has been taken from when it is
inserted until the call is done with it. -/
def StageSound (call : WaitCall) : Prop :=
  match call.stage with
  | .reading | .inserting => call.queued = false ∧ call.woken = false ∧ call.changed = false
  | .listening => call.queued = true ∨ call.woken = true
  | .checking observed => (call.queued = true ∨ call.woken = true) ∧ observed ≤ call.epoch
  | .polling observed | .parked observed => (call.queued = true ∨ call.woken = true) ∧ observed = 0
  | .resumed woke => woke = true → call.woken = true
  | .removing => True
  | .removed | .returned _ | .dropped => call.queued = false

/-- A waiter is taken from the queue before it is notified. -/
structure WaitSound (call : WaitCall) : Prop where
  stage : StageSound call
  woken_out : call.woken = true → call.queued = false
  epoch_zero : call.woken = false → call.epoch = 0
  owed_changed : call.owed = true → call.changed = true

/-- What is queued is marked as queued, and a waiter that is woken or owed a wakeup has somebody who sees
to it. -/
structure Waiter (queues : FutexKey → List Nat) (wakes : List WakeCall) (w : Nat) (call : WaitCall) : Prop
    extends WaitSound call where
  queued_iff : call.queued = true ↔ w ∈ queues call.key
  notified : call.woken = true → 0 < call.epoch ∨ ∃ wake ∈ wakes, wake.notifies w = true
  owed : call.owed = true → call.queued = true → ∃ wake ∈ wakes, wake.owesTo w = true

/-- The waiters that a call of `wake` owes something are within its count, and those it has taken are
marked as woken. -/
def WakeSound (s : FutexWorld) (wake : WakeCall) : Prop :=
  match wake.stage with
  | .taking => (∀ w ∈ (s.queues wake.key).drop wake.count, w ∉ wake.owes) ∧
      ∀ w ∈ wake.owes, ∃ call, s.waits[w]? = some call ∧ call.key = wake.key ∧ call.changed = true
  | .notifying ready _ => ∀ w ∈ ready, ∃ call, s.waits[w]? = some call ∧ call.woken = true
  | .returned _ => True

def isChanged (s : FutexWorld) (w : Nat) : Prop := ∃ call ∈ s.waits[w]?, call.changed = true

/-- The invariant of queues and calls. -/
structure Sound (s : FutexWorld) : Prop where
  nodup : ∀ key, (s.queues key).Nodup
  in_queue : ∀ {key w}, w ∈ s.queues key → ∃ call, s.waits[w]? = some call ∧ call.key = key
  /-- Those whose word has changed come first. -/
  first : ∀ key, (s.queues key).Pairwise fun a b => s.isChanged b → s.isChanged a
  waiter : ∀ {w call}, s.waits[w]? = some call → Waiter s.queues s.wakes w call
  wakes : ∀ wake ∈ s.wakes, s.WakeSound wake

/-- An owed waiter that is asleep is in the queue, where a call of `wake` will find it, or has been taken
by one that has not notified it yet. -/
lemma Sound.noLostWakeup (h : s.Sound) : s.NoLostWakeup := by
  intro w _ call hcall howed hasleep
  have hwaiter := h.waiter hcall
  have hstage := hwaiter.stage
  unfold WaitCall.isAsleep at hasleep
  unfold StageSound at hstage
  split at hasleep
  · rename_i observed hparked
    rw [hparked] at hstage
    obtain ⟨hor, rfl⟩ := hstage
    rw [decide_eq_true_eq] at hasleep
    rcases hor with hqueued | hwoken
    · obtain ⟨wake, hwake, howes⟩ := hwaiter.owed howed hqueued
      exact ⟨wake, hwake, by rw [WakeCall.isFor, howes, Bool.true_or]⟩
    · rcases hwaiter.notified hwoken with hepoch | ⟨wake, hwake, hnotifies⟩
      · omega
      · exact ⟨wake, hwake, by rw [WakeCall.isFor, hnotifies, Bool.or_true]⟩
  · cases hasleep

/-! ## Steps -/

/-- What is remembered of a call is not forgotten. -/
structure Later (call call' : WaitCall) : Prop where
  key : call'.key = call.key
  changed : call.changed = true → call'.changed = true
  woken : call.woken = true → call'.woken = true

lemma Later.refl (call : WaitCall) : Later call call := ⟨rfl, id, id⟩

/-- A waiter that has not been inserted. -/
structure Fresh (call : WaitCall) : Prop extends WaitSound call where
  queued : call.queued = false
  woken : call.woken = false
  changed : call.changed = false

/-- How the calls change: those that are there by `f`; others may be new. -/
structure Evolves (s s' : FutexWorld) (f : Nat → WaitCall → WaitCall) : Prop where
  get : ∀ {w call}, s.waits[w]? = some call → s'.waits[w]? = some (f w call)
  cases : ∀ {w call'}, s'.waits[w]? = some call' →
    (∃ call, s.waits[w]? = some call ∧ call' = f w call) ∨ s.waits[w]? = none ∧ Fresh call'
  later : ∀ {w call}, s.waits[w]? = some call → Later call (f w call)

variable {w k : Nat} {call call' : WaitCall} {f : Nat → WaitCall → WaitCall} {key : FutexKey}

lemma Evolves.of_map (hwaits : ∀ w : Nat, s'.waits[w]? = (s.waits[w]?).map (f w))
    (hlater : ∀ {w call}, s.waits[w]? = some call → Later call (f w call)) : Evolves s s' f where
  get hcall := by rw [hwaits, hcall, map_some]
  cases {w call'} hcall' := by
    rw [hwaits] at hcall'
    obtain ⟨call, hcall, rfl⟩ := map_eq_some_iff.1 hcall'
    exact .inl ⟨call, hcall, rfl⟩
  later := hlater

lemma Evolves.isChanged (h : Evolves s s' f) (hw : s.isChanged w) : s'.isChanged w := by
  obtain ⟨call, hcall, hchanged⟩ := hw
  exact ⟨f w call, h.get hcall, (h.later hcall).changed hchanged⟩

lemma Evolves.changed_cases (h : Evolves s s' f) (hw : s'.isChanged w) :
    ∃ call, s.waits[w]? = some call ∧ (f w call).changed = true := by
  obtain ⟨call', hcall', hchanged⟩ := hw
  rcases h.cases hcall' with ⟨call, hcall, rfl⟩ | ⟨-, hnew⟩
  · exact ⟨call, hcall, hchanged⟩
  · rw [hnew.changed] at hchanged
    cases hchanged

/-- A call of `wake` does not mind what happens to waiters it is not in charge of. -/
lemma Evolves.wakeSound {wake : WakeCall} (h : Evolves s s' f) (hwake : s.WakeSound wake)
    (hqueue : wake.stage = .taking → ∀ w ∈ (s'.queues wake.key).drop wake.count,
      w ∈ (s.queues wake.key).drop wake.count ∨ w ∉ wake.owes) : s'.WakeSound wake := by
  unfold WakeSound at hwake ⊢
  split
  · rename_i htaking
    rw [htaking] at hwake
    refine ⟨fun w hw => (hqueue htaking w hw).elim (hwake.1 w) id, fun w hw => ?_⟩
    obtain ⟨call, hcall, hkey, hchanged⟩ := hwake.2 w hw
    exact ⟨f w call, h.get hcall, (h.later hcall).key.trans hkey, (h.later hcall).changed hchanged⟩
  · rename_i ready taken hnotifying
    rw [hnotifying] at hwake
    intro w hw
    obtain ⟨call, hcall, hwoken⟩ := hwake w hw
    exact ⟨f w call, h.get hcall, (h.later hcall).woken hwoken⟩
  · trivial

/-- What holds of the call that is exchanged and of every other call holds of each. -/
lemma forall_exchanged {P : Nat → WaitCall → WaitCall → Prop} (hcall : s.waits[w]? = some call)
    (hself : P w call call') (hother : ∀ {i old}, i ≠ w → s.waits[i]? = some old → P i old old) {i : Nat}
    {old : WaitCall} (hi : s.waits[i]? = some old) : P i old (if i = w then call' else old) := by
  split
  · rename_i hiw
    subst hiw
    exact mem_unique hcall hi ▸ hself
  · exact hother ‹_› hi

/-- One call is exchanged for a later state of it. -/
lemma Evolves.set (hcall : s.waits[w]? = some call)
    (hwaits : s'.waits = s.waits.set w call') (hlater : Later call call') :
    Evolves s s' fun i old => if i = w then call' else old := by
  refine .of_map (fun i => ?_) (forall_exchanged (P := fun _ => Later) hcall hlater fun _ _ => .refl _)
  rw [hwaits]
  by_cases hiw : w = i
  · subst hiw
    simp [(List.getElem?_eq_some_iff.1 hcall).1]
  · rw [getElem?_set_ne hiw]
    have hne : ¬ i = w := fun heq => hiw heq.symm
    cases s.waits[i]? <;> simp [hne]

/-- A step of the calls keeps the invariant if it does so for each call and each queue. -/
lemma Evolves.sound (he : Evolves s s' f) (hnodup : ∀ key, (s'.queues key).Nodup)
    (hin : ∀ {key w}, w ∈ s'.queues key → ∃ call, s.waits[w]? = some call ∧ call.key = key)
    (hfirst : ∀ key, (s'.queues key).Pairwise fun a b => s'.isChanged b → s'.isChanged a)
    (hwaiter : ∀ {w call}, s.waits[w]? = some call → Waiter s'.queues s'.wakes w (f w call))
    (hwakes : ∀ wake ∈ s'.wakes, s'.WakeSound wake) : s'.Sound := by
  refine ⟨hnodup, fun hw => ?_, hfirst, fun {w call'} hcall' => ?_, hwakes⟩
  · obtain ⟨call, hcall, rfl⟩ := hin hw
    exact ⟨f _ call, he.get hcall, (he.later hcall).key⟩
  · rcases he.cases hcall' with ⟨call, hcall, rfl⟩ | ⟨hnone, hnew⟩
    · exact hwaiter hcall
    · have hout : w ∉ s'.queues call'.key := by
        intro hw
        obtain ⟨call, hcall, -⟩ := hin hw
        rw [hnone] at hcall
        cases hcall
      refine ⟨hnew.toWaitSound, ?_, ?_, ?_⟩
      · simp [hnew.queued, hout]
      · simp [hnew.woken]
      · simp [hnew.queued]

/-- The order of a queue is kept by a step that changes no word. -/
lemma Sound.first_of_sublist (h : s.Sound) (he : Evolves s s' f)
    (hqueues : ∀ key, (s'.queues key).Sublist (s.queues key))
    (hchanged : ∀ {w call}, s.waits[w]? = some call → (f w call).changed = call.changed)
    (key : FutexKey) : (s'.queues key).Pairwise fun a b => s'.isChanged b → s'.isChanged a := by
  refine ((h.first key).sublist (hqueues key)).imp fun {a b} hab hb => he.isChanged (hab ?_)
  obtain ⟨call, hcall, htrue⟩ := he.changed_cases hb
  exact ⟨call, hcall, (hchanged hcall).symm.trans htrue⟩

/-- A step that takes at most some waiters from the queues. -/
lemma Evolves.sound_of_sublist (he : Evolves s s' f) (h : s.Sound)
    (hqueues : ∀ key, (s'.queues key).Sublist (s.queues key))
    (hchanged : ∀ {w call}, s.waits[w]? = some call → (f w call).changed = call.changed)
    (hwaiter : ∀ {w call}, s.waits[w]? = some call → Waiter s'.queues s'.wakes w (f w call))
    (hwakes : ∀ wake ∈ s'.wakes, wake ∈ s.wakes ∨ s'.WakeSound wake) : s'.Sound := by
  refine he.sound (fun key => (h.nodup key).sublist (hqueues key))
    (fun hw => h.in_queue ((hqueues _).subset hw)) (h.first_of_sublist he hqueues hchanged) hwaiter ?_
  intro wake hwake
  refine (hwakes wake hwake).elim (fun hold => ?_) id
  exact he.wakeSound (h.wakes wake hold) fun _ _ hw => .inl (((hqueues _).drop _).subset hw)

lemma Sound.of_queue (h : s.Sound) (hw : w ∈ s.queues key) :
    ∃ call, s.waits[w]? = some call ∧ call.key = key ∧ call.queued = true := by
  obtain ⟨call, hcall, rfl⟩ := h.in_queue hw
  exact ⟨call, hcall, rfl, (h.waiter hcall).queued_iff.2 hw⟩

/-- The step of a call that changes neither the queue nor the waiter. -/
lemma Sound.restage (h : s.Sound) (hcall : s.waits[w]? = some call)
    (hsame : call' = { call with stage := call'.stage, expired := call'.expired })
    (hstage : StageSound call') : Sound { s with waits := s.waits.set w call' } := by
  have hlater : Later call call' := by
    rw [hsame]
    exact ⟨rfl, id, id⟩
  refine (Evolves.set hcall rfl hlater).sound_of_sublist h (fun _ => .refl _)
    (forall_exchanged (P := fun _ old new => new.changed = old.changed) hcall ?_ fun _ _ => rfl)
    (forall_exchanged (P := fun i _ new => Waiter s.queues s.wakes i new) hcall ?_ fun _ => h.waiter)
    fun _ => .inl
  · rw [hsame]
  · have hwaiter := h.waiter hcall
    rw [hsame] at hstage ⊢
    exact ⟨⟨hstage, hwaiter.woken_out, hwaiter.epoch_zero, hwaiter.owed_changed⟩, hwaiter.queued_iff,
      hwaiter.notified, hwaiter.owed⟩

lemma Sound.goto {stage : WaitStage} (h : s.Sound)
    (hcall : s.waits[w]? = some call) (hstage : StageSound { call with stage := stage }) :
    (s.goto w call stage).Sound :=
  h.restage hcall rfl hstage

lemma Sound.wait (h : s.Sound) (process userAddr : Nat) (expected : UInt32) (timeoutNs : Nat) :
    (s.wait env process userAddr expected timeoutNs).Sound := by
  unfold FutexWorld.wait
  generalize hnew : (match enterWait env process userAddr with
    | .ok key => (⟨process, userAddr, key, expected, timeoutNs, .reading, false, false, 0, false, false,
        false⟩ : WaitCall)
    | .error e => ⟨process, userAddr, ⟨0, 0⟩, expected, timeoutNs, .returned (.error e), false, false, 0,
        false, false, false⟩) = new
  have hfresh : Fresh new := by
    subst hnew
    split <;> exact ⟨⟨by simp [StageSound], nofun, fun _ => rfl, nofun⟩, rfl, rfl, rfl⟩
  have hevolves : Evolves s { s with waits := s.waits ++ [new] } fun _ call => call := by
    refine ⟨fun hcall => ?_, fun {w call} hcall => ?_, fun _ => .refl _⟩
    · exact (getElem?_append_left (List.getElem?_eq_some_iff.1 hcall).1).trans hcall
    · have hcall : (s.waits ++ [new])[w]? = some call := hcall
      rw [getElem?_append] at hcall
      split at hcall
      · exact .inl ⟨call, hcall, rfl⟩
      · obtain rfl := mem_singleton.1 (mem_of_getElem? hcall)
        exact .inr ⟨getElem?_eq_none (by omega), hfresh⟩
  exact hevolves.sound_of_sublist h (fun _ => .refl _) (fun _ => rfl) h.waiter fun _ => .inl

lemma queues_insertWaiter (s : FutexWorld) (w : Nat) (call : WaitCall) (key : FutexKey) :
    (s.insertWaiter w call).queues key =
      if key = call.key then s.queues call.key ++ [w] else s.queues key := rfl

lemma evolves_insertWaiter (hcall : s.waits[w]? = some call) : Evolves s (s.insertWaiter w call)
    fun i old => if i = w then { call with queued := true, stage := .listening } else old :=
  .set hcall rfl ⟨rfl, id, id⟩

/-- A call that is about to be queued has met nothing yet. -/
lemma Waiter.fresh {queues : FutexKey → List Nat} {wakes : List WakeCall}
    (h : Waiter queues wakes w call) (hstage : call.stage = .inserting) : Fresh call := by
  have hsound := h.stage
  rw [StageSound, hstage] at hsound
  exact ⟨h.toWaitSound, hsound.1, hsound.2.1, hsound.2.2⟩

lemma Fresh.not_isChanged (hfresh : Fresh call) (hcall : s.waits[w]? = some call) : ¬ s.isChanged w := by
  rintro ⟨call', hcall', htrue⟩
  obtain rfl := mem_unique hcall' hcall
  rw [hfresh.changed] at htrue
  cases htrue

lemma Fresh.owed (hfresh : Fresh call) : call.owed = false := by
  rw [eq_false_iff]
  intro htrue
  have hchanged := hfresh.changed
  rw [hfresh.owed_changed htrue] at hchanged
  cases hchanged

section

variable (h : s.Sound)
include h

section

variable (hcall : s.waits[w]? = some call) (hfresh : Fresh call)
include hcall hfresh

/-- The word of the new waiter has not changed, and nothing else is different. -/
lemma Sound.insert_first (key : FutexKey) : ((s.insertWaiter w call).queues key).Pairwise fun a b =>
    (s.insertWaiter w call).isChanged b → (s.insertWaiter w call).isChanged a := by
  have hevolves := evolves_insertWaiter hcall
  have hunchanged : ∀ i, (s.insertWaiter w call).isChanged i → s.isChanged i := by
    intro i hi
    obtain ⟨old, hold, htrue⟩ := hevolves.changed_cases hi
    split at htrue
    · rw [show _ = false from hfresh.changed] at htrue
      cases htrue
    · exact ⟨old, hold, htrue⟩
  have hold : ∀ key, (s.queues key).Pairwise fun a b =>
      (s.insertWaiter w call).isChanged b → (s.insertWaiter w call).isChanged a :=
    fun key => (h.first key).imp fun {a b} hab hb => hevolves.isChanged (hab (hunchanged b hb))
  rw [queues_insertWaiter]
  split
  · refine pairwise_append.2 ⟨hold _, pairwise_singleton _ _, fun a _ b hb hb' => ?_⟩
    obtain rfl := mem_singleton.1 hb
    exact absurd (hunchanged b hb') (hfresh.not_isChanged hcall)
  · exact hold key

lemma Sound.insert_waiter {i : Nat} {old : WaitCall} (hi : s.waits[i]? = some old) :
    Waiter (s.insertWaiter w call).queues s.wakes i
      (if i = w then { call with queued := true, stage := .listening } else old) := by
  refine forall_exchanged (P := fun i _ new => Waiter (s.insertWaiter w call).queues s.wakes i new) hcall
    ?_ (fun {i old} hiw hi => ?_) hi
  · refine ⟨⟨.inl rfl, ?_, hfresh.epoch_zero, hfresh.owed_changed⟩, ?_, ?_, ?_⟩
    · simp [hfresh.woken]
    · simp [queues_insertWaiter]
    · simp [hfresh.woken]
    · simp [hfresh.owed]
  · have hother := h.waiter hi
    refine ⟨hother.toWaitSound, hother.queued_iff.trans ?_, hother.notified, hother.owed⟩
    rw [queues_insertWaiter]
    split
    · rename_i hkey
      simp [hkey, hiw]
    · rfl

/-- Only waiters whose word has changed are owed something. -/
lemma Sound.insert_wakes {wake : WakeCall} (hwake : wake ∈ s.wakes) :
    (s.insertWaiter w call).WakeSound wake := by
  have hsound := h.wakes wake hwake
  refine (evolves_insertWaiter hcall).wakeSound hsound fun htaking i hi => ?_
  rw [queues_insertWaiter] at hi
  split at hi
  · rename_i hkey
    rw [drop_append] at hi
    rcases mem_append.1 hi with hi | hi
    · exact .inl (hkey ▸ hi)
    · refine .inr fun howes => hfresh.not_isChanged hcall ?_
      rw [WakeSound, htaking] at hsound
      obtain ⟨call', hcall', -, htrue⟩ := hsound.2 i howes
      obtain rfl := mem_singleton.1 (mem_of_mem_drop hi)
      exact ⟨call', hcall', htrue⟩
  · exact .inl hi

end

/-- The waiter goes to the end of the queue, and its word has not changed yet. -/
lemma Sound.insert (hcall : s.waits[w]? = some call)
    (hstage : call.stage = .inserting) : (s.insertWaiter w call).Sound := by
  have hwaiter := h.waiter hcall
  have hfresh := hwaiter.fresh hstage
  have hout : w ∉ s.queues call.key := by
    rw [← hwaiter.queued_iff, hfresh.queued]
    exact false_ne_true
  refine (evolves_insertWaiter hcall).sound (fun key => ?_) (fun {key i} hi => ?_)
    (h.insert_first hcall hfresh) (h.insert_waiter hcall hfresh) fun _ => h.insert_wakes hcall hfresh
  · rw [queues_insertWaiter]
    split
    · rw [nodup_append]
      refine ⟨h.nodup _, by simp, ?_⟩
      rintro a ha b hb rfl
      exact hout (mem_singleton.1 hb ▸ ha)
    · exact h.nodup key
  · rw [queues_insertWaiter] at hi
    split at hi
    · rename_i hkey
      rcases mem_append.1 hi with hi | hi
      · exact hkey ▸ h.in_queue hi
      · exact ⟨call, mem_singleton.1 hi ▸ hcall, hkey.symm⟩
    · exact h.in_queue hi

lemma Sound.remove {stage : WaitStage} (hcall : s.waits[w]? = some call)
    (hstage : StageSound { call with queued := false, stage := stage }) :
    (s.removeWaiter w call stage).Sound := by
  have hwaiter := h.waiter hcall
  -- a waiter that is not marked as queued is not there to be removed
  have hqueue : ∀ key, (s.removeWaiter w call stage).queues key = (s.queues key).erase w := by
    intro key
    show (if call.queued then _ else _ : FutexKey → List Nat) key = _
    by_cases hkey : key = call.key
    · subst hkey
      split
      · exact if_pos rfl
      · rename_i hnot
        rw [erase_of_not_mem]
        exact fun hw => hnot (hwaiter.queued_iff.2 hw)
    · have hout : w ∉ s.queues key := by
        intro hw
        obtain ⟨call', hcall', rfl⟩ := h.in_queue hw
        obtain rfl := mem_unique hcall' hcall
        exact hkey rfl
      rw [erase_of_not_mem hout]
      split
      · exact if_neg hkey
      · rfl
  have hevolves : Evolves s (s.removeWaiter w call stage) fun i old =>
      if i = w then { call with queued := false, stage := stage } else old :=
    .set hcall rfl ⟨rfl, id, id⟩
  refine hevolves.sound_of_sublist h (fun key => ?_)
    (forall_exchanged (P := fun _ old new => new.changed = old.changed) hcall ?_ fun _ _ => rfl)
    (forall_exchanged (P := fun i _ new => Waiter (s.removeWaiter w call stage).queues s.wakes i new) hcall
      ⟨⟨hstage, fun _ => rfl, hwaiter.epoch_zero, hwaiter.owed_changed⟩, ?_, hwaiter.notified, nofun⟩
      fun hiw hi => ?_) fun _ => .inl
  · rw [hqueue]
    exact erase_sublist
  · rfl
  · simp [hqueue, (h.nodup call.key).not_mem_erase]
  · have hother := h.waiter hi
    refine ⟨hother.toWaitSound, ?_, hother.notified, hother.owed⟩
    rw [hother.queued_iff, hqueue, mem_erase_of_ne hiw]

/-- A waiter whose event has moved on has been taken from the queue before. -/
lemma Sound.poll {observed : Nat} (hcall : s.waits[w]? = some call)
    (hstage : (call.queued = true ∨ call.woken = true) ∧ observed = 0) :
    (s.poll w call observed).Sound := by
  fun_cases FutexWorld.poll s w call observed with
  | case1 hepoch =>
    refine h.goto hcall fun _ => ?_
    show call.woken = true
    rw [← not_eq_false]
    intro hwoken
    exact hepoch (((h.waiter hcall).epoch_zero hwoken).trans hstage.2.symm)
  | case2 => exact h.goto hcall nofun
  | case3 => exact h.goto hcall hstage

lemma Sound.stepWait (w : Nat) : (s.stepWait env w).Sound := by
  have hat : ∀ {call stage}, s.waits[w]? = some call → call.stage = stage →
      StageSound { call with stage := stage } := by
    rintro call _ hcall rfl
    exact (h.waiter hcall).stage
  -- a stage is left for one that asks no more of the waiter, or with what it has just found out
  fun_cases FutexWorld.stepWait env s w with
  | case2 call hcall heq | case3 call hcall heq | case4 call hcall heq =>
    exact h.goto hcall (hat hcall heq).1
  | case5 call hcall heq => exact h.goto hcall (hat hcall heq :)
  | case6 call hcall heq => exact h.insert hcall heq
  | case7 call hcall heq => exact h.goto hcall ⟨hat hcall heq, Nat.le_refl _⟩
  | case8 call hcall _ _ hwoken => exact h.goto hcall ((h.waiter hcall).woken_out hwoken)
  | case9 call hcall observed heq hwoken =>
    have hstage := hat hcall heq
    have hzero := (h.waiter hcall).epoch_zero (eq_false_iff.2 hwoken)
    exact h.goto hcall ⟨hstage.1, Nat.le_zero.1 (hzero ▸ hstage.2)⟩
  | case10 call hcall _ heq | case11 call hcall _ heq => exact h.poll hcall (hat hcall heq)
  | case12 call hcall woke heq hor =>
    refine h.goto hcall ((h.waiter hcall).woken_out ?_)
    rcases or_eq_true_iff.1 hor with hwoken | hwoke
    · exact hwoken
    · exact hat hcall heq hwoke
  | case13 call hcall => exact h.goto hcall trivial
  | case14 call hcall => exact h.remove hcall rfl
  | case15 call hcall heq | case16 call hcall heq => exact h.goto hcall (hat hcall heq :)
  | _ => exact h

lemma Sound.expire (w : Nat) : (s.expire w).Sound := by
  fun_cases FutexWorld.expire s w with
  | case1 => exact h
  | case2 call hcall => exact h.restage hcall rfl (h.waiter hcall).stage

lemma Sound.drop (w : Nat) : (s.drop w).Sound := by
  fun_cases FutexWorld.drop s w with
  | case2 call hcall => exact h.remove hcall rfl
  | _ => exact h

end

/-- The waiters stay as they are; those that somebody saw to have somebody who does. -/
lemma Waiter.rewake {queues : FutexKey → List Nat} {wakes wakes' : List WakeCall}
    (h : Waiter queues wakes w call)
    (hnotifies : (∃ wake ∈ wakes, wake.notifies w = true) → ∃ wake ∈ wakes', wake.notifies w = true)
    (howes : (∃ wake ∈ wakes, wake.owesTo w = true) → ∃ wake ∈ wakes', wake.owesTo w = true) :
    Waiter queues wakes' w call :=
  ⟨h.toWaitSound, h.queued_iff, fun htrue => (h.notified htrue).imp_right hnotifies,
    fun htrue hqueued => howes (h.owed htrue hqueued)⟩

lemma exists_append {wakes : List WakeCall} {P : WakeCall → Prop} (new : WakeCall)
    (h : ∃ wake ∈ wakes, P wake) : ∃ wake ∈ wakes ++ [new], P wake := by
  obtain ⟨wake, hwake, hP⟩ := h
  exact ⟨wake, mem_append_left _ hwake, hP⟩

lemma Evolves.refl_wakes (s : FutexWorld) (wakes : List WakeCall) :
    Evolves s { s with wakes := wakes } fun _ call => call :=
  .of_map (fun w => by simp) fun _ => .refl _

lemma Sound.endWake (h : s.Sound) (wakeCount : Nat) (result : Except FutexError Nat) :
    (s.endWake wakeCount result).Sound := by
  refine (Evolves.refl_wakes s _).sound_of_sublist h (fun _ => .refl _) (fun _ => rfl)
    (fun hcall => (h.waiter hcall).rewake (exists_append _) (exists_append _)) fun wake hwake => ?_
  refine (mem_append.1 hwake).imp_right fun hnew => ?_
  obtain rfl := mem_singleton.1 hnew
  trivial

lemma mem_outdated : w ∈ s.outdated key ↔
    ∃ call, s.waits[w]? = some call ∧ call.key = key ∧ call.isWaiting = true ∧ call.changed = true ∧
      call.woken = false := by
  unfold outdated
  rw [mem_filter, mem_range]
  constructor
  · rintro ⟨-, htrue⟩
    split at htrue
    · rename_i call hcall
      simp only [and_eq_true, decide_eq_true_eq, not_eq_true'] at htrue
      exact ⟨call, hcall, htrue.1.1.1, htrue.1.1.2, htrue.1.2, htrue.2⟩
    · cases htrue
  · rintro ⟨call, hcall, hkey, hwaiting, hchanged, hwoken⟩
    refine ⟨(List.getElem?_eq_some_iff.1 hcall).1, ?_⟩
    rw [hcall]
    simp [hkey, hwaiting, hchanged, hwoken]

/-- A queued waiter has read its word and is not done. -/
lemma WaitSound.isWaiting (h : WaitSound call) (hqueued : call.queued = true) : call.isWaiting = true := by
  have hstage := h.stage
  unfold StageSound at hstage
  unfold WaitCall.isWaiting
  split <;> simp_all

/-- Those that are owed a wakeup are the first of their queue, and no more than the count. -/
lemma Sound.drop_outdated {count : Nat} (h : s.Sound)
    (hcount : (s.outdated key).length ≤ count) (hw : w ∈ (s.queues key).drop count) :
    w ∉ s.outdated key := by
  intro hout
  obtain ⟨call, hcall, -, -, hchanged, -⟩ := mem_outdated.1 hout
  have hsplit : (s.queues key).take count ++ (s.queues key).drop count = s.queues key :=
    take_append_drop ..
  have hfirst := h.first key
  have hnodup := h.nodup key
  rw [← hsplit, pairwise_append] at hfirst
  rw [← hsplit, nodup_append] at hnodup
  -- with this one, too many waiters would be outdated
  have hsub : (s.queues key).take count ++ [w] ⊆ s.outdated key := by
    intro i hi
    rcases mem_append.1 hi with hi | hi
    · obtain ⟨call', hcall', hchanged'⟩ := hfirst.2.2 i hi w hw ⟨call, hcall, hchanged⟩
      obtain ⟨call'', hcall'', hkey, hqueued⟩ := h.of_queue (mem_of_mem_take hi)
      obtain rfl := mem_unique hcall' hcall''
      have hsound := (h.waiter hcall').toWaitSound
      refine mem_outdated.2 ⟨call', hcall', hkey, hsound.isWaiting hqueued, hchanged', ?_⟩
      rw [eq_false_iff]
      intro hwoken
      rw [hsound.woken_out hwoken] at hqueued
      cases hqueued
    · exact mem_singleton.1 hi ▸ hout
  have hdistinct : ((s.queues key).take count ++ [w]).Nodup := by
    rw [nodup_append]
    refine ⟨hnodup.1, by simp, ?_⟩
    rintro a ha b hb
    obtain rfl := mem_singleton.1 hb
    exact hnodup.2.2 a ha b hw
  have hlength := (subperm_of_subset hdistinct hsub).length_le
  have hlong : count < (s.queues key).length := by
    have := length_pos_of_mem hw
    rw [length_drop] at this
    omega
  rw [length_append, length_take, length_singleton, Nat.min_eq_left (by omega)] at hlength
  omega

lemma Sound.startWake {wakeCount : Nat} {owes : List Nat} (h : s.Sound)
    (howes : ∀ w ∈ owes, w ∈ s.outdated key) (hdrop : ∀ w ∈ (s.queues key).drop wakeCount, w ∉ owes) :
    (s.startWake key wakeCount owes).Sound := by
  have hevolves : Evolves s (s.startWake key wakeCount owes) fun w call =>
      { call with owed := call.owed || owes.contains w } :=
    .of_map (fun w => by simp [FutexWorld.startWake]) fun _ => ⟨rfl, id, id⟩
  refine hevolves.sound_of_sublist h (fun _ => .refl _) (fun _ => rfl) (fun {w call} hcall => ?_)
    fun wake hwake => ?_
  · have hwaiter := (h.waiter hcall).rewake (exists_append ⟨key, wakeCount, .taking, owes⟩) (exists_append _)
    refine ⟨⟨hwaiter.stage, hwaiter.woken_out, hwaiter.epoch_zero, fun htrue => ?_⟩, hwaiter.queued_iff,
      hwaiter.notified, fun htrue hqueued => ?_⟩
    · rcases or_eq_true_iff.1 htrue with howed | hnew
      · exact hwaiter.owed_changed howed
      · obtain ⟨call', hcall', -, -, hchanged, -⟩ := mem_outdated.1 (howes w (contains_iff_mem.1 hnew))
        obtain rfl := mem_unique hcall hcall'
        exact hchanged
    · rcases or_eq_true_iff.1 htrue with howed | hnew
      · exact hwaiter.owed howed hqueued
      · exact ⟨_, mem_append_right _ mem_cons_self, hnew⟩
  · refine (mem_append.1 hwake).imp_right fun hnew => ?_
    obtain rfl := mem_singleton.1 hnew
    refine ⟨hdrop, fun w hw => ?_⟩
    obtain ⟨call, hcall, hkey, -, hchanged, -⟩ := mem_outdated.1 (howes w hw)
    exact ⟨_, hevolves.get hcall, hkey, hchanged⟩

lemma Sound.wake (h : s.Sound) (process userAddr wakeCount : Nat) :
    (s.wake env process userAddr wakeCount).Sound := by
  fun_cases FutexWorld.wake env s process userAddr wakeCount with
  | case4 =>
    split
    · rename_i hcount
      exact h.startWake (fun _ hw => hw) fun w hw => h.drop_outdated hcount hw
    · exact h.startWake nofun nofun
  | _ => exact h.endWake _ _

/-- A stage does not mind that a queued waiter is taken. -/
lemma StageSound.take (h : StageSound call) (hqueued : call.queued = true) :
    StageSound { call with queued := false, woken := true } := by
  unfold StageSound at h ⊢
  split <;> simp_all

lemma Sound.takeWokenWaiters {wake : WakeCall} (h : s.Sound) (hwake : s.wakes[k]? = some wake)
    (hstage : wake.stage = .taking) : (s.takeWokenWaiters k wake).Sound := by
  have hwakeSound := h.wakes wake (mem_of_getElem? hwake)
  rw [WakeSound, hstage] at hwakeSound
  have hevolves : Evolves s (s.takeWokenWaiters k wake) fun w call =>
      if w ∈ (s.queues wake.key).take wake.count then { call with queued := false, woken := true }
      else call := by
    refine .of_map (fun w => by simp [FutexWorld.takeWokenWaiters]) fun {w call} _ => ?_
    split
    · exact ⟨rfl, id, fun _ => rfl⟩
    · exact .refl call
  have hqueue : ∀ key, (s.takeWokenWaiters k wake).queues key =
      if key = wake.key then (s.queues wake.key).drop wake.count else s.queues key := fun _ => rfl
  have hsplit : (s.queues wake.key).take wake.count ++ (s.queues wake.key).drop wake.count =
      s.queues wake.key := take_append_drop ..
  have hnodup := h.nodup wake.key
  rw [← hsplit, nodup_append] at hnodup
  refine hevolves.sound_of_sublist h (fun key => ?_) (fun {w call} _ => ?_) (fun {w call} hcall => ?_)
    fun other hother => ?_
  · rw [hqueue]
    split
    · rename_i hkey
      exact hkey ▸ drop_sublist _ _
    · exact .refl _
  · split <;> rfl
  · have hwaiter := h.waiter hcall
    split
    · rename_i hw
      -- who is taken is queued under the key of the call
      obtain ⟨call', hcall', hkey, hqueued⟩ := h.of_queue (mem_of_mem_take hw)
      obtain rfl := mem_unique hcall' hcall
      refine ⟨⟨hwaiter.stage.take hqueued, fun _ => rfl, nofun, hwaiter.owed_changed⟩, ?_, fun _ => ?_, nofun⟩
      · rw [hqueue, if_pos hkey]
        exact ⟨nofun, fun hrest => absurd rfl (hnodup.2.2 w hw w hrest)⟩
      · exact .inr ⟨_, mem_set_self hwake, contains_iff_mem.2 hw⟩
    · rename_i hw
      refine ⟨hwaiter.toWaitSound, hwaiter.queued_iff.trans ?_, fun htrue => ?_, fun howed hqueued => ?_⟩
      · rw [hqueue]
        split
        · rename_i hkey
          rw [hkey]
          nth_rewrite 1 [← hsplit]
          rw [mem_append]
          exact ⟨fun hor => hor.resolve_left hw, .inr⟩
        · rfl
      · refine (hwaiter.notified htrue).imp_right (exists_set hwake (fun _ => id) fun hnotifies => ?_)
        rw [WakeCall.notifies, hstage] at hnotifies
        cases hnotifies
      · refine exists_set hwake (fun _ => id) (fun howes => ?_) (hwaiter.owed howed hqueued)
        -- this call has taken everybody it owed something
        rw [WakeCall.owesTo, hstage] at howes
        have howes := contains_iff_mem.1 howes
        obtain ⟨call', hcall', hkey, -⟩ := hwakeSound.2 w howes
        obtain rfl := mem_unique hcall' hcall
        have hin := hwaiter.queued_iff.1 hqueued
        rw [hkey, ← hsplit] at hin
        rcases mem_append.1 hin with hin | hin
        · exact absurd hin hw
        · exact absurd howes (hwakeSound.1 w hin)
  · refine (mem_or_eq_of_mem_set hother).imp_right ?_
    rintro rfl w hw
    obtain ⟨call, hcall, -⟩ := h.in_queue (mem_of_mem_take hw)
    refine ⟨_, hevolves.get hcall, ?_⟩
    rw [if_pos hw]

/-- The notification of a taken waiter. -/
lemma Sound.notifyOne {taken : Nat} {ready : List Nat} {wake : WakeCall} (h : s.Sound)
    (hwake : s.wakes[k]? = some wake) (hstage : wake.stage = .notifying (w :: ready) taken) :
    Sound { s with
      waits := s.waits.mapIdx fun i call => if i = w then { call with epoch := call.epoch + 1 } else call
      wakes := s.wakes.set k { wake with stage := .notifying ready taken } } := by
  have hwakeSound := h.wakes wake (mem_of_getElem? hwake)
  rw [WakeSound, hstage] at hwakeSound
  have hevolves : Evolves s { s with
      waits := s.waits.mapIdx fun i call => if i = w then { call with epoch := call.epoch + 1 } else call
      wakes := s.wakes.set k { wake with stage := .notifying ready taken } } fun i call =>
        if i = w then { call with epoch := call.epoch + 1 } else call := by
    refine .of_map (fun i => by simp) fun {i call} _ => ?_
    split
    · exact ⟨rfl, id, id⟩
    · exact .refl call
  refine hevolves.sound_of_sublist h (fun _ => .refl _) (fun {i call} _ => ?_) (fun {i call} hcall => ?_)
    fun other hother => ?_
  · split <;> rfl
  · have howes : (∃ other ∈ s.wakes, other.owesTo i = true) → ∃ other ∈ s.wakes.set k { wake with
        stage := .notifying ready taken }, other.owesTo i = true :=
      exists_set hwake (fun _ => id) fun howes => by
        rw [WakeCall.owesTo, hstage] at howes
        cases howes
    have hwaiter := h.waiter hcall
    split
    · rename_i hiw
      subst hiw
      obtain ⟨call', hcall', hwoken⟩ := hwakeSound i mem_cons_self
      obtain rfl := mem_unique hcall' hcall
      refine ⟨⟨?_, hwaiter.woken_out, fun hfalse => ?_, hwaiter.owed_changed⟩, hwaiter.queued_iff,
        fun _ => .inl (Nat.succ_pos _), fun howed hqueued => howes (hwaiter.owed howed hqueued)⟩
      · have hstage := hwaiter.stage
        unfold StageSound at hstage ⊢
        split <;> simp_all
        omega
      · rw [show _ = true from hwoken] at hfalse
        cases hfalse
    · rename_i hiw
      refine hwaiter.rewake (exists_set hwake (fun _ => id) fun hnotifies => ?_) howes
      rw [WakeCall.notifies, hstage] at hnotifies
      exact contains_iff_mem.2 ((mem_cons.1 (contains_iff_mem.1 hnotifies)).resolve_left hiw)
  · refine (mem_or_eq_of_mem_set hother).imp_right ?_
    rintro rfl i hi
    obtain ⟨call, hcall, hwoken⟩ := hwakeSound i (mem_cons_of_mem _ hi)
    exact ⟨_, hevolves.get hcall, (hevolves.later hcall).woken hwoken⟩

lemma Sound.stepWake (h : s.Sound) (k : Nat) : (s.stepWake k).Sound := by
  fun_cases FutexWorld.stepWake s k with
  | case2 wake hwake hstage => exact h.takeWokenWaiters hwake hstage
  | case3 wake hwake taken hstage =>
    -- the call is done with everybody
    refine (Evolves.refl_wakes s _).sound_of_sublist h (fun _ => .refl _) (fun _ => rfl)
      (fun {w call} hcall => (h.waiter hcall).rewake (exists_set hwake (fun _ => id) fun hnotifies => ?_)
        (exists_set hwake (fun _ => id) fun howes => ?_)) fun other hother => ?_
    · rw [WakeCall.notifies, hstage] at hnotifies
      cases hnotifies
    · rw [WakeCall.owesTo, hstage] at howes
      cases howes
    · refine (mem_or_eq_of_mem_set hother).imp_right ?_
      rintro rfl
      trivial
  | case4 wake hwake w ready taken hstage => exact h.notifyOne hwake hstage
  | _ => exact h

/-- After a change, everybody in the queue of the word has seen another value; and nobody is about to be
inserted. -/
lemma Sound.store {value : UInt32} (h : s.Sound)
    (hok : s.StoresOutside (.store key value)) : (s.store key value).Sound := by
  have hevolves : Evolves s (s.store key value) fun _ call =>
      if call.key = key ∧ call.isWaiting = true ∧ value ≠ s.words key then { call with changed := true }
      else call := by
    refine .of_map (fun i => by simp [FutexWorld.store]) fun {i call} _ => ?_
    split
    · exact ⟨rfl, fun _ => rfl, id⟩
    · exact .refl call
  refine hevolves.sound h.nodup h.in_queue (fun k => ?_) (fun {w call} hcall => ?_) fun wake hwake => ?_
  · by_cases hk : k = key ∧ value ≠ s.words key
    · obtain ⟨rfl, hvalue⟩ := hk
      refine pairwise_of_forall_mem_list fun a ha _ _ _ => ?_
      obtain ⟨call, hcall, hkey, hqueued⟩ := h.of_queue ha
      refine ⟨_, hevolves.get hcall, ?_⟩
      rw [if_pos ⟨hkey, (h.waiter hcall).isWaiting hqueued, hvalue⟩]
    · refine List.Pairwise.imp_of_mem (fun {a b} _ hb hab htrue => hevolves.isChanged (hab ?_)) (h.first k)
      obtain ⟨call, hcall, htrue⟩ := hevolves.changed_cases htrue
      obtain ⟨call', hcall', hkey⟩ := h.in_queue hb
      obtain rfl := mem_unique hcall hcall'
      rw [if_neg fun hcond => hk ⟨hkey.symm.trans hcond.1, hcond.2.2⟩] at htrue
      exact ⟨call, hcall, htrue⟩
  · have hwaiter := h.waiter hcall
    split
    · rename_i hcond
      refine ⟨⟨?_, hwaiter.woken_out, hwaiter.epoch_zero, fun _ => rfl⟩, hwaiter.queued_iff, hwaiter.notified,
        hwaiter.owed⟩
      have hnot := hok hcond.2.2 call (mem_of_getElem? hcall) hcond.1
      have hstage := hwaiter.stage
      have hwaiting := hcond.2.1
      unfold WaitCall.isInserting at hnot
      unfold WaitCall.isWaiting at hwaiting
      unfold StageSound at hstage ⊢
      split <;> simp_all
    · exact hwaiter
  · exact hevolves.wakeSound (h.wakes wake hwake) fun _ _ hi => .inl hi

lemma Sound.step {op : FutexOp} (h : s.Sound) (hok : s.StoresOutside op) : (s.step env op).Sound := by
  cases op with
  | wait process userAddr expected timeoutNs => exact h.wait process userAddr expected timeoutNs
  | stepWait w => exact h.stepWait w
  | expire w => exact h.expire w
  | drop w => exact h.drop w
  | wake process userAddr wakeCount => exact h.wake process userAddr wakeCount
  | stepWake k => exact h.stepWake k
  | store key value => exact h.store hok

lemma sound_new (words : FutexKey → UInt32) : (new words).Sound :=
  ⟨fun _ => nodup_nil, by simp [new], fun _ => .nil, by simp [new], by simp [new]⟩

/-- In every run in which no word changes between a waiter's look at it and its insertion, no wakeup is
lost. -/
theorem no_lost_wakeup_of_storesOutside (env : FutexEnv) (words : FutexKey → UInt32) (ops : List FutexOp)
    (hops : Meets (step env) StoresOutside (new words) ops) : (run env (new words) ops).NoLostWakeup :=
  (run_invariant (fun _ _ h hok => Sound.step h hok) (sound_new words) hops).noLostWakeup

/-- One address space, in which every address is its own offset. -/
def flatEnv : FutexEnv := ⟨fun _ userAddr => .ok ⟨0, userAddr⟩, fun _ _ => true⟩

/-- A waiter parks before the word changes and is woken after. -/
def changedAfterParking : List FutexOp :=
  [.wait 0 0 0 usizeMax, .stepWait 0, .stepWait 0, .stepWait 0, .stepWait 0, .stepWait 0,
    .store ⟨0, 0⟩ 1, .wake 0 0 1, .stepWake 0, .stepWake 0, .stepWake 0]

theorem no_lost_wakeup_changedAfterParking :
    Meets (step flatEnv) StoresOutside (new fun _ => 0) changedAfterParking ∧
      (run flatEnv (new fun _ => 0) changedAfterParking).NoLostWakeup :=
  ⟨by decide +kernel, no_lost_wakeup_of_storesOutside flatEnv (fun _ => 0) changedAfterParking (by decide +kernel)⟩

/-- The word changes, and the wakeup comes, between the waiter's look at the word and its insertion. -/
theorem changedBeforeInsertion_loses_wakeup : ¬ (run flatEnv (new fun _ => 0)
      [.wait 0 0 0 usizeMax, .stepWait 0, .store ⟨0, 0⟩ 1, .wake 0 0 1, .stepWake 0, .stepWake 0,
        .stepWait 0, .stepWait 0, .stepWait 0, .stepWait 0]).NoLostWakeup := by
  decide +kernel

end FutexWorld

end Akarin.Runtime
