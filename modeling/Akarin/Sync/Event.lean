/-
# Akarin.Sync.Event -- notification of listeners

`Event` is an epoch and a queue of wakers. A listener remembers the epoch it was created in; a poll that
finds the epoch unchanged leaves the task's waker in the queue, once, and `notify` moves the epoch on and
calls wakers from the front of the queue. Loading the epoch, incrementing it, pushing a waker and popping
one are separate atomic steps, and any number of polls, drops and notifications take them in any order.

What a notification is for: after `notify_all` no listener it found is left pending without a call of its
waker (`NotifyAllReaches`), and `notify(n)` wakes `n` of the listeners it found parked, if there were so
many (`NotifyWakes`). Both hold in every run that is `Undisturbed`. The waker of a listener that is gone
stays in the queue, and nothing looks at the epoch again after a push, so neither holds in every run.
-/
import Akarin.Lib.Tasks

namespace Akarin.Sync

open List Option Bool
open Lib (runOps Meets run_invariant forall_set)

/-! ## Model -/

/-- `usize::MAX`. -/
def usizeMax : Nat := 2 ^ 64 - 1

/-- `Event`; a waker is the index of the listener it was pushed by. -/
structure Event where
  epoch : Nat
  waiters : List Nat

/-- Where a listener is. -/
inductive ListenerStage where
  /-- Not polled yet. -/
  | created
  /-- A poll has found the epoch unchanged and is about to push the waker. -/
  | pushing
  /-- The last poll has returned `Pending`. -/
  | parked
  /-- A poll has returned `Ready`. -/
  | ready
  | dropped
  deriving DecidableEq

/-- `Listener` and where its poll is. `called` is history: the waker has been called since the last poll
that returned `Pending`. -/
structure Listener where
  observed : Nat
  registered : Bool
  stage : ListenerStage
  called : Bool

/-- The last poll has returned `Pending`, and the waker has not been called since. -/
def Listener.isParked (x : Listener) : Bool := x.stage = .parked && !x.called

/-- The load at the start of a poll, and what the poll does without another atomic step. -/
def Listener.load (x : Listener) (epoch : Nat) : Listener :=
  if epoch ≠ x.observed then { x with stage := .ready }
  else if x.registered then { x with stage := .parked, called := false }
  else { x with stage := .pushing }

/-- Where a call of `notify` is. -/
inductive NotifyStage where
  | adding
  /-- In the loop, with so many rounds left. -/
  | popping (left : Nat)
  | returned
  deriving DecidableEq

/-- A call of `notify`. History: how many listeners there were when it was issued, and which of them were
parked and not called yet. -/
structure Notify where
  count : Nat
  stage : NotifyStage
  wakeCount : Nat
  known : Nat
  targets : List Nat

/-- An event, the listeners created on it and the notifications issued. -/
structure EventWorld where
  event : Event
  listeners : List Listener
  calls : List Notify

/-- Calls on an event, and their steps. -/
inductive EventOp where
  | listen
  /-- The next atomic step of a poll, the first one if none is under way. -/
  | poll (listener : Nat)
  | drop (listener : Nat)
  | notify (count : Nat)
  /-- The next atomic step of a call of `notify`. -/
  | advance (call : Nat)

namespace EventWorld

/-- `Event::new`. -/
def new : EventWorld := ⟨⟨0, []⟩, [], []⟩

def isParked (w : EventWorld) (l : Nat) : Bool :=
  match w.listeners[l]? with
  | some x => x.isParked
  | none => false

section

variable (w : EventWorld)

def isCalled (l : Nat) : Bool :=
  match w.listeners[l]? with
  | some x => x.called
  | none => false

def listen : EventWorld :=
  { w with listeners := w.listeners ++ [⟨w.event.epoch, false, .created, false⟩] }

def poll (l : Nat) : EventWorld :=
  match w.listeners[l]? with
  | none => w
  | some x =>
    match x.stage with
    | .created | .parked => { w with listeners := w.listeners.set l (x.load w.event.epoch) }
    | .pushing =>
      { w with
        event.waiters := w.event.waiters ++ [l]
        listeners := w.listeners.set l { x with registered := true, stage := .parked, called := false } }
    | .ready | .dropped => w

/-- The waker of a dropped listener stays in the queue. A listener is not dropped inside its own poll. -/
def drop (l : Nat) : EventWorld :=
  match w.listeners[l]? with
  | none => w
  | some x =>
    if x.stage = .pushing then w
    else { w with listeners := w.listeners.set l { x with stage := .dropped } }

def notify (count : Nat) : EventWorld :=
  { w with
    calls := w.calls ++ [⟨count, if count = 0 then .returned else .adding, 0, w.listeners.length,
      (List.range w.listeners.length).filter w.isParked⟩] }

/-- The listener's waker is called. -/
def wake (l : Nat) : List Listener := w.listeners.modify l fun x => { x with called := true }

def advance (c : Nat) : EventWorld :=
  match w.calls[c]? with
  | none => w
  | some call =>
    match call.stage with
    | .adding =>
      { w with
        event.epoch := (w.event.epoch + 1) % 2 ^ 64
        calls := w.calls.set c { call with stage := .popping call.count } }
    | .popping 0 => { w with calls := w.calls.set c { call with stage := .returned } }
    | .popping (left + 1) =>
      match w.event.waiters with
      | [] => { w with calls := w.calls.set c { call with stage := .returned } }
      | l :: rest =>
        { event := { w.event with waiters := rest }
          listeners := w.wake l
          calls := w.calls.set c { call with stage := .popping left, wakeCount := call.wakeCount + 1 } }
    | .returned => w

def step : EventOp → EventWorld
  | .listen => w.listen
  | .poll l => w.poll l
  | .drop l => w.drop l
  | .notify count => w.notify count
  | .advance c => w.advance c

def run (ops : List EventOp) : EventWorld := runOps step w ops

/-! ## What a notification is for -/

/-- After `notify_all` has returned, no listener that it found is left pending with its waker not
called. -/
def NotifyAllReaches : Prop :=
  ∀ call ∈ w.calls, call.stage = .returned → call.count = usizeMax → ∀ l < call.known, w.isParked l = false

end

instance (w : EventWorld) : Decidable w.NotifyAllReaches :=
  inferInstanceAs (Decidable (∀ call ∈ w.calls, _))

/-- A notification of `n` that found so many listeners parked has, when it returns, woken `n` of them. -/
def NotifyWakes (w : EventWorld) : Prop :=
  ∀ call ∈ w.calls, call.stage = .returned → call.count ≤ call.targets.length →
    call.count ≤ call.targets.countP w.isCalled
deriving Decidable

/-- A waker is pushed while the epoch is the one the poll has found. No listener finishes or is dropped
while its waker is queued. A notification calls the waker of a listener only if the epoch has moved since
that listener was created. And the two counters stay in range. -/
def Undisturbed (w : EventWorld) : EventOp → Prop
  | .poll l => ∀ x ∈ w.listeners[l]?,
      if x.stage = .pushing then w.event.epoch = x.observed
      else w.event.epoch ≠ x.observed → l ∉ w.event.waiters
  | .drop l => l ∉ w.event.waiters
  | .advance c => ∀ call ∈ w.calls[c]?,
      if call.stage = .adding then w.event.epoch + 1 < 2 ^ 64 ∧ w.event.waiters.length ≤ usizeMax
      else ∀ l ∈ w.event.waiters.head?, ∀ x ∈ w.listeners[l]?, x.observed ≠ w.event.epoch
  | .listen | .notify _ => True

instance (w : EventWorld) (op : EventOp) : Decidable (w.Undisturbed op) := by
  cases op <;> unfold Undisturbed <;> infer_instance

/-! ## The invariant -/

variable {w w' : EventWorld}

/-- What is known of a listener, in the epoch: it waits for the epoch after the one it has seen, it has a
waker from its first `Pending` on, and the waker is only called once the epoch has moved. -/
structure ListenerSound (epoch : Nat) (x : Listener) : Prop where
  observed_le : x.observed ≤ epoch
  called_lt : x.called = true → x.observed < epoch
  fresh : x.stage = .created ∨ x.stage = .pushing → x.registered = false ∧ x.called = false
  parked : x.stage = .parked → x.registered = true

/-- What is known of a notification. Its targets are called or still queued, in front of the listeners
that were not parked when it was issued; it has called as many of them as wakers, unless it has run out of
them. For `notify_all`, the listeners it found wait for an earlier epoch, and those still queued are
within the rounds that are left. -/
structure NotifySound (w : EventWorld) (call : Notify) : Prop where
  known_le : call.known ≤ w.listeners.length
  targets : ∀ t ∈ call.targets, w.isCalled t = true ∨ t ∈ w.event.waiters
  first : w.event.waiters.Pairwise fun a b => b ∈ call.targets → a ∈ call.targets
  woken : call.wakeCount ≤ call.targets.countP w.isCalled ∨ ∀ t ∈ call.targets, w.isCalled t = true
  unstarted : call.stage = .adding → call.wakeCount = 0
  rounds : ∀ left, call.stage = .popping left → call.wakeCount + left = call.count
  returned : call.stage = .returned → call.count ≤ call.wakeCount ∨ ∀ t ∈ call.targets, w.isCalled t = true
  outdated : call.count = usizeMax → call.stage ≠ .adding →
    ∀ (l : Nat) (x : Listener), l < call.known → w.listeners[l]? = some x → x.observed < w.event.epoch
  within : call.count = usizeMax → ∀ left, call.stage = .popping left →
    ∀ l ∈ w.event.waiters.drop left, call.known ≤ l
  reached : call.count = usizeMax → call.stage = .returned → ∀ l ∈ w.event.waiters, call.known ≤ l

/-- The invariant of waiters and calls. -/
structure Sound (w : EventWorld) : Prop where
  nodup : w.event.waiters.Nodup
  queued : ∀ l, l ∈ w.event.waiters ↔ w.isParked l = true
  listeners : ∀ (l : Nat) (x : Listener), w.listeners[l]? = some x → ListenerSound w.event.epoch x
  calls : ∀ call ∈ w.calls, w.NotifySound call

variable {l c l' left : Nat} {x y : Listener} {call : Notify}

lemma isParked_iff : w.isParked l = true ↔
    ∃ x, w.listeners[l]? = some x ∧ x.stage = .parked ∧ x.called = false := by
  unfold isParked
  cases w.listeners[l]? <;> simp [Listener.isParked]

lemma isCalled_iff : w.isCalled l = true ↔ ∃ x, w.listeners[l]? = some x ∧ x.called = true := by
  unfold isCalled
  cases w.listeners[l]? <;> simp

/-- What both properties ask for follows from the invariant. -/
lemma Sound.notifyAllReaches (h : w.Sound) : w.NotifyAllReaches := by
  intro call hcall hreturned hall l hl
  rw [eq_false_iff]
  intro hparked
  have hle := (h.calls call hcall).reached hall hreturned l ((h.queued l).2 hparked)
  omega

lemma Sound.notifyWakes (h : w.Sound) : w.NotifyWakes := by
  intro call hcall hreturned hcount
  have hsound := h.calls call hcall
  have hall : (∀ t ∈ call.targets, w.isCalled t = true) → call.count ≤ call.targets.countP w.isCalled := by
    intro hcalled
    rw [countP_eq_length.2 hcalled]
    exact hcount
  rcases hsound.returned hreturned with hwake | hcalled
  · rcases hsound.woken with hwoken | hcalled
    · exact Nat.le_trans hwake hwoken
    · exact hall hcalled
  · exact hall hcalled

/-! ## Steps -/

/-- What a step by others may do, as seen from a notification: listeners stay and keep their epoch, a
waker once called stays called, and a waker leaves the queue by being called. -/
structure Grows (w w' : EventWorld) : Prop where
  listeners : ∀ (l : Nat) (x : Listener), w.listeners[l]? = some x →
    ∃ x' : Listener, w'.listeners[l]? = some x' ∧ x'.observed = x.observed ∧ (x.called = true → x'.called = true)
  length : w.listeners.length ≤ w'.listeners.length
  epoch : w.event.epoch ≤ w'.event.epoch

lemma Grows.isCalled (h : Grows w w') (hl : w.isCalled l = true) : w'.isCalled l = true := by
  obtain ⟨x, hx, hcalled⟩ := isCalled_iff.1 hl
  obtain ⟨x', hx', -, hcalled'⟩ := h.listeners l x hx
  exact isCalled_iff.2 ⟨x', hx', hcalled' hcalled⟩

lemma Grows.observed (h : Grows w w') {n : Nat} (hn : n ≤ w.listeners.length)
    (hold : ∀ (l : Nat) (x : Listener), l < n → w.listeners[l]? = some x → x.observed < w.event.epoch) :
    ∀ (l : Nat) (x : Listener), l < n → w'.listeners[l]? = some x → x.observed < w'.event.epoch := by
  intro l x hlt hx
  obtain ⟨y, hy⟩ : ∃ y, w.listeners[l]? = some y := ⟨_, getElem?_eq_getElem (by omega)⟩
  obtain ⟨x', hx', hobserved, -⟩ := h.listeners l y hy
  obtain rfl := mem_unique hx' hx
  have := hold l y hlt hy
  have := h.epoch
  omega

/-- A notification does not mind that wakers are called, nor that listeners are queued which it is not in
charge of. -/
lemma NotifySound.grow (h : w.NotifySound call) (fresh : List Nat) (hg : Grows w w')
    (hsub : w'.event.waiters.Sublist (w.event.waiters ++ fresh))
    (hleft : ∀ l ∈ w.event.waiters, w'.isCalled l = true ∨ l ∈ w'.event.waiters)
    (hfresh : ∀ l ∈ fresh, l ∉ call.targets ∧
      (call.count = usizeMax → call.stage ≠ .adding → call.known ≤ l)) : w'.NotifySound call := by
  have hall : (∀ t ∈ call.targets, w.isCalled t = true) → ∀ t ∈ call.targets, w'.isCalled t = true :=
    fun hcalled t ht => hg.isCalled (hcalled t ht)
  have hfirst : (w.event.waiters ++ fresh).Pairwise fun a b => b ∈ call.targets → a ∈ call.targets := by
    refine pairwise_append.2 ⟨h.first, ?_, ?_⟩
    · exact pairwise_of_forall_mem_list fun a _ b hb hb' => absurd hb' (hfresh b hb).1
    · exact fun a _ b hb hb' => absurd hb' (hfresh b hb).1
  refine ⟨Nat.le_trans h.known_le hg.length, ?_, hfirst.sublist hsub, ?_, h.unstarted, h.rounds, ?_, ?_, ?_, ?_⟩
  · intro t ht
    rcases h.targets t ht with hcalled | hqueued
    · exact .inl (hg.isCalled hcalled)
    · exact hleft t hqueued
  · rcases h.woken with hwoken | hcalled
    · exact .inl (Nat.le_trans hwoken (countP_mono_left fun t _ => hg.isCalled))
    · exact .inr (hall hcalled)
  · exact fun hreturned => (h.returned hreturned).imp_right hall
  · intro hcount hstage
    exact hg.observed h.known_le (h.outdated hcount hstage)
  · intro hcount left hstage l hl
    have hl := (hsub.drop left).subset hl
    rw [drop_append] at hl
    rcases mem_append.1 hl with hl | hl
    · exact h.within hcount left hstage l hl
    · exact (hfresh l (mem_of_mem_drop hl)).2 hcount (by simp [hstage])
  · intro hcount hstage l hl
    rcases mem_append.1 (hsub.subset hl) with hl | hl
    · exact h.reached hcount hstage l hl
    · exact (hfresh l hl).2 hcount (by simp [hstage])

lemma Grows.of_eq (hlisteners : w'.listeners = w.listeners) (hepoch : w'.event.epoch = w.event.epoch) :
    Grows w w' :=
  ⟨fun _ x hx => ⟨x, hlisteners ▸ hx, rfl, id⟩, Nat.le_of_eq (by rw [hlisteners]), Nat.le_of_eq hepoch.symm⟩

/-- One listener is exchanged for a later state of it. -/
lemma Grows.set (hx : w.listeners[l]? = some x)
    (hlisteners : w'.listeners = w.listeners.set l y) (hobserved : y.observed = x.observed)
    (hcalled : x.called = true → y.called = true) (hepoch : w.event.epoch ≤ w'.event.epoch) :
    Grows w w' := by
  refine ⟨fun l' x' hx' => ?_, by simp [hlisteners], hepoch⟩
  by_cases hl : l = l'
  · subst hl
    obtain rfl := mem_unique hx hx'
    exact ⟨y, by simp [hlisteners, (List.getElem?_eq_some_iff.1 hx).1], hobserved, hcalled⟩
  · exact ⟨x', by rw [hlisteners, getElem?_set_ne hl, hx'], rfl, id⟩

lemma Sound.listen (h : w.Sound) : w.listen.Sound := by
  have hold : ∀ l < w.listeners.length, w.listen.listeners[l]? = w.listeners[l]? :=
    fun l hl => getElem?_append_left hl
  have hnew : w.listen.listeners[w.listeners.length]? = some ⟨w.event.epoch, false, .created, false⟩ := by
    simp [EventWorld.listen]
  have hgrows : Grows w w.listen := by
    refine ⟨fun l x hx => ⟨x, ?_, rfl, id⟩, by simp [EventWorld.listen], Nat.le_refl _⟩
    rw [hold l (List.getElem?_eq_some_iff.1 hx).1, hx]
  have hcases : ∀ (l : Nat) (x : Listener), w.listen.listeners[l]? = some x →
      w.listeners[l]? = some x ∨ x = ⟨w.event.epoch, false, .created, false⟩ := by
    intro l x hx
    have hlt := (List.getElem?_eq_some_iff.1 hx).1
    rw [show w.listen.listeners.length = w.listeners.length + 1 by simp [EventWorld.listen]] at hlt
    rcases Nat.lt_succ_iff_lt_or_eq.1 hlt with hl | rfl
    · exact .inl (hold l hl ▸ hx)
    · exact .inr (mem_unique hx hnew)
  refine ⟨h.nodup, fun l => (h.queued l).trans ?_, ?_, ?_⟩
  · rw [isParked_iff, isParked_iff]
    constructor
    · rintro ⟨x, hx, hparked⟩
      exact ⟨x, hold l (List.getElem?_eq_some_iff.1 hx).1 ▸ hx, hparked⟩
    · rintro ⟨x, hx, hparked⟩
      rcases hcases l x hx with hx | rfl
      · exact ⟨x, hx, hparked⟩
      · cases hparked.1
  · intro l x hx
    rcases hcases l x hx with hx | rfl
    · exact h.listeners l x hx
    · exact ⟨Nat.le_refl _, nofun, fun _ => ⟨rfl, rfl⟩, nofun⟩
  · intro call hcall
    exact (h.calls call hcall).grow [] hgrows (by simp [EventWorld.listen]) (fun l hl => .inr hl) nofun

lemma isParked_set (hx : w.listeners[l]? = some x) (hlisteners : w'.listeners = w.listeners.set l y) :
    w'.isParked l' = if l = l' then y.isParked else w.isParked l' := by
  unfold isParked
  by_cases hl : l = l'
  · subst hl
    simp [hlisteners, (List.getElem?_eq_some_iff.1 hx).1]
  · rw [hlisteners, getElem?_set_ne hl, if_neg hl]

lemma listener_set {P : Listener → Prop} (hy : P y)
    (hold : ∀ (l : Nat) (x : Listener), w.listeners[l]? = some x → P x)
    (hlisteners : w'.listeners = w.listeners.set l y) (l' : Nat) (x : Listener)
    (hx : w'.listeners[l']? = some x) : P x := by
  rw [hlisteners, getElem?_set] at hx
  split at hx
  · split at hx
    · obtain rfl := some.inj hx
      exact hy
    · cases hx
  · exact hold l' x hx

section

variable (h : w.Sound)
include h

/-- A listener whose waker is not queued is not waiting for it. -/
lemma Sound.not_parked (hx : w.listeners[l]? = some x)
    (hl : l ∉ w.event.waiters) : x.isParked = false := by
  rw [eq_false_iff]
  intro hparked
  apply hl
  rw [h.queued, isParked, hx]
  exact hparked

/-- A listener moves on without touching the queue. -/
lemma Sound.set (hx : w.listeners[l]? = some x)
    (hobserved : y.observed = x.observed) (hcalled : x.called = true → y.called = true)
    (hparked : y.isParked = x.isParked)
    (hy : ListenerSound w.event.epoch y) : Sound { w with listeners := w.listeners.set l y } := by
  have hgrows : Grows w { w with listeners := w.listeners.set l y } :=
    .set hx rfl hobserved hcalled (Nat.le_refl _)
  refine ⟨h.nodup, fun l' => (h.queued l').trans ?_, listener_set hy h.listeners rfl, ?_⟩
  · refine Iff.trans ?_ (Bool.eq_iff_iff.1 (isParked_set hx rfl)).symm
    split
    · rename_i hl
      subst hl
      rw [hparked, isParked, hx]
    · rfl
  · intro call hcall
    exact (h.calls call hcall).grow [] hgrows (by simp) (fun l hl => .inr hl) nofun

lemma Sound.drop (hok : w.Undisturbed (.drop l)) : (w.drop l).Sound := by
  unfold EventWorld.drop
  split
  · exact h
  · rename_i x hx
    split
    · exact h
    · have hx' := h.listeners l x hx
      refine h.set hx rfl id ?_ ⟨hx'.observed_le, hx'.called_lt, ?_, nofun⟩
      · rw [h.not_parked hx hok]
        rfl
      · rintro (hstage | hstage) <;> cases hstage

/-- A poll that returns `Pending` again has its waker in the queue: a call of the waker would have found a
later epoch. -/
lemma Sound.load (hx : w.listeners[l]? = some x) (hstage : x.stage = .created ∨ x.stage = .parked)
    (hok : w.event.epoch ≠ x.observed → l ∉ w.event.waiters) :
    Sound { w with listeners := w.listeners.set l (x.load w.event.epoch) } := by
  have hx' := h.listeners l x hx
  unfold Listener.load
  split
  · rename_i hepoch
    refine h.set hx rfl id ?_ ⟨hx'.observed_le, hx'.called_lt, ?_, nofun⟩
    · rw [h.not_parked hx (hok hepoch)]
      rfl
    · rintro (hnew | hnew) <;> cases hnew
  · rename_i hepoch
    have hcalled : x.called = false := by
      rw [eq_false_iff]
      intro hcalled
      have := hx'.called_lt hcalled
      omega
    split
    · rename_i hregistered
      have hparked : x.stage = .parked := by
        rcases hstage with hcreated | hparked
        · rw [(hx'.fresh (.inl hcreated)).1] at hregistered
          cases hregistered
        · exact hparked
      refine h.set hx rfl (fun htrue => by rw [hcalled] at htrue; cases htrue) ?_
        ⟨hx'.observed_le, nofun, ?_, fun _ => hregistered⟩
      · simp [Listener.isParked, hparked, hcalled]
      · rintro (hnew | hnew) <;> cases hnew
    · rename_i hregistered
      have hcreated : x.stage = .created :=
        hstage.resolve_right fun hparked => hregistered (hx'.parked hparked)
      refine h.set hx rfl id ?_ ⟨hx'.observed_le, hx'.called_lt, fun _ => ?_, nofun⟩
      · simp [Listener.isParked, hcreated]
      · exact hx'.fresh (.inl hcreated)

lemma Sound.push (hx : w.listeners[l]? = some x)
    (hstage : x.stage = .pushing) (hok : w.event.epoch = x.observed) : Sound { w with
      event.waiters := w.event.waiters ++ [l]
      listeners := w.listeners.set l { x with registered := true, stage := .parked, called := false } } := by
  have hx' := h.listeners l x hx
  obtain ⟨-, hcalled⟩ := hx'.fresh (.inr hstage)
  have hy : ListenerSound w.event.epoch { x with registered := true, stage := .parked, called := false } := by
    refine ⟨hx'.observed_le, nofun, ?_, fun _ => rfl⟩
    rintro (hnew | hnew) <;> cases hnew
  have hout : l ∉ w.event.waiters := by
    intro hl
    obtain ⟨y, hy, hparked, -⟩ := isParked_iff.1 ((h.queued l).1 hl)
    obtain rfl := mem_unique hx hy
    rw [hstage] at hparked
    cases hparked
  have hnot : ∀ call ∈ w.calls, l ∉ call.targets := by
    intro call hcall ht
    rcases (h.calls call hcall).targets l ht with htrue | hqueued
    · obtain ⟨y, hy, hy'⟩ := isCalled_iff.1 htrue
      obtain rfl := mem_unique hx hy
      rw [hcalled] at hy'
      cases hy'
    · exact hout hqueued
  refine ⟨?_, fun l' => ?_, ?_, ?_⟩
  · rw [nodup_append]
    refine ⟨h.nodup, by simp, ?_⟩
    rintro a ha b hb rfl
    exact hout (mem_singleton.1 hb ▸ ha)
  · rw [mem_append, mem_singleton, h.queued l']
    refine Iff.trans ?_ (Bool.eq_iff_iff.1 (isParked_set hx rfl)).symm
    split
    · rename_i hl
      simp [hl, Listener.isParked]
    · rename_i hl
      exact ⟨fun hor => hor.resolve_right fun heq => hl heq.symm, .inl⟩
  · exact listener_set hy h.listeners rfl
  · intro call hcall
    refine (h.calls call hcall).grow [l] (.set hx rfl rfl ?_ (Nat.le_refl _)) (List.Sublist.refl _)
      (fun l' hl' => .inr (mem_append_left _ hl')) ?_
    · intro htrue
      rw [hcalled] at htrue
      cases htrue
    · intro l' hl'
      obtain rfl := mem_singleton.1 hl'
      refine ⟨hnot call hcall, fun hcount hadded => ?_⟩
      -- a listener that `notify_all` found has seen an earlier epoch
      by_contra hlt
      have := (h.calls call hcall).outdated hcount hadded l' x (by omega) hx
      omega

lemma Sound.poll (hok : w.Undisturbed (.poll l)) : (w.poll l).Sound := by
  unfold EventWorld.poll
  split
  · exact h
  · rename_i x hx
    have hok := hok x hx
    split
    · rename_i hstage
      rw [if_neg (by simp [hstage])] at hok
      exact h.load hx (.inl hstage) hok
    · rename_i hstage
      rw [if_neg (by simp [hstage])] at hok
      exact h.load hx (.inr hstage) hok
    · rename_i hstage
      rw [if_pos hstage] at hok
      exact h.push hx hstage hok
    · exact h
    · exact h

lemma Sound.notify (count : Nat) : (w.notify count).Sound := by
  refine ⟨h.nodup, h.queued, h.listeners, fun call hcall => ?_⟩
  rcases mem_append.1 hcall with hcall | hcall
  · exact (h.calls call hcall).grow [] (.of_eq rfl rfl) (by simp [EventWorld.notify]) (fun l hl => .inr hl) nofun
  · obtain rfl := mem_singleton.1 hcall
    have htargets : ∀ l, l ∈ (range w.listeners.length).filter w.isParked ↔ l ∈ w.event.waiters := by
      intro l
      rw [mem_filter, h.queued, mem_range, and_iff_right_iff_imp]
      intro hparked
      obtain ⟨x, hx, -⟩ := isParked_iff.1 hparked
      exact (List.getElem?_eq_some_iff.1 hx).1
    refine ⟨Nat.le_refl _, fun t ht => .inr ((htargets t).1 ht), ?_, .inl (Nat.zero_le _), fun _ => rfl,
      ?_, ?_, ?_, ?_, ?_⟩
    · exact pairwise_of_forall_mem_list fun a ha _ _ _ => (htargets a).2 ha
    · intro left hleft
      split at hleft <;> cases hleft
    · intro hreturned
      split at hreturned
      · rename_i hzero
        exact .inl (Nat.le_of_eq hzero)
      · cases hreturned
    -- it has not begun, unless it is a notification of nobody
    all_goals
      intro hcount
      have hzero : count ≠ 0 := by
        rintro rfl
        cases hcount
      simp [hzero]

end

/-- `fetch_add`. Every listener there is has seen an earlier epoch now. -/
lemma Sound.add (h : w.Sound) (hcall : call ∈ w.calls)
    (hstage : call.stage = .adding) (hlength : w.event.waiters.length ≤ usizeMax) (hw' : w' = { w with
      event.epoch := w.event.epoch + 1
      calls := w.calls.set c { call with stage := .popping call.count } }) : w'.Sound := by
  subst hw'
  refine ⟨h.nodup, h.queued, ?_, forall_set (fun call _ hsound => ?_) ?_ h.calls⟩
  · intro l x hx
    have hx' := h.listeners l x hx
    exact ⟨Nat.le_succ_of_le hx'.observed_le, fun hcalled => Nat.lt_succ_of_lt (hx'.called_lt hcalled),
      hx'.fresh, hx'.parked⟩
  · exact hsound.grow [] ⟨fun _ x hx => ⟨x, hx, rfl, id⟩, Nat.le_refl _, Nat.le_succ _⟩
      (by simp) (fun l hl => .inr hl) nofun
  · have hsound := h.calls call hcall
    refine ⟨hsound.known_le, hsound.targets, hsound.first, hsound.woken, nofun, ?_, nofun, ?_, ?_, nofun⟩
    · rintro left ⟨⟩
      show call.wakeCount + call.count = call.count
      rw [hsound.unstarted hstage, Nat.zero_add]
    · intro _ _ l x _ hx
      exact Nat.lt_succ_of_le (h.listeners l x hx).observed_le
    · rintro hcount left ⟨⟩ l hl
      rw [drop_eq_nil_of_le (by rw [hcount]; exact hlength)] at hl
      cases hl

/-- The loop ends: the rounds are used up, or the queue is empty. -/
lemma Sound.return (h : w.Sound) (hcall : call ∈ w.calls)
    (hstage : call.stage = .popping left) (hend : left = 0 ∨ w.event.waiters = []) :
    Sound { w with calls := w.calls.set c { call with stage := .returned } } := by
  refine ⟨h.nodup, h.queued, h.listeners, forall_set (fun call _ hsound => ?_) ?_ h.calls⟩
  · exact hsound.grow [] (.of_eq rfl rfl) (by simp) (fun l hl => .inr hl) nofun
  · have hsound := h.calls call hcall
    refine ⟨hsound.known_le, hsound.targets, hsound.first, hsound.woken, nofun, nofun, fun _ => ?_,
      fun hcount _ => hsound.outdated hcount (by simp [hstage]), nofun, fun hcount _ l hl => ?_⟩
    · rcases hend with rfl | hempty
      · exact .inl (Nat.le_of_eq (hsound.rounds 0 hstage).symm)
      · refine .inr fun t ht => (hsound.targets t ht).resolve_right fun hqueued => ?_
        rw [hempty] at hqueued
        cases hqueued
    · rcases hend with rfl | hempty
      · exact hsound.within hcount 0 hstage l hl
      · rw [show w.event.waiters = [] from hempty] at hl
        cases hl

lemma isCalled_wake (hlisteners : w'.listeners = w.wake l) :
    w'.isCalled l' = (w.isCalled l' || (l = l' && (w.listeners[l']?).isSome)) := by
  unfold isCalled
  rw [hlisteners, wake, getElem?_modify]
  cases w.listeners[l']? with
  | none => simp
  | some x => by_cases hl : l = l' <;> simp [hl]

lemma isParked_wake (hlisteners : w'.listeners = w.wake l) :
    w'.isParked l' = (w.isParked l' && l ≠ l') := by
  unfold isParked
  rw [hlisteners, wake, getElem?_modify]
  cases w.listeners[l']? with
  | none => simp
  | some x => by_cases hl : l = l' <;> simp [hl, Listener.isParked]

lemma countP_lt_countP {p q : Nat → Bool} {xs : List Nat} {x : Nat}
    (hpq : ∀ y ∈ xs, p y = true → q y = true) (hx : x ∈ xs) (hp : p x = false) (hq : q x = true) :
    xs.countP p < xs.countP q := by
  obtain ⟨before, after, rfl⟩ := append_of_mem hx
  have hbefore : before.countP p ≤ before.countP q :=
    countP_mono_left fun y hy => hpq y (mem_append_left _ hy)
  have hafter : after.countP p ≤ after.countP q :=
    countP_mono_left fun y hy => hpq y (mem_append_right _ (mem_cons_of_mem _ hy))
  rw [countP_append, countP_append, countP_cons_of_neg (by simp [hp]), countP_cons_of_pos hq]
  omega

lemma Grows.wake (hlisteners : w'.listeners = w.wake l) (hepoch : w.event.epoch ≤ w'.event.epoch) :
    Grows w w' := by
  refine ⟨fun l' y hy => ?_, by rw [hlisteners]; simp [EventWorld.wake], hepoch⟩
  rw [hlisteners, EventWorld.wake, getElem?_modify, hy]
  by_cases hl : l = l'
  · exact ⟨_, rfl, by simp [hl], by simp [hl]⟩
  · exact ⟨_, rfl, by simp [hl], by simp [hl]⟩

section

variable {rest : List Nat} (h : w.Sound) (hwaiters : w.event.waiters = l :: rest)
include h hwaiters

lemma Sound.front_parked : ∃ x, w.listeners[l]? = some x ∧ x.stage = .parked ∧ x.called = false :=
  isParked_iff.1 ((h.queued l).1 (by rw [hwaiters]; exact mem_cons_self))

variable (hlisteners : w'.listeners = w.wake l)
include hlisteners

/-- The waker at the front is not in the queue any more, and nobody else leaves it. -/
lemma Sound.pop_queued (l' : Nat) : l' ∈ rest ↔ w'.isParked l' = true := by
  have hnodup := h.nodup
  rw [hwaiters, nodup_cons] at hnodup
  rw [isParked_wake hlisteners, and_eq_true, ← h.queued, hwaiters, mem_cons]
  simp only [decide_eq_true_eq]
  constructor
  · intro hl'
    exact ⟨.inr hl', fun heq => hnodup.1 (heq ▸ hl')⟩
  · rintro ⟨hor, hne⟩
    exact hor.resolve_left fun heq => hne heq.symm

lemma Sound.pop_listener (hok : ∀ x ∈ w.listeners[l]?, x.observed ≠ w.event.epoch)
    (hy : w'.listeners[l']? = some y) : ListenerSound w.event.epoch y := by
  obtain ⟨x, hx, hparked, -⟩ := h.front_parked hwaiters
  rw [hlisteners, wake, getElem?_modify] at hy
  obtain ⟨z, hz, rfl⟩ := map_eq_some_iff.1 hy
  have hsound := h.listeners l' z hz
  split
  · rename_i hl
    subst hl
    obtain rfl := mem_unique hz hx
    refine ⟨hsound.observed_le, fun _ => Nat.lt_of_le_of_ne hsound.observed_le (hok z hz), ?_, hsound.parked⟩
    rintro (hnew | hnew) <;> · rw [show z.stage = _ from hnew] at hparked; cases hparked
  · exact hsound

/-- The waker at the front is that of a target, or the call has no targets left. -/
lemma Sound.pop_woken (hgrows : Grows w w') (hsound : w.NotifySound call) :
    call.wakeCount + 1 ≤ call.targets.countP w'.isCalled ∨ ∀ t ∈ call.targets, w'.isCalled t = true := by
  obtain ⟨x, hx, -, hcalled⟩ := h.front_parked hwaiters
  have hnow : w'.isCalled l = true := by
    rw [isCalled_wake hlisteners, hx]
    simp
  by_cases htarget : l ∈ call.targets
  · have hbefore : w.isCalled l = false := by
      rw [isCalled, hx]
      exact hcalled
    refine hsound.woken.imp (fun hwoken => ?_) fun hall t ht => hgrows.isCalled (hall t ht)
    exact Nat.lt_of_le_of_lt hwoken (countP_lt_countP (fun t _ => hgrows.isCalled) htarget hbefore hnow)
  · -- all targets are in front of the others, so none of them is queued
    refine .inr fun t ht => (hsound.targets t ht).elim hgrows.isCalled fun hqueued => ?_
    have hfirst := hsound.first
    rw [hwaiters] at hqueued hfirst
    rcases mem_cons.1 hqueued with rfl | hrest
    · exact hnow
    · exact absurd ((pairwise_cons.1 hfirst).1 t hrest ht) htarget

end

/-- A round of the loop. -/
lemma Sound.pop {rest : List Nat} (h : w.Sound)
    (hcall : call ∈ w.calls) (hstage : call.stage = .popping (left + 1))
    (hwaiters : w.event.waiters = l :: rest) (hok : ∀ x ∈ w.listeners[l]?, x.observed ≠ w.event.epoch)
    (hw' : w' = {
      event := { w.event with waiters := rest }
      listeners := w.wake l
      calls := w.calls.set c { call with stage := .popping left, wakeCount := call.wakeCount + 1 } }) :
    w'.Sound := by
  have hlisteners : w'.listeners = w.wake l := by rw [hw']
  have hevent : w'.event = { w.event with waiters := rest } := by rw [hw']
  have hnodup := h.nodup
  rw [hwaiters, nodup_cons] at hnodup
  have hgrows : Grows w w' := .wake hlisteners (Nat.le_of_eq (by rw [hevent]))
  have hsub : w'.event.waiters.Sublist (w.event.waiters ++ []) := by
    rw [hevent, hwaiters, append_nil]
    exact sublist_cons_self l rest
  have hleft : ∀ l' ∈ w.event.waiters, w'.isCalled l' = true ∨ l' ∈ w'.event.waiters := by
    obtain ⟨x, hx, -⟩ := h.front_parked hwaiters
    intro l' hl'
    rw [hwaiters] at hl'
    rcases mem_cons.1 hl' with rfl | hl'
    · exact .inl (by rw [isCalled_wake hlisteners, hx]; simp)
    · exact .inr (by rw [hevent]; exact hl')
  have hmono : ∀ call ∈ w.calls, w'.NotifySound call :=
    fun call hcall => (h.calls call hcall).grow [] hgrows hsub hleft nofun
  refine ⟨by rw [hevent]; exact hnodup.2, by rw [hevent]; exact h.pop_queued hwaiters hlisteners,
    by rw [hevent]; exact fun _ _ => h.pop_listener hwaiters hlisteners hok, ?_⟩
  rw [hw']
  refine forall_set (fun _ _ => id) (hw' ▸ ?_) (hw' ▸ hmono)
  have hold := h.calls call hcall
  have hsound := hmono call hcall
  refine ⟨hsound.known_le, hsound.targets, hsound.first, h.pop_woken hwaiters hlisteners hgrows hold, nofun,
    ?_, nofun, fun hcount _ => hsound.outdated hcount (by simp [hstage]), ?_, nofun⟩
  · rintro left' ⟨⟩
    have := hold.rounds (left + 1) hstage
    show call.wakeCount + 1 + left = call.count
    omega
  · rintro hcount left' ⟨⟩ l' hl'
    rw [hevent] at hl'
    exact hold.within hcount (left + 1) hstage l' (by rw [hwaiters]; exact hl')

lemma Sound.advance (h : w.Sound) (hok : w.Undisturbed (.advance c)) : (w.advance c).Sound := by
  unfold EventWorld.advance
  split
  · exact h
  · rename_i call hcall
    have hok := hok call hcall
    have hmem := mem_of_getElem? hcall
    split
    · rename_i hstage
      rw [if_pos hstage] at hok
      exact h.add hmem hstage hok.2 (by rw [Nat.mod_eq_of_lt hok.1])
    · rename_i hstage
      exact h.return hmem hstage (.inl rfl)
    · rename_i left hstage
      rw [if_neg (by simp [hstage])] at hok
      split
      · rename_i hempty
        exact h.return hmem hstage (.inr hempty)
      · rename_i l rest hwaiters
        exact h.pop hmem hstage hwaiters (fun x hx => hok l (by rw [hwaiters]; rfl) x hx) rfl
    · exact h

lemma Sound.step {op : EventOp} (h : w.Sound) (hok : w.Undisturbed op) : (w.step op).Sound := by
  cases op with
  | listen => exact h.listen
  | poll l => exact h.poll hok
  | drop l => exact h.drop hok
  | notify count => exact h.notify count
  | advance c => exact h.advance hok

lemma sound_new : new.Sound :=
  ⟨nodup_nil, by simp [new, isParked], by simp [new], by simp [new]⟩

/-- In every undisturbed run, every notification that has returned has done what it is for. -/
theorem notification_law_of_undisturbed (ops : List EventOp) (hops : Meets step Undisturbed new ops) :
    (new.run ops).NotifyAllReaches ∧ (new.run ops).NotifyWakes :=
  have hsound := run_invariant (fun _ _ h hok => Sound.step h hok) sound_new hops
  ⟨hsound.notifyAllReaches, hsound.notifyWakes⟩

/-- Two listeners park; one is notified, then all of them. -/
def twoParked : List EventOp :=
  [.listen, .poll 0, .poll 0, .listen, .poll 1, .poll 1, .notify 1, .advance 0, .advance 0, .advance 0,
    .poll 0, .drop 0, .notify usizeMax, .advance 1, .advance 1, .advance 1]

theorem notification_law_twoParked :
    Meets step Undisturbed new twoParked ∧ (new.run twoParked).NotifyAllReaches ∧
      (new.run twoParked).NotifyWakes :=
  ⟨by decide +kernel, notification_law_of_undisturbed twoParked (by decide +kernel)⟩

/-- `notify_all` comes between the load of the epoch and the push of the waker; and a waker of a listener
that has timed out takes the place of the one that is parked. -/
theorem notification_law_fails :
    ¬ (new.run [.listen, .poll 0, .notify usizeMax, .advance 0, .advance 0, .poll 0]).NotifyAllReaches ∧
    ¬ (new.run [.listen, .poll 0, .poll 0, .drop 0, .listen, .poll 1, .poll 1,
      .notify 1, .advance 0, .advance 0, .advance 0]).NotifyWakes := by
  decide +kernel

end EventWorld

end Akarin.Sync
