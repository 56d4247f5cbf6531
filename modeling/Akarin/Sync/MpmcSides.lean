/-
# Akarin.Sync.MpmcSides -- one side of the channel

Each side is a gate in the sense of `Akarin.Lib.Gate`: the receives come for the values in the queue, and
the sends that have pushed one owe a notification; the sends come for the free places, and the receives
that have popped a value owe one. Both sides have handles, a counter of them, and an event on which their
calls wait, so a side is described once (`Half`), for calls of any kind (`Caller`). `Half.Sound` says that
no unit the calls come for is forgotten, what every call has seen, that the end of the channel is announced
to whoever waits for it, and what the counter counts. This module says what each kind of change does to a
side; `Akarin.Sync.MpmcLaw` puts the sides together.
-/
import Akarin.Sync.Mpmc

namespace Akarin.Sync

open List
open Lib (weigh weigh_set weigh_resume_same forall_set map_resume mem_resume resume Place Gate)

namespace Channel

/-! ## Handles -/

/-- The counter counts the handles of a side, and who stores and notifies has been the last one. -/
structure Counted (count : Nat) (handles : List HandleStage) : Prop where
  count_eq : count = handles.count .live
  closing : ∀ stage, stage = .storing ∨ stage = .notifying → stage ∈ handles → count = 0

namespace Counted

variable {count handle : Nat} {handles : List HandleStage} {old new : HandleStage}

lemma pos (h : Counted count handles) (hlive : handles[handle]? = some .live) : 0 < count := by
  rw [h.count_eq]
  exact count_pos_iff.2 (mem_of_getElem? hlive)

lemma not_closing (h : Counted count handles) (hpos : 0 < count)
    (hold : old = .storing ∨ old = .notifying) : old ∉ handles := fun hmem =>
  absurd (h.closing old hold hmem) (Nat.ne_of_gt hpos)

lemma count_live_set (new : HandleStage) (hold : handles[handle]? = some old) (hnew : new ≠ .live) :
    (handles.set handle new).count .live + (if old = .live then 1 else 0) = handles.count .live := by
  obtain ⟨before, after, heq, hset⟩ := Akarin.Lib.set_split hold
  rw [hset, heq]
  simp only [count_append, count_cons, beq_iff_eq, if_neg hnew]
  omega

section

variable (h : Counted count handles)
include h

/-- The handle is cloned. -/
lemma clone (hlive : handles[handle]? = some .live) : Counted (count + 1) (handles ++ [.live]) where
  count_eq := by simp [h.count_eq]
  closing stage hstage hmem := by
    rcases mem_append.1 hmem with hold | hnew
    · exact absurd hold (h.not_closing (h.pos hlive) hstage)
    · rcases hstage with rfl | rfl <;> simp at hnew

/-- The drop begins: the last handle goes on to store. -/
lemma leave (hlive : handles[handle]? = some .live) :
    Counted (count - 1) (handles.set handle (if count = 1 then .storing else .dropped)) where
  count_eq := by
    have hset := count_live_set (if count = 1 then .storing else .dropped) hlive (by
      split <;> simp)
    have heq := h.count_eq
    rw [if_pos rfl] at hset
    omega
  closing stage hstage hmem := by
    by_contra hmore
    rw [if_neg (by omega)] at hmem
    rcases mem_or_eq_of_mem_set hmem with hold | rfl
    · exact h.not_closing (h.pos hlive) hstage hold
    · rcases hstage with heq | heq <;> cases heq

/-- The drop of the last handle goes on. -/
lemma proceed (hold : handles[handle]? = some old)
    (hclosing : old = .storing ∨ old = .notifying) (hnew : new ≠ .live) :
    Counted count (handles.set handle new) where
  count_eq := by
    have hset := count_live_set new hold hnew
    have heq := h.count_eq
    rw [if_neg (by rcases hclosing with rfl | rfl <;> simp)] at hset
    omega
  closing _ _ _ := h.closing old hclosing (mem_of_getElem? hold)

end

/-- The other handles stay as they are. -/
lemma live_set {other : Nat} (hother : handles[other]? = some .live)
    (hne : handles[handle]? = some .live → other ≠ handle) :
    (handles.set handle new)[other]? = some .live := by
  by_cases heq : handle = other
  · subst heq
    exact absurd rfl (hne hother)
  · rw [getElem?_set_ne heq]
    exact hother

end Counted

/-! ## Sides -/

/-- What a side has to know of its calls: where they are, what they owe the other side, which handle they
borrow, and where they go on when they are woken. -/
class Caller (κ : Type) where
  place : κ → Place
  owed : κ → Nat
  handle : κ → Nat
  isActive : κ → Bool
  retry : κ → κ
  place_retry : ∀ call, place (retry call) = .coming
  handle_retry : ∀ call, handle (retry call) = handle call
  of_parked : ∀ call, place call = .parked → isActive call ∧ owed call = owed (retry call)
  of_resting : ∀ call, (isActive call → place call = .parked) →
    owed call = 0 ∧ ∀ epoch, (place call).weight epoch = 0

open Caller

/-- One side: the event on which its calls wait, the calls, and the handles they are made on. -/
structure Half (κ : Type) where
  signal : Signal
  calls : List κ
  count : Nat
  handles : List HandleStage

namespace Half

variable {κ : Type} [Caller κ]

def gate (half : Half κ) : Gate :=
  ⟨half.signal.epoch, half.signal.parked, half.calls.map place⟩

/-- The notifications that the calls owe the other side. -/
def owed (half : Half κ) : Nat := weigh Caller.owed half.calls

def set (half : Half κ) (i : Nat) (call : κ) : Half κ := { half with calls := half.calls.set i call }

def notify (half : Half κ) (n : Nat) : Half κ :=
  { half with
    signal := half.signal.notify n
    calls := resume (half.signal.parked.take n) retry half.calls }

/-- `units` are there for the calls to take and `pending` notifications of them are still to be made.
Every call `Fits` what is there, and whoever awaits the event is `Told` of the end of the channel. -/
structure Sound (half : Half κ) (units pending : Nat) (Fits : κ → Prop) (Told : Prop) : Prop where
  covered : half.gate.Covered units pending
  fits : ∀ call ∈ half.calls, Fits call
  told : ∀ call ∈ half.calls, (place call).Awaits half.signal.epoch → Told
  counted : Counted half.count half.handles
  live : ∀ call ∈ half.calls, isActive call → half.handles[handle call]? = some .live

variable {half : Half κ} {units units' pending pending' n i : Nat} {Fits Fits' : κ → Prop}
  {Told Told' : Prop} {old new : κ} {stage stage' : HandleStage}

lemma owed_set (half : Half κ) (hold : half.calls[i]? = some old) (new : κ) :
    (half.set i new).owed + Caller.owed old = half.owed + Caller.owed new :=
  weigh_set Caller.owed hold new

lemma owed_eq_zero (hrest : ∀ call ∈ half.calls, isActive call → place call = .parked) : half.owed = 0 :=
  Akarin.Lib.weigh_eq_zero fun call hcall => (Caller.of_resting call (hrest call hcall)).1

lemma gate_notify (n : Nat) : (half.notify n).gate = half.gate.notify n := by
  simp only [Gate.notify, gate, notify, Signal.notify]
  congr 1
  exact map_resume place_retry

namespace Sound

section

variable (h : half.Sound units pending Fits Told)
include h

/-- Who is on the list of the event is a parked call. -/
lemma parked_call (hi : i ∈ half.signal.parked) :
    ∃ call, half.calls[i]? = some call ∧ place call = .parked := by
  have hplace := (h.covered.mem_parked i).1 hi
  simp only [gate, getElem?_map] at hplace
  exact Option.map_eq_some_iff.1 hplace

/-- A woken call had been parked. -/
lemma parked_of_take (hi : i ∈ half.signal.parked.take n) (hold : half.calls[i]? = some old) :
    place old = .parked := by
  obtain ⟨call, hcall, hplace⟩ := h.parked_call (mem_of_mem_take hi)
  obtain rfl := Option.mem_unique hold hcall
  exact hplace

/-- Units come with their notifications, go, or are used up; what the calls have seen stays true. -/
lemma weaken (hle : units' + pending ≤ units + pending' ∨ units' = 0)
    (hfits : ∀ call ∈ half.calls, Fits call → Fits' call) (htold : Told → Told') :
    half.Sound units' pending' Fits' Told' where
  covered := h.covered.supply hle
  fits call hcall := hfits call hcall (h.fits call hcall)
  told call hcall hawaits := htold (h.told call hcall hawaits)
  __ := h

/-- A call moves on, and may take a unit with it. -/
lemma set (hold : half.calls[i]? = some old) (hactive : isActive old) (hhandle : handle new = handle old)
    (hfrom : place old ≠ .parked) (hto : place new ≠ .parked)
    (hseen : ∀ seen, place new = .watching seen → seen = half.signal.epoch ∧ units' = 0)
    (hle : units' ≤ units) (hcome : units' + (place old).weight half.signal.epoch ≤
      units + (place new).weight half.signal.epoch ∨ units' = 0)
    (hfits : ∀ call ∈ half.calls, Fits call → Fits' call) (hnew : Fits' new)
    (htold : (place new).Awaits half.signal.epoch → Told) (hpending : pending' = pending) :
    (half.set i new).Sound units' pending' Fits' Told where
  covered := by
    rw [gate, Half.set, map_set, hpending]
    have hplace : half.gate.calls[i]? = some (place old) := by simp [gate, hold]
    refine h.covered.move hplace hfrom hto (fun seen heq => ?_) (fun heq => ?_) (by omega) ?_
    · exact Nat.le_of_eq (hseen seen heq).1
    · rw [(hseen _ heq).2]
      exact Nat.zero_le _
    · show _ + _ + (place old).weight half.signal.epoch ≤ _ + _ + (place new).weight half.signal.epoch ∨ _
      omega
  fits := forall_set hfits hnew h.fits
  told := forall_set (fun _ _ => id) htold h.told
  counted := h.counted
  live := forall_set (fun _ _ => id) (fun _ => hhandle ▸ h.live old (mem_of_getElem? hold) hactive) h.live

/-- A call parks, the epoch being the one it has observed. -/
lemma park (hold : half.calls[i]? = some old) (hactive : isActive old) (hhandle : handle new = handle old)
    (hfrom : place old = .watching half.signal.epoch) (hto : place new = .parked) (hnew : Fits new) :
    Sound { half.set i new with signal := half.signal.park i } units pending Fits Told where
  covered := by
    have hplace : half.gate.calls[i]? = some (.watching half.gate.epoch) := by
      simp [gate, hold, hfrom]
    have hpark := h.covered.park hplace
    simp only [Gate.park, gate] at hpark
    simp only [gate, Half.set, Signal.park, map_set, hto]
    exact hpark
  fits := forall_set (fun _ _ => id) hnew h.fits
  told := forall_set (fun _ _ => id) (fun _ => h.told old (mem_of_getElem? hold) (.inr hfrom)) h.told
  counted := h.counted
  live := forall_set (fun _ _ => id) (fun _ => hhandle ▸ h.live old (mem_of_getElem? hold) hactive) h.live

/-- A new call. -/
lemma enter (hplace : place new = .coming)
    (hnew : Fits new) (hlive : half.handles[handle new]? = some .live) :
    Sound { half with calls := half.calls ++ [new] } units pending Fits Told where
  covered := by
    have henter := h.covered.enter (b := .coming) (.inl rfl)
    simp only [gate, map_append, map_cons, map_nil, hplace]
    exact henter
  fits := forall_mem_append.2 ⟨h.fits, forall_mem_singleton.2 hnew⟩
  told := forall_mem_append.2 ⟨h.told, forall_mem_singleton.2 fun hawaits => by
    rw [hplace] at hawaits
    rcases hawaits with heq | heq <;> cases heq⟩
  counted := h.counted
  live := forall_mem_append.2 ⟨h.live, forall_mem_singleton.2 fun _ => hlive⟩

end

/-- Up to `n` notifications are made. Who still awaits the event is parked behind the calls that were
woken. -/
lemma notify {debt : Nat} (n : Nat) (h : half.Sound units pending Fits Told)
    (hpending : pending' + debt = pending) (hn : debt ≤ n) (hretry : ∀ call, Fits (retry call))
    (htold : n < half.signal.parked.length → Told → Told') :
    (half.notify n).Sound units pending' Fits Told' where
  covered := by
    rw [gate_notify]
    exact Gate.Covered.notify (hpending ▸ h.covered) hn
  fits call hcall := by
    rcases mem_resume hcall with hold | ⟨_, _, _, _, rfl⟩
    · exact h.fits call hold
    · exact hretry _
  told call hcall hawaits := by
    rcases hawaits with hparked | hwatching
    · obtain ⟨j, hj⟩ := mem_iff_getElem?.1 hcall
      have hmem : j ∈ half.signal.parked.drop n := by
        refine ((Gate.Covered.notify (hpending ▸ h.covered) hn).mem_parked j).2 ?_
        rw [← gate_notify]
        simp [gate, hj, hparked]
      have hlong : n < half.signal.parked.length := by
        by_contra hle
        rw [drop_eq_nil_of_le (Nat.not_lt.1 hle)] at hmem
        cases hmem
      obtain ⟨old, hold, hplace⟩ := h.parked_call (mem_of_mem_drop hmem)
      exact htold hlong (h.told old (mem_of_getElem? hold) (.inl hplace))
    · rcases mem_resume hcall with hold | ⟨_, _, _, _, rfl⟩
      · have hle := h.covered.seen_le _ (mem_map.2 ⟨call, hold, hwatching⟩)
        simp only [Half.notify, Signal.notify, gate] at hle
        omega
      · rw [place_retry] at hwatching
        cases hwatching
  counted := h.counted
  live call hcall hactive := by
    rcases mem_resume hcall with hold | ⟨j, hj, old, hold, rfl⟩
    · exact h.live call hold hactive
    · rw [handle_retry]
      have hparked := h.parked_of_take hj hold
      exact h.live old (mem_of_getElem? hold) (of_parked old hparked).1

variable (h : half.Sound units pending Fits Told)
include h

/-- A parked call owes nothing, and neither does one that has been woken. -/
lemma owed_notify (n : Nat) : (half.notify n).owed = half.owed := by
  apply weigh_resume_same
  intro j hj call hcall
  exact (Caller.of_parked call (h.parked_of_take hj hcall)).2.symm

/-- A handle is cloned. -/
lemma clone (hlive : half.handles[i]? = some .live) :
    Sound { half with count := half.count + 1, handles := half.handles ++ [.live] } units pending Fits
      Told where
  __ := h
  counted := h.counted.clone hlive
  live call hcall hactive := by
    have hold := h.live call hcall hactive
    show (half.handles ++ [.live])[handle call]? = _
    rw [getElem?_append_left (List.getElem?_eq_some_iff.1 hold).1]
    exact hold

/-- The first step of the drop of a handle that no call has borrowed. -/
lemma leave (hlive : half.handles[i]? = some .live)
    (hfree : ¬ half.calls.any fun call => isActive call && handle call == i) : Sound { half with
      count := half.count - 1
      handles := half.handles.set i (if half.count = 1 then .storing else .dropped) } units pending Fits
      Told where
  __ := h
  counted := h.counted.leave hlive
  live call hcall hactive := Counted.live_set (h.live call hcall hactive) fun _ heq =>
    hfree (any_eq_true.2 ⟨call, hcall, by simp [hactive, heq]⟩)

/-- The drop of the last handle goes on. -/
lemma proceed (hold : half.handles[i]? = some stage)
    (hclosing : stage = .storing ∨ stage = .notifying) (hnew : stage' ≠ .live) :
    Sound { half with handles := half.handles.set i stage' } units pending Fits Told where
  __ := h
  counted := h.counted.proceed hold hclosing hnew
  live call hcall hactive := Counted.live_set (h.live call hcall hactive) fun hlive => by
    rw [hold] at hlive
    rcases hclosing with rfl | rfl <;> cases hlive

/-- A side whose last handle is gone has no call under way. -/
lemma resting (hcount : half.count = 0) : ∀ call ∈ half.calls, isActive call = false := by
  intro call hcall
  by_contra hactive
  have hpos := h.counted.pos (h.live call hcall (Bool.not_eq_false _ ▸ hactive))
  omega

/-- If no call is on its way and nothing is owed, whoever is parked has nothing to do but to wait for the
end. -/
lemma asleep (howed : pending = 0) (hrest : ∀ call ∈ half.calls, isActive call → place call = .parked)
    (hcall : old ∈ half.calls) (hplace : place old = .parked) : units = 0 ∧ Told := by
  have hcomers : half.gate.comers = 0 := by
    apply Akarin.Lib.weigh_eq_zero
    intro place hmem
    obtain ⟨other, hother, rfl⟩ := mem_map.1 hmem
    exact (of_resting other (hrest other hother)).2 _
  obtain ⟨i, hi⟩ := mem_iff_getElem?.1 hcall
  have hmem : i ∈ half.gate.parked := (h.covered.mem_parked i).2 (by simp [gate, hi, hplace])
  have hle := h.covered.parked_covered (ne_nil_of_mem hmem)
  exact ⟨by omega, h.told old hcall (.inl hplace)⟩

end Sound

/-- Two sides, each of which is owed what the other's calls owe. -/
structure Both {κ' : Type} [Caller κ'] (a : Half κ) (b : Half κ') (u v : Nat) (F : κ → Prop) (G : κ' → Prop)
    (S T : Prop) : Prop where
  left : a.Sound u b.owed F S
  right : b.Sound v a.owed G T

namespace Both

variable {κ' : Type} [Caller κ'] {a : Half κ} {b : Half κ'} {u u' v v' : Nat} {F F' : κ → Prop}
  {G G' : κ' → Prop} {S T T' : Prop}

lemma symm (h : Both a b u v F G S T) : Both b a v u G F T S := ⟨h.right, h.left⟩

section Call

variable (h : Both a b u v F G S T) (hold : a.calls[i]? = some old) (hactive : isActive old)
  (hhandle : handle new = handle old)
include h hold hactive hhandle

/-- A call moves on; it may take a unit with it and leave one for the other side. -/
lemma set (hfrom : Caller.place old ≠ .parked) (hto : Caller.place new ≠ .parked)
    (hseen : ∀ seen, Caller.place new = .watching seen → seen = a.signal.epoch ∧ u' = 0) (hle : u' ≤ u)
    (hcome : u' + (Caller.place old).weight a.signal.epoch ≤ u + (Caller.place new).weight a.signal.epoch ∨ u' = 0)
    (hfits : ∀ call ∈ a.calls, F call → F' call) (hnew : F' new)
    (htold : (Caller.place new).Awaits a.signal.epoch → S)
    (hleft : v' + Caller.owed old ≤ v + Caller.owed new) (hfits' : ∀ call ∈ b.calls, G call → G' call) :
    Both (a.set i new) b u' v' F' G' S T where
  left := h.left.set hold hactive hhandle hfrom hto hseen hle hcome hfits hnew htold rfl
  right := by
    have hset := a.owed_set hold new
    exact h.right.weaken (.inl (by omega)) hfits' id

/-- A call moves on without touching its debts or a unit. -/
lemma move (howed : Caller.owed new = Caller.owed old) (hfrom : Caller.place old ≠ .parked)
    (hto : Caller.place new ≠ .parked)
    (hseen : ∀ seen, Caller.place new = .watching seen → seen = a.signal.epoch ∧ u = 0)
    (hcome : (Caller.place old).weight a.signal.epoch ≤ (Caller.place new).weight a.signal.epoch ∨ u = 0)
    (hnew : F new) (htold : (Caller.place new).Awaits a.signal.epoch → S) :
    Both (a.set i new) b u v F G S T :=
  h.set hold hactive hhandle hfrom hto hseen (Nat.le_refl _) (hcome.imp_left (Nat.add_le_add_left · _))
    (fun _ _ => id) hnew htold (Nat.le_of_eq (by rw [howed])) fun _ _ => id

/-- A call makes the notification it owes. -/
lemma notify (hfrom : Caller.place old = .away) (hto : Caller.place new = .away)
    (howed : Caller.owed new + 1 = Caller.owed old) (hnew : F new) (hretry : ∀ call, G (Caller.retry call)) :
    Both (a.set i new) (b.notify 1) u v F G S T where
  left := by
    refine h.left.set hold hactive hhandle ?_ ?_ ?_ (Nat.le_refl _) (.inl (Nat.add_le_add_left ?_ _))
      (fun _ _ => id) hnew ?_ (h.right.owed_notify 1) <;> simp [hfrom, hto, Place.Awaits]
  right := by
    have hset := a.owed_set hold new
    exact h.right.notify 1 (by omega) (Nat.le_refl _) hretry fun _ => id

lemma park (hfrom : Caller.place old = .watching a.signal.epoch) (hto : Caller.place new = .parked)
    (howed : Caller.owed new = Caller.owed old) (hnew : F new) :
    Both { a.set i new with signal := a.signal.park i } b u v F G S T where
  left := h.left.park hold hactive hhandle hfrom hto hnew
  right := by
    have hset : Half.owed { a.set i new with signal := a.signal.park i } + _ = _ := a.owed_set hold new
    exact h.right.weaken (.inl (by omega)) (fun _ _ => id) id

end Call

lemma enter (h : Both a b u v F G S T) (hplace : Caller.place new = .coming) (hnew : F new)
    (hlive : a.handles[Caller.handle new]? = some .live) :
    Both { a with calls := a.calls ++ [new] } b u v F G S T where
  left := h.left.enter hplace hnew hlive
  right := h.right.weaken (.inl (by simp [owed])) (fun _ _ => id) id

/-- The last handle of a side notifies all calls of the other. -/
lemma announce (h : Both a b u v F G S T) (hold : a.handles[i]? = some .notifying)
    (hfits : ∀ call ∈ b.calls, G call → G' call) (hretry : ∀ call, G' (Caller.retry call)) :
    Both { a with handles := a.handles.set i .dropped } (b.notify b.signal.parked.length) u v F G' S T' where
  left := (h.right.owed_notify _).symm ▸ h.left.proceed hold (.inr rfl) (by simp)
  right := (h.right.weaken (.inl (Nat.le_refl _)) hfits id).notify b.signal.parked.length (Nat.add_zero _)
    (Nat.zero_le _) hretry fun hlt => absurd hlt (Nat.lt_irrefl _)

end Both

end Half

end Channel

end Akarin.Sync
