/-
# Akarin.Sync.MpmcLaw -- the law of the channel

Every step of a call and of the drop of a handle keeps the invariant of both sides, as long as it does not
come between a test and the listener made after it. The law of the channel is read off the invariant; its
first half, that values are received once and in order, holds in every run.
-/
import Akarin.Sync.MpmcSides

namespace Akarin.Sync

open List Bool RecvCall
open Lib (Meets run_invariant mem_set_self Place)

namespace Channel

variable {α : Type}

/-! ## The invariant -/

instance : Caller (RecvCall α) where
  place := RecvCall.place
  owed := RecvCall.owed
  handle := RecvCall.handle
  isActive := RecvCall.isActive
  retry call := { call with stage := .popping }
  place_retry _ := rfl
  handle_retry _ := rfl
  of_parked call h := by simp [RecvCall.isActive, RecvCall.owed, RecvCall.stage_of_parked h]
  of_resting call h := by
    cases hstage : call.stage <;>
      simp_all [RecvCall.owed, RecvCall.place, RecvCall.isActive, Place.weight]

instance : Caller (SendCall α) where
  place := SendCall.place
  owed := SendCall.owed
  handle := SendCall.handle
  isActive := SendCall.isActive
  retry call := { call with stage := .testing }
  place_retry _ := rfl
  handle_retry _ := rfl
  of_parked call h := by simp [SendCall.isActive, SendCall.owed, SendCall.stage_of_parked h]
  of_resting call h := by
    cases hstage : call.stage <;>
      simp_all [SendCall.owed, SendCall.place, SendCall.isActive, Place.weight]

section

variable (c : Channel α)

def recvHalf : Half (RecvCall α) := ⟨c.available, c.recvs, c.receiverCount, c.receivers⟩

def sendHalf : Half (SendCall α) := ⟨c.space, c.sends, c.senderCount, c.senders⟩

/-- How many values the queue still takes. With no receiver left nobody has to be told of it, and a send
does not wait for it if the queue has no bound. -/
def room : Nat :=
  if c.receiverCount = 0 then 0
  else
    match c.capacity with
    | none => 0
    | some capacity => capacity - c.queue.length

def RecvFits (call : RecvCall α) : Prop :=
  (call.hasMissed → c.queue = []) ∧ (call.isListening → c.closed = false)

def SendFits (call : SendCall α) : Prop :=
  (call.isListening → c.isFull = true) ∧ (call.isHeld → c.capacity ≠ none) ∧
    (call.isCommitted → c.receiverCount = 0 → .storing ∈ c.receivers)

end

/-- No value in the queue and no free place in it is forgotten, and neither is the end of the channel,
which its last handle closes. -/
structure Sound (c : Channel α) : Prop where
  both : Half.Both c.sendHalf c.recvHalf c.room c.queue.length c.SendFits c.RecvFits
    (c.receiverCount = 0 → .storing ∈ c.receivers ∨ .notifying ∈ c.receivers)
    (c.closed = true → .notifying ∈ c.senders)
  closed_counts : c.closed = true → c.senderCount = 0 ∨ c.receiverCount = 0
  nothing_left : ∀ queue ∈ c.left, queue = []

lemma new_sound (capacity : Option Nat) : (new capacity : Channel α).Sound where
  both.left := ⟨Akarin.Lib.Gate.Covered.idle 0 _ _, by simp [new, sendHalf], by simp [new, sendHalf],
    ⟨rfl, by simp [new, sendHalf]⟩, by simp [new, sendHalf]⟩
  both.right := ⟨Akarin.Lib.Gate.Covered.idle 0 _ _, by simp [new, recvHalf], by simp [new, recvHalf],
    ⟨rfl, by simp [new, recvHalf]⟩, by simp [new, recvHalf]⟩
  closed_counts := by simp [new]
  nothing_left := by simp [new]

variable {c : Channel α}

attribute [local simp] SendCall.isActive SendCall.owed SendCall.place SendFits SendCall.isListening
  SendCall.isHeld SendCall.isCommitted RecvCall.isActive RecvCall.owed RecvCall.place RecvFits
  RecvCall.hasMissed RecvCall.isListening Caller.place Caller.isActive Caller.owed Caller.handle Place.Awaits
  Place.weight sendHalf recvHalf

lemma Sound.senders (h : c.Sound) : c.sendHalf.Sound c.room c.recvHalf.owed c.SendFits
    (c.receiverCount = 0 → .storing ∈ c.receivers ∨ .notifying ∈ c.receivers) := h.both.left

lemma Sound.receivers (h : c.Sound) : c.recvHalf.Sound c.queue.length c.sendHalf.owed c.RecvFits
    (c.closed = true → .notifying ∈ c.senders) := h.both.right

variable {call : SendCall α}

/-- A channel that is closed while a send is under way has lost its receivers. -/
lemma Sound.receiverCount_of_closed (h : c.Sound) (hclosed : c.closed = true) (hmem : call ∈ c.sends)
    (hactive : call.isActive) : c.receiverCount = 0 := by
  have hpos : 0 < c.senderCount := h.senders.counted.pos (h.senders.live call hmem hactive)
  rcases h.closed_counts hclosed with hzero | hzero
  · omega
  · exact hzero

/-- A channel that is closed while a receive is under way has lost its senders. -/
lemma Sound.senderCount_of_closed (h : c.Sound) (hclosed : c.closed = true) {call : RecvCall α}
    (hmem : call ∈ c.recvs) (hactive : call.isActive) : c.senderCount = 0 := by
  have hpos : 0 < c.receiverCount := h.receivers.counted.pos (h.receivers.live call hmem hactive)
  rcases h.closed_counts hclosed with hzero | hzero
  · exact hzero
  · omega

lemma room_eq_zero_of_isFull (h : c.isFull = true) : c.room = 0 := by
  simp only [isFull] at h
  simp only [room]
  split
  · rfl
  · split
    · rfl
    · simp_all

/-! ### Steps of calls -/

section Calls

variable {i : Nat} {call : SendCall α}

section

variable (h : c.Sound)
include h

lemma Sound.push (hcall : c.sends[i]? = some call)
    (hstage : call.stage = .pushing) (hfull : c.isFull = false)
    (hmissed : ∀ other ∈ c.recvs, other.hasMissed = false) : Sound { c.setSend i call .notifying with
      queue := c.queue ++ [call.value], accepted := c.accepted ++ [call.value] } := by
  -- the send takes the place it came for
  have hroom : room { c with queue := c.queue ++ [call.value] } + 1 ≤ c.room ∨
      room { c with queue := c.queue ++ [call.value] } = 0 := by
    simp only [room, length_append, length_singleton]
    split
    · exact .inr rfl
    · split <;> omega
  have hle : room { c with queue := c.queue ++ [call.value] } ≤ c.room := by omega
  refine { h with both := ?_ }
  refine h.both.set hcall ?_ rfl ?_ ?_ ?_ hle ?_
    (fun _ _ hfits => ⟨fun hlisten => absurd (hfits.1 hlisten) (by simp [hfull]), hfits.2⟩) ?_ ?_ ?_
    fun other hother hfits => ⟨fun hmiss => (nomatch (hmissed other hother).symm.trans hmiss), hfits.2⟩
  case refine_5 =>
    simp only [Caller.place, SendCall.place, hstage]
    exact hroom
  all_goals simp [hstage]

lemma moveSend_sound (hcall : c.sends[i]? = some call)
    (hok : call.stage = .pushing → c.isFull = false → ∀ other ∈ c.recvs, other.hasMissed = false) :
    (c.moveSend i call).Sound := by
  have hmem := mem_of_getElem? hcall
  have hfits := h.senders.fits call hmem
  unfold moveSend
  cases hstage : call.stage with
  | testing =>
    dsimp only
    by_cases hclosed : c.closed = true
    · have hroom : c.room = 0 := by
        have hactive : call.isActive := by rw [SendCall.isActive, hstage]
        rw [room, if_pos (h.receiverCount_of_closed hclosed hmem hactive)]
      rw [if_pos hclosed]
      exact { h with both := by apply h.both.move hcall <;> simp_all }
    · rw [if_neg hclosed]
      exact { h with both := by apply h.both.move hcall <;> simp_all }
  | counting =>
    dsimp only
    by_cases hzero : c.receiverCount = 0
    · have hroom : c.room = 0 := by rw [room, if_pos hzero]
      rw [if_pos hzero]
      exact { h with both := by apply h.both.move hcall <;> simp_all }
    · rw [if_neg hzero]
      exact { h with both := by apply h.both.move hcall <;> simp_all }
  | pushing =>
    dsimp only
    by_cases hfull : c.isFull = true
    · have hroom := room_eq_zero_of_isFull hfull
      have hbound : c.capacity ≠ none := by
        intro hnone
        simp [isFull, hnone] at hfull
      rw [if_pos hfull]
      split <;> exact { h with both := by apply h.both.move hcall <;> simp_all }
    · rw [if_neg hfull]
      exact h.push hcall hstage (eq_false_iff.2 hfull) (hok hstage (eq_false_iff.2 hfull))
  | notifying =>
    exact { h with both := by apply h.both.notify hcall <;> simp [hstage] }
  | listening =>
    have hroom := room_eq_zero_of_isFull (hfits.1 (by rw [SendCall.isListening, hstage]))
    exact { h with both := by apply h.both.move hcall <;> simp_all }
  | watching seen =>
    dsimp only
    by_cases hepoch : c.space.epoch = seen
    · rw [if_pos hepoch]
      exact { h with both := by apply h.both.park hcall <;> simp_all }
    · rw [if_neg hepoch]
      refine { h with both := ?_ }
      apply h.both.move hcall <;> simp_all
      exact .inl (Nat.le_of_eq (if_neg (Ne.symm hepoch)))
  | parked | returned => exact h

lemma Sound.pop {call : RecvCall α} {value : α} {rest : List α}
    (hcall : c.recvs[i]? = some call) (hstage : call.stage = .popping)
    (hqueue : c.queue = value :: rest) (hlistening : ∀ other ∈ c.sends, other.isListening = false) :
    Sound { c.setRecv i call (.notifying value) with
      queue := rest, received := c.received ++ [value] } := by
  have hroom : room { c with queue := rest } ≤ c.room + 1 := by
    simp only [room, hqueue, length_cons]
    split
    · omega
    · split <;> omega
  -- the receive takes the value it came for
  refine { h with both := .symm ?_ }
  refine h.both.symm.set hcall ?_ rfl ?_ ?_ ?_ (show rest.length ≤ c.queue.length by simp [hqueue]) ?_
    (fun _ _ hfits => ⟨fun hmiss => absurd (hfits.1 hmiss) (by simp [hqueue]), hfits.2⟩) ?_ ?_ ?_
    fun other hother hfits => ⟨fun hlisten => (nomatch (hlistening other hother).symm.trans hlisten), hfits.2⟩
  case refine_8 =>
    simp only [Caller.owed, owed, hstage]
    exact hroom
  all_goals simp [hstage, hqueue]

/-- A receive returns `Closed` with the queue empty. -/
lemma Sound.returnClosed (hqueue : c.queue = []) : Sound { c with left := c.left ++ [c.queue] } where
  __ := h
  nothing_left := forall_mem_append.2 ⟨h.nothing_left, forall_mem_singleton.2 hqueue⟩

lemma moveRecv_sound {call : RecvCall α} (hcall : c.recvs[i]? = some call)
    (hok : call.isPopping → c.queue.isEmpty = false → ∀ other ∈ c.sends, other.isListening = false) :
    (c.moveRecv i call).Sound := by
  have hmem := mem_of_getElem? hcall
  have hfits := h.receivers.fits call hmem
  unfold moveRecv
  cases hstage : call.stage with
  | popping =>
    dsimp only
    split
    · exact { h with both := .symm (by apply h.both.symm.move hcall <;> simp_all) }
    · rename_i value rest hqueue
      exact h.pop hcall hstage hqueue (hok (by rw [isPopping, hstage]) (by simp [hqueue]))
  | notifying value =>
    exact { h with both := .symm (by apply h.both.symm.notify hcall <;> simp [hstage]) }
  | testing =>
    have hqueue := hfits.1 (by rw [hasMissed, hstage])
    dsimp only
    have hset : ∀ stage, stage = .counting ∨ stage = .returned (.error .closed) →
        (c.setRecv i call stage).Sound := by
      intro stage hstage'
      rcases hstage' with rfl | rfl <;>
        exact { h with both := .symm (by apply h.both.symm.move hcall <;> simp_all) }
    split
    · exact (hset _ (.inr rfl)).returnClosed hqueue
    · exact hset _ (.inl rfl)
  | counting =>
    have hqueue := hfits.1 (by rw [hasMissed, hstage])
    dsimp only
    have hset : ∀ stage, stage = .listening ∧ c.closed = false ∨
        stage = .returned (.error .closed) ∨ stage = .returned (.error .empty) →
        (c.setRecv i call stage).Sound := by
      intro stage hstage'
      rcases hstage' with ⟨rfl, _⟩ | rfl | rfl <;>
        exact { h with both := .symm (by apply h.both.symm.move hcall <;> simp_all) }
    by_cases hzero : c.senderCount = 0
    · rw [if_pos hzero]
      exact (hset _ (.inr (.inl rfl))).returnClosed hqueue
    · rw [if_neg hzero]
      -- as long as there is a sender and this receive, nobody has closed the channel
      have hopen : c.closed = false := by
        by_contra hclosed
        have hactive : call.isActive := by rw [isActive, hstage]
        exact hzero (h.senderCount_of_closed (not_eq_false _ ▸ hclosed) hmem hactive)
      split
      · exact hset _ (.inr (.inr rfl))
      · exact hset _ (.inl ⟨rfl, hopen⟩)
  | listening =>
    exact { h with both := .symm (by apply h.both.symm.move hcall <;> simp_all) }
  | watching seen =>
    dsimp only
    by_cases hepoch : c.available.epoch = seen
    · rw [if_pos hepoch]
      exact { h with both := .symm (by apply h.both.symm.park hcall <;> simp_all) }
    · rw [if_neg hepoch]
      refine { h with both := .symm ?_ }
      apply h.both.symm.move hcall <;> simp_all
      exact .inl (Nat.le_of_eq (if_neg (Ne.symm hepoch)))
  | parked | returned => exact h

end

end Calls

/-! ### Steps of handles -/

section Handles

variable {handle : Nat}

section

variable (h : c.Sound)
include h

lemma Sound.cloneSender (hlive : c.senders[handle]? = some .live) :
    Sound { c with senderCount := c.senderCount + 1, senders := c.senders ++ [.live] } where
  __ := h
  both.right := h.receivers.weaken (.inl (Nat.le_refl _)) (fun _ _ => id)
    fun htold hclosed => mem_append_left _ (htold hclosed)
  both.left := h.senders.clone hlive
  closed_counts hclosed := by
    have hpos : 0 < c.senderCount := h.senders.counted.pos hlive
    exact .inr ((h.closed_counts hclosed).resolve_left (by omega))

lemma Sound.cloneReceiver (hlive : c.receivers[handle]? = some .live) :
    Sound { c with receiverCount := c.receiverCount + 1, receivers := c.receivers ++ [.live] } := by
  have hpos : 0 < c.receiverCount := h.receivers.counted.pos hlive
  exact
    { both.right := h.receivers.clone hlive
      both.left := by
        have hroom : room { c with receiverCount := c.receiverCount + 1 } = c.room := by
          simp only [room]
          rw [if_neg (Nat.succ_ne_zero _), if_neg (by omega)]
        refine h.senders.weaken (.inl (Nat.add_le_add_right (Nat.le_of_eq hroom) _)) ?_ ?_
        · exact fun _ _ hfits => ⟨hfits.1, hfits.2.1, fun _ hzero => absurd hzero (Nat.succ_ne_zero _)⟩
        · exact fun _ hzero => absurd hzero (Nat.succ_ne_zero _)
      closed_counts := fun hclosed => .inl ((h.closed_counts hclosed).resolve_right (by omega))
      nothing_left := h.nothing_left }

/-- The first step of the drop of a sender. -/
lemma Sound.leaveSender (hlive : c.senders[handle]? = some .live)
    (hfree : ¬ c.sends.any fun call => call.isActive && call.handle == handle) : Sound { c with
      senderCount := c.senderCount - 1
      senders := c.senders.set handle (if c.senderCount = 1 then .storing else .dropped) } where
  both.right := h.receivers.weaken (.inl (Nat.le_refl _)) (fun _ _ => id) fun htold hclosed =>
    absurd (htold hclosed) (h.senders.counted.not_closing (h.senders.counted.pos hlive) (.inr rfl))
  both.left := h.senders.leave hlive hfree
  closed_counts hclosed := (h.closed_counts hclosed).imp_left fun hzero => by rw [hzero]
  __ := h

/-- The last sender stores `closed`. -/
lemma Sound.closeSender (hstoring : c.senders[handle]? = some .storing)
    (hlistening : ∀ call ∈ c.recvs, call.isListening = false) :
    Sound { c with closed := true, senders := c.senders.set handle .notifying } where
  both.right := by
    refine h.receivers.weaken (.inl (Nat.le_refl _)) (fun call hcall hfits => ⟨hfits.1, ?_⟩)
      fun _ _ => mem_set_self hstoring
    rw [hlistening call hcall]
    intro hlisten
    cases hlisten
  both.left := h.senders.proceed hstoring (.inl rfl) (by simp)
  closed_counts _ := .inl (h.senders.counted.closing _ (.inl rfl) (mem_of_getElem? hstoring))
  __ := h

/-- The first step of the drop of a receiver. -/
lemma Sound.leaveReceiver (hlive : c.receivers[handle]? = some .live)
    (hfree : ¬ c.recvs.any fun call => call.isActive && call.handle == handle) : Sound { c with
      receiverCount := c.receiverCount - 1
      receivers := c.receivers.set handle (if c.receiverCount = 1 then .storing else .dropped) } where
  both.right := h.receivers.leave hlive hfree
  both.left := by
    -- if no receiver is left, this was the last one, and it is still to store
    have hlast : c.receiverCount - 1 = 0 → HandleStage.storing ∈
          c.receivers.set handle (if c.receiverCount = 1 then .storing else .dropped) := by
      intro hzero
      have hpos : 0 < c.receiverCount := h.receivers.counted.pos hlive
      rw [if_pos (by omega)]
      exact mem_set_self hlive
    refine h.senders.weaken ?_ (fun _ _ hfits => ⟨hfits.1, hfits.2.1, fun _ hzero => hlast hzero⟩)
      fun _ hzero => .inl (hlast hzero)
    simp only [room]
    split
    · exact .inr rfl
    · rw [if_neg (by omega)]
      exact .inl (Nat.le_refl _)
  closed_counts hclosed := (h.closed_counts hclosed).imp_right fun hzero => by rw [hzero]
  __ := h

/-- The last receiver stores `closed`: no receive is under way any more. -/
lemma Sound.closeReceiver (hstoring : c.receivers[handle]? = some .storing)
    (hcommitted : ∀ call ∈ c.sends, call.isCommitted = false) :
    Sound { c with closed := true, receivers := c.receivers.set handle .notifying } := by
  have hzero : c.receiverCount = 0 :=
    h.receivers.counted.closing _ (.inl rfl) (mem_of_getElem? hstoring)
  have hrest := h.receivers.resting hzero
  exact
    { both.right :=
        { covered := h.receivers.covered
          fits := fun call hcall => by
            have hfits := h.receivers.fits call hcall
            have hactive := hrest call hcall
            cases hstage : call.stage <;> simp_all
          told := fun call hcall hawaits => by
            have hactive := hrest call hcall
            cases hstage : call.stage <;> simp_all
          counted := h.receivers.counted.proceed hstoring (.inl rfl) (by simp)
          live := fun call hcall hactive => by
            rw [hrest call hcall] at hactive
            cases hactive }
      both.left := by
        refine h.senders.weaken (.inl (Nat.le_refl _))
          (fun call hcall hfits => ⟨hfits.1, hfits.2.1, ?_⟩) fun _ _ => .inr (mem_set_self hstoring)
        rw [hcommitted call hcall]
        intro hcommit
        cases hcommit
      closed_counts := fun _ => .inr hzero
      nothing_left := h.nothing_left }

/-- The last receiver notifies all sends. -/
lemma Sound.notifyReceiver_all (hnotifying : c.receivers[handle]? = some .notifying) :
    Sound { c.notifySpace c.space.parked.length with receivers := c.receivers.set handle .dropped } := by
  -- a receiver that is to store is not the one that has notified
  have hstay : .storing ∈ c.receivers → .storing ∈ c.receivers.set handle .dropped := by
    intro hmem
    obtain ⟨j, hj⟩ := mem_iff_getElem?.1 hmem
    refine mem_iff_getElem?.2 ⟨j, ?_⟩
    rw [getElem?_set_ne (by rintro rfl; rw [hnotifying] at hj; cases hj)]
    exact hj
  refine { h with both := .symm (h.both.symm.announce hnotifying (fun _ _ hfits => ?_) fun _ => by simp [Caller.retry]) }
  exact ⟨hfits.1, hfits.2.1, fun hcommit hzero => hstay (hfits.2.2 hcommit hzero)⟩

variable {stage : HandleStage}

lemma moveSender_sound (hstage : c.senders[handle]? = some stage)
    (hok : stage = .storing → ∀ call ∈ c.recvs, call.isListening = false) :
    (c.moveSender handle stage).Sound := by
  cases stage with
  | live =>
    simp only [moveSender]
    split
    · exact h
    · exact h.leaveSender hstage ‹_›
  | storing => exact h.closeSender hstage (hok rfl)
  | notifying => exact { h with both := h.both.announce hstage (fun _ _ => id) fun _ => by simp [Caller.retry] }
  | dropped => exact h

lemma moveReceiver_sound (hstage : c.receivers[handle]? = some stage)
    (hok : stage = .storing → ∀ call ∈ c.sends, call.isCommitted = false) :
    (c.moveReceiver handle stage).Sound := by
  cases stage with
  | live =>
    simp only [moveReceiver]
    split
    · exact h
    · exact h.leaveReceiver hstage ‹_›
  | storing => exact h.closeReceiver hstage (hok rfl)
  | notifying => exact h.notifyReceiver_all hstage
  | dropped => exact h

end

end Handles

/-! ### Runs -/

variable (op : ChannelOp α) (ops : List (ChannelOp α))

lemma step_sound (h : c.Sound) (hok : c.InOrder op) : (c.step op).Sound := by
  revert hok
  fun_cases step c op with
  | case1 => exact fun _ => { h with both := h.both.enter rfl (by simp) ‹_› }
  | case3 => exact fun _ => { h with both := .symm (h.both.symm.enter rfl (by simp) ‹_›) }
  | case6 i call hcall => exact fun hok => moveSend_sound h hcall (hok call hcall)
  | case8 i call hcall => exact fun hok => moveRecv_sound h hcall (hok call hcall)
  | case9 => exact fun _ => h.cloneSender ‹_›
  | case11 => exact fun _ => h.cloneReceiver ‹_›
  | case14 handle stage hstage =>
    exact fun hok => moveSender_sound h hstage fun heq => hok (heq ▸ hstage)
  | case16 handle stage hstage =>
    exact fun hok => moveReceiver_sound h hstage fun heq => hok (heq ▸ hstage)
  | _ => exact fun _ => h

lemma run_sound (capacity : Option Nat) (ops : List (ChannelOp α))
    (hops : Meets step InOrder (new capacity) ops) : ((new capacity).run ops).Sound :=
  run_invariant (fun _ op h hok => step_sound op h hok) (new_sound capacity) hops

/-! ## Values -/

/-- What a step does to the values: nothing, or one is pushed, or one is popped. -/
inductive Carries (c c' : Channel α) : Prop where
  | none (haccepted : c'.accepted = c.accepted := by rfl) (hreceived : c'.received = c.received := by rfl)
      (hqueue : c'.queue = c.queue := by rfl)
  | push (value : α) (haccepted : c'.accepted = c.accepted ++ [value])
      (hreceived : c'.received = c.received) (hqueue : c'.queue = c.queue ++ [value])
  | pop (value : α) (haccepted : c'.accepted = c.accepted)
      (hreceived : c'.received = c.received ++ [value]) (hqueue : c.queue = value :: c'.queue)

lemma moveSend_carries (i : Nat) (call : SendCall α) : c.Carries (c.moveSend i call) := by
  fun_cases moveSend c i call with
  | case4 => exact .push call.value rfl rfl rfl
  | _ => exact .none

lemma moveRecv_carries (i : Nat) (call : RecvCall α) : c.Carries (c.moveRecv i call) := by
  fun_cases moveRecv c i call with
  | case2 _ value rest hqueue => exact .pop value rfl rfl hqueue
  | _ => exact .none

lemma step_carries : c.Carries (c.step op) := by
  fun_cases step c op with
  | case6 i call => exact moveSend_carries i call
  | case8 i call => exact moveRecv_carries i call
  | case14 handle stage => fun_cases moveSender c handle stage <;> exact .none
  | case16 handle stage => fun_cases moveReceiver c handle stage <;> exact .none
  | _ => exact .none

lemma step_fifo (h : c.accepted = c.received ++ c.queue) :
    (c.step op).accepted = (c.step op).received ++ (c.step op).queue := by
  rcases step_carries (c := c) op with ⟨ha, hr, hq⟩ | ⟨value, ha, hr, hq⟩ | ⟨value, ha, hr, hq⟩
  · rw [ha, hr, hq]
    exact h
  · rw [ha, hr, hq, h, append_assoc]
  · rw [ha, hr, h, hq, append_assoc]
    rfl

lemma accepted_prefix_step : c.accepted <+: (c.step op).accepted := by
  rcases step_carries (c := c) op with ⟨ha, _, _⟩ | ⟨value, ha, _, _⟩ | ⟨value, ha, _, _⟩
  · exact ha ▸ prefix_rfl
  · exact ha ▸ prefix_append ..
  · exact ha ▸ prefix_rfl

lemma step_received_le : c.received.length ≤ (c.step op).received.length := by
  rcases step_carries (c := c) op with ⟨_, hr, _⟩ | ⟨value, _, hr, _⟩ | ⟨value, _, hr, _⟩
  · exact Nat.le_of_eq (by rw [hr])
  · exact Nat.le_of_eq (by rw [hr])
  · rw [hr]
    simp

/-- An attempt receives a value if there is one. -/
lemma step_attempt {i : Nat} (h : (c.recvs[i]?).any isPopping = true) :
    c.queue = [] ∨ (c.step (.stepRecv i)).received.length = c.received.length + 1 := by
  obtain ⟨call, hcall, hpopping⟩ := (Option.any_eq_true _ _).1 h
  have hstage : call.stage = .popping := by
    cases hstage : call.stage <;> simp_all [isPopping]
  cases hqueue : c.queue with
  | nil => exact .inl rfl
  | cons value rest =>
    right
    simp only [step, hcall, moveRecv, hstage, hqueue]
    simp

/-- Every attempt receives one more value, until all of the accepted values have been received. -/
lemma run_received_le {n : Nat} (hfifo : c.accepted = c.received ++ c.queue)
    (haccepted : n ≤ c.accepted.length) (hn : n ≤ c.received.length + c.attempts ops) :
    n ≤ (c.run ops).received.length := by
  induction ops generalizing c with
  | nil => exact hn
  | cons op ops ih =>
    refine ih (step_fifo op hfifo) (Nat.le_trans haccepted (accepted_prefix_step op).length_le) ?_
    have hmono := step_received_le (c := c) op
    simp only [attempts] at hn
    split at hn
    · rename_i i
      split at hn
      · rcases step_attempt ‹_› with hempty | hone
        · rw [hfifo, hempty, append_nil] at haccepted
          omega
        · omega
      · omega
    · omega

lemma run_fifo (h : c.accepted = c.received ++ c.queue) :
    (c.run ops).accepted = (c.run ops).received ++ (c.run ops).queue :=
  Akarin.Lib.run_invariant_all (I := fun c : Channel α => c.accepted = c.received ++ c.queue)
    (fun _ op => step_fifo op) h ops

lemma accepted_prefix_run : c.accepted <+: (c.run ops).accepted :=
  Akarin.Lib.run_invariant_all (I := fun d : Channel α => c.accepted <+: d.accepted)
    (fun _ op h => h.trans (accepted_prefix_step op)) prefix_rfl ops

/-- What has been accepted is received, in order, if receives go on as often as there are values left. -/
lemma all_received (h : c.accepted = c.received ++ c.queue) (ops : List (ChannelOp α))
    (hops : c.queue.length ≤ c.attempts ops) : c.accepted <+: (c.run ops).received := by
  have hlength : c.accepted.length ≤ (c.run ops).received.length := by
    apply run_received_le ops h (Nat.le_refl _)
    rw [h, length_append]
    omega
  have hreceived : (c.run ops).received <+: (c.run ops).accepted := by
    rw [run_fifo ops h]
    exact prefix_append ..
  exact prefix_of_prefix_length_le (accepted_prefix_run ops) hreceived hlength

/-! ## The law -/

lemma Quiescent.not_closing (h : c.Quiescent) {stage : HandleStage}
    (hstage : stage = .storing ∨ stage = .notifying) : stage ∉ c.senders ∧ stage ∉ c.receivers := by
  constructor
  · intro hmem
    rcases h.1 stage (mem_append_left _ hmem) with rfl | rfl <;> simp at hstage
  · intro hmem
    rcases h.1 stage (mem_append_right _ hmem) with rfl | rfl <;> simp at hstage

lemma Sound.receivers_awake (h : c.Sound) (hquiet : c.Quiescent) {call : RecvCall α}
    (hcall : call ∈ c.recvs) (hplace : call.place = .parked) : c.queue = [] ∧ c.closed = false := by
  have howed : c.sendHalf.owed = 0 := Half.owed_eq_zero hquiet.2.1
  obtain ⟨hempty, htold⟩ := h.receivers.asleep howed hquiet.2.2 hcall hplace
  refine ⟨eq_nil_of_length_eq_zero hempty, ?_⟩
  by_contra hclosed
  exact (hquiet.not_closing (.inr rfl)).1 (htold (not_eq_false _ ▸ hclosed))

lemma Sound.senders_awake (h : c.Sound) (hquiet : c.Quiescent) (hcall : call ∈ c.sends)
    (hplace : call.place = .parked) : c.isFull = true ∧ c.closed = false := by
  have hstage := SendCall.stage_of_parked hplace
  have howed : c.recvHalf.owed = 0 := Half.owed_eq_zero hquiet.2.2
  obtain ⟨hroom, htold⟩ := h.senders.asleep howed hquiet.2.1 hcall hplace
  have hreceiver : c.receiverCount ≠ 0 := by
    intro hzero
    rcases htold hzero with hmem | hmem
    · exact (hquiet.not_closing (.inl rfl)).2 hmem
    · exact (hquiet.not_closing (.inr rfl)).2 hmem
  constructor
  · have hbound := (h.senders.fits call hcall).2.1 (by rw [SendCall.isHeld, hstage])
    obtain ⟨capacity, hcapacity⟩ := Option.ne_none_iff_exists'.1 hbound
    simp only [room, if_neg hreceiver, hcapacity] at hroom
    simp only [isFull, hcapacity, decide_eq_true_eq]
    omega
  · by_contra hclosed
    exact hreceiver (h.receiverCount_of_closed (not_eq_false _ ▸ hclosed) hcall
      (by rw [SendCall.isActive, hstage]))

lemma Sound.law (h : c.Sound) (hfifo : c.accepted = c.received ++ c.queue) : c.ChannelLaw where
  fifo := hfifo
  all_received := all_received hfifo
  nothing_left := h.nothing_left
  receivers_awake hquiet := fun ⟨_, hcall, hplace⟩ => h.receivers_awake hquiet hcall hplace
  senders_awake hquiet := fun ⟨_, hcall, hplace⟩ => h.senders_awake hquiet hcall hplace

/-- The channel keeps its law in every run in which no step comes between a test and its listener. -/
theorem channelLaw_of_inOrder (capacity : Option Nat) (ops : List (ChannelOp α))
    (hops : Meets step InOrder (new capacity) ops) : ((new capacity).run ops).ChannelLaw :=
  (run_sound capacity ops hops).law (run_fifo ops rfl)

/-- Two sends into a channel of one place, the second of which parks until the value is received; then a
receive that parks until the sender is dropped. -/
def throughOnePlace : List (ChannelOp Nat) :=
  [.send 0 7 false, .stepSend 0, .stepSend 0, .stepSend 0, .stepSend 0,
    .send 0 8 false, .stepSend 1, .stepSend 1, .stepSend 1, .stepSend 1, .stepSend 1,
    .recv 0 false, .stepRecv 0, .stepRecv 0, .stepSend 1, .stepSend 1, .stepSend 1, .stepSend 1,
    .recv 0 false, .stepRecv 1, .stepRecv 1,
    .recv 0 false, .stepRecv 2, .stepRecv 2, .stepRecv 2, .stepRecv 2, .stepRecv 2,
    .dropSender 0, .dropSender 0, .dropSender 0, .stepRecv 2, .stepRecv 2]

theorem channelLaw_throughOnePlace : (((new (some 1)).run throughOnePlace).received = [7, 8] ∧
      ((new (some 1)).run throughOnePlace).left = [[]]) ∧
      ((new (some 1)).run throughOnePlace).ChannelLaw :=
  ⟨by decide +kernel, channelLaw_of_inOrder (some 1) throughOnePlace (by decide +kernel)⟩

/-- The receive finds the queue empty; the value is sent and the sender dropped before the receive tests
whether the channel is closed. -/
def closedAfterMiss : List (ChannelOp Nat) :=
  [.recv 0 false, .stepRecv 0, .send 0 7 false, .stepSend 0, .stepSend 0, .stepSend 0, .stepSend 0,
    .dropSender 0, .dropSender 0, .dropSender 0, .stepRecv 0]

/-- The receive finds the queue empty and the channel open; the value is sent and notified before the
receive listens. -/
def sentBeforeListen : List (ChannelOp Nat) :=
  [.recv 0 false, .stepRecv 0, .stepRecv 0, .stepRecv 0, .send 0 7 false, .stepSend 0, .stepSend 0,
    .stepSend 0, .stepSend 0, .stepRecv 0, .stepRecv 0]

/-- `Closed` is returned with an accepted value left, and a receive stays parked with a value in the
queue. -/
theorem channelLaw_fails : ¬ ((new none).run closedAfterMiss).ChannelLaw ∧
    ¬ ((new none).run sentBeforeListen).ChannelLaw := by
  constructor
  · intro h
    have hleft := h.nothing_left [7] (by decide +kernel)
    cases hleft
  · intro h
    have hawake := h.receivers_awake (by decide +kernel) (by decide +kernel)
    exact absurd hawake.1 (by decide +kernel)

end Channel

end Akarin.Sync
