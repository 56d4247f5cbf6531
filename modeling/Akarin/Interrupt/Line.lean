/-
# Akarin.Interrupt.Line -- a shared interrupt line

A delivery on a level-triggered line is handed to the enabled sessions, and the line stays masked until
each of them that is not a monitor has acknowledged it. How many have to is counted at the delivery. A
session that is closed with the epoch in its hands is not counted off: the line then stays masked, and
nobody is left who could unmask it (`lineLaw_fails`).
-/
import Akarin.Ipc.Receive
import Akarin.Lib.Table

namespace Akarin.Interrupt

open List hiding beq_eq_decide
open Ipc (IdAllocator Allots)
open Lib (Meets mem_of_lookup mem_put mem_remove keys_remove countP_put countP_remove
  put_of_not_mem runOps run_invariant)

/-! ## Model -/

/-- Why an interrupt call is refused. -/
inductive IrqError where
  | invalidIrq (irq : Nat)
  | invalidParameter
  | outOfResources
  | notSupported
  | closed
  deriving DecidableEq

/-- Whether the acknowledger handled it. -/
inductive IrqAckDisposition where
  | observed
  | claimed
  deriving DecidableEq

/-- How the line signals. -/
inductive LineTriggerMode where
  | edge
  | level
  deriving DecidableEq

/-- What the handler does to the line. -/
inductive IrqHandleAction where
  | none
  | maskLine
  deriving DecidableEq

/-- What an acknowledgement reports. -/
structure IrqAckOutcome where
  remainingParticipants : Nat
  pendingCount : Nat
  shouldUnmask : Bool
  claimed : Bool
  deriving DecidableEq

def IRQ_SESSION_PENDING_CAPACITY : Nat := 256

/-- An epoch of zero stands for none. -/
structure IrqSessionCore where
  sessionId : Nat
  monitor : Bool
  enabled : Bool
  closed : Bool
  overflowed : Bool
  inflightEpoch : Nat
  lastAckedEpoch : Nat
  pendingEpochs : List Nat

namespace IrqSessionCore

def new (sessionId : Nat) (monitor : Bool) : IrqSessionCore :=
  ⟨sessionId, monitor, true, false, false, 0, 0, []⟩

variable (user : IrqSessionCore)

/-- The epoch and the number of epochs that wait, if there is one. -/
def tryWait : Except IrqError (Option (Nat × Nat)) × IrqSessionCore :=
  if user.closed then (.error .closed, user)
  else if user.inflightEpoch ≠ 0 then
    (.ok (some (user.inflightEpoch, user.pendingEpochs.length + 1)), user)
  else
    match user.pendingEpochs with
    | [] => (if user.overflowed then .error .outOfResources else .ok none, user)
    | epoch :: rest =>
      (.ok (some (epoch, rest.length + 1)), { user with inflightEpoch := epoch, pendingEpochs := rest })

/-- A full queue overflows, and takes no more. -/
def deliver (epoch : Nat) : IrqSessionCore :=
  if user.closed || user.overflowed then user
  else if user.pendingEpochs.length < IRQ_SESSION_PENDING_CAPACITY then
    { user with pendingEpochs := user.pendingEpochs ++ [epoch] }
  else { user with overflowed := true }

def acknowledge (epoch : Nat) (disposition : IrqAckDisposition) : Except IrqError (Nat × IrqSessionCore) :=
  if user.closed then .error .closed
  else if user.monitor ∧ disposition = .claimed then .error .invalidParameter
  else if user.inflightEpoch = 0 ∨ user.inflightEpoch ≠ epoch then .error .invalidParameter
  else .ok (user.pendingEpochs.length, { user with inflightEpoch := 0, lastAckedEpoch := epoch })

end IrqSessionCore

/-- `handler` is whether a kernel handler is attached. -/
structure SharedIrqSessionSlot where
  handler : Bool
  user : Option IrqSessionCore

/-- An interrupt not yet acknowledged by all. -/
structure InFlightEpoch where
  epoch : Nat
  awaitingParticipants : Nat
  claimed : Bool
  deriving DecidableEq

namespace SharedIrqSessionSlot

variable (slot : SharedIrqSessionSlot)

def isEmpty : Bool := !slot.handler && slot.user.isNone

/-- The session takes a delivery. -/
def listens : Bool :=
  slot.user.any fun user => !user.closed && user.enabled

/-- The session takes a delivery and has to acknowledge it. -/
def takesPart : Bool :=
  slot.user.any fun user => !user.closed && user.enabled && !user.monitor

def deliver (epoch : Nat) : SharedIrqSessionSlot :=
  if slot.listens then { slot with user := slot.user.map (·.deliver epoch) } else slot

end SharedIrqSessionSlot

open SharedIrqSessionSlot Option Prod

/-- One line and the sessions that share it. -/
structure SharedIrqLine where
  irq : Nat
  sessionIds : IdAllocator
  trigger : LineTriggerMode
  adminMasked : Bool
  deliveryMasked : Bool
  epoch : Nat
  inflight : Option InFlightEpoch
  sessions : List (Nat × SharedIrqSessionSlot)

namespace SharedIrqLine

def new (irq : Nat) : SharedIrqLine := ⟨irq, ⟨1, []⟩, .edge, false, false, 0, none, []⟩

variable (line : SharedIrqLine)

def setTriggerMode (trigger : LineTriggerMode) : SharedIrqLine :=
  { line with trigger := trigger }

/-- A new slot under a new id. -/
def insert (slot : Nat → SharedIrqSessionSlot) : Nat × SharedIrqLine :=
  let id := line.sessionIds.allocate
  (id.1, { line with sessionIds := id.2, sessions := Lib.put line.sessions id.1 (slot id.1) })

def openKernelHandler : Nat × SharedIrqLine := line.insert fun _ => ⟨false, none⟩

def openUserSession (monitor : Bool) : Nat × SharedIrqLine :=
  line.insert fun id => ⟨false, some (.new id monitor)⟩

def setSlot (id : Nat) (slot : SharedIrqSessionSlot) : SharedIrqLine :=
  { line with sessions := Lib.put line.sessions id slot }

def removeSlot (id : Nat) : SharedIrqLine :=
  { line with sessions := Lib.remove line.sessions id, sessionIds := line.sessionIds.recycle id }

def close (id : Nat) : Except IrqError Unit × SharedIrqLine :=
  match line.sessions.lookup id with
  | none => (.error .invalidParameter, line)
  | some _ => (.ok (), line.removeSlot id)

def attach (id : Nat) : Except IrqError Unit × SharedIrqLine :=
  match line.sessions.lookup id with
  | none => (.error .invalidParameter, line)
  | some slot => (.ok (), line.setSlot id { slot with handler := true })

/-- A slot with nobody left is removed. -/
def detach (id : Nat) : Except IrqError Unit × SharedIrqLine :=
  match line.sessions.lookup id with
  | none => (.error .invalidParameter, line)
  | some slot =>
    if !slot.handler then (.error .invalidParameter, line)
    else if isEmpty { slot with handler := false } then (.ok (), line.removeSlot id)
    else (.ok (), line.setSlot id { slot with handler := false })

/-- The epoch is handed to the sessions that listen. -/
def deliverAll (epoch : Nat) : SharedIrqLine :=
  { line with epoch := epoch, sessions := line.sessions.map fun x => (x.1, x.2.deliver epoch) }

/-- The kernel handlers that run do not touch the line. -/
def handle : IrqHandleAction × SharedIrqLine :=
  if line.sessions = [] then (.none, line)
  else
    let epoch := min (line.epoch + 1) (2 ^ 64 - 1)
    let awaiting := line.sessions.countP (·.2.takesPart)
    if line.trigger = .level ∧ 0 < awaiting then
      (.maskLine, { line.deliverAll epoch with
        deliveryMasked := true
        inflight := some ⟨epoch, awaiting, false⟩ })
    else (.none, line.deliverAll epoch)

/-- What an acknowledgement means for the epoch in flight. -/
def countOff (inflight : InFlightEpoch) (pendingCount : Nat)
    (disposition : IrqAckDisposition) : Except IrqError IrqAckOutcome × SharedIrqLine :=
  if inflight.awaitingParticipants = 0 then (.error .invalidParameter, line)
  else
    let remaining := inflight.awaitingParticipants - 1
    let claimed := inflight.claimed || disposition == .claimed
    if remaining = 0 ∧ line.deliveryMasked then
      (.ok ⟨remaining, pendingCount, true, claimed⟩,
        { line with deliveryMasked := false, inflight := none })
    else
      (.ok ⟨remaining, pendingCount, false, claimed⟩,
        { line with inflight := some ⟨inflight.epoch, remaining, claimed⟩ })

/-- Monitors do not count for the epoch in flight. -/
def ackUserSession (id epoch : Nat) (disposition : IrqAckDisposition) :
    Except IrqError IrqAckOutcome × SharedIrqLine :=
  match line.sessions.lookup id with
  | none => (.error .invalidParameter, line)
  | some slot =>
    match slot.user with
    | none => (.error .invalidParameter, line)
    | some user =>
      match user.acknowledge epoch disposition with
      | .error error => (.error error, line)
      | .ok (pendingCount, user') =>
        let line := line.setSlot id { slot with user := some user' }
        match line.inflight with
        | none => (.ok ⟨0, pendingCount, false, false⟩, line)
        | some inflight =>
          if inflight.epoch = epoch ∧ user.monitor = false then
            line.countOff inflight pendingCount disposition
          else (.ok ⟨0, pendingCount, false, false⟩, line)

/-- A call on the core of a session, which the slot shares. -/
def onCore (id : Nat) (f : IrqSessionCore → IrqSessionCore) : SharedIrqLine :=
  match line.sessions.lookup id with
  | none => line
  | some slot => line.setSlot id { slot with user := slot.user.map f }

end SharedIrqLine

/-- Calls on a line, and its interrupts. -/
inductive LineOp where
  | openUserSession (monitor : Bool)
  | openKernelHandler
  | attach (id : Nat)
  | detach (id : Nat)
  | close (id : Nat)
  | setEnabled (id : Nat) (enabled : Bool)
  | handle
  | tryWait (id : Nat)
  | ack (id epoch : Nat) (disposition : IrqAckDisposition)

namespace SharedIrqLine

def step (line : SharedIrqLine) : LineOp → SharedIrqLine
  | .openUserSession monitor => (line.openUserSession monitor).2
  | .openKernelHandler => line.openKernelHandler.2
  | .attach id => (line.attach id).2
  | .detach id => (line.detach id).2
  | .close id => (line.close id).2
  | .setEnabled id enabled => line.onCore id fun user => { user with enabled := enabled }
  | .handle => line.handle.2
  | .tryWait id => line.onCore id fun user => user.tryWait.2
  | .ack id epoch disposition => (line.ackUserSession id epoch disposition).2

def run (line : SharedIrqLine) (ops : List LineOp) : SharedIrqLine := runOps step line ops

end SharedIrqLine

/-! ## What the line promises -/

/-- The epochs that the session has been handed and not acknowledged. -/
def IrqSessionCore.outstanding (user : IrqSessionCore) : List Nat :=
  (if user.inflightEpoch = 0 then [] else [user.inflightEpoch]) ++ user.pendingEpochs

/-- A session that is not closed and not a monitor can still acknowledge the epoch. -/
def SharedIrqSessionSlot.owes (epoch : Nat) (slot : SharedIrqSessionSlot) : Bool :=
  slot.user.any fun user => !user.closed && !user.monitor && user.outstanding.contains epoch

namespace SharedIrqLine

/-- The line is masked for as long as there are sessions that can still acknowledge the epoch in flight,
and they are the ones that are counted. -/
structure LineLaw (line : SharedIrqLine) : Prop where
  masked : line.deliveryMasked = true ↔ line.inflight.isSome
  awaiting : ∀ inflight ∈ line.inflight, 0 < inflight.awaitingParticipants ∧
    inflight.awaitingParticipants = line.sessions.countP (·.2.owes inflight.epoch)

/-- A masked line is not delivered, and the sessions fit into memory. -/
def Legal (line : SharedIrqLine) : LineOp → Prop
  | .handle => line.deliveryMasked = false
  | .openUserSession _ | .openKernelHandler => line.sessions.length + 2 < 2 ^ 64
  | _ => True

/-- No session is closed while it owes an acknowledgement of the epoch in flight. -/
def Settled (line : SharedIrqLine) : LineOp → Prop
  | .close id => ∀ slot ∈ line.sessions.lookup id, ∀ inflight ∈ line.inflight,
      slot.owes inflight.epoch = false
  | _ => True

/-! ## The invariant -/

/-- The ids of the sessions differ, and the fresh ids start behind those in use and given back. -/
structure Numbered (ids : IdAllocator) (sessions : List (Nat × SharedIrqSessionSlot)) : Prop where
  allots : Allots ids (sessions.map Prod.fst)
  next : ids.next = ids.recycled.length + sessions.length + 1

/-- A session that has to acknowledge has been handed the epoch in flight at most, and once. -/
def Follows (inflight : Option InFlightEpoch) (user : IrqSessionCore) : Prop :=
  user.closed = false ∧ (user.monitor = false → user.overflowed = false ∧
    (user.outstanding = [] ∨ ∃ current ∈ inflight, user.outstanding = [current.epoch]))

/-- The invariant of a level line. -/
structure Sound (line : SharedIrqLine) : Prop where
  level : line.trigger = .level
  numbered : Numbered line.sessionIds line.sessions
  law : line.LineLaw
  epoch : ∀ inflight ∈ line.inflight, inflight.epoch ≠ 0
  follows : ∀ x ∈ line.sessions, ∀ user ∈ x.2.user, Follows line.inflight user

variable {line : SharedIrqLine} {ids : IdAllocator} {sessions : List (Nat × SharedIrqSessionSlot)} {id : Nat}
  {slot slot' : SharedIrqSessionSlot} {inflight : Option InFlightEpoch} {user : IrqSessionCore}

section

variable (h : Numbered ids sessions)
include h

lemma Numbered.nodup : (sessions.map fst).Nodup :=
  (nodup_append.1 h.allots.nodup).2.1

section

variable (hslot : sessions.lookup id = some slot)
include hslot

lemma Numbered.keys_perm : (sessions.map fst).Perm (id :: (Lib.remove sessions id).map fst) := by
  have hkeys : (Lib.remove sessions id).map fst = (sessions.map fst).erase id := by
    rw [keys_remove, h.nodup.erase_eq_filter]
    simp [bne, beq_eq_decide]
  rw [hkeys]
  exact perm_cons_erase (mem_map_of_mem (mem_of_lookup hslot))

lemma Numbered.put : Numbered ids (Lib.put sessions id slot') := by
  have hperm : (sessions.map fst).Perm ((Lib.put sessions id slot').map fst) := h.keys_perm hslot
  refine ⟨⟨h.allots.recycled_lt, fun other hother => h.allots.used_lt other (hperm.mem_iff.2 hother), ?_⟩, ?_⟩
  · exact ((List.Perm.refl _).append hperm).nodup_iff.1 h.allots.nodup
  · have hlength := hperm.length_eq
    rw [length_map, length_map] at hlength
    rw [← hlength, h.next]

lemma Numbered.remove : Numbered (ids.recycle id) (Lib.remove sessions id) := by
  have hperm := h.keys_perm hslot
  refine ⟨h.allots.recycle hperm, ?_⟩
  have hlength := hperm.length_eq
  rw [length_cons, length_map, length_map] at hlength
  show ids.next = (ids.recycled ++ [id]).length + _ + 1
  rw [length_append, length_singleton, h.next]
  omega

end

lemma Numbered.insert (slot : SharedIrqSessionSlot) (hlegal : sessions.length + 2 < 2 ^ 64) :
    Lib.put sessions ids.allocate.1 slot = (ids.allocate.1, slot) :: sessions ∧
      Numbered ids.allocate.2 ((ids.allocate.1, slot) :: sessions) := by
  have hnext := h.next
  have hallots := h.allots.allocate fun hnil => by
    rw [hnil, length_nil] at hnext
    omega
  have hfresh := (nodup_cons.1 (nodup_append.1 hallots.nodup).2.1).1
  refine ⟨put_of_not_mem hfresh, hallots, ?_⟩
  obtain ⟨next, recycled⟩ := ids
  cases recycled with
  | nil =>
    have hmod : (next + 1) % 2 ^ 64 = next + 1 := Nat.mod_eq_of_lt (by
      simp only [length_nil] at hnext
      omega)
    simp only [IdAllocator.allocate, hmod, length_nil, length_cons] at hnext ⊢
    omega
  | cons id rest =>
    simp only [IdAllocator.allocate, length_cons] at hnext ⊢
    omega

end

section

variable (h : line.Sound)
include h

/-- A slot changes, and what it owes does not. -/
lemma Sound.setSlot (hslot : line.sessions.lookup id = some slot)
    (howes : ∀ epoch, slot'.owes epoch = slot.owes epoch)
    (hfollows : ∀ user ∈ slot'.user, Follows line.inflight user) : (line.setSlot id slot').Sound := by
  refine ⟨h.level, h.numbered.put hslot, ⟨h.law.masked, fun inflight hin => ?_⟩, h.epoch, fun x hx => ?_⟩
  · obtain ⟨hpos, hcount⟩ := h.law.awaiting inflight hin
    have hput := countP_put slot' (p := fun x => x.2.owes inflight.epoch) h.numbered.nodup hslot
    simp only [howes] at hput
    exact ⟨hpos, hcount.trans (Nat.add_right_cancel hput).symm⟩
  · rcases mem_put.1 hx with rfl | ⟨hold, _⟩
    · exact hfollows
    · exact h.follows x hold

/-- A slot goes that owes nothing. -/
lemma Sound.removeSlot (hslot : line.sessions.lookup id = some slot)
    (howes : ∀ inflight ∈ line.inflight, slot.owes inflight.epoch = false) : (line.removeSlot id).Sound := by
  refine ⟨h.level, h.numbered.remove hslot, ⟨h.law.masked, fun inflight hin => ?_⟩, h.epoch, fun x hx => ?_⟩
  · obtain ⟨hpos, hcount⟩ := h.law.awaiting inflight hin
    have hremove := countP_remove (p := fun x => x.2.owes inflight.epoch) h.numbered.nodup hslot
    simp only [howes inflight hin, Bool.false_eq_true, if_false] at hremove
    exact ⟨hpos, hcount.trans hremove.symm⟩
  · exact h.follows x (mem_remove.1 hx).1

/-- A new session owes nothing. -/
lemma Sound.insert (hlegal : line.sessions.length + 2 < 2 ^ 64)
    (slot : Nat → SharedIrqSessionSlot) (howes : ∀ id epoch, (slot id).owes epoch = false)
    (hfollows : ∀ id, ∀ user ∈ (slot id).user, Follows line.inflight user) : (line.insert slot).2.Sound := by
  obtain ⟨hput, hnumbered⟩ := h.numbered.insert (slot line.sessionIds.allocate.1) hlegal
  rw [← hput] at hnumbered
  refine ⟨h.level, hnumbered, ⟨h.law.masked, fun inflight hin => ?_⟩, h.epoch, fun x hx => ?_⟩
  · show _ ∧ _ = (Lib.put line.sessions _ _).countP _
    rw [hput, countP_cons, howes]
    exact h.law.awaiting inflight hin
  · rcases mem_put.1 hx with rfl | ⟨hold, _⟩
    · exact hfollows _
    · exact h.follows x hold

/-- A call on a core that leaves what it has been handed. -/
lemma Sound.onCore {f : IrqSessionCore → IrqSessionCore}
    (hf : ∀ user : IrqSessionCore, Follows line.inflight user → (f user).closed = false ∧
      (f user).monitor = user.monitor ∧ (f user).overflowed = user.overflowed ∧
      (user.monitor = false → (f user).outstanding = user.outstanding)) : (line.onCore id f).Sound := by
  unfold SharedIrqLine.onCore
  cases hslot : line.sessions.lookup id with
  | none => exact h
  | some slot =>
    have hold := h.follows _ (mem_of_lookup hslot)
    refine h.setSlot hslot (fun epoch => ?_) fun user' huser' => ?_
    · cases huser : slot.user with
      | none => simp [owes, huser]
      | some user =>
        obtain ⟨hclosed, hmonitor, _, houtstanding⟩ := hf user (hold user huser)
        simp only [owes, huser, map_some, any_some, hclosed, hmonitor, (hold user huser).1]
        cases hm : user.monitor with
        | true => rfl
        | false => rw [houtstanding hm]
    · obtain ⟨user, huser, rfl⟩ := map_eq_some_iff.1 huser'
      obtain ⟨hclosed, hmonitor, hoverflowed, houtstanding⟩ := hf user (hold user huser)
      refine ⟨hclosed, fun hm => ?_⟩
      rw [hmonitor] at hm
      rw [hoverflowed, houtstanding hm]
      exact (hold user huser).2 hm

end

/-! ## Deliveries and acknowledgements -/

/-- With nothing in flight, a session takes the epoch on exactly if it takes part. -/
lemma Follows.deliver (h : Follows none user) (epoch : Nat) :
    (user.deliver epoch).closed = false ∧ (user.deliver epoch).monitor = user.monitor ∧
      (user.monitor = false → (user.deliver epoch).overflowed = false ∧
        (user.deliver epoch).outstanding = [epoch]) := by
  obtain ⟨hclosed, hrest⟩ := h
  unfold IrqSessionCore.deliver
  rcases Bool.eq_false_or_eq_true user.monitor with hm | hm
  · split_ifs <;> simp_all
  · obtain ⟨hoverflowed, hout | ⟨current, hcurrent, _⟩⟩ := hrest hm
    · obtain ⟨hinflight, hpending⟩ := append_eq_nil_iff.1 hout
      have hroom : user.pendingEpochs.length < IRQ_SESSION_PENDING_CAPACITY := by
        rw [hpending]
        decide
      rw [if_neg (by simp [hclosed, hoverflowed]), if_pos hroom]
      refine ⟨hclosed, rfl, fun _ => ⟨hoverflowed, ?_⟩⟩
      show _ ++ (user.pendingEpochs ++ [epoch]) = [epoch]
      rw [hinflight, hpending]
      rfl
    · cases hcurrent

/-- What a session has been handed is in flight elsewhere. -/
lemma Follows.mono {inflight' : Option InFlightEpoch} (h : Follows inflight user)
    (hkept : ∀ current ∈ inflight, user.monitor = false → user.outstanding = [current.epoch] →
      ∃ current' ∈ inflight', current'.epoch = current.epoch) : Follows inflight' user := by
  refine ⟨h.1, fun hm => ⟨(h.2 hm).1, ?_⟩⟩
  rcases (h.2 hm).2 with hnil | ⟨current, hcurrent, hout⟩
  · exact .inl hnil
  · obtain ⟨current', hcurrent', heq⟩ := hkept current hcurrent hm hout
    exact .inr ⟨current', hcurrent', heq ▸ hout⟩

section

variable (hfollows : ∀ user ∈ slot.user, Follows none user)
include hfollows

lemma owes_deliver (epoch : Nat) : (slot.deliver epoch).owes epoch = slot.takesPart := by
  cases huser : slot.user with
  | none => simp [deliver, listens, takesPart, owes, huser]
  | some user =>
    have hold := hfollows user huser
    obtain ⟨hclosed, hmonitor, hout⟩ := hold.deliver epoch
    have hown : user.monitor = false → user.outstanding = [] := fun hm => by
      obtain ⟨_, hnil | ⟨current, hcurrent, _⟩⟩ := hold.2 hm
      · exact hnil
      · cases hcurrent
    cases he : user.enabled <;> cases hm : user.monitor <;>
      simp [deliver, listens, takesPart, owes, huser, he, hm, hold.1, hclosed, hmonitor, hout, hown]

lemma follows_deliver {epoch : Nat}
    (hparts : slot.takesPart = true → ∃ current ∈ inflight, current.epoch = epoch) :
    ∀ user ∈ (slot.deliver epoch).user, Follows inflight user := by
  intro user' huser'
  cases hlistens : slot.listens with
  | false =>
    rw [deliver, hlistens] at huser'
    exact (hfollows user' huser').mono nofun
  | true =>
    rw [deliver, hlistens] at huser'
    obtain ⟨user, huser, rfl⟩ := map_eq_some_iff.1 huser'
    obtain ⟨hclosed, hmonitor, hout⟩ := (hfollows user huser).deliver epoch
    refine ⟨hclosed, fun hm => ?_⟩
    rw [hmonitor] at hm
    have htakes : slot.takesPart = true := by
      simpa [takesPart, listens, huser, hm] using hlistens
    obtain ⟨current, hcurrent, rfl⟩ := hparts htakes
    exact ⟨(hout hm).1, .inr ⟨current, hcurrent, (hout hm).2⟩⟩

end

lemma Sound.handle (h : line.Sound) (hlegal : line.deliveryMasked = false) : line.handle.2.Sound := by
  have hidle : line.inflight = none := by
    have hmasked := h.law.masked
    rw [hlegal] at hmasked
    simpa using hmasked
  have hfollows : ∀ x ∈ line.sessions, ∀ user ∈ x.2.user, Follows none user := by
    rw [← hidle]
    exact h.follows
  have hkeys : ∀ epoch, Numbered line.sessionIds (line.deliverAll epoch).sessions := by
    intro epoch
    obtain ⟨hallots, hnext⟩ := h.numbered
    refine ⟨?_, by simpa [deliverAll] using hnext⟩
    simpa [deliverAll, Function.comp_def] using hallots
  unfold SharedIrqLine.handle
  split
  · exact h
  · have hepoch : min (line.epoch + 1) (2 ^ 64 - 1) ≠ 0 := by omega
    generalize min (line.epoch + 1) (2 ^ 64 - 1) = epoch at hepoch
    simp only [h.level, true_and]
    split
    · rename_i hawaiting
      refine ⟨h.level, hkeys epoch, ⟨by simp, ?_⟩, ?_, ?_⟩
      · rintro _ ⟨⟩
        refine ⟨hawaiting, ?_⟩
        show line.sessions.countP _ = (line.sessions.map _).countP _
        rw [countP_map]
        refine countP_congr fun x hx => ?_
        simp only [Function.comp_apply]
        rw [owes_deliver (hfollows x hx)]
      · rintro _ ⟨⟩
        exact hepoch
      · intro x hx
        obtain ⟨old, hold, rfl⟩ := mem_map.1 hx
        exact follows_deliver (hfollows old hold) fun _ => ⟨_, rfl, rfl⟩
    · rename_i hnobody
      have hnone : ∀ x ∈ line.sessions, x.2.takesPart ≠ true := by
        intro x hx htakes
        exact hnobody (countP_pos_iff.2 ⟨x, hx, htakes⟩)
      refine ⟨h.level, hkeys epoch, ⟨h.law.masked, ?_⟩, h.epoch, ?_⟩
      · intro inflight hin
        rw [show (line.deliverAll epoch).inflight = none from hidle] at hin
        cases hin
      · intro x hx
        obtain ⟨old, hold, rfl⟩ := mem_map.1 hx
        exact follows_deliver (hfollows old hold) fun htakes => absurd htakes (hnone old hold)

/-- A session that has to acknowledge and shows an epoch shows the one in flight, and owes only that. -/
lemma Follows.visible (h : Follows inflight user) (hm : user.monitor = false) (hvisible : user.inflightEpoch ≠ 0) :
    ∃ current ∈ inflight, user.inflightEpoch = current.epoch ∧ user.pendingEpochs = [] := by
  obtain ⟨_, hnil | ⟨current, hcurrent, hout⟩⟩ := h.2 hm
  · simp [IrqSessionCore.outstanding, hvisible] at hnil
  · refine ⟨current, hcurrent, ?_⟩
    simpa [IrqSessionCore.outstanding, hvisible] using hout

lemma acknowledge_ok {epoch count : Nat} {disposition : IrqAckDisposition} {user' : IrqSessionCore}
    (h : user.acknowledge epoch disposition = .ok (count, user')) :
    user.inflightEpoch ≠ 0 ∧ user.inflightEpoch = epoch ∧
      user' = { user with inflightEpoch := 0, lastAckedEpoch := epoch } := by
  unfold IrqSessionCore.acknowledge at h
  split_ifs at h with _ _ hepoch
  rw [not_or, not_not] at hepoch
  cases h
  exact ⟨hepoch.1, hepoch.2, rfl⟩

/-- The acknowledgement of the epoch in flight takes one off the count; the last one ends the epoch. -/
lemma Sound.countOff (h : line.Sound) (hslot : line.sessions.lookup id = some slot)
    {current : InFlightEpoch} (hcurrent : line.inflight = some current) (howed : slot.owes current.epoch = true)
    (howes : slot'.owes current.epoch = false) (hfollows : ∀ user ∈ slot'.user, Follows none user) (count : Nat)
    (disposition : IrqAckDisposition) : ((line.setSlot id slot').countOff current count disposition).2.Sound := by
  obtain ⟨hpos, hawaiting⟩ := h.law.awaiting current hcurrent
  have hmasked : line.deliveryMasked = true := h.law.masked.2 (by rw [hcurrent]; rfl)
  have hput := countP_put slot' (p := fun x => x.2.owes current.epoch) h.numbered.nodup hslot
  simp only [howed, howes, Bool.false_eq_true, if_false, if_true] at hput
  -- the other sessions owe the epoch as before
  have hothers : ∀ x ∈ Lib.put line.sessions id slot', ∀ user ∈ x.2.user,
      Follows none user ∨ Follows line.inflight user := by
    intro x hx user huser
    rcases mem_put.1 hx with rfl | ⟨hold, _⟩
    · exact .inl (hfollows user huser)
    · exact .inr (h.follows x hold user huser)
  unfold SharedIrqLine.countOff
  rw [if_neg (by omega)]
  simp only [show (line.setSlot id slot').deliveryMasked = true from hmasked, and_true]
  split
  · rename_i hlast
    refine ⟨h.level, h.numbered.put hslot, ⟨by simp, nofun⟩, nofun, ?_⟩
    intro x (hx : x ∈ Lib.put line.sessions id slot') user huser
    rcases hothers x hx user huser with hfree | hbound
    · exact hfree
    · refine hbound.mono fun other hother hm hout => ?_
      rw [hcurrent] at hother
      cases hother
      have howing : x.2.owes current.epoch = true := by
        simp [owes, mem_def.1 huser, hbound.1, hm, hout]
      have hcount := countP_pos_iff (p := fun x => x.2.owes current.epoch).2 ⟨x, hx, howing⟩
      omega
  · rename_i hmore
    refine ⟨h.level, h.numbered.put hslot, ⟨by simp, ?_⟩, ?_, ?_⟩
    · rintro _ ⟨⟩
      refine ⟨Nat.pos_of_ne_zero hmore, ?_⟩
      show current.awaitingParticipants - 1 = (Lib.put line.sessions id slot').countP (·.2.owes current.epoch)
      omega
    · rintro _ ⟨⟩
      exact h.epoch current hcurrent
    · intro x hx user huser
      rcases hothers x hx user huser with hfree | hbound
      · exact hfree.mono nofun
      · refine hbound.mono fun other hother _ _ => ?_
        rw [hcurrent] at hother
        cases hother
        exact ⟨_, rfl, rfl⟩

lemma Sound.ackUserSession (h : line.Sound) (id epoch : Nat) (disposition : IrqAckDisposition) :
    (line.ackUserSession id epoch disposition).2.Sound := by
  unfold SharedIrqLine.ackUserSession
  cases hslot : line.sessions.lookup id with
  | none => exact h
  | some slot =>
    cases huser : slot.user with
    | none => simpa only [huser] using h
    | some user =>
      cases hack : user.acknowledge epoch disposition with
      | error error => simpa only [huser, hack] using h
      | ok result =>
        obtain ⟨count, user'⟩ := result
        obtain ⟨hvisible, hepoch, rfl⟩ := acknowledge_ok hack
        have hfollows := h.follows _ (mem_of_lookup hslot) user huser
        simp only [huser, hack]
        show (match line.inflight with | none => _ | some inflight => _ : _ × SharedIrqLine).2.Sound
        rcases Bool.eq_false_or_eq_true user.monitor with hm | hm
        · -- a monitor is not counted
          have hnext : (line.setSlot id { slot with
              user := some { user with inflightEpoch := 0, lastAckedEpoch := epoch } }).Sound := h.setSlot hslot
            (fun other => by simp [owes, huser, hm])
            (by rintro _ ⟨⟩; exact ⟨hfollows.1, fun hno => absurd (hm.symm.trans hno) (by decide)⟩)
          cases line.inflight with
          | none => exact hnext
          | some inflight =>
            dsimp only
            rw [if_neg (by simp [hm])]
            exact hnext
        · obtain ⟨current, hcurrent, hshown, hpending⟩ := hfollows.visible hm hvisible
          have hcurrent : line.inflight = some current := hcurrent
          rw [hcurrent]
          dsimp only
          rw [if_pos ⟨by rw [← hshown, hepoch], hm⟩]
          refine h.countOff hslot hcurrent ?_ ?_ ?_ count disposition
          · simp [owes, huser, hfollows.1, hm, IrqSessionCore.outstanding, ← hshown, hvisible]
          · simp [owes, IrqSessionCore.outstanding, hpending]
          · rintro _ ⟨⟩
            exact ⟨hfollows.1, fun _ => ⟨(hfollows.2 hm).1, .inl (by simp [IrqSessionCore.outstanding, hpending])⟩⟩

/-! ## Runs -/

lemma Sound.new (irq : Nat) : ((new irq).setTriggerMode .level).Sound := by
  refine ⟨rfl, ⟨⟨?_, ?_, ?_⟩, rfl⟩, ⟨?_, ?_⟩, ?_, ?_⟩ <;> simp [SharedIrqLine.new, setTriggerMode]

lemma Sound.step (h : line.Sound) (op : LineOp) (hlegal : line.Legal op) (hsettled : line.Settled op) :
    (line.step op).Sound := by
  cases op with
  | openUserSession monitor =>
    refine h.insert hlegal _ (fun id epoch => by simp [owes, IrqSessionCore.new,
      IrqSessionCore.outstanding]) fun id => ?_
    rintro _ ⟨⟩
    exact ⟨rfl, fun _ => ⟨rfl, .inl rfl⟩⟩
  | openKernelHandler => exact h.insert hlegal _ (fun _ _ => rfl) fun _ => nofun
  | attach id =>
    show (line.attach id).2.Sound
    unfold SharedIrqLine.attach
    cases hslot : line.sessions.lookup id with
    | none => exact h
    | some slot => exact h.setSlot hslot (fun _ => rfl) (h.follows _ (mem_of_lookup hslot))
  | detach id =>
    show (line.detach id).2.Sound
    unfold SharedIrqLine.detach
    cases hslot : line.sessions.lookup id with
    | none => exact h
    | some slot =>
      dsimp only
      split_ifs with _ hempty
      · exact h
      · have hnone : slot.user = none := by simpa [SharedIrqSessionSlot.isEmpty] using hempty
        exact h.removeSlot hslot fun _ _ => by simp [owes, hnone]
      · exact h.setSlot hslot (fun _ => rfl) (h.follows _ (mem_of_lookup hslot))
  | close id =>
    show (line.close id).2.Sound
    unfold SharedIrqLine.close
    cases hslot : line.sessions.lookup id with
    | none => exact h
    | some slot => exact h.removeSlot hslot (hsettled slot hslot)
  | setEnabled id enabled => exact h.onCore fun user hfollows => ⟨hfollows.1, rfl, rfl, fun _ => rfl⟩
  | handle => exact h.handle hlegal
  | tryWait id =>
    refine h.onCore fun user hfollows => ?_
    unfold IrqSessionCore.tryWait
    rw [if_neg (by simp [hfollows.1])]
    split
    · exact ⟨hfollows.1, rfl, rfl, fun _ => rfl⟩
    · rename_i hidle
      rw [not_not] at hidle
      cases hpending : user.pendingEpochs with
      | nil => exact ⟨hfollows.1, rfl, rfl, fun _ => rfl⟩
      | cons epoch rest =>
        refine ⟨hfollows.1, rfl, rfl, fun hm => ?_⟩
        -- the epoch that becomes visible is the one in flight, and so not zero
        obtain ⟨_, hnil | ⟨current, hcurrent, hout⟩⟩ := hfollows.2 hm
        · simp [IrqSessionCore.outstanding, hidle, hpending] at hnil
        · have hne := h.epoch current hcurrent
          simp only [IrqSessionCore.outstanding, hidle, hpending, if_true, nil_append, List.cons.injEq] at hout
          simp [IrqSessionCore.outstanding, hidle, hpending, hout, hne]
  | ack id epoch disposition => exact h.ackUserSession id epoch disposition

instance (line : SharedIrqLine) (op : LineOp) : Decidable (line.Legal op) := by
  cases op <;> unfold Legal <;> infer_instance

instance (line : SharedIrqLine) (op : LineOp) : Decidable (line.Settled op) := by
  cases op <;> unfold Settled <;> infer_instance

/-- A level-triggered line keeps its law through every run in which no session is closed while it owes the
acknowledgement of the epoch in flight. -/
theorem lineLaw_of_settled (irq : Nat) (ops : List LineOp)
    (hmeets : Meets step (fun line op => line.Legal op ∧ line.Settled op) ((new irq).setTriggerMode .level) ops) :
    (((new irq).setTriggerMode .level).run ops).LineLaw :=
  (run_invariant (fun _ op hsound hok => hsound.step op hok.1 hok.2) (Sound.new irq) hmeets).law

/-- Two sessions and a monitor; the first session acknowledges, its line stays masked until the second does, and
both are closed afterwards. -/
def quietDay : List LineOp :=
  [.openUserSession false, .openUserSession false, .openUserSession true, .handle, .tryWait 1, .ack 1 1 .observed,
    .close 1, .tryWait 3, .close 3, .tryWait 2, .ack 2 1 .claimed, .close 2]

theorem lineLaw_quietDay : (((new 9).setTriggerMode .level).run quietDay).LineLaw :=
  lineLaw_of_settled 9 quietDay (by decide +kernel)

/-- The only session is closed before it acknowledges: the line is masked, one acknowledgement is awaited, and no
session is left. -/
theorem lineLaw_fails :
    Meets step Legal ((new 9).setTriggerMode .level) [.openUserSession false, .handle, .close 1] ∧
      ¬ (((new 9).setTriggerMode .level).run [.openUserSession false, .handle, .close 1]).LineLaw := by
  refine ⟨by decide +kernel, fun hlaw => ?_⟩
  exact absurd (hlaw.awaiting ⟨1, 1, false⟩ (by decide +kernel)).2 (by decide +kernel)

end SharedIrqLine

end Akarin.Interrupt
