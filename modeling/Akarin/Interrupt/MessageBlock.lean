/-
# Akarin.Interrupt.MessageBlock -- blocks of message vectors

For MSI the controller takes a run of vectors of one CPU that is as long as the block and aligned to its
length. That is what an MSI capability can be programmed with (`msiBlock_programmable`).
-/
import Akarin.Interrupt.Pci

namespace Akarin.Interrupt

open List

/-! ## Model -/

/-- The vectors of a CPU, from `vectorBase` on. A handler is known by the message entry it serves. -/
structure PerCpuIrqManager where
  vectorBase : Nat
  slots : Nat
  handlers : Nat → Option Nat
  legal : vectorBase + slots ≤ 256

namespace PerCpuIrqManager

/-- The search of `alloc_handlers_contiguous_aligned` through `windows(count)`. -/
def freeWindow (manager : PerCpuIrqManager) (count align : Nat) : Option Nat :=
  (List.range (manager.slots + 1 - count)).find? fun start =>
    (manager.vectorBase + start) % align == 0 &&
      (List.range count).all fun offset => (manager.handlers (start + offset)).isNone

def allocHandlersContiguousAligned (manager : PerCpuIrqManager) (handlers : List Nat) (align : Nat) :
    Except IrqError (List Nat) × PerCpuIrqManager :=
  if handlers = [] then (.ok [], manager)
  else
    match manager.freeWindow handlers.length (max align 1) with
    | none => (.error .outOfResources, manager)
    | some start =>
      (.ok ((List.range handlers.length).map (manager.vectorBase + start + ·)),
        { manager with handlers := fun slot =>
            if start ≤ slot then (handlers[slot - start]?).or (manager.handlers slot)
            else manager.handlers slot })

end PerCpuIrqManager

/-- The controller: the tables of the CPUs, their APICs, and the next message entry. -/
structure Apic where
  managers : List PerCpuIrqManager
  lapicIdOf : Nat → Option Nat
  nextMessageId : Nat

/-- `allocate_message_block` for MSI, with the target CPU chosen. -/
def Apic.allocateMessageBlock (apic : Apic) (count cpuId : Nat) :
    Except IrqError (List MessageVectorRoute) × Apic :=
  if count = 0 then (.error .invalidParameter, apic)
  else
    match apic.lapicIdOf cpuId with
    | none => (.error .invalidParameter, apic)
    | some apicId =>
      let entries := (List.range count).map (apic.nextMessageId + ·)
      let apic := { apic with nextMessageId := apic.nextMessageId + count }
      match apic.managers[cpuId]? with
      | none => (.error .invalidParameter, apic)
      | some manager =>
        match manager.allocHandlersContiguousAligned entries count with
        | (.error error, _) => (.error error, apic)
        | (.ok vectors, manager) =>
          (.ok (vectors.map (⟨cpuId, apicId, ·⟩)), { apic with managers := apic.managers.set cpuId manager })

/-! ## What a block promises -/

/-- The slots of a run of vectors were free and have the new entries; the others are as they were. -/
def Takes (manager manager' : PerCpuIrqManager) (first count entry : Nat) : Prop :=
  ∀ slot, if first ≤ manager.vectorBase + slot ∧ manager.vectorBase + slot < first + count then
      slot < manager.slots ∧ manager.handlers slot = none ∧
        manager'.handlers slot = some (entry + (manager.vectorBase + slot - first))
    else manager'.handlers slot = manager.handlers slot

/-- The block is a run of vectors that were free, aligned to its length; the capability accepts it, and the
device then raises these vectors. -/
structure Programmable (capability : PciMsiCapability) (apic apic' : Apic) (cpuId count : Nat)
    (block : List MessageVectorRoute) : Prop where
  run : ∃ first manager manager', first % count = 0 ∧
    block.map (·.vector) = (List.range count).map (first + ·) ∧ apic.managers[cpuId]? = some manager ∧
    apic'.managers = apic.managers.set cpuId manager' ∧
    Takes manager manager' first count apic.nextMessageId
  valid : capability.validateDescriptors (block.map (·.descriptor)) = true
  programmed : ∃ capability', capability.enable (block.map (·.descriptor)) = .ok capability' ∧
    capability'.Covers block

variable {manager manager' : PerCpuIrqManager} {first count cpuId apicId start : Nat} {vectors : List Nat}
  {capability : PciMsiCapability}

lemma PerCpuIrqManager.freeWindow_eq_some {align : Nat} (h : manager.freeWindow count align = some start) :
    start + count ≤ manager.slots ∧ (manager.vectorBase + start) % align = 0 ∧
      ∀ i < count, manager.handlers (start + i) = none := by
  have hmem := mem_range.1 (mem_of_find?_eq_some h)
  have hfree := find?_some h
  simp only [Bool.and_eq_true, beq_iff_eq, all_eq_true, mem_range, Option.isNone_iff_eq_none] at hfree
  exact ⟨by omega, hfree⟩

/-- What a successful call of `alloc_handlers_contiguous_aligned` has taken. -/
lemma PerCpuIrqManager.alloc_run {entry : Nat} (hpos : count ≠ 0)
    (halloc : manager.allocHandlersContiguousAligned ((range count).map (entry + ·)) count =
      (.ok vectors, manager')) :
    ∃ first, first % count = 0 ∧ first + count ≤ 256 ∧ vectors = (range count).map (first + ·) ∧
      Takes manager manager' first count entry := by
  unfold allocHandlersContiguousAligned at halloc
  rw [if_neg (by simpa using hpos), length_map, length_range, max_eq_left (by omega)] at halloc
  split at halloc
  · cases halloc
  · rename_i start hwindow
    cases halloc
    obtain ⟨hfits, haligned, hfree⟩ := freeWindow_eq_some hwindow
    have hlegal := manager.legal
    refine ⟨_, haligned, by omega, rfl, fun slot => ?_⟩
    split
    · have hslot := hfree (slot - start) (by omega)
      rw [Nat.add_sub_cancel' (by omega)] at hslot
      have hentry : manager.vectorBase + slot - (manager.vectorBase + start) = slot - start := by omega
      refine ⟨by omega, hslot, ?_⟩
      simp only [hentry, if_pos (show start ≤ slot by omega), getElem?_map,
        getElem?_range (show slot - start < count by omega), Option.map_some, Option.some_or]
    · show (if start ≤ slot then _ else _) = _
      split
      · rw [getElem?_eq_none (by simp; omega), Option.none_or]
      · rfl

/-- A run of routes to one APIC. -/
def routes (cpuId apicId first count : Nat) : List MessageVectorRoute :=
  (List.range count).map fun i => ⟨cpuId, apicId, first + i⟩

/-- A run that is aligned to its length is one block to the capability. -/
lemma validateDescriptors_routes (hcount : capability.supportsCount count = true) (hpos : count ≠ 0)
    (hfirst : first % count = 0) (hlegal : first + count ≤ 256) :
    capability.validateDescriptors ((routes cpuId apicId first count).map (·.descriptor)) = true := by
  unfold PciMsiCapability.validateDescriptors
  split
  · rename_i hnil
    exact absurd (by simpa [routes] using hnil) hpos
  · rename_i base rest hcons
    have hbase : base = (⟨cpuId, apicId, first⟩ : MessageVectorRoute).descriptor := by
      have hhead := congrArg (·[0]?) hcons
      simpa [routes, getElem?_range (Nat.pos_of_ne_zero hpos)] using hhead.symm
    have hlength : (routes cpuId apicId first count).length = count := by simp [routes]
    simp only [length_map, hlength, hcount, hbase, Bool.true_and, Bool.and_eq_true, Bool.or_eq_true, all_eq_true]
    refine ⟨.inr ?_, ?_⟩
    · -- the low bits of the first vector are free for the number of the message
      have hpower : 2 ^ trailingZeros count = count := by
        simpa [PciMsiCapability.supportsCount, isPowerOfTwo] using (Bool.and_eq_true_iff.1 hcount).1
      rw [← hpower, beq_iff_eq, MessageVectorRoute.descriptor, Nat.and_two_pow_sub_one_eq_mod, hpower]
      exact hfirst
    · rintro ⟨descriptor, i⟩ hmem
      simp only [mk_mem_zipIdx_iff_getElem?, routes, getElem?_map, Option.map_eq_some_iff] at hmem
      obtain ⟨_, ⟨j, hj, rfl⟩, rfl⟩ := hmem
      obtain ⟨hi, rfl⟩ := List.getElem?_eq_some_iff.1 hj
      rw [length_range] at hi
      simp [MessageVectorRoute.descriptor]
      omega

/-- A block that is granted for a count that the capability supports can be programmed into it. -/
theorem msiBlock_programmable {apic apic' : Apic} {block : List MessageVectorRoute}
    (hcount : capability.supportsCount count = true)
    (hblock : apic.allocateMessageBlock count cpuId = (.ok block, apic')) :
    Programmable capability apic apic' cpuId count block := by
  unfold Apic.allocateMessageBlock at hblock
  dsimp only at hblock
  repeat' split at hblock
  any_goals cases hblock
  rename_i hpos _ apicId _ _ manager hmanager _ vectors manager' halloc
  obtain ⟨first, hfirst, hlegal, rfl, htakes⟩ := PerCpuIrqManager.alloc_run hpos halloc
  have hroutes : ((range count).map (first + ·)).map (⟨cpuId, apicId, ·⟩) =
      routes cpuId apicId first count := by
    simp [routes]
  rw [hroutes]
  have hvalid := @validateDescriptors_routes first count cpuId apicId capability hcount hpos hfirst hlegal
  refine ⟨⟨first, manager, manager', hfirst, by simp [routes], hmanager, rfl, htakes⟩, hvalid, ?_⟩
  -- what passes the check is programmed
  have henable : ∃ capability', capability.enable ((routes cpuId apicId first count).map (·.descriptor)) =
      .ok capability' := by
    unfold PciMsiCapability.enable
    split
    · rename_i hnil
      rw [hnil] at hvalid
      cases hvalid
    · exact ⟨_, if_pos hvalid⟩
  obtain ⟨capability', hok⟩ := henable
  refine ⟨capability', hok, PciMsiCapability.enable_covers hok fun route hroute => ?_⟩
  obtain ⟨i, hi, rfl⟩ := mem_map.1 hroute
  have hi := mem_range.1 hi
  show first + i < 256
  omega

/-- One CPU with four vectors, the first of them taken. -/
def oneCpu : Apic :=
  ⟨[⟨0x20, 4, fun slot => if slot = 0 then some 7 else none, by decide⟩], fun _ => some 1, 8⟩

def twoMessages : PciMsiCapability := ⟨true, true, ⟨1, by decide⟩, false, 0, 0, 0, 0, 0⟩

theorem msiBlock_programmable_oneCpu : twoMessages.supportsCount 2 = true ∧
    Programmable twoMessages oneCpu (oneCpu.allocateMessageBlock 2 0).2 0 2 [⟨0, 1, 0x22⟩, ⟨0, 1, 0x23⟩] :=
  ⟨by decide, msiBlock_programmable (by decide) (Prod.ext (by decide +kernel) rfl)⟩

end Akarin.Interrupt
