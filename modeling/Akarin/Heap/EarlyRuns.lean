/-
# Akarin.Heap.EarlyRuns -- runs of the early allocator

The boot heap on its own, over whole runs. Memory is added in regions that are apart from all that is free
or handed out; blocks are handed out and come back with their size, in any order. The list stays in
descending order and its regions apart, so that following it comes to an end, and a request is refused only
if no region of the list has room for it (`earlySound_run`).

The headers are in the free memory: a region has room for its own, and none of the blocks reaches into it.
-/
import Akarin.Heap.Phases

namespace Akarin.Heap

open Lib (runOps Meets run_invariant)
open List

/-! ## The list -/

namespace EarlyAllocator

/-- Each region ends before the one in front of it starts, and starts where a header may. -/
structure Ordered (heap : EarlyAllocator) : Prop where
  descending : heap.Pairwise fun a b => b.stop ≤ a.start
  starts : ∀ region ∈ heap, region.start % FreeRegion.headerAlign = 0

/-- The block at the address lies in one of the regions. A request for nothing takes a byte. -/
def HasRoom (heap : EarlyAllocator) (start size : Nat) : Prop :=
  ∃ region ∈ heap, region.start ≤ start ∧ start + max size 1 ≤ region.stop

/-- A request gets an aligned block of a region, and is refused only if there is none in any region. -/
def Serves (heap : EarlyAllocator) (size align : Nat) : Prop :=
  match heap.alloc size align with
  | some (start, _) => start % align = 0 ∧ heap.HasRoom start size
  | none => ∀ start, start % align = 0 → ¬ heap.HasRoom start size

variable {heap rest : EarlyAllocator} {node : FreeRegion} {size align start physStart : Nat}

lemma insertAfter_descending (h : heap.Pairwise fun a b => b.stop ≤ a.start) (hsize : 0 < node.size)
    (hnode : ∀ region ∈ heap, node.stop ≤ region.start ∨ region.stop ≤ node.start) :
    (heap.insertAfter node).Pairwise fun a b => b.stop ≤ a.start := by
  induction heap with
  | nil => exact pairwise_singleton ..
  | cons region rest ih =>
    obtain ⟨hnext, hrest⟩ := pairwise_cons.1 h
    obtain ⟨hregion, htail⟩ := forall_mem_cons.1 hnode
    simp only [insertAfter]
    split
    · refine pairwise_cons.2 ⟨fun other hother => ?_, ih hrest htail⟩
      rcases mem_cons.1 ((insertAfter_perm node rest).mem_iff.1 hother) with rfl | hold
      · simp only [FreeRegion.stop] at *
        omega
      · exact hnext other hold
    · have hbelow : region.stop ≤ node.start := by
        simp only [FreeRegion.stop] at *
        omega
      refine pairwise_cons.2 ⟨forall_mem_cons.2 ⟨hbelow, fun other hother => ?_⟩, h⟩
      have hother := hnext other hother
      rw [FreeRegion.stop] at hbelow
      omega

lemma allocFrom_none (hnone : allocFrom size align heap = none) :
    ∀ region ∈ heap, size ≤ region.stop → alignDown (region.stop - size) align < region.start := by
  induction heap with
  | nil => nofun
  | cons region rest ih =>
    simp only [allocFrom] at hnone
    split at hnone
    · split at hnone <;> cases hnone
    · rename_i hfits
      refine forall_mem_cons.2 ⟨fun hsize => ?_, ih (Option.map_eq_none_iff.1 hnone)⟩
      exact Nat.lt_of_not_le fun hle => hfits ⟨hsize, hle⟩

variable (h : heap.Ordered)
include h

lemma Ordered.addRegion (hbefore : heap.Tidy) (hafter : (heap.addRegion physStart size).Tidy) :
    (heap.addRegion physStart size).Ordered := by
  rcases addRegion_cases heap physStart size with hsame | ⟨node, heq, _, _, _, hsize, hstart⟩
  · rw [hsame]
    exact h
  · rw [heq] at hafter ⊢
    have hapart := ((insertNode_perm node heap).pairwise_iff fun {a b} hab => hab.symm).1 hafter.separate
    have hnode := (pairwise_cons.1 hapart).1
    -- at the head the comparison is the other way round, but the two never start at the same address
    have hinsert : heap.insertNode node = heap.insertAfter node := by
      cases heap with
      | nil => rfl
      | cons head rest =>
        have hhead := hnode head (mem_cons_self ..)
        have hroom := hbefore.sized head (mem_cons_self ..)
        simp only [insertNode, insertAfter]
        split
        · rw [if_neg (by omega)]
        · rw [if_pos]
          simp only [FreeRegion.stop, FreeRegion.headerSize] at *
          omega
    refine ⟨?_, fun region hregion => ?_⟩
    · rw [hinsert]
      exact insertAfter_descending h.descending (lt_of_lt_of_le (by decide) hsize) hnode
    · rcases mem_cons.1 ((insertNode_perm node heap).mem_iff.1 hregion) with rfl | hold
      · exact hstart
      · exact h.starts region hold

/-- A region keeps its place and its start when a block is cut off. -/
lemma Ordered.alloc (halloc : heap.alloc size align = some (start, rest)) : rest.Ordered := by
  obtain ⟨before, region, left, after, rfl, rfl, _, _, _, hone, hleft⟩ := allocFrom_cases halloc
  refine ⟨pairwise_carve h.descending hone fun r hr x => ?_, fun r hr => ?_⟩
  · have hends := hleft r hr
    exact ⟨fun hx => by omega, fun hx => by omega⟩
  · simp only [mem_append] at hr
    rcases hr with hr | hr | hr
    · exact h.starts r (by simp [hr])
    · rw [(hleft r hr).1]
      exact h.starts region (by simp)
    · exact h.starts r (by simp [hr])

/-- The word's alignment that every request gets costs nothing, because every region starts at one. -/
lemma Ordered.serves (halign : powerOfTwo align = true) : heap.Serves size align := by
  unfold Serves
  split
  · rename_i start rest halloc
    obtain ⟨before, region, left, after, rfl, _, hlow, hhigh, _⟩ := allocFrom_cases halloc
    exact ⟨alloc_aligned halign halloc, region, by simp, hlow, hhigh⟩
  · rename_i halloc
    rintro start hmod ⟨region, hregion, hlow, hhigh⟩
    have hnone := allocFrom_none halloc region hregion (by omega)
    have hstart := h.starts region hregion
    rcases le_total align 8 with hle | hle
    · rw [max_eq_right hle] at hnone
      simp only [alignDown, FreeRegion.headerAlign] at *
      omega
    · rw [max_eq_left hle] at hnone
      have hdown : start ≤ alignDown (region.stop - max size 1) align := by
        calc start = start / align * align := (Nat.div_mul_cancel (Nat.dvd_of_mod_eq_zero hmod)).symm
          _ ≤ _ := Nat.mul_le_mul_right _ (Nat.div_le_div_right (by omega))
      omega

end EarlyAllocator

/-! ## Runs -/

/-- Calls on the boot heap. -/
inductive EarlyOp where
  | alloc (size align : Nat)
  | giveBack (start size : Nat)
  | addRegion (physStart size : Nat)

namespace MemorySubsystem

def earlyStep (m : MemorySubsystem) : EarlyOp → MemorySubsystem
  | .alloc size align => m.bootHeapAlloc size align false
  | .giveBack start size => m.bootHeapDealloc start size
  | .addRegion physStart size => { m with heap := m.heap.addRegion physStart size }

/-- A live block comes back with its size, and a new region is apart from what is free or live. -/
def Proper (m : MemorySubsystem) : EarlyOp → Prop
  | .alloc _ align => powerOfTwo align = true
  | .giveBack start size => ∃ b ∈ m.live, b.start = start ∧ b.size = size
  | .addRegion physStart size =>
    (∀ region ∈ m.heap, physToVirt (physStart + size) ≤ region.start ∨ region.stop ≤ physToVirt physStart) ∧
      ∀ b ∈ m.live, physToVirt (physStart + size) ≤ b.start ∨ b.start + b.extent ≤ physToVirt physStart

instance (m : MemorySubsystem) (op : EarlyOp) : Decidable (m.Proper op) := by
  cases op <;> unfold Proper <;> infer_instance

/-- The list is in order, on top of what the boot heap has to keep: its regions hold their headers, lie
above the low memory and reach into no live block. -/
structure EarlySound (m : MemorySubsystem) : Prop where
  boot : BootSound m.heap m.live
  ordered : m.heap.Ordered

variable {m : MemorySubsystem}

lemma EarlySound.step (h : m.EarlySound) {op : EarlyOp} (hop : m.Proper op) :
    (m.earlyStep op).EarlySound := by
  cases op with
  | alloc size align =>
    simp only [earlyStep, bootHeapAlloc]
    split
    · exact h
    · exact ⟨h.boot.alloc ‹_› hop, h.ordered.alloc ‹_›⟩
  | giveBack start size =>
    obtain ⟨b, hb, rfl, rfl⟩ := hop
    simp only [earlyStep, bootHeapDealloc]
    split
    · exact h
    · have hboot := h.boot.dealloc hb ‹_›
      exact ⟨hboot, h.ordered.addRegion h.boot.tidy hboot.tidy⟩
  | addRegion physStart size =>
    have hboot : BootSound (m.heap.addRegion physStart size) m.live := by
      refine h.boot.addRegion (.refl _) fun byte hlow hhigh => ⟨?_, fun b hb hin => ?_⟩
      · rintro ⟨region, hregion, hin⟩
        have hapart := hop.1 region hregion
        omega
      · have hapart := hop.2 b hb
        simp only [Block.Holds] at hin
        omega
    exact ⟨hboot, h.ordered.addRegion h.boot.tidy hboot.tidy⟩

/-- From an allocator without memory, whatever regions are added to it and whatever is asked of it. -/
theorem earlySound_run (ops : List EarlyOp) (hops : Meets earlyStep Proper (boot []) ops) :
    (runOps earlyStep (boot []) ops).EarlySound ∧ ∀ size align, powerOfTwo align = true →
      (runOps earlyStep (boot []) ops).heap.Serves size align := by
  have hempty : (boot []).EarlySound := by
    refine ⟨⟨⟨.nil, nofun⟩, ?_, nofun, nofun, nofun, nofun, .nil⟩, .nil, nofun⟩
    rintro _ ⟨_, hregion, _⟩
    cases hregion
  have h := run_invariant (fun _ _ hm hop => hm.step hop) hempty hops
  exact ⟨h, fun _ _ halign => h.ordered.serves halign⟩

/-- The first region reaches into the low memory; the block at the end of the second comes back. -/
def twoRegions : List EarlyOp :=
  [.addRegion 0x8000 0x10000, .addRegion 0x100000 0x3000, .alloc 100 64, .alloc 0x1000 0x1000,
    .giveBack (physToVirt 0x102f80) 100, .alloc 0 1]

theorem earlySound_twoRegions : Meets earlyStep Proper (boot []) twoRegions ∧
    (runOps earlyStep (boot []) twoRegions).EarlySound ∧ ∀ size align, powerOfTwo align = true →
      (runOps earlyStep (boot []) twoRegions).heap.Serves size align := by
  have hproper : Meets earlyStep Proper (boot []) twoRegions := by decide +kernel
  exact ⟨hproper, earlySound_run twoRegions hproper⟩

end MemorySubsystem

end Akarin.Heap
