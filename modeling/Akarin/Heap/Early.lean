/-
# Akarin.Heap.Early -- the boot heap

The early allocator keeps the free regions in a list, highest address first, and serves a request from
the end of the first region that has room for it. Regions come from the usable arenas of the memory map
above the low memory, and from blocks that are given back. A region's header lies in the region itself, so
that its start is aligned to the header and what is left of it is dropped when the header does not fit any
more.

What is free shrinks by the block that is handed out (`EarlyAllocator.alloc_carves`), and grows by no more
than the bytes that are given back (`EarlyAllocator.addRegion_adds`).
-/
import Akarin.Heap.Pages

namespace Akarin.Heap

open List

/-! ## Model -/

/-- What the boot map says of a range. -/
inductive ArenaKind where
  | usable
  | reserved
  | acpiReclaimable
  | acpiNvs
  | badMemory
  | bootloaderProvideInfo
  | bootloaderReserved
  | executableAndModules
  | kernelStack
  | kernelPageTable
  | kernelSymbolTable
  | kernelReserved
  | framebuffer
  | endOfMemoryMap
  | unknown (kind : Nat)
  deriving DecidableEq

/-- An arena of the boot memory map, in physical addresses. -/
structure Arena where
  start : Nat
  stop : Nat
  kind : ArenaKind

/-- 64 KiB. -/
def LOW_MEM_THRESHOLD : Nat := 0x10000

/-- `FreeRegion`: its address in the direct map and its size in bytes, the header included. -/
structure FreeRegion where
  start : Nat
  size : Nat

def FreeRegion.stop (region : FreeRegion) : Nat := region.start + region.size

/-- The size and the alignment of the header. -/
def FreeRegion.headerSize : Nat := 16

def FreeRegion.headerAlign : Nat := 8

/-- `EarlyAllocator`, by the regions of its list. -/
abbrev EarlyAllocator := List FreeRegion

namespace EarlyAllocator

/-- `insert_node` behind the head. -/
def insertAfter (node : FreeRegion) : EarlyAllocator → EarlyAllocator
  | [] => [node]
  | region :: rest =>
    if region.start > node.start then region :: insertAfter node rest else node :: region :: rest

def insertNode (node : FreeRegion) : EarlyAllocator → EarlyAllocator
  | [] => [node]
  | head :: rest =>
    if node.start > head.start then node :: head :: rest else head :: insertAfter node rest

section

variable (heap : EarlyAllocator)

/-- The part of `add_region` above the low memory. -/
def addHighRegion (start size : Nat) : EarlyAllocator :=
  let alignedStart := alignUp start FreeRegion.headerAlign
  let stop := start + size
  if alignedStart ≥ stop then heap
  else if stop - alignedStart < FreeRegion.headerSize then heap
  else heap.insertNode ⟨physToVirt alignedStart, stop - alignedStart⟩

def addRegion (physStart size : Nat) : EarlyAllocator :=
  if physStart < LOW_MEM_THRESHOLD then
    let stop := physStart + size
    if stop ≤ LOW_MEM_THRESHOLD then heap
    else heap.addHighRegion LOW_MEM_THRESHOLD (stop - LOW_MEM_THRESHOLD)
  else heap.addHighRegion physStart size

def initFromMap (map : List Arena) : EarlyAllocator :=
  map.foldl (fun heap arena =>
    if arena.kind = .usable then heap.addRegion arena.start (arena.stop - arena.start) else heap) heap

end

/-- The loop of `alloc`: the address in the direct map, and the regions that are left. -/
def allocFrom (size align : Nat) : EarlyAllocator → Option (Nat × EarlyAllocator)
  | [] => none
  | region :: rest =>
    let start := alignDown (region.stop - size) align
    if size ≤ region.stop ∧ region.start ≤ start then
      let leftover := start - region.start
      if leftover < FreeRegion.headerSize then some (start, rest)
      else some (start, ⟨region.start, leftover⟩ :: rest)
    else (allocFrom size align rest).map fun (found, rest) => (found, region :: rest)

/-- `alloc`; the source returns the physical address and its callers go back to the direct map. -/
def alloc (heap : EarlyAllocator) (size align : Nat) : Option (Nat × EarlyAllocator) :=
  heap.allocFrom (max size 1) (max align 8)

/-! ## What is free -/

/-- The byte at an address of the direct map is in a free region. -/
def Free (heap : EarlyAllocator) (address : Nat) : Prop :=
  ∃ region ∈ heap, region.start ≤ address ∧ address < region.stop

/-- The regions do not overlap, and each has room for its header. -/
structure Tidy (heap : EarlyAllocator) : Prop where
  separate : heap.Pairwise fun a b => a.stop ≤ b.start ∨ b.stop ≤ a.start
  sized : ∀ region ∈ heap, FreeRegion.headerSize ≤ region.size

variable {heap rest : EarlyAllocator} {node region : FreeRegion} {size align start : Nat}

lemma insertAfter_perm (node : FreeRegion) (heap : EarlyAllocator) :
    (heap.insertAfter node).Perm (node :: heap) := by
  fun_induction insertAfter node heap with
  | case2 region _ _ ih => exact (ih.cons region).trans (List.Perm.swap ..)
  | _ => exact List.Perm.refl _

lemma insertNode_perm (node : FreeRegion) (heap : EarlyAllocator) :
    (heap.insertNode node).Perm (node :: heap) := by
  cases heap with
  | nil => exact List.Perm.refl _
  | cons region rest =>
    simp only [insertNode]
    split
    · exact List.Perm.refl _
    · exact ((insertAfter_perm node rest).cons region).trans (List.Perm.swap ..)

/-- What `add_region` does: nothing, or it adds one region that lies inside the bytes it is given. -/
lemma addRegion_cases (heap : EarlyAllocator) (physStart size : Nat) :
    heap.addRegion physStart size = heap ∨
      ∃ node : FreeRegion, heap.addRegion physStart size = heap.insertNode node ∧
        physToVirt physStart ≤ node.start ∧ node.stop ≤ physToVirt (physStart + size) ∧
        physToVirt LOW_MEM_THRESHOLD ≤ node.start ∧ FreeRegion.headerSize ≤ node.size ∧
        node.start % FreeRegion.headerAlign = 0 := by
  have hhigh : ∀ start size, LOW_MEM_THRESHOLD ≤ start → heap.addHighRegion start size = heap ∨
      ∃ node : FreeRegion, heap.addHighRegion start size = heap.insertNode node ∧
        physToVirt start ≤ node.start ∧ node.stop ≤ physToVirt (start + size) ∧
        physToVirt LOW_MEM_THRESHOLD ≤ node.start ∧ FreeRegion.headerSize ≤ node.size ∧
        node.start % FreeRegion.headerAlign = 0 := by
    intro start size hlow
    simp only [addHighRegion]
    split
    · exact .inl rfl
    · split
      · exact .inl rfl
      · refine .inr ⟨_, rfl, ?_, ?_, ?_, ?_, Nat.mul_add_mod_self_right ..⟩ <;>
          simp only [FreeRegion.stop, physToVirt, alignUp, FreeRegion.headerAlign] at * <;> omega
  simp only [addRegion]
  split
  · split
    · exact .inl rfl
    · rcases hhigh LOW_MEM_THRESHOLD (physStart + size - LOW_MEM_THRESHOLD) le_rfl with
        hsame | ⟨node, heq, hlow, hstop, hthreshold⟩
      · exact .inl hsame
      · refine .inr ⟨node, heq, ?_, ?_, hthreshold⟩ <;>
          simp only [physToVirt] at * <;> omega
  · exact hhigh physStart size (by omega)

/-- The bytes that become free are among those that are given back, and not in the low memory. -/
lemma addRegion_adds {physStart address : Nat} (h : (heap.addRegion physStart size).Free address) :
    heap.Free address ∨ (physToVirt physStart ≤ address ∧ address < physToVirt (physStart + size) ∧
        physToVirt LOW_MEM_THRESHOLD ≤ address) := by
  rcases addRegion_cases heap physStart size with hsame | ⟨node, heq, hlow, hstop, hthreshold, _⟩
  · rw [hsame] at h
    exact .inl h
  · obtain ⟨region, hmem, hbounds⟩ := h
    rw [heq] at hmem
    rcases mem_cons.1 ((insertNode_perm node heap).mem_iff.1 hmem) with rfl | hold
    · exact .inr ⟨by omega, by omega, by omega⟩
    · exact .inl ⟨region, hold, hbounds⟩

/-- Regions stay apart if what is given back is not free already. -/
lemma addRegion_tidy {physStart : Nat} (h : heap.Tidy)
    (hnot : ∀ address, physToVirt physStart ≤ address → address < physToVirt (physStart + size) →
      ¬ heap.Free address) : (heap.addRegion physStart size).Tidy := by
  rcases addRegion_cases heap physStart size with hsame | ⟨node, heq, hlow, hstop, _, hsize, _⟩
  · rw [hsame]
    exact h
  · rw [heq]
    constructor
    · rw [(insertNode_perm node heap).pairwise_iff fun {a b} hab => hab.symm]
      refine pairwise_cons.2 ⟨fun region hmem => ?_, h.separate⟩
      have hregion := h.sized region hmem
      by_contra hover
      simp only [FreeRegion.stop, FreeRegion.headerSize] at *
      -- a byte that is in both is free already
      rcases le_total node.start region.start with hle | hle
      · exact hnot region.start (by omega) (by omega)
          ⟨region, hmem, le_rfl, by rw [FreeRegion.stop]; omega⟩
      · exact hnot node.start (by omega) (by omega)
          ⟨region, hmem, hle, by rw [FreeRegion.stop]; omega⟩
    · intro region hmem
      rcases mem_cons.1 ((insertNode_perm node heap).mem_iff.1 hmem) with rfl | hold
      · exact hsize
      · exact h.sized region hold

/-- What `alloc` does to the list: a block is cut off the end of one region, and `left` is what is kept of
the region. -/
lemma allocFrom_cases (h : allocFrom size align heap = some (start, rest)) :
    ∃ (before : EarlyAllocator) (region : FreeRegion) (left after : EarlyAllocator),
      heap = before ++ region :: after ∧ rest = before ++ (left ++ after) ∧ region.start ≤ start ∧
      start + size ≤ region.stop ∧ start % align = 0 ∧ left.Pairwise (fun _ _ => False) ∧
      ∀ r ∈ left, r.start = region.start ∧ r.stop = start ∧ FreeRegion.headerSize ≤ r.size := by
  induction heap generalizing rest with
  | nil => cases h
  | cons region regions ih =>
    simp only [allocFrom] at h
    split at h
    · rename_i hfits
      have hdown : alignDown (region.stop - size) align ≤ region.stop - size := Nat.div_mul_le_self _ _
      have hmod : alignDown (region.stop - size) align % align = 0 := Nat.mul_mod_left _ _
      split at h
      · cases h
        exact ⟨[], region, [], regions, rfl, rfl, hfits.2, by omega, hmod, .nil, nofun⟩
      · cases h
        refine ⟨[], region, [_], regions, rfl, rfl, hfits.2, by omega, hmod, pairwise_singleton .., ?_⟩
        exact forall_mem_singleton.2 ⟨rfl, Nat.add_sub_cancel' hfits.2, Nat.le_of_not_lt ‹_›⟩
    · obtain ⟨⟨found, rest'⟩, hfound, heq⟩ := Option.map_eq_some_iff.1 h
      obtain ⟨rfl, rfl⟩ := Prod.mk.inj heq
      obtain ⟨before, chosen, left, after, rfl, rfl, hcut⟩ := ih hfound
      exact ⟨region :: before, chosen, left, after, rfl, rfl, hcut⟩

/-- What is left of a region may stand in its place. -/
lemma pairwise_carve {R : FreeRegion → FreeRegion → Prop} {before left after : EarlyAllocator}
    (h : (before ++ region :: after).Pairwise R) (hone : left.Pairwise fun _ _ => False)
    (hleft : ∀ r ∈ left, ∀ x, (R region x → R r x) ∧ (R x region → R x r)) :
    (before ++ (left ++ after)).Pairwise R := by
  obtain ⟨hbefore, hregion, hacross⟩ := pairwise_append.1 h
  obtain ⟨hnext, hafter⟩ := pairwise_cons.1 hregion
  refine pairwise_append.2 ⟨hbefore, pairwise_append.2 ⟨hone.imp False.elim, hafter, fun r hr x hx => ?_⟩,
    fun x hx r hr => ?_⟩
  · exact (hleft r hr x).1 (hnext x hx)
  · rcases mem_append.1 hr with hr | hr
    · exact (hleft r hr x).2 (hacross x hx region (mem_cons_self ..))
    · exact hacross x hx r (mem_cons_of_mem _ hr)

/-- The block that is handed out was free, and is not free any more. -/
lemma alloc_carves (htidy : heap.Tidy) (h : heap.alloc size align = some (start, rest)) :
    rest.Tidy ∧ (∀ address, rest.Free address → heap.Free address) ∧
      ∀ address, start ≤ address → address < start + max size 1 →
        heap.Free address ∧ ¬ rest.Free address := by
  obtain ⟨before, region, left, after, rfl, rfl, hstart, hstop, _, hone, hleft⟩ := allocFrom_cases h
  obtain ⟨_, hregion, hacross⟩ := pairwise_append.1 htidy.separate
  have hnext := (pairwise_cons.1 hregion).1
  -- what stays is a region of before, which does not reach into this one, or the rest of this one
  have hmem : ∀ r ∈ before ++ (left ++ after), (r ∈ before ++ region :: after ∧
      (r.stop ≤ region.start ∨ region.stop ≤ r.start)) ∨ r ∈ left := by
    intro r hr
    simp only [mem_append, mem_cons] at hr ⊢
    rcases hr with hr | hr | hr
    · exact .inl ⟨.inl hr, hacross r hr region (mem_cons_self ..)⟩
    · exact .inr hr
    · exact .inl ⟨.inr (.inr hr), (hnext r hr).symm⟩
  refine ⟨⟨?_, fun r hr => ?_⟩, ?_, fun address hlow hhigh => ⟨⟨region, by simp, by omega, by omega⟩, ?_⟩⟩
  · refine pairwise_carve htidy.separate hone fun r hr x => ?_
    have hends := hleft r hr
    exact ⟨fun hx => by omega, fun hx => by omega⟩
  · rcases hmem r hr with ⟨hold, _⟩ | hnew
    · exact htidy.sized r hold
    · exact (hleft r hnew).2.2
  · rintro address ⟨r, hr, hbounds⟩
    rcases hmem r hr with ⟨hold, _⟩ | hnew
    · exact ⟨r, hold, hbounds⟩
    · have hends := hleft r hnew
      exact ⟨region, by simp, by omega, by omega⟩
  · rintro ⟨r, hr, hbounds⟩
    rcases hmem r hr with ⟨_, hapart⟩ | hnew
    · omega
    · have hends := hleft r hnew
      omega

end EarlyAllocator

end Akarin.Heap
