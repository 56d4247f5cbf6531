/-
# Akarin.Heap.Subsystem -- the allocators one after the other

The memory subsystem serves its callers from the boot heap until the frame allocator is there, and from
then on small layouts from the slab allocator and large ones as whole pages. A block is given back to the
allocator of the phase in which it is given back, whichever one it came from: a small block of the boot
heap is looked up as an object of a slab page, a large one is taken for pages of the frame allocator.

`HeapLaw` says that live blocks are apart and aligned and that no byte of one can be allocated.
-/
import Akarin.Heap.Sections

namespace Akarin.Heap

open Lib (runOps Chain)

/-! ## Model -/

/-- Which allocators are up. -/
inductive AllocPhase where
  | uninit
  | bootHeap
  | bootstrapSlub
  | perCpuSlub
  deriving DecidableEq

def SMALL_ALLOC_LIMIT : Nat := 2048

def isSmallLayout (size align : Nat) : Bool := size ≤ SMALL_ALLOC_LIMIT && align ≤ SMALL_ALLOC_LIMIT

/-- `div_ceil` by the page size. -/
def pageCount (size : Nat) : Nat := (size + (PAGE_SIZE - 1)) / PAGE_SIZE

def powerOfTwo (n : Nat) : Bool := 2 ^ orderOf n == n

/-- `Layout::from_size_align` succeeds. -/
def validLayout (size align : Nat) : Bool := powerOfTwo align && size + align ≤ 2 ^ 63

def checkedNextPowerOfTwo (n : Nat) : Option Nat :=
  if 2 ^ orderOf n < 2 ^ 64 then some (2 ^ orderOf n) else none

def alignedPageCount (numPages alignment : Nat) : Option Nat :=
  match checkedNextPowerOfTwo (max numPages 1),
      checkedNextPowerOfTwo (pageCount (max alignment PAGE_SIZE)) with
  | some pages, some alignPages => some (max pages alignPages)
  | _, _ => none

/-- Which allocator a block came from. -/
inductive Home where
  | boot
  | object (k : Nat)
  | frames
  deriving DecidableEq

/-- A block that was handed out, by `alloc_pages` if it is `paged`. -/
structure Block where
  start : Nat
  size : Nat
  align : Nat
  home : Home
  paged : Bool
  deriving DecidableEq

variable [LLFree]

/-- What exists once the boot heap is left: the frame allocator, and the slab allocator with the cache of
the bootstrap first and that of the CPU `n` at `n + 1`. -/
structure Runtime where
  frames : FrameAllocator
  slab : Slab

/-- History: the blocks that are live. -/
structure MemorySubsystem where
  phase : AllocPhase
  map : List Arena
  heap : EarlyAllocator
  runtime : Option Runtime
  live : List Block

/-- The frame allocator takes back the pages that the slab allocator has let go; `none` is a panic. -/
def Runtime.settle (r : Runtime) (frames : FrameAllocator) (slab : Slab) : Option Runtime :=
  ((r.slab.pages.filter fun page => !slab.pages.contains page).foldlM
    (fun (frames : FrameAllocator) page => frames.dealloc (physToVirt page.1) 1) frames).map
    fun frames => ⟨frames, slab⟩

namespace MemorySubsystem

/-- `init_boot_heap`. -/
def boot (map : List Arena) : MemorySubsystem where
  phase := .bootHeap
  map := map
  heap := .initFromMap [] map
  runtime := none
  live := []

/-- Where a call fails or panics, the state is left as it is. -/
def settle (m : MemorySubsystem) (r : Runtime) (frames : FrameAllocator) (slab : Slab)
    (live : List Block) : MemorySubsystem :=
  match r.settle frames slab with
  | none => m
  | some r => { m with runtime := some r, live := live }

variable (m : MemorySubsystem)

def bootHeapAlloc (size align : Nat) (paged : Bool) : MemorySubsystem :=
  match m.heap.alloc size align with
  | none => m
  | some (start, heap) => { m with heap := heap, live := ⟨start, size, align, .boot, paged⟩ :: m.live }

/-- The history forgets the block at the address. -/
def without (start : Nat) : List Block := m.live.filter (·.start ≠ start)

def bootHeapDealloc (ptr size : Nat) : MemorySubsystem :=
  match virtToPhys ptr with
  | none => m
  | some phys => { m with heap := m.heap.addRegion phys (max size 1), live := m.without ptr }

/-- `alloc_pages_with_zone`. The zone and the block that the frame allocator picks are in `pick`; the size
is what the caller counts on. -/
def allocPagesWithZone (numPages alignment : Nat) (pick : Option (Zone × Nat))
    (size : Nat) (paged : Bool) : MemorySubsystem :=
  if numPages = 0 then m
  else
    match m.runtime with
    | some r =>
      match alignedPageCount numPages alignment, pick with
      | some count, some (zone, id) =>
        match r.frames.alloc zone id count with
        | none => m
        | some (phys, frames) =>
          { m with
            runtime := some { r with frames := frames }
            live := ⟨physToVirt phys, size, alignment, .frames, paged⟩ :: m.live }
      | _, _ => m
    | none =>
      if validLayout (numPages * PAGE_SIZE) (max alignment PAGE_SIZE) then
        m.bootHeapAlloc (numPages * PAGE_SIZE) (max alignment PAGE_SIZE) paged
      else m

/-- `alloc_small`: the slab allocator turns to the frame allocator when its cache has no page. -/
def allocSmall (r : Runtime) (cache size align : Nat) (pick : Option (Zone × Nat)) : MemorySubsystem :=
  match classIndex size align with
  | none => m
  | some k =>
    match r.slab.alloc cache k [] with
    | (slab, .object ptr) => m.settle r r.frames slab (⟨ptr, size, align, .object k, false⟩ :: m.live)
    | (slab, .outOfMemory) =>
      match pick.bind fun (zone, id) => r.frames.alloc zone id 1 with
      | none => m.settle r r.frames slab m.live
      | some (phys, frames) =>
        match slab.alloc cache k [phys] with
        | (slab, .object ptr) =>
          m.settle r frames slab (⟨ptr, size, align, .object k, false⟩ :: m.live)
        | _ => m
    | (_, .panicked) => m

def allocRuntime (cache size align : Nat) (pick : Option (Zone × Nat)) : MemorySubsystem :=
  if isSmallLayout size align then
    match m.runtime with
    | none => m
    | some r => m.allocSmall r cache size align pick
  else m.allocPagesWithZone (pageCount size) align pick size false

/-- `alloc_global`. A layout without bytes gets an address that belongs to no allocator. -/
def allocGlobal (cpu size align : Nat) (pick : Option (Zone × Nat)) : MemorySubsystem :=
  if size = 0 then m
  else
    match m.phase with
    | .uninit => m
    | .bootHeap => m.bootHeapAlloc size align false
    | .bootstrapSlub => m.allocRuntime 0 size align pick
    | .perCpuSlub => m.allocRuntime (cpu + 1) size align pick

def allocPages (numPages alignment : Nat) (pick : Option (Zone × Nat)) : MemorySubsystem :=
  m.allocPagesWithZone numPages alignment pick (numPages * PAGE_SIZE) true

def deallocPages (addr numPages : Nat) : MemorySubsystem :=
  if numPages = 0 then m
  else
    match m.runtime with
    | some r =>
      match r.frames.dealloc addr numPages with
      | none => m
      | some frames =>
        { m with runtime := some { r with frames := frames }, live := m.without addr }
    | none =>
      if validLayout (numPages * PAGE_SIZE) PAGE_SIZE then
        m.bootHeapDealloc addr (numPages * PAGE_SIZE)
      else m

def deallocRuntime (cache ptr size align : Nat) : MemorySubsystem :=
  if isSmallLayout size align then
    match m.runtime with
    | none => m
    | some r => m.settle r r.frames (r.slab.dealloc cache ptr size align) (m.without ptr)
  else m.deallocPages ptr (pageCount size)

def deallocGlobal (cpu ptr size align : Nat) : MemorySubsystem :=
  if ptr = 0 then m
  else
    match m.phase with
    | .uninit => m
    | .bootHeap => m.bootHeapDealloc ptr size
    | .bootstrapSlub => m.deallocRuntime 0 ptr size align
    | .perCpuSlub => m.deallocRuntime (cpu + 1) ptr size align

/-- `enter_next_phase`. The boot heap is left right after `init_frame_allocator`, which takes the memory
as it is for the pages of the slab allocator. -/
def enterNextPhase (cpuCount maxOrder : Nat) (memory : Nat → Nat) : MemorySubsystem :=
  match m.phase with
  | .uninit => m
  | .bootHeap =>
    match initFrameAllocator maxOrder m.heap m.map with
    | .error _ => m
    | .ok boot =>
      { m with
        phase := .bootstrapSlub
        heap := boot.heap
        runtime := some ⟨boot.frames, .new boot.sections memory (cpuCount + 1)⟩ }
  | .bootstrapSlub =>
    match m.runtime.bind fun r => r.settle r.frames (r.slab.release 0) with
    | none => m
    | some r => { m with phase := .perCpuSlub, runtime := some r }
  | .perCpuSlub => m

/-- The owner of a block stores a word in it. -/
def store (address value : Nat) : MemorySubsystem :=
  { m with runtime := m.runtime.map fun r => { r with slab := r.slab.write address value } }

end MemorySubsystem

/-- Calls on the heap, and stores of its users. -/
inductive HeapOp where
  | allocGlobal (cpu size align : Nat) (pick : Option (Zone × Nat))
  | deallocGlobal (cpu ptr size align : Nat)
  | allocPages (numPages alignment : Nat) (pick : Option (Zone × Nat))
  | deallocPages (addr numPages : Nat)
  | enterNextPhase (cpuCount maxOrder : Nat) (memory : Nat → Nat)
  | store (address value : Nat)

namespace MemorySubsystem

section

variable (m : MemorySubsystem)

def step : HeapOp → MemorySubsystem
  | .allocGlobal cpu size align pick => m.allocGlobal cpu size align pick
  | .deallocGlobal cpu ptr size align => m.deallocGlobal cpu ptr size align
  | .allocPages numPages alignment pick => m.allocPages numPages alignment pick
  | .deallocPages addr numPages => m.deallocPages addr numPages
  | .enterNextPhase cpuCount maxOrder memory => m.enterNextPhase cpuCount maxOrder memory
  | .store address value => m.store address value

def run (ops : List HeapOp) : MemorySubsystem := runOps step m ops

/-! ## What is asked of the callers, and what the subsystem promises -/

/-- There is a cache for the CPU. -/
def HasCache (cpu : Nat) : Prop :=
  ∀ r ∈ m.runtime, cpu + 1 < r.slab.caches.length
deriving Decidable

/-- Alignments are powers of two; what is given back is live and has its layout; a store stays inside a
live block. -/
def Legal : HeapOp → Prop
  | .allocGlobal cpu _ align _ => powerOfTwo align = true ∧ m.HasCache cpu
  | .deallocGlobal cpu ptr size align => m.HasCache cpu ∧
      ∃ b ∈ m.live, b.start = ptr ∧ b.size = size ∧ b.align = align ∧ b.paged = false
  | .allocPages _ alignment _ => powerOfTwo alignment = true
  | .deallocPages addr numPages =>
    ∃ b ∈ m.live, b.start = addr ∧ b.size = numPages * PAGE_SIZE ∧ b.paged = true
  | .enterNextPhase .. => True
  | .store address _ => ∃ b ∈ m.live, b.start ≤ address ∧ address + 8 ≤ b.start + b.size

end

/-- The block starts at a page and has all of the frames that are given back with it. -/
def Fills (b : Block) (numPages : Nat) : Prop :=
  b.start % PAGE_SIZE = 0 ∧ 2 ^ orderOf numPages * PAGE_SIZE ≤ b.size
deriving Decidable

/-- A block of the boot heap that is given back as pages is made of these pages. -/
def GoesBackWhole (m : MemorySubsystem) (ptr numPages : Nat) : Prop :=
  ∀ b ∈ m.live, b.start = ptr → b.home = .boot → Fills b numPages
deriving Decidable

/-- The zone of a picked block starts at a multiple of the alignment. -/
def ZoneAligned (align : Nat) (pick : Option (Zone × Nat)) : Prop :=
  ∀ p ∈ pick, physToVirt p.1.start % align = 0
deriving Decidable

/-- Where the runtime serves a call: a block of the boot heap does not go back as pages it does not have
for itself, a large alignment is met by the zone, and the slab allocator does not get the physical page
zero. -/
def Careful (m : MemorySubsystem) : HeapOp → Prop
  | .allocGlobal _ size align pick => m.runtime.isSome = true →
      if isSmallLayout size align then pick ≠ some (.low, 0) else ZoneAligned align pick
  | .allocPages _ alignment pick => m.runtime.isSome = true → ZoneAligned alignment pick
  | .deallocGlobal _ ptr size align => m.runtime.isSome = true → isSmallLayout size align = false →
      m.GoesBackWhole ptr (pageCount size)
  | .deallocPages addr numPages => m.runtime.isSome = true → m.GoesBackWhole addr numPages
  | .enterNextPhase .. => True
  | .store .. => True

end MemorySubsystem

/-- The byte is in the page, in the direct map. -/
def InPage (page byte : Nat) : Prop :=
  physToVirt page ≤ byte ∧ byte < physToVirt page + PAGE_SIZE

/-- The byte belongs to the block. -/
def Block.Has (b : Block) (byte : Nat) : Prop := b.start ≤ byte ∧ byte < b.start + b.size

/-- The byte is in an object of a free list. -/
def Slab.Offers (s : Slab) (byte : Nat) : Prop :=
  ∃ page k free a, (page, k) ∈ s.pages ∧ Chain s.memory (s.metas page).freeHead free ∧ a ∈ free ∧
    a ≤ byte ∧ byte < a + objectSize k

/-- Some allocator that is in use can hand the byte out. -/
def MemorySubsystem.Available (m : MemorySubsystem) (byte : Nat) : Prop :=
  match m.runtime with
  | none => m.heap.Free byte
  | some r => (∃ frame, r.frames.free frame = true ∧ InPage (frame * PAGE_SIZE) byte) ∨ r.slab.Offers byte

/-- What owners of live blocks rely on. -/
structure MemorySubsystem.HeapLaw (m : MemorySubsystem) : Prop where
  apart : m.live.Pairwise fun a b => a.start + a.size ≤ b.start ∨ b.start + b.size ≤ a.start
  aligned : ∀ b ∈ m.live, b.start % b.align = 0
  unavailable : ∀ b ∈ m.live, ∀ byte, b.Has byte → ¬ m.Available byte

end Akarin.Heap
