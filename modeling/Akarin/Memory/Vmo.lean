/-
# Akarin.Memory.Vmo -- virtual-memory objects

A `Vmo` is an immutable node (`VmoShared` without its lock): a root, or a child together with the
parent it was derived from, so that a value of type `Vmo` is the whole path to the root and
`page_at`, `read` and `write` recurse along it. What is mutable, the `VmoInner` behind the lock,
lives in a `VmoHeap` under the VMO's id, next to the frame allocator and the physical memory.

The frame allocator is external code: it is a stream of answers, consumed one per call, about
which nothing is assumed here. The debug name of a VMO is left out.
-/
import Akarin.Lib.Action
import Akarin.Memory.Layout
import Akarin.Memory.VmoIndex

namespace Akarin.Memory

open Lib (Action)

abbrev Byte := BitVec 8

/-- What a page is for. -/
inductive VmoPagePurpose where
  | anonymous
  | pageTable
  | stack
  | heap
  | dma
  | fileBacked
  | kernelMeta
  deriving DecidableEq

/-- What `page_metadata` reports. -/
structure VmoPageMetadata where
  phys : Nat
  purpose : VmoPagePurpose
  committed : Bool
  deriving DecidableEq

/-- Where the pages come from. -/
inductive VmoBacking where
  | paged
  | physical (base : Nat)
  deriving DecidableEq

/-- How a child sees its parent. -/
inductive VmoChildKind where
  | sharedView
  | privateCow
  deriving DecidableEq

/-- Why a range is refused. -/
inductive VmoRangeOpError where
  | invalidArgument
  | invalidRange
  deriving DecidableEq

/-! ## Extents -/

/-- `PhysRun`, less its drop function. -/
structure PhysRun where
  physAddr : Nat
  number : Nat
  unitPageSize : Nat
  deriving DecidableEq

def PhysRun.lenBytes (run : PhysRun) : Nat := run.number * run.unitPageSize

/-- Pages next to each other in both spaces. -/
structure VmoExtent where
  offset : Nat
  frame : PhysRun
  purpose : VmoPagePurpose
  committed : Bool
  deriving DecidableEq

namespace VmoExtent

/-- `VmoExtent::end`. -/
def stop (extent : VmoExtent) : Nat := extent.offset + extent.frame.lenBytes

def contains (extent : VmoExtent) (offset : Nat) : Bool :=
  extent.offset ≤ offset && offset < extent.stop

def metadataAt (extent : VmoExtent) (offset : Nat) : Option VmoPageMetadata :=
  if extent.contains offset then
    some ⟨extent.frame.physAddr + (offset - extent.offset), extent.purpose, extent.committed⟩
  else none

lemma contains_iff {extent : VmoExtent} {offset : Nat} :
    extent.contains offset = true ↔ extent.offset ≤ offset ∧ offset < extent.stop := by
  simp [contains]

end VmoExtent

/-- `VmoInner`. -/
structure VmoInner where
  size : Nat
  streamSize : Nat
  flags : VmFlags
  pagerCookie : Option Nat
  extents : List VmoExtent
  index : VmoRangeIndex

namespace VmoInner

/-- `VmoInner { size, stream_size, flags, ..VmoInner::default() }`. -/
def fresh (size streamSize : Nat) (flags : VmFlags) : VmoInner :=
  ⟨size, streamSize, flags, none, [], .empty⟩

/-- The `snapshots` vector every mutator passes to `rebuild`. -/
def snapshots (extents : List VmoExtent) : List Snapshot :=
  extents.zipIdx.map fun (extent, owner) => (owner, extent.offset, extent.stop)

/-- Replace the extents and rebuild the index over them. -/
def reindexed (inner : VmoInner) (extents : List VmoExtent) : VmoInner :=
  { inner with extents := extents, index := .rebuild (snapshots extents) }

/-- `index.owner_at(offset)` followed by `extents.get(owner)`. -/
def extentAt (inner : VmoInner) (offset : Nat) : Option VmoExtent :=
  (inner.index.ownerAt offset).bind (inner.extents[·]?)

end VmoInner

/-! ## Objects and the heap -/

/-- `VmoShared`; a child keeps its parent's page size. -/
inductive Vmo where
  | root (id : Nat) (pageSize : Nat) (backing : VmoBacking)
  | child (id : Nat) (backing : VmoBacking) (kind : VmoChildKind) (parentOffset : Nat) (parent : Vmo)
  deriving DecidableEq

namespace Vmo

def id : Vmo → Nat
  | .root id _ _ => id
  | .child id _ _ _ _ => id

def pageSize : Vmo → Nat
  | .root _ pageSize _ => pageSize
  | .child _ _ _ _ parent => parent.pageSize

def backing : Vmo → VmoBacking
  | .root _ _ backing => backing
  | .child _ backing _ _ _ => backing

/-- `self.shared.child.is_some()`. -/
def isChild : Vmo → Bool
  | .root .. => false
  | .child .. => true

/-- `child.kind` where there is one. -/
def childKind : Vmo → Option VmoChildKind
  | .root .. => none
  | .child _ _ kind _ _ => some kind

/-- `child.parent` where there is one. -/
def parent : Vmo → Option Vmo
  | .root .. => none
  | .child _ _ _ _ parent => some parent

end Vmo

/-- The frame allocator: its answers, in call order. An answer is the physical address of the
frame, or `none` when the allocator refuses or the frame has no physical address. -/
structure FrameAllocator where
  unitPageSize : Nat
  unitPageSize_pos : 0 < unitPageSize
  answers : Nat → Option Nat
  calls : Nat

lemma page_pos : 0 < 0x1000 := by decide

/-- The VMOs with frames and memory. -/
structure VmoHeap where
  nextId : Nat
  inner : Nat → VmoInner
  allocator : FrameAllocator
  memory : Nat → Byte

namespace VmoHeap

variable (heap : VmoHeap)

/-- Write back one VMO's inner state. -/
def setInner (id : Nat) (inner : VmoInner) : VmoHeap :=
  { heap with inner := fun i => if i = id then inner else heap.inner i }

/-- Copy a list of bytes into physical memory. -/
def writePhys (addr : Nat) (bytes : List Byte) : VmoHeap :=
  { heap with memory := fun a =>
      if addr ≤ a ∧ a < addr + bytes.length then bytes.getD (a - addr) 0 else heap.memory a }

/-- The bytes of a physical range. -/
def readPhys (addr : Nat) (len : Nat) : List Byte :=
  (List.range len).map fun i => heap.memory (addr + i)

/-- What `allocator.alloc` answers next. -/
def nextFrame : Option Nat := heap.allocator.answers heap.allocator.calls

/-- The heap after one call of `allocator.alloc`. -/
def tick : VmoHeap :=
  { heap with allocator.calls := heap.allocator.calls + 1 }

@[simp] lemma setInner_inner_self (id : Nat) (inner : VmoInner) :
    (heap.setInner id inner).inner id = inner := by
  simp [setInner]

lemma setInner_inner_of_ne {id i : Nat} (inner : VmoInner) (h : i ≠ id) :
    (heap.setInner id inner).inner i = heap.inner i := by
  simp [setInner, h]

end VmoHeap

namespace Vmo

/-! ## Queries -/

section

variable (heap : VmoHeap) (vmo : Vmo)

def size : Nat := (heap.inner vmo.id).size

def flags : VmFlags := (heap.inner vmo.id).flags

def offsetIsPageAligned (offset : Nat) : Bool :=
  offset < vmo.size heap && offset % vmo.pageSize == 0

def canMap (flags : VmFlags) : Bool :=
  let current := vmo.flags heap
  current.contains .map && !(flags.contains .read && !current.contains .read) &&
    !(flags.contains .write && !current.contains .write) &&
    !(flags.contains .execute && !current.contains .execute)

end

section

variable (heap : VmoHeap)

/-- The page a VMO's own extents show at an offset. -/
def ownPage (id offset : Nat) : Option VmoPageMetadata :=
  ((heap.inner id).extentAt offset).bind (·.metadataAt offset)

/-- `inner.index.owner_at(offset).is_some()`. -/
def ownsPage (id offset : Nat) : Bool :=
  ((heap.inner id).index.ownerAt offset).isSome

/-- `page_at`. A shared view, and a private child before the split, answer through the parent's
window. -/
def pageAt (heap : VmoHeap) : Vmo → Nat → Option VmoPageMetadata
  | .root id pageSize backing, offset =>
    if (Vmo.root id pageSize backing).offsetIsPageAligned heap offset then
      ownPage heap id offset
    else none
  | .child id backing kind parentOffset parent, offset =>
    if (Vmo.child id backing kind parentOffset parent).offsetIsPageAligned heap offset then
      if kind = .privateCow ∧ ownsPage heap id offset = true then ownPage heap id offset
      else (checkedAdd parentOffset offset).bind (pageAt heap parent)
    else none

/-- `mapping_mmu_flags_for_page`: only the node itself is looked at. -/
def mappingMmuFlagsForPage (vmo : Vmo) (offset : Nat) (requested : MMUFlags) : MMUFlags :=
  if vmo.childKind ≠ some .privateCow ∨ requested.contains .write = false then requested
  else if !ownsPage heap vmo.id (offset / vmo.pageSize * vmo.pageSize) then
    requested.remove .write
  else requested

/-! ## Construction -/

/-- `Vmo::new`. -/
def new (size pageSize : Nat) (flags : VmFlags) : Vmo × VmoHeap :=
  (.root heap.nextId pageSize .paged,
    { heap.setInner heap.nextId (.fresh size size flags) with nextId := heap.nextId + 1 })

end

/-- `usize::div_ceil`. -/
def divCeil (a b : Nat) : Nat := if a % b = 0 then a / b else a / b + 1

/-- `Vmo::new_physical`: one borrowed extent over the whole range. Dividing by a zero page size
panics. -/
def newPhysical (size pageSize : Nat) (flags : VmFlags) (base : Nat) :
    Action VmoHeap Unit Vmo := fun heap =>
  if pageSize = 0 then (.error .panic, heap)
  else
    let run : PhysRun := ⟨base, divCeil size pageSize, heap.allocator.unitPageSize⟩
    let inner := (VmoInner.fresh size size flags).reindexed [⟨0, run, .dma, true⟩]
    (.ok (.root heap.nextId pageSize (.physical base)),
      { heap.setInner heap.nextId inner with nextId := heap.nextId + 1 })

section

variable (heap : VmoHeap) (vmo : Vmo)

/-- The shared part of `create_child` and `create_private_child`. -/
def deriveChild (kind : VmoChildKind) (backing : VmoBacking)
    (offset size : Nat) : Option (Vmo × VmoHeap) :=
  if (vmo.flags heap).contains .resizable || size == 0 || offset % vmo.pageSize != 0 ||
      size % vmo.pageSize != 0 then none
  else
    match checkedAdd offset size with
    | none => none
    | some stop =>
      if vmo.size heap < stop then none
      else
        let streamSize := min ((heap.inner vmo.id).streamSize - offset) size
        let inner := .fresh size streamSize ((vmo.flags heap).remove .resizable)
        some (.child heap.nextId backing kind offset vmo,
          { heap.setInner heap.nextId inner with nextId := heap.nextId + 1 })

def createChild (offset size : Nat) : Option (Vmo × VmoHeap) :=
  vmo.deriveChild heap .sharedView vmo.backing offset size

/-- `create_private_child` additionally asks for a paged parent. -/
def createPrivateChild (offset size : Nat) : Option (Vmo × VmoHeap) :=
  if vmo.backing ≠ .paged then none else vmo.deriveChild heap .privateCow .paged offset size

end

/-! ## Extent bookkeeping -/

section

variable (vmo : Vmo)

def trackFrame (offset : Nat) (frame : PhysRun) (purpose : VmoPagePurpose)
    (committed : Bool) (heap : VmoHeap) : Bool × VmoHeap :=
  let inner := heap.inner vmo.id
  if vmo.isChild then (false, heap)
  else if !vmo.offsetIsPageAligned heap offset || frame.unitPageSize != vmo.pageSize then
    (false, heap)
  else
    match checkedAdd offset frame.lenBytes with
    | none => (false, heap)
    | some stop =>
      if vmo.size heap < stop then (false, heap)
      else if inner.extents.any fun extent => offset < extent.stop && extent.offset < stop then
        (false, heap)
      else
        (true, heap.setInner vmo.id
          (inner.reindexed (inner.extents ++ [⟨offset, frame, purpose, committed⟩])))

def untrackFrame (offset : Nat) (heap : VmoHeap) : Option VmoPageMetadata × VmoHeap :=
  let inner := heap.inner vmo.id
  if vmo.isChild then (none, heap)
  else if !vmo.offsetIsPageAligned heap offset then (none, heap)
  else if vmo.backing ≠ .paged then (none, heap)
  else
    match inner.extents.findIdx? (·.offset == offset) with
    | none => (none, heap)
    | some position =>
      match inner.extents[position]? with
      | none => (none, heap)
      | some removed =>
        (some ⟨removed.frame.physAddr, removed.purpose, removed.committed⟩,
          heap.setInner vmo.id (inner.reindexed (inner.extents.eraseIdx position)))

/-- `set_size`. -/
def setSize (newSize : Nat) (heap : VmoHeap) : Bool × VmoHeap :=
  let inner := heap.inner vmo.id
  if vmo.isChild then (false, heap)
  else if !(vmo.flags heap).contains .resizable || newSize % vmo.pageSize != 0 then
    (false, heap)
  else if newSize < inner.size &&
      inner.extents.any fun extent => extent.offset < newSize && newSize < extent.stop then
    (false, heap)
  else
    let kept := if newSize < inner.size then
      inner.reindexed (inner.extents.filter (·.offset < newSize)) else inner
    (true, heap.setInner vmo.id { kept with size := newSize, streamSize := min kept.streamSize newSize })

/-- The checks at the head of `commit_range` and `decommit_range`; yields the end of the range. -/
def checkRange (heap : VmoHeap) (vmo : Vmo) (offset len : Nat) : Except VmoRangeOpError Nat :=
  if vmo.isChild || vmo.backing != .paged || len == 0 || offset % vmo.pageSize != 0 ||
      len % vmo.pageSize != 0 then .error .invalidArgument
  else
    match checkedAdd offset len with
    | none => .error .invalidRange
    | some stop => if vmo.size heap < stop then .error .invalidRange else .ok stop

/-- `num.is_power_of_two()`. -/
def isPowerOfTwo (num : Nat) : Bool := num != 0 && num &&& (num - 1) == 0

/-- One iteration of the loop of `commit_range`. The answer tells whether an extent was pushed;
`PhysFrame::from_addr` asserts that the frame count is a power of two. -/
def commitPage (frameCount : Nat) (purpose : VmoPagePurpose) (pageOffset : Nat) :
    Action VmoHeap VmoRangeOpError Bool := fun heap =>
  let inner := heap.inner vmo.id
  match inner.index.ownerAt pageOffset with
  | some owner =>
    match inner.extents[owner]? with
    | none => (.error (.error .invalidArgument), heap)
    | some extent =>
      (.ok false, heap.setInner vmo.id
        { inner with extents := inner.extents.set owner { extent with committed := true } })
  | none =>
    match heap.nextFrame with
    | none => (.error (.error .invalidArgument), heap.tick)
    | some phys =>
      if isPowerOfTwo frameCount then
        let extent : VmoExtent :=
          ⟨pageOffset, ⟨phys, frameCount, heap.allocator.unitPageSize⟩, purpose, true⟩
        (.ok true, heap.tick.setInner vmo.id { inner with extents := inner.extents ++ [extent] })
      else (.error .panic, heap.tick)

/-- The loop of `commit_range`; `dirty` is `index_dirty`. -/
def commitLoop (vmo : Vmo) (frameCount : Nat) (purpose : VmoPagePurpose) :
    List Nat → Bool → Action VmoHeap VmoRangeOpError Bool
  | [], dirty => .ret dirty
  | pageOffset :: rest, dirty =>
    .andThen (vmo.commitPage frameCount purpose pageOffset) fun pushed =>
      vmo.commitLoop frameCount purpose rest (dirty || pushed)

/-- `index.rebuild` over the current extents. -/
def rebuildIndex (heap : VmoHeap) : VmoHeap :=
  heap.setInner vmo.id ((heap.inner vmo.id).reindexed (heap.inner vmo.id).extents)

/-- `commit_range`. The index is rebuilt after the loop only: an allocation failure inside the
loop returns at once. -/
def commitRange (offset len : Nat) (purpose : VmoPagePurpose) :
    Action VmoHeap VmoRangeOpError Nat := fun heap =>
  match vmo.checkRange heap offset len with
  | .error e => (.error (.error e), heap)
  | .ok _ =>
    let frameCount := vmo.pageSize / heap.allocator.unitPageSize
    if frameCount == 0 || frameCount * heap.allocator.unitPageSize != vmo.pageSize then
      (.error (.error .invalidArgument), heap)
    else
      let pages := List.range' offset (len / vmo.pageSize) vmo.pageSize
      Action.andThen (vmo.commitLoop frameCount purpose pages false)
        (fun dirty heap => (.ok len, if dirty then vmo.rebuildIndex heap else heap)) heap

/-- The extent neither lies in the range nor is cut by it. -/
def outsideRange (offset stop : Nat) (extent : VmoExtent) : Bool :=
  extent.stop ≤ offset || stop ≤ extent.offset

def decommitRange (offset len : Nat) : Action VmoHeap VmoRangeOpError Nat :=
  fun heap =>
    match vmo.checkRange heap offset len with
    | .error e => (.error (.error e), heap)
    | .ok stop =>
      let inner := heap.inner vmo.id
      if inner.extents.any fun extent =>
          !outsideRange offset stop extent && (extent.offset < offset || stop < extent.stop) then
        (.error (.error .invalidArgument), heap)
      else
        let kept := inner.extents.filter fun extent =>
          outsideRange offset stop extent || extent.offset < offset || stop < extent.stop
        (.ok len,
          if kept.length ≠ inner.extents.length then
            heap.setInner vmo.id (inner.reindexed kept)
          else heap.setInner vmo.id { inner with extents := kept })

/-! ## Copy-on-write -/

/-- What the new private page starts with: the parent's visible page, or zeros. -/
def cowSource (heap : VmoHeap) (parent : Vmo) (sourceOffset : Nat) : List Byte :=
  match parent.pageAt heap sourceOffset with
  | some page => heap.readPhys page.phys parent.pageSize
  | none => List.replicate parent.pageSize 0

/-- The part of `materialize_private_cow_page` after a frame has been obtained: fill it, wrap it
in a `PhysFrame` (whose constructor asserts a power of two), push the extent and rebuild. -/
def installPrivatePage (id : Nat) (parent : Vmo) (sourceOffset pageOffset frameCount : Nat)
    (fallbackPurpose : VmoPagePurpose) (phys : Nat) : Action VmoHeap Unit VmoPageMetadata :=
  fun heap =>
    let filled := heap.writePhys phys (cowSource heap parent sourceOffset)
    if isPowerOfTwo frameCount then
      let purpose := match parent.pageAt heap sourceOffset with
        | some page => page.purpose
        | none => fallbackPurpose
      let extent : VmoExtent :=
        ⟨pageOffset, ⟨phys, frameCount, heap.allocator.unitPageSize⟩, purpose, true⟩
      let inner := (heap.inner id).reindexed ((heap.inner id).extents ++ [extent])
      Action.orFail ((inner.extentAt pageOffset).bind (·.metadataAt pageOffset)) ()
        (filled.setInner id inner)
    else (.error .panic, filled)

/-- `materialize_private_cow_page`; a failure stands for the source's `None`. -/
def materializePrivateCowPage (offset : Nat) (fallbackPurpose : VmoPagePurpose) :
    Action VmoHeap Unit VmoPageMetadata := fun heap =>
  let pageOffset := offset / vmo.pageSize * vmo.pageSize
  let frameCount := vmo.pageSize / heap.allocator.unitPageSize
  if vmo.pageSize = 0 then (.error .panic, heap)
  else if !vmo.offsetIsPageAligned heap pageOffset then (.error (.error ()), heap)
  else
    match vmo with
    | .child id _ .privateCow parentOffset parent =>
      match checkedAdd parentOffset pageOffset with
      | none => (.error (.error ()), heap)
      | some sourceOffset =>
        if frameCount == 0 || frameCount * heap.allocator.unitPageSize != parent.pageSize then
          (.error (.error ()), heap)
        else
          match (heap.inner id).index.ownerAt pageOffset with
          | some owner =>
            Action.orFail (((heap.inner id).extents[owner]?).bind (·.metadataAt pageOffset)) () heap
          | none =>
            match heap.nextFrame with
            | none => (.error (.error ()), heap.tick)
            | some phys =>
              installPrivatePage id parent sourceOffset pageOffset frameCount
                fallbackPurpose phys heap.tick
    | _ => (.error (.error ()), heap)

end

/-! ## Reading and writing bytes -/

/-- `PhysRun::read`. -/
def readRun (heap : VmoHeap) (run : PhysRun) (offset len : Nat) : Option (List Byte) :=
  match checkedAdd offset len with
  | none => none
  | some stop =>
    if run.lenBytes < stop then none else some (heap.readPhys (run.physAddr + offset) len)

/-- `PhysRun::write`: the whole range is checked before anything is written. -/
def writeRun (run : PhysRun) (offset : Nat) (bytes : List Byte) (heap : VmoHeap) : Bool × VmoHeap :=
  match checkedAdd offset bytes.length with
  | none => (false, heap)
  | some stop =>
    if run.lenBytes < stop then (false, heap)
    else (true, heap.writePhys (run.physAddr + offset) bytes)

/-- The loop of `read_local`. Every iteration copies at least one byte, so `len` bounds the number
of iterations; `none` stands for `false`. -/
def readLocalLoop (heap : VmoHeap) (inner : VmoInner) : (fuel cursor len : Nat) → Option (List Byte)
  | _, _, 0 => some []
  | 0, _, _ + 1 => none
  | fuel + 1, cursor, len + 1 =>
    match inner.extentAt cursor with
    | none => none
    | some extent =>
      if !extent.committed then none
      else
        let chunk := min (extent.stop - cursor) (len + 1)
        match readRun heap extent.frame (cursor - extent.offset) chunk with
        | none => none
        | some bytes =>
          (readLocalLoop heap inner fuel (cursor + chunk) (len + 1 - chunk)).map (bytes ++ ·)

def readLocal (heap : VmoHeap) (id offset len : Nat) : Option (List Byte) :=
  match checkedAdd offset len with
  | none => none
  | some stop =>
    if (heap.inner id).size < stop then none
    else readLocalLoop heap (heap.inner id) len offset len

/-- The loop of `read` on a private child: page by page, from the child or from the parent. -/
def readCowLoop (heap : VmoHeap) (id pageSize parentOffset : Nat)
    (readParent : Nat → Nat → Option (List Byte)) : (fuel cursor len : Nat) → Option (List Byte)
  | _, _, 0 => some []
  | 0, _, _ + 1 => none
  | fuel + 1, cursor, len + 1 =>
    let pageOffset := cursor / pageSize * pageSize
    let chunk := min (pageSize - (cursor - pageOffset)) (len + 1)
    let part :=
      if ownsPage heap id pageOffset then readLocal heap id cursor chunk
      else (checkedAdd parentOffset cursor).bind (readParent · chunk)
    match part with
    | none => none
    | some bytes =>
      (readCowLoop heap id pageSize parentOffset readParent fuel (cursor + chunk)
        (len + 1 - chunk)).map (bytes ++ ·)

/-- `read`; `none` stands for `false`. -/
def read (heap : VmoHeap) : Vmo → (offset len : Nat) → Option (List Byte)
  | .root id _ _, offset, len => readLocal heap id offset len
  | .child id _ kind parentOffset parent, offset, len =>
    match checkedAdd offset len with
    | none => none
    | some stop =>
      if (heap.inner id).size < stop then none
      else
        match kind with
        | .privateCow =>
          readCowLoop heap id parent.pageSize parentOffset (read heap parent) len offset len
        | .sharedView => (checkedAdd parentOffset offset).bind (read heap parent · len)

/-- The loop of `write_local`. A chunk that is refused ends the loop; what was written before
stays. -/
def writeLocalLoop (inner : VmoInner) : (fuel cursor : Nat) → List Byte → VmoHeap → Bool × VmoHeap
  | _, _, [], heap => (true, heap)
  | 0, _, _ :: _, heap => (false, heap)
  | fuel + 1, cursor, b :: bs, heap =>
    match inner.extentAt cursor with
    | none => (false, heap)
    | some extent =>
      if !extent.committed then (false, heap)
      else
        let chunk := min (extent.stop - cursor) (b :: bs).length
        match writeRun extent.frame (cursor - extent.offset) ((b :: bs).take chunk) heap with
        | (false, heap) => (false, heap)
        | (true, heap) =>
          writeLocalLoop inner fuel (cursor + chunk) ((b :: bs).drop chunk) heap

def writeLocal (id offset : Nat) (bytes : List Byte) (heap : VmoHeap) : Bool × VmoHeap :=
  match checkedAdd offset bytes.length with
  | none => (false, heap)
  | some stop =>
    if (heap.inner id).size < stop then (false, heap)
    else writeLocalLoop (heap.inner id) bytes.length offset bytes heap

/-- The loop of `write` on a private child: each page is checked only when the cursor reaches
it. -/
def writeCowLoop (id pageSize : Nat) : (fuel cursor : Nat) → List Byte → VmoHeap → Bool × VmoHeap
  | _, _, [], heap => (true, heap)
  | 0, _, _ :: _, heap => (false, heap)
  | fuel + 1, cursor, b :: bs, heap =>
    let pageOffset := cursor / pageSize * pageSize
    let chunk := min (pageSize - (cursor - pageOffset)) (b :: bs).length
    if !ownsPage heap id pageOffset then (false, heap)
    else
      match writeLocal id cursor ((b :: bs).take chunk) heap with
      | (false, heap) => (false, heap)
      | (true, heap) => writeCowLoop id pageSize fuel (cursor + chunk) ((b :: bs).drop chunk) heap

def write : Vmo → (offset : Nat) → List Byte → VmoHeap → Bool × VmoHeap
  | .root id _ _, offset, bytes, heap => writeLocal id offset bytes heap
  | .child id _ kind parentOffset parent, offset, bytes, heap =>
    match checkedAdd offset bytes.length with
    | none => (false, heap)
    | some stop =>
      if (heap.inner id).size < stop then (false, heap)
      else
        match kind with
        | .privateCow => writeCowLoop id parent.pageSize bytes.length offset bytes heap
        | .sharedView =>
          match checkedAdd parentOffset offset with
          | none => (false, heap)
          | some translated => write parent translated bytes heap

end Vmo

end Akarin.Memory
