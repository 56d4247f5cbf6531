/-
# Akarin.Arch.PageTable -- x86-64 page tables

An entry is a 64-bit word: a frame address under `PHYS_ADDR_MASK` and flag bits around it.
`MMUFlags` and the flag bits convert into each other, but not faithfully: an empty `MMUFlags`
encodes to no bits at all, and a word without `NO_EXECUTE` decodes to an executable one.

A table is a frame of 512 entries, and the page table is the memory together with the physical
address of its root: `walk_to_leaf_mut` follows whatever address it finds in an entry. Table frames
are read and written through the direct map, at `physical_memory_offset` from their physical address.
The memory holds arbitrary words until a frame is zeroed for a table. Adding to a virtual address is
the checked addition of the default build: it panics on overflow.
-/
import Akarin.Lib.Action
import Akarin.Lib.Radix
import Akarin.Memory.Layout

namespace Akarin.Arch

open Lib
open Memory (MMUFlags CachePolicy checkedAdd usizeBound)

/-! ## Flag bits -/

/-- `PageTableFlags: u64`. -/
abbrev PageTableFlags := BitVec 64

namespace PageTableFlags

def present : PageTableFlags := 0x1#64
def writable : PageTableFlags := 0x2#64
def userAccessible : PageTableFlags := 0x4#64
def writeThrough : PageTableFlags := 0x8#64
def noCache : PageTableFlags := 0x10#64
def hugePage : PageTableFlags := 0x80#64
def global : PageTableFlags := 0x100#64
def noExecute : PageTableFlags := 0x8000000000000000#64

/-- Every bit that has a name: all but the address bits. -/
def all : PageTableFlags := 0xfff0000000000fff#64

def contains (flags other : PageTableFlags) : Bool := BitFlags.contains flags other

/-- `Convert<MMUFlags> for PageTableFlags`. -/
def toMmu (flags : PageTableFlags) : MMUFlags :=
  (if flags.contains writable then .write else 0) |||
  (if flags.contains noExecute then 0 else .execute) |||
  (if flags.contains userAccessible then .user else 0) |||
  (if flags.contains hugePage then .hugePage else 0) |||
  (if flags.contains global then .global else 0) |||
  (if flags.contains (noCache ||| writeThrough) then .cache1 else 0)

/-- The bits of a non-empty set of MMU flags. -/
def encode (write execute user huge glob cached : Bool) : PageTableFlags :=
  present |||
  (if write then writable else 0) |||
  (if execute then 0 else noExecute) |||
  (if user then userAccessible else 0) |||
  (if huge then hugePage else 0) |||
  (if glob then global else 0) |||
  (if cached then 0 else noCache ||| writeThrough)

/-- `Convert<PageTableFlags> for MMUFlags`. -/
def ofMmu (flags : MMUFlags) : PageTableFlags :=
  if flags = 0 then 0
  else encode (flags.contains .write) (flags.contains .execute)
    (flags.contains .user) (flags.contains .hugePage)
    (flags.contains .global) (flags.cachePolicy == .cached)

end PageTableFlags

open PageTableFlags

/-! ## Entries -/

/-- `PHYS_ADDR_MASK`. -/
def physAddrMask : BitVec 64 := 0x000ffffffffff000#64

/-- `PageTableEntry(u64)`. -/
structure PageTableEntry where
  word : BitVec 64

namespace PageTableEntry

section

variable (entry : PageTableEntry)

/-- `raw_addr`, also `phys_addr`. -/
def physAddr : Nat := (entry.word &&& physAddrMask).toNat

def rawFlags : PageTableFlags := entry.word &&& .all

def flags : MMUFlags := entry.rawFlags.toMmu

def isUnused : Bool := entry.word == 0

def isPresent : Bool := entry.rawFlags.contains .present

/-- Only an entry above level 1 is asked: there the bit means a huge page. -/
def isLeaf : Bool := entry.rawFlags.contains .hugePage

end

/-- `set_table`. -/
def ofTable (physAddr : Nat) : PageTableEntry :=
  ⟨BitVec.ofNat 64 physAddr &&& physAddrMask ||| (present ||| writable ||| userAccessible)⟩

/-- `set_phys_addr`: address and flags of the new word. -/
def ofPhysAddr (physAddr : Nat) (flags : MMUFlags) : PageTableEntry :=
  ⟨BitVec.ofNat 64 physAddr &&& physAddrMask ||| ofMmu flags⟩

/-- `set_flags`. -/
def setFlags (entry : PageTableEntry) (flags : MMUFlags) : PageTableEntry :=
  ofPhysAddr entry.physAddr flags

/-- `set_cache_policy`: decodes the flags, which loses what the bits do not hold, and encodes
them again. -/
def setCachePolicy (entry : PageTableEntry) (policy : CachePolicy) : PageTableEntry :=
  entry.setFlags (entry.flags.setCachePolicy policy)

/-- `clear`, and the entries of a zeroed table. -/
def cleared : PageTableEntry := ⟨0⟩

end PageTableEntry

/-! ## Pages -/

/-- The sizes a leaf can have. -/
inductive PageSize where
  | size4K
  | size2M
  | size1G
  deriving DecidableEq

namespace PageSize

def size : PageSize → Nat
  | .size4K => 0x1000
  | .size2M => 0x200000
  | .size1G => 0x40000000

/-- `level_of`. -/
def level : PageSize → Nat
  | .size1G => 3
  | .size2M => 2
  | .size4K => 1

/-- `page_size_of_level`, unreachable for a size that does not exist. -/
def ofLevel (level : Nat) : Option PageSize :=
  match 1 <<< (12 + (level - 1) * 9) with
  | 0x1000 => some .size4K
  | 0x200000 => some .size2M
  | 0x40000000 => some .size1G
  | _ => none

end PageSize

/-- `Page`, with what `Page::new` asserts. -/
structure Page where
  startVaddr : Nat
  size : PageSize
  aligned : startVaddr % size.size = 0

/-- `containing`. -/
def Page.containing (virt : Nat) (size : PageSize) : Page :=
  ⟨virt / size.size * size.size, size, Nat.mul_mod_left _ _⟩

/-- What the caller has to flush. -/
structure TlbInvalidator where
  full : Bool
  range : Option (Nat × Nat)
  pageSize : PageSize

/-! ## Tables -/

/-- Why a page table call is refused. -/
inductive PagingError where
  | noMemory
  | notMapped
  | alreadyMapped
  | parentIsHugePage
  | invalidFrameAddress
  deriving DecidableEq

/-- The frame allocator, as page tables use it: the virtual addresses `alloc` answers, in call order.
Frames lie in the direct map and are page-aligned; a table is never given back, so no frame is handed
out twice. -/
structure TableAllocator where
  physicalMemoryOffset : Nat
  answers : Nat → Option Nat
  mapped : ∀ k virt, answers k = some virt → physicalMemoryOffset ≤ virt ∧ virt < usizeBound
  aligned : ∀ k virt, answers k = some virt →
    (virt - physicalMemoryOffset) % 0x1000 = 0 ∧ virt - physicalMemoryOffset < 2 ^ 52
  distinct : ∀ i j virt, answers i = some virt → answers j = some virt → i = j

/-- `PageTable`, with the memory its tables lie in: the entries of a frame, by physical address. -/
structure PageTable where
  rootPhys : Nat
  allocator : TableAllocator
  calls : Nat
  memory : Tables Nat Nat PageTableEntry

/-- The pointer to an entry. -/
structure EntryPtr where
  table : Nat
  index : Nat

namespace PageTable

/-- `virt_to_phys`. -/
def virtToPhys (allocator : TableAllocator) (virt : Nat) : Option Nat :=
  if allocator.physicalMemoryOffset ≤ virt then some (virt - allocator.physicalMemoryOffset) else none

/-- `phys_to_virt`. -/
def physToVirt (allocator : TableAllocator) (phys : Nat) : Option Nat :=
  checkedAdd phys allocator.physicalMemoryOffset

def read (table : PageTable) (ptr : EntryPtr) : PageTableEntry := table.memory ptr.table ptr.index

def write (table : PageTable) (ptr : EntryPtr) (entry : PageTableEntry) : PageTable :=
  { table with memory := table.memory.put ptr.table ptr.index entry }

/-- `empty`, in a memory of any content; it panics without a frame for the root. -/
def empty (allocator : TableAllocator) (memory : Tables Nat Nat PageTableEntry) : Option PageTable := do
  let virt ← allocator.answers 0
  let phys ← virtToPhys allocator virt
  return ⟨phys, allocator, 1, memory.fill phys .cleared⟩

/-- `indices`. -/
def indices (virt : Nat) : List Nat :=
  [(virt >>> 39) &&& 0x1ff, (virt >>> 30) &&& 0x1ff, (virt >>> 21) &&& 0x1ff, (virt >>> 12) &&& 0x1ff]

/-- `entry_ptr`. -/
def entryPtr (tablePhys index : Nat) : Action PageTable PagingError EntryPtr := do
  let allocator ← .gets (·.allocator)
  let _ ← .orFail (physToVirt allocator tablePhys) .invalidFrameAddress
  return ⟨tablePhys, index⟩

/-- `alloc_table`: the frame is zeroed. -/
def allocTable : Action PageTable PagingError Nat := do
  let answer ← .gets fun table => table.allocator.answers table.calls
  .modify fun table => { table with calls := table.calls + 1 }
  let virt ← .orFail answer .noMemory
  let allocator ← .gets (·.allocator)
  let phys ← .orFail (virtToPhys allocator virt) .invalidFrameAddress
  .modify fun table => { table with memory := table.memory.fill phys .cleared }
  return phys

/-- An unused entry on the way down gets a table, or ends the walk. -/
def ensureTable (ptr : EntryPtr) (create : Bool) : Action PageTable PagingError PageTableEntry := do
  let entry ← .gets (·.read ptr)
  if entry.isUnused then
    .ensure (create = true) .notMapped
    let newTable ← allocTable
    .modify (·.write ptr (.ofTable newTable))
    return .ofTable newTable
  else
    return entry

/-- `walk_to_leaf_mut`, from the table of a level. -/
def walkToLeafMut (virt : Nat) (targetLevel : Option Nat) (create : Bool) :
    Nat → Nat → Action PageTable PagingError (EntryPtr × PageSize)
  | 0, _ => .fail .notMapped
  | level + 1, tablePhys => do
      let ptr ← entryPtr tablePhys ((indices virt).getD (4 - (level + 1)) 0)
      if targetLevel = some (level + 1) then
        let size ← .orPanic (PageSize.ofLevel (level + 1))
        return (ptr, size)
      else
        let entry ← ensureTable ptr create
        .ensure (entry.isPresent = true) .notMapped
        if targetLevel.isSome then
          .ensure (entry.isLeaf = false) .parentIsHugePage
          walkToLeafMut virt targetLevel create level entry.physAddr
        else if level + 1 = 1 then
          return (ptr, .size4K)
        else if entry.isLeaf then
          let size ← .orPanic (PageSize.ofLevel (level + 1))
          return (ptr, size)
        else
          walkToLeafMut virt targetLevel create level entry.physAddr

/-- The flags `map` writes. -/
def mapFlags (size : PageSize) (flags : MMUFlags) (cache : CachePolicy) : MMUFlags :=
  if size = .size4K then (flags.setCachePolicy cache).remove .hugePage
  else flags.setCachePolicy cache ||| .hugePage

variable (page : Page)

def map (frame : Nat) (flags : MMUFlags) (cache : CachePolicy) :
    Action PageTable PagingError TlbInvalidator := do
  let root ← .gets (·.rootPhys)
  let (ptr, _) ← walkToLeafMut page.startVaddr (some page.size.level) true 4 root
  let entry ← .gets (·.read ptr)
  .ensure (entry.isUnused = true) .alreadyMapped
  .modify (·.write ptr (.ofPhysAddr frame (mapFlags page.size flags cache)))
  let stop ← .orPanic (checkedAdd page.startVaddr page.size.size)
  return ⟨false, some (page.startVaddr, stop), page.size⟩

/-- `entry_mut`, also `entry`. -/
def entryMut : Action PageTable PagingError (EntryPtr × PageSize) := do
  let root ← .gets (·.rootPhys)
  walkToLeafMut page.startVaddr none false 4 root

/-- `unmap`: the frame, as its address and number of 4K pages, and what to flush. -/
def unmap : Action PageTable PagingError ((Nat × Nat) × TlbInvalidator) := do
  let (ptr, actualSize) ← entryMut page
  let entry ← .gets (·.read ptr)
  .ensure (entry.isUnused = false) .notMapped
  .modify (·.write ptr .cleared)
  let stop ← .orPanic (checkedAdd page.startVaddr actualSize.size)
  return ((entry.physAddr, actualSize.size / PageSize.size4K.size),
    ⟨false, some (page.startVaddr, stop), actualSize⟩)

def query : Action PageTable PagingError (Nat × MMUFlags × CachePolicy × PageSize) := do
  let (ptr, size) ← entryMut page
  let entry ← .gets (·.read ptr)
  .ensure (entry.isPresent = true) .notMapped
  return (entry.physAddr, entry.flags, entry.flags.cachePolicy, size)

/-- A method of the entry that `entry_mut` answers. -/
def edit (f : PageTableEntry → PageTableEntry) : Action PageTable PagingError PUnit := do
  let (ptr, _) ← entryMut page
  .modify fun table => table.write ptr (f (table.read ptr))

end PageTable

/-! ## What an entry grants -/

namespace PageTableFlags

section

variable (write execute user huge glob cached : Bool)

lemma encode_present : (encode write execute user huge glob cached).contains present = true := by
  revert write execute user huge glob cached
  decide

lemma encode_huge : (encode write execute user huge glob cached).contains hugePage = huge := by
  revert write execute user huge glob cached
  decide

lemma encode_bits :
    encode write execute user huge glob cached &&& all = encode write execute user huge glob cached ∧
      encode write execute user huge glob cached &&& physAddrMask = 0 := by
  revert write execute user huge glob cached
  decide

end

lemma ofMmu_bits (flags : MMUFlags) :
    ofMmu flags &&& all = ofMmu flags ∧ ofMmu flags &&& physAddrMask = 0 := by
  unfold ofMmu
  split
  · decide
  · exact encode_bits _ _ _ _ _ _

lemma ofMmu_present (flags : MMUFlags) : (ofMmu flags).contains present = true ↔ flags ≠ 0 := by
  unfold ofMmu
  split
  · rename_i hempty
    simp only [hempty, ne_eq, not_true_eq_false, iff_false]
    decide
  · rename_i hne
    simp only [encode_present, ne_eq, hne, not_false_eq_true]

lemma ofMmu_huge {flags : MMUFlags} (h : flags ≠ 0) :
    (ofMmu flags).contains hugePage = flags.contains .hugePage := by
  rw [ofMmu, if_neg h, encode_huge]

/-- The huge bit survives decoding. -/
lemma toMmu_huge (flags : PageTableFlags) : flags.toMmu.contains .hugePage = flags.contains hugePage := by
  unfold toMmu
  generalize flags.contains writable = write
  generalize flags.contains noExecute = noExec
  generalize flags.contains userAccessible = user
  generalize flags.contains hugePage = huge
  generalize flags.contains global = glob
  generalize flags.contains (noCache ||| writeThrough) = uncached
  revert write noExec user huge glob uncached
  decide

end PageTableFlags

namespace PageTableEntry

variable (phys : Nat) (flags : MMUFlags)

@[simp] lemma rawFlags_ofPhysAddr : (ofPhysAddr phys flags).rawFlags = ofMmu flags := by
  have hdisjoint : physAddrMask &&& all = 0 := by decide
  simp only [rawFlags, ofPhysAddr]
  rw [BitVec.and_comm, BitVec.and_or_distrib_left, BitVec.and_comm _ (ofMmu flags),
    (ofMmu_bits flags).1, BitVec.and_comm all, BitVec.and_assoc,
    hdisjoint]
  simp

lemma physAddr_eq : (ofPhysAddr phys flags).physAddr = (BitVec.ofNat 64 phys &&& physAddrMask).toNat := by
  simp only [physAddr, ofPhysAddr]
  rw [BitVec.and_comm, BitVec.and_or_distrib_left, BitVec.and_comm _ (ofMmu flags),
    (ofMmu_bits flags).2, BitVec.and_comm physAddrMask, BitVec.and_assoc,
    BitVec.and_self]
  simp

lemma isPresent_ofPhysAddr : (ofPhysAddr phys flags).isPresent = true ↔ flags ≠ 0 := by
  rw [isPresent, rawFlags_ofPhysAddr, ofMmu_present]

lemma isLeaf_ofPhysAddr {flags : MMUFlags} (h : flags ≠ 0) :
    (ofPhysAddr phys flags).isLeaf = flags.contains .hugePage := by
  rw [isLeaf, rawFlags_ofPhysAddr, ofMmu_huge h]

/-- The word of a table is the one of a writable, executable user page. -/
lemma ofTable_eq :
    ofTable phys = ofPhysAddr phys (MMUFlags.write ||| MMUFlags.execute ||| MMUFlags.user) := rfl

/-- A present entry is not the zero word. -/
lemma isUnused_of_isPresent {entry : PageTableEntry} (h : entry.isPresent = true) :
    entry.isUnused = false := by
  rw [isUnused, beq_eq_false_iff_ne]
  intro hzero
  rw [isPresent, rawFlags, hzero] at h
  exact absurd h (by decide)

/-- The address of a page-aligned frame below the 52-bit limit survives the mask. -/
lemma physAddr_ofPhysAddr {phys : Nat} (haligned : phys % 0x1000 = 0)
    (hbound : phys < 2 ^ 52) : (ofPhysAddr phys flags).physAddr = phys := by
  have hmask : physAddrMask.toNat = (2 ^ 40 - 1) <<< 12 := by decide
  have hphys : phys = (phys / 0x1000) <<< 12 := by
    rw [Nat.shiftLeft_eq]
    omega
  rw [physAddr_eq, BitVec.toNat_and, BitVec.toNat_ofNat, Nat.mod_eq_of_lt (by omega), hmask, hphys,
    ← Nat.shiftLeft_and_distrib, Nat.and_two_pow_sub_one_eq_mod, Nat.mod_eq_of_lt (by omega),
    ← hphys]

end PageTableEntry

end Akarin.Arch
