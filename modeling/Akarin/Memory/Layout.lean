/-
# Akarin.Memory.Layout -- flags, address ranges and the fixed virtual-memory layout

`MMUFlags` and `VmFlags`, the two `bitflags!` types of the memory subsystem, are bit vectors of their source
width. The low sixteen bits of a `VmFlags` mirror `MMUFlags`; the high bits carry VM-only extensions.

`VmRange` carries its own well-formedness: the constructor of the source refuses an empty range,
so a range is a start, an end and a proof that the one lies below the other. `VmLayoutSegment`
is the static partition of the address space that every mapping is validated against.
-/
import Akarin.Lib.BitFlags
import Mathlib.Tactic.IntervalCases

namespace Akarin.Memory

open Lib

/-! ## Flags -/

/-- How accesses are cached. -/
inductive CachePolicy where
  | cached
  | uncached
  | uncachedDevice
  | writeCombining
  deriving DecidableEq

/-- `policy as u16`. -/
def CachePolicy.bits : CachePolicy → BitVec 16
  | .cached => 0
  | .uncached => 1
  | .uncachedDevice => 2
  | .writeCombining => 3

/-- `MMUFlags: u16`. -/
abbrev MMUFlags := BitVec 16

namespace MMUFlags

def cache1 : MMUFlags := 0x001#16
def read : MMUFlags := 0x004#16
def write : MMUFlags := 0x008#16
def execute : MMUFlags := 0x010#16
def user : MMUFlags := 0x020#16
def hugePage : MMUFlags := 0x040#16
def global : MMUFlags := 0x100#16

/-- Every bit that has a name. -/
def all : MMUFlags := 0x1ff#16

def contains (flags other : MMUFlags) : Bool := BitFlags.contains flags other

/-- `from_bits_truncate`. -/
def fromBitsTruncate (bits : BitVec 16) : MMUFlags := bits &&& all

/-- `flags.remove(other)`. -/
def remove (flags other : MMUFlags) : MMUFlags := BitFlags.remove flags other

lemma contains_remove_self (flags : MMUFlags) {other : MMUFlags} (h : other ≠ 0) :
    (flags.remove other).contains other = false :=
  BitFlags.contains_remove_of_contains flags (BitFlags.contains_iff.2 (.refl other)) h

/-- `cache_policy`: the two low bits. -/
def cachePolicy (flags : MMUFlags) : CachePolicy :=
  if flags &&& 0b11 = 0 then .cached
  else if flags &&& 0b11 = 1 then .uncached
  else if flags &&& 0b11 = 2 then .uncachedDevice
  else .writeCombining

/-- `set_cache_policy`. -/
def setCachePolicy (flags : MMUFlags) (policy : CachePolicy) : MMUFlags :=
  fromBitsTruncate (flags &&& ~~~0b11 ||| policy.bits)

lemma contains_eq_getLsbD {i : Nat} (flags : MMUFlags) (hi : i < 16) :
    flags.contains (BitVec.twoPow 16 i) = flags.getLsbD i :=
  BitFlags.contains_twoPow flags hi

/-- The cache policy lives in the two low bits; the access bits are not its concern. -/
lemma setCachePolicy_getLsbD (flags : MMUFlags) (policy : CachePolicy) {i : Nat} (hlo : 2 ≤ i)
    (hhi : i < 9) : (flags.setCachePolicy policy).getLsbD i = flags.getLsbD i := by
  have hall : all.getLsbD i = true := by
    interval_cases i <;> rfl
  have hmask : (~~~(0b11 : BitVec 16)).getLsbD i = true := by
    interval_cases i <;> rfl
  have hpolicy : policy.bits.getLsbD i = false := by
    interval_cases i <;> cases policy <;> rfl
  rw [setCachePolicy, fromBitsTruncate, BitVec.getLsbD_and, BitVec.getLsbD_or, BitVec.getLsbD_and,
    hall, hmask, hpolicy]
  simp

end MMUFlags

/-- `VmFlags: u32`. -/
abbrev VmFlags := BitVec 32

namespace VmFlags

def read : VmFlags := 0x004#32
def write : VmFlags := 0x008#32
def execute : VmFlags := 0x010#32
def user : VmFlags := 0x020#32
def device : VmFlags := 0x080#32
def global : VmFlags := 0x100#32
def map : VmFlags := 0x10000#32
def resizable : VmFlags := 0x40000#32

/-- `VM_ACCESS_MASK`: the bits `allows_mmu` compares; cache-policy and extension bits are not
among them. -/
def vmAccessMask : VmFlags := 0x1fc#32

def contains (flags other : VmFlags) : Bool := BitFlags.contains flags other

def remove (flags other : VmFlags) : VmFlags := BitFlags.remove flags other

/-- `allows_mmu`: whether the set permits the requested MMU-visible access. -/
def allowsMmu (flags requested : VmFlags) : Bool :=
  flags &&& vmAccessMask &&& requested == requested &&& vmAccessMask

end VmFlags

/-! ## Words -/

/-- `usize::MAX + 1`; `checked_add` fails from here on. Virtual and physical addresses are
wrappers around `usize`, here plain numbers. -/
def usizeBound : Nat := 2 ^ 64

/-- `a.checked_add(b)`. -/
def checkedAdd (a b : Nat) : Option Nat := if a + b < usizeBound then some (a + b) else none

/-- `a.saturating_add(b)`. -/
def saturatingAdd (a b : Nat) : Nat := min (a + b) (usizeBound - 1)

lemma checkedAdd_eq_some {a b c : Nat} (h : checkedAdd a b = some c) : c = a + b := by
  unfold checkedAdd at h
  split at h
  · exact (Option.some.inj h).symm
  · cases h

/-- `PAGE_SIZE`. -/
def pageSize : Nat := 0x1000

/-! ## Ranges -/

/-- `VmRange`; `VmRange::new` admits only `start < end`. -/
structure VmRange where
  start : Nat
  stop : Nat
  start_lt_stop : start < stop
  deriving DecidableEq

namespace VmRange

def new (start stop : Nat) : Option VmRange :=
  if h : start < stop then some ⟨start, stop, h⟩ else none

def len (range : VmRange) : Nat := range.stop - range.start

def contains (range : VmRange) (addr : Nat) : Bool := range.start ≤ addr && addr < range.stop

def containsRange (range other : VmRange) : Bool :=
  range.start ≤ other.start && other.stop ≤ range.stop

def isPageAligned (range : VmRange) : Bool :=
  range.start % pageSize == 0 && range.stop % pageSize == 0

variable {range : VmRange}

lemma contains_iff {addr : Nat} : range.contains addr = true ↔ range.start ≤ addr ∧ addr < range.stop := by
  simp [contains]

lemma containsRange_iff {other : VmRange} :
    range.containsRange other = true ↔ range.start ≤ other.start ∧ other.stop ≤ range.stop := by
  simp [containsRange]

lemma isPageAligned_iff :
    range.isPageAligned = true ↔ range.start % pageSize = 0 ∧ range.stop % pageSize = 0 := by
  simp [isPageAligned]

/-- A page-aligned range has a page. -/
lemma pages_pos (h : range.isPageAligned = true) : 0 < range.len / pageSize := by
  have halign := isPageAligned_iff.1 h
  have hlt := range.start_lt_stop
  simp only [pageSize, len] at halign ⊢
  omega

end VmRange

/-! ## Layout segments -/

/-- The parts of the address space. -/
inductive VmLayoutSegment where
  | userLowGuard
  | userImage
  | userHeap
  | userMapped
  | userMmio
  | userStack
  | kernelDirectMap
  | kernelGuard
  | kernelMapped
  | kernelStack
  | kernelReserved
  | kernelImage
  deriving DecidableEq

namespace VmLayoutSegment

def start : VmLayoutSegment → Nat
  | userLowGuard => 0x0000000000000000
  | userImage => 0x0000000000400000
  | userHeap => 0x0000010000000000
  | userMapped => 0x0000100000000000
  | userMmio => 0x0000700000000000
  | userStack => 0x0000780000000000
  | kernelDirectMap => 0xFFFF800000000000
  | kernelGuard => 0xFFFFC00000000000
  | kernelMapped => 0xFFFFC10000000000
  | kernelStack => 0xFFFFFF0000000000
  | kernelReserved => 0xFFFFFF8000000000
  | kernelImage => 0xFFFFFFFF80000000

def endExclusive : VmLayoutSegment → Option Nat
  | userLowGuard => some 0x0000000000200000
  | userImage => some 0x0000010000000000
  | userHeap => some 0x0000100000000000
  | userMapped => some 0x0000700000000000
  | userMmio => some 0x0000780000000000
  | userStack => some 0x0000800000000000
  | kernelDirectMap => some 0xFFFFC00000000000
  | kernelGuard => some 0xFFFFC10000000000
  | kernelMapped => some 0xFFFFFF0000000000
  | kernelStack => some 0xFFFFFF8000000000
  | kernelReserved => some 0xFFFFFFFF80000000
  | kernelImage => none

def isGuard : VmLayoutSegment → Bool
  | userLowGuard | kernelGuard => true
  | _ => false

def isUser : VmLayoutSegment → Bool
  | userLowGuard | userImage | userHeap | userMapped | userMmio | userStack => true
  | _ => false

def maxFlags : VmLayoutSegment → VmFlags
  | userLowGuard | kernelGuard => 0
  | userImage | userMapped =>
    .read ||| .write ||| .execute ||| .user
  | userHeap => .read ||| .write ||| .user
  | userMmio => .read ||| .write ||| .user ||| .device
  | userStack => .read ||| .write ||| .user
  | kernelDirectMap => .read ||| .write
  | kernelMapped => .read ||| .write ||| .execute
  | kernelStack => .read ||| .write
  | kernelReserved => 0
  | kernelImage => .read ||| .write ||| .execute ||| .global

/-- `ORDERED` in `classify`. -/
def ordered : List VmLayoutSegment :=
  [userLowGuard, userImage, userHeap, userMapped, userMmio, userStack, kernelDirectMap,
    kernelGuard, kernelMapped, kernelStack, kernelReserved, kernelImage]

/-- Whether the loop of `classify` stops at this segment. -/
def covers (segment : VmLayoutSegment) (addr : Nat) : Bool :=
  segment.start ≤ addr &&
    match segment.endExclusive with
    | some stop => addr < stop
    | none => true

def classify (addr : Nat) : Option VmLayoutSegment := ordered.find? (covers · addr)

def classifyRange (range : VmRange) : Option VmLayoutSegment := do
  let first ← classify range.start
  let last ← classify (range.stop - 1)
  if first = last then some first else none

end VmLayoutSegment

/-- What a mapping is for. -/
inductive RegionPurpose where
  | general
  | kernelText
  | kernelData
  | kernelHeap
  | kernelStack
  | pageTable
  | deviceMmio
  | user
  deriving DecidableEq

def RegionPurpose.isResident : RegionPurpose → Bool
  | .kernelText | .kernelData | .pageTable => true
  | _ => false

end Akarin.Memory
