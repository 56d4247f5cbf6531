/-
# Akarin.Memory.Vmar -- address-space regions

A `Vmar` manages one address range: a map from start pages to entries, and a lazily propagated
segment tree over its pages that summarises which of them are free. The two are written by
different statements of every operation; nothing but the operations' own checks keeps them in step.

Every operation is an `Action` on one region's state, so that what a failing call leaves behind is
part of the model (a query pushes lazy tags down, also on the error paths). Region entries name
their child by the identity of its shared state.
-/
import Akarin.Collections.SegmentTree
import Akarin.Lib.OrderedMap
import Akarin.Memory.Vmo

namespace Akarin.Memory

open Collections
open Lib (Action floorEntry?)

/-! ## The free-space summary -/

/-- The free runs of a span. -/
structure VmarNode where
  len : Nat := 0
  prefixFree : Nat := 0
  suffixFree : Nat := 0
  maxFree : Nat := 0
  fill : Option Bool := none
  deriving DecidableEq, Inhabited

namespace VmarNode

def free : VmarNode := { fill := some true }

def used : VmarNode := { fill := some false }

def fullyFree (node : VmarNode) : Bool := node.maxFree == node.len

def merge (left right : VmarNode) : VmarNode where
  len := left.len + right.len
  prefixFree :=
    if left.prefixFree = left.len then left.len + right.prefixFree else left.prefixFree
  suffixFree :=
    if right.suffixFree = right.len then right.len + left.suffixFree else right.suffixFree
  maxFree := max (max left.maxFree right.maxFree) (left.suffixFree + right.prefixFree)
  fill := none

def apply (node lazyValue : VmarNode) (len : Nat) : VmarNode :=
  match lazyValue.fill with
  | some true => ⟨len, len, len, len, some true⟩
  | some false => ⟨len, 0, 0, 0, some false⟩
  | none => { node with len := len }

instance : SegmentState VmarNode where
  default := {}
  merge := merge
  apply := apply

end VmarNode

/-! ## Entries -/

/-- A range and the VMO behind it. -/
structure VmarMapping where
  range : VmRange
  flags : VmFlags
  purpose : RegionPurpose
  vmo : Vmo
  vmoOffset : Nat

namespace VmarMapping

def validateLayout (heap : VmoHeap) (mapping : VmarMapping) : Bool :=
  match VmLayoutSegment.classifyRange mapping.range with
  | none => false
  | some segment =>
    !segment.isGuard && segment.maxFlags.allowsMmu mapping.flags &&
      !(mapping.flags.contains VmFlags.global && (!segment.isUser && !mapping.purpose.isResident)) &&
      !(mapping.flags.contains VmFlags.device && mapping.purpose != .deviceMmio) &&
      mapping.vmo.canMap heap mapping.flags &&
      saturatingAdd mapping.vmoOffset mapping.range.len ≤ mapping.vmo.size heap

def vmoOffsetForAddr (mapping : VmarMapping) (addr : Nat) : Option Nat :=
  if mapping.range.contains addr then
    checkedAdd mapping.vmoOffset (addr - mapping.range.start)
  else none

end VmarMapping

/-- `VmarEntry`; `child` identifies the child region's shared state. -/
inductive VmarEntry where
  | guard (range : VmRange)
  | mapping (mapping : VmarMapping)
  | region (range : VmRange) (child : Nat)

def VmarEntry.range : VmarEntry → VmRange
  | .guard range => range
  | .mapping m => m.range
  | .region range _ => range

/-- Why a VMAR call is refused. -/
inductive VmarError where
  | invalidRange
  | alreadyMapped
  | permissionDenied
  | notMapped
  deriving DecidableEq

/-- `VmarShared` and the `VmarState` behind its lock. -/
structure Vmar where
  range : VmRange
  pageCount : Nat
  tree : SegmentTree VmarNode
  entries : Std.TreeMap Nat VmarEntry

namespace Vmar

/-- `VmarState::new`. -/
def new (range : VmRange) : Vmar :=
  let pageCount := range.len / pageSize
  let tree := .new 0 (max pageCount 1)
  { range := range
    pageCount := pageCount
    tree := if pageCount ≠ 0 then (tree.update 0 pageCount .free).2 else tree
    entries := ∅ }

/-! ## Address arithmetic -/

section

variable (vmar : Vmar)

def pageIndex (addr : Nat) : Option Nat :=
  if vmar.range.contains addr then some ((addr - vmar.range.start) / pageSize) else none

def pageSpan (range : VmRange) : Option (Nat × Nat) :=
  match vmar.pageIndex range.start with
  | none => none
  | some start =>
    let stop := (range.stop - vmar.range.start) / pageSize
    if start < stop ∧ stop ≤ vmar.range.len / pageSize then some (start, stop) else none

/-- `page_span_for_range`. -/
def pageSpanForRange (range : VmRange) : Option (Nat × Nat) :=
  let base := vmar.range.start
  if range.start < base ∨ range.stop < base then none
  else
    let start := (range.start - base) / pageSize
    let stop := (range.stop - base) / pageSize
    if start < stop ∧ stop ≤ vmar.pageCount then some (start, stop) else none

def findEntry (page : Nat) : Option (Nat × VmarEntry) :=
  match floorEntry? vmar.entries page with
  | none => none
  | some (startPage, entry) =>
    match vmar.pageSpanForRange entry.range with
    | none => none
    | some (entryStart, entryEnd) =>
      if entryStart ≤ page ∧ page < entryEnd then some (startPage, entry) else none

def validateChildRange (range : VmRange) : Bool :=
  range.isPageAligned && vmar.range.containsRange range

end

/-! ## Tree access -/

/-- `state.tree.query(start..stop).expect(..)`. -/
def queryPages (start stop : Nat) : Action Vmar VmarError VmarNode := fun vmar =>
  let res := vmar.tree.query start stop
  (match res.1 with
    | .ok node => .ok node
    | .error _ => .error .panic,
    { vmar with tree := res.2 })

/-- `state.tree.update(start..stop, value).expect(..)`. -/
def updatePages (start stop : Nat) (value : VmarNode) : Action Vmar VmarError Unit := fun vmar =>
  let res := vmar.tree.update start stop value
  (match res.1 with
    | .ok _ => .ok ()
    | .error _ => .error .panic,
    { vmar with tree := res.2 })

/-- `find_first_fit`, on the tree alone; the queried span halves at every call, so its length is
enough fuel. -/
def findFirstFit : (fuel : Nat) → SegmentTree VmarNode → (start stop neededPages : Nat) →
    Option Nat × SegmentTree VmarNode
  | 0, tree, _, _, _ => (none, tree)
  | fuel + 1, tree, start, stop, neededPages =>
    if stop - start < neededPages then (none, tree)
    else
      match tree.query start stop with
      | (.error _, tree) => (none, tree)
      | (.ok summary, tree) =>
        if summary.maxFree < neededPages then (none, tree)
        else if stop - start = neededPages then (some start, tree)
        else
          let mid := start + (stop - start) / 2
          match (if start < mid then findFirstFit fuel tree start mid neededPages
            else (none, tree)) with
          | (some found, tree) => (some found, tree)
          | (none, tree) =>
            match tree.query start mid with
            | (.error _, tree) => (none, tree)
            | (.ok left, tree) =>
              match tree.query mid stop with
              | (.error _, tree) => (none, tree)
              | (.ok right, tree) =>
                if neededPages ≤ left.suffixFree + right.prefixFree then
                  (some (mid - left.suffixFree), tree)
                else if mid < stop then findFirstFit fuel tree mid stop neededPages
                else (none, tree)

/-! ## Operations -/

def insertEntry (entry : VmarEntry) : Action Vmar VmarError Unit := do
  let vmar ← .gets id
  .ensure (vmar.validateChildRange entry.range) .invalidRange
  let (startPage, endPage) ← .orFail (vmar.pageSpan entry.range) .invalidRange
  let status ← queryPages startPage endPage
  .ensure status.fullyFree .alreadyMapped
  .modify fun vmar => { vmar with entries := vmar.entries.insert startPage entry }
  updatePages startPage endPage .used

/-- `allocate_child`; `child` is the identity the new region's shared state was given. -/
def allocateChild (range : VmRange) (child : Nat) : Action Vmar VmarError Unit := do
  let vmar ← .gets id
  .ensure (vmar.validateChildRange range) .invalidRange
  insertEntry (.region range child)

/-- `allocate_child_any`; answers the range it chose. -/
def allocateChildAny (size : Nat) (child : Nat) : Action Vmar VmarError VmRange := do
  .ensure (size ≠ 0 ∧ size % pageSize = 0) .invalidRange
  let neededPages := size / pageSize
  let pageCount ← .gets pageCount
  let overall ← queryPages 0 pageCount
  .ensure (neededPages ≤ overall.maxFree) .notMapped
  let found ← fun vmar =>
    let res := findFirstFit (pageCount + 1) vmar.tree 0 pageCount neededPages
    (.ok res.1, { vmar with tree := res.2 })
  let startPage ← .orFail found .notMapped
  let vmar ← .gets id
  let start := vmar.range.start + startPage * pageSize
  let stop ← .orFail (checkedAdd start size) .invalidRange
  let candidate ← .orFail (VmRange.new start stop) .invalidRange
  allocateChild candidate child
  pure candidate

def mapVmo (heap : VmoHeap) (range : VmRange) (vmo : Vmo) (vmoOffset : Nat) (flags : VmFlags)
    (purpose : RegionPurpose) : Action Vmar VmarError Unit := do
  .ensure (range.isPageAligned = true ∧ vmoOffset % vmo.pageSize = 0) .invalidRange
  let mapping : VmarMapping := ⟨range, flags, purpose, vmo, vmoOffset⟩
  .ensure (mapping.validateLayout heap) .permissionDenied
  insertEntry (.mapping mapping)

def mapGuard (range : VmRange) : Action Vmar VmarError Unit := do
  .ensure range.isPageAligned .invalidRange
  let segment ← .orFail (VmLayoutSegment.classifyRange range) .invalidRange
  .ensure segment.isGuard .permissionDenied
  insertEntry (.guard range)

/-- The mapping `protect` addresses: the entry at the start page, when it maps exactly `range`. -/
def exactMapping (vmar : Vmar) (startPage : Nat) (range : VmRange) : Option VmarMapping :=
  match vmar.findEntry startPage with
  | some (_, .mapping mapping) => if mapping.range = range then some mapping else none
  | _ => none

def protect (heap : VmoHeap) (range : VmRange) (flags : VmFlags) : Action Vmar VmarError Unit := do
  .ensure range.isPageAligned .invalidRange
  let vmar ← .gets id
  let (startPage, _) ← .orFail (vmar.pageSpan range) .invalidRange
  let mapping ← .orFail (vmar.exactMapping startPage range) .notMapped
  let updated := { mapping with flags := flags }
  .ensure (updated.validateLayout heap) .permissionDenied
  .modify fun vmar => { vmar with entries := vmar.entries.insert startPage (.mapping updated) }

/-- `unmap`. The entry leaves the map before its span is computed; when its range does not start
at the given address it is put back. -/
def unmap (start : Nat) : Action Vmar VmarError VmarEntry := do
  let vmar ← .gets id
  let page ← .orFail (vmar.pageIndex start) .invalidRange
  let entry ← .orFail vmar.entries[page]? .notMapped
  .modify fun vmar => { vmar with entries := vmar.entries.erase page }
  if entry.range.start ≠ start then
    .modify fun vmar => { vmar with entries := vmar.entries.insert page entry }
    .fail .notMapped
  else
    let (startPage, endPage) ← .orFail (vmar.pageSpan entry.range) .invalidRange
    updatePages startPage endPage .free
    pure entry

end Vmar

/-! ## The regions of an address space and address lookup -/

/-- Where an address points. -/
inductive VmPointerRegion where
  | unmapped
  | guardPage
  | static (segment : VmLayoutSegment)
  | reserved (range : VmRange)
  | mapping (mapping : VmarMapping)

/-- The regions of one address space, by the identity of their shared state; region `0` is the root. A region
stays in the store after the entry that led to it has been unmapped: handles keep it alive. -/
structure VmarTree where
  vmars : Nat → Vmar
  nextVmar : Nat

namespace VmarTree

/-- `Vmar::locate`. A child is younger than its parent, so the number of regions is enough fuel. -/
def locateFrom (vmars : Nat → Vmar) : (fuel id addr : Nat) → VmPointerRegion
  | 0, _, _ => .unmapped
  | fuel + 1, id, addr =>
    if !(vmars id).range.contains addr then
      match VmLayoutSegment.classify addr with
      | some segment => if segment.isGuard then .guardPage else .static segment
      | none => .unmapped
    else
      match (vmars id).pageIndex addr with
      | none => .reserved (vmars id).range
      | some page =>
        match (vmars id).findEntry page with
        | none => .reserved (vmars id).range
        | some (_, entry) =>
          if entry.range.contains addr then
            match entry with
            | .guard _ => .guardPage
            | .mapping mapping => .mapping mapping
            | .region _ child => locateFrom vmars fuel child addr
          else .reserved (vmars id).range

def locate (tree : VmarTree) (id addr : Nat) : VmPointerRegion :=
  locateFrom tree.vmars tree.nextVmar id addr

/-- `mapping_at`. -/
def mappingAt (tree : VmarTree) (id addr : Nat) : Option VmarMapping :=
  match tree.locate id addr with
  | .mapping mapping => some mapping
  | _ => none

end VmarTree

end Akarin.Memory
