/-
# Akarin.Dyld.Image -- Mach-O images

The image of a process as the loader sees it: the bytes of the file, where in them the image for this
machine begins, and what the parser of the headers says about it. The parser is external code. It is a
parameter here, and nothing is assumed of what it returns: load commands and segments have any values
their fields can have.
-/
import Akarin.Lib.Checked
import Akarin.Memory.Layout

namespace Akarin.Dyld

open Lib (Action)
open Lib.Action
open Memory (checkedAdd saturatingAdd)

/-! ## What the parser returns -/

/-- The fields of `LC_SEGMENT_64` that are read. -/
structure SegmentCommand where
  vmaddr : UInt64
  vmsize : UInt64
  fileoff : UInt64
  filesize : UInt64
  initprot : UInt32

/-- The opcode streams, by offset and size. -/
structure DyldInfo where
  rebaseOff : UInt32
  rebaseSize : UInt32
  bindSize : UInt32
  weakBindSize : UInt32
  lazyBindSize : UInt32

/-- The load commands told apart. -/
inductive CommandVariant where
  | dyldInfo (dyld : DyldInfo)
  | dyldInfoOnly (dyld : DyldInfo)
  | other

/-- `MachO`. -/
structure MachO where
  filetype : UInt32
  entry : UInt64
  segments : List SegmentCommand
  loadCommands : List CommandVariant

/-- Why an image is refused. -/
inductive ImageParserError where
  | machOParsing (text : String)
  | archNotFound
  | unsupportedExecutable (text : String)
  deriving DecidableEq

/-- A slice of a fat binary. -/
structure FatArch where
  cputype : UInt32
  offset : UInt32

/-- `Mach`; the architectures of a fat file are parsed on demand. -/
inductive Mach where
  | binary
  | fat (arches : Except ImageParserError (List FatArch))

/-- The width and byte order a magic number stands for. -/
structure Ctx where
  big : Bool
  littleEndian : Bool

/-- `Mach::parse`, `parse_magic_and_ctx` and `MachO::parse`. -/
structure Parser where
  mach : List UInt8 → Except ImageParserError Mach
  magicAndCtx : List UInt8 → Nat → Except ImageParserError (Option Ctx)
  machO : List UInt8 → Nat → Except ImageParserError MachO

def cpuTypeX8664 : UInt32 := 0x01000007
def mhExecute : UInt32 := 2
def vmProtRead : UInt32 := 1
def vmProtWrite : UInt32 := 2
def vmProtExecute : UInt32 := 4

/-! ## Images -/

/-- The bits of `initprot`. -/
structure MachOSegmentProtections where
  read : Bool
  write : Bool
  execute : Bool

namespace MachOSegmentProtections

def fromMach (initProt : UInt32) : MachOSegmentProtections where
  read := initProt &&& vmProtRead != 0
  write := initProt &&& vmProtWrite != 0
  execute := initProt &&& vmProtExecute != 0

def isEmpty (prot : MachOSegmentProtections) : Bool := !prot.read && !prot.write && !prot.execute

end MachOSegmentProtections

/-- A segment to be mapped. -/
structure MachOLoadSegment where
  segIndex : Nat
  vmAddr : Nat
  vmSize : Nat
  fileOffset : Nat
  fileSize : Nat
  initProt : MachOSegmentProtections

namespace MachOLoadSegment

/-- The view of the segment command at an index; the index is kept as a `u8`. -/
def ofCommand (segment : SegmentCommand) (index : Nat) : MachOLoadSegment where
  segIndex := index % 2 ^ 8
  vmAddr := segment.vmaddr.toNat
  vmSize := segment.vmsize.toNat
  fileOffset := segment.fileoff.toNat
  fileSize := segment.filesize.toNat
  initProt := .fromMach segment.initprot

def hasFileBacking (segment : MachOLoadSegment) : Bool := segment.fileSize != 0

def requiresMapping (segment : MachOLoadSegment) : Bool :=
  segment.vmSize != 0 && (!segment.initProt.isEmpty || segment.hasFileBacking)

end MachOLoadSegment

/-- What the loader needs of an image. -/
structure MachOExecutable where
  entry : Nat
  imageBase : Nat
  imageEnd : Nat
  segments : List MachOLoadSegment

/-- The file, and the slice of it to load. -/
structure MachOImage where
  data : List UInt8
  ctx : Ctx
  offset : Nat

/-- The offset of the last architecture of the file that this machine runs. -/
def x8664Offset (arches : List FatArch) : Option Nat :=
  arches.foldl (fun offset arch =>
    if arch.cputype = cpuTypeX8664 then some arch.offset.toNat else offset) none

namespace MachOImage

variable {σ : Type}

/-- Where the image begins in the file. -/
def locate (parser : Parser) (bytes : List UInt8) : Except ImageParserError (Option Nat) := do
  match ← parser.mach bytes with
  | .binary => pure (some 0)
  | .fat arches => return x8664Offset (← arches)

def fromBytes (parser : Parser) (bytes : List UInt8) : Action σ ImageParserError MachOImage := do
  let offset ← ofExcept (locate parser bytes)
  let ctx ← ofExcept (parser.magicAndCtx bytes (offset.getD 0))
  -- the fields are evaluated in order: the context is unwrapped before the offset is looked at
  let ctx ← orPanic ctx
  let offset ← orFail offset .archNotFound
  return ⟨bytes, ctx, offset⟩

/-- `Deref for MachOImage`. -/
def deref {ε : Type} (image : MachOImage) : Action σ ε (List UInt8) := sliceFrom image.data image.offset

def binary (parser : Parser) (image : MachOImage) : Action σ ImageParserError MachO :=
  ofExcept (parser.machO image.data image.offset)

/-- The segments that are mapped. -/
def loadSegments (segments : List SegmentCommand) : List MachOLoadSegment :=
  (segments.zipIdx.map fun segment => MachOLoadSegment.ofCommand segment.1 segment.2).filter
    (·.requiresMapping)

def imageBase (segments : List MachOLoadSegment) : Nat :=
  segments.foldl (fun base segment => min base segment.vmAddr) (2 ^ 64 - 1)

def imageEnd (segments : List MachOLoadSegment) : Nat :=
  segments.foldl (fun stop segment => max stop (saturatingAdd segment.vmAddr segment.vmSize)) 0

def executable (parser : Parser) (image : MachOImage) : Action σ ImageParserError MachOExecutable := do
  let binary ← image.binary parser
  ensure (binary.filetype = mhExecute) (.unsupportedExecutable "only MH_EXECUTE images are supported")
  ensure (binary.entry ≠ 0) (.unsupportedExecutable "image does not define one entry point")
  let segments := loadSegments binary.segments
  ensure (segments ≠ [] ∧ imageBase segments ≠ 2 ^ 64 - 1 ∧ imageBase segments < imageEnd segments)
    (.unsupportedExecutable "image does not contain any loadable segment")
  return ⟨binary.entry.toNat, imageBase segments, imageEnd segments, segments⟩

def segmentBytes (image : MachOImage) (segment : MachOLoadSegment) :
    Action σ ImageParserError (List UInt8) := do
  let stop ← orFail (checkedAdd segment.fileOffset segment.fileSize)
    (.unsupportedExecutable "segment file range overflowed")
  let bytes ← image.deref
  ensure (stop ≤ bytes.length) (.unsupportedExecutable "segment file range exceeds image size")
  slice bytes segment.fileOffset stop

/-! ## What does not panic -/

variable {s : σ} {parser : Parser} {image : MachOImage} {bytes : List UInt8}

/-- The magic number at the place where the image begins is one of Mach-O. -/
def HeaderFits (parser : Parser) (bytes : List UInt8) : Prop :=
  ∀ offset, locate parser bytes = .ok offset → parser.magicAndCtx bytes (offset.getD 0) ≠ .ok none

lemma safe_fromBytes :
    Safe (fromBytes parser bytes : Action σ ImageParserError MachOImage) s ↔ HeaderFits parser bytes := by
  simp only [safe_iff_returns, fromBytes, returns_bind, returns_ofExcept, returns_orPanic, returns_orFail,
    returns_pure, HeaderFits, implies_true, and_true]
  refine forall₂_congr fun offset _ => ⟨fun h hnone => ?_, fun h ctx hctx => ?_⟩
  · obtain ⟨_, hctx⟩ := h none hnone
    cases hctx
  · cases ctx with
    | none => exact absurd hctx h
    | some ctx => exact ⟨ctx, rfl⟩

/-- Only the bytes and the parser have a part in what the image is. -/
lemma returns_fromBytes {Q : MachOImage → σ → Prop} : Returns (fromBytes parser bytes) s Q ↔
    HeaderFits parser bytes ∧ ∀ image, (fromBytes parser bytes).outcome s = .ok image → Q image s := by
  rw [← safe_fromBytes (s := s)]
  apply returns_iff_outcome
  simp [safe_iff_returns, fromBytes]

lemma returns_executable {Q : MachOExecutable → σ → Prop} : Returns (image.executable parser) s Q ↔
    ∀ executable, (image.executable parser).outcome s = .ok executable → Q executable s := by
  have hsafe : Safe (image.executable parser) s := by simp [safe_iff_returns, executable, binary]
  rw [returns_iff_outcome, and_iff_right hsafe]
  simp [executable, binary]

/-- The range of a segment is checked against the file before it is cut out. -/
lemma returns_segmentBytes {segment : MachOLoadSegment} {Q : List UInt8 → σ → Prop} :
    Returns (image.segmentBytes segment) s Q ↔
      ∀ stop ∈ checkedAdd segment.fileOffset segment.fileSize, image.offset ≤ image.data.length ∧
        (stop ≤ (image.data.drop image.offset).length →
          Q (((image.data.drop image.offset).take stop).drop segment.fileOffset) s) := by
  simp only [segmentBytes, deref, returns_bind, returns_orFail, returns_sliceFrom, returns_ensure, returns_slice]
  refine forall₂_congr fun stop hstop => and_congr_right fun _ => forall_congr' fun hfits => and_iff_right ?_
  have hsum := Memory.checkedAdd_eq_some hstop
  exact ⟨by omega, hfits⟩

end MachOImage

end Akarin.Dyld
