/-
# Akarin.Sched.Loader -- loading a userspace image into a process

`load_image_from_vmo` reads the image out of a VMO, maps its segments into the image region of the
process and rebases them in place. Everything in the image is under the control of whoever supplied it.

The region is the `Vmar` of `Akarin.Memory.Vmar`, the bytes live in the heap of `Akarin.Memory.Vmo`. The
page table is a parameter: a type `π` with the two calls the loader makes, one of which may commit pages
of the VMO. What a child region answers about an address is a parameter as well.
-/
import Akarin.Dyld.Linker
import Akarin.Memory.VmarInvariant
import Akarin.Objects.Capability

namespace Akarin.Sched

open Dyld
open Lib (Action Fault)
open Lib.Action Memory
open Objects (ObjectError)

/-! ## Model -/

/-- `ProcessVmError`; a process without an address space is the only failure of `segment_vmar`. -/
inductive ProcessVmError where
  | notMapped
  deriving DecidableEq

/-- Why loading fails. -/
inductive BootstrapLoadError where
  | object (e : ObjectError)
  | vm (e : ProcessVmError)
  | image (e : ImageParserError)
  | link (e : LinkerError)
  | invalidExecutable (text : String)
  deriving DecidableEq

/-- Where the image went. -/
structure ProcessLoadInfo where
  entryIp : Nat
  imageBase : Nat
  imageEnd : Nat
  slide : Nat
  deriving DecidableEq

/-- What a load changes: the VMOs, the image region and the page table of the process. `hasVspace` says
whether the process has an address space yet. -/
structure ProcessMemory (π : Type) where
  heap : VmoHeap
  imageVmar : Vmar
  pageTable : π
  hasVspace : Bool

/-- What a load calls. -/
structure LoaderEnv (π : Type) where
  parser : Parser
  /-- `map_mapping_in_page_table`, which commits the pages it maps. -/
  mapMapping : VmarMapping → VmoHeap → π → Except ObjectError Unit × VmoHeap × π
  /-- `unmap_entry_from_page_table`. -/
  unmapEntry : VmarEntry → π → π
  /-- `child.locate`, when it answers a mapping. -/
  childMappingAt : (child addr : Nat) → Option VmarMapping

/-- The number of `n` bytes, least significant first. -/
def fromLeBytes (n : Nat) (bytes : List Byte) : BitVec (8 * n) :=
  BitVec.ofNat _ (bytes.foldr (fun byte rest => byte.toNat + 256 * rest) 0)

def toLeBytes {n : Nat} (data : BitVec (8 * n)) : List Byte :=
  (List.range n).map fun i => data.extractLsb' (8 * i) 8

namespace LoaderEnv

variable {π : Type}

/-- `Vmar::mapping_at`. -/
def mappingAt (env : LoaderEnv π) (vmar : Vmar) (addr : Nat) : Option VmarMapping := do
  let page ← vmar.pageIndex addr
  let (_, entry) ← vmar.findEntry page
  if entry.range.contains addr then
    match entry with
    | .guard _ => none
    | .mapping mapping => some mapping
    | .region _ child => env.childMappingAt child addr
  else none

/-- Where the byte at an address lives: the VMO and the offset in it. -/
def vmoAt (env : LoaderEnv π) (vmar : Vmar) (addr : Nat) : Except String (Vmo × Nat) :=
  match env.mappingAt vmar addr with
  | none => .error "rebase address is not mapped in VMAR"
  | some mapping =>
    match mapping.vmoOffsetForAddr addr with
    | none => .error "rebase address translation failed"
    | some offset => .ok (mapping.vmo, offset)

/-- `VmarRebaseTarget`. -/
def rebaseTarget (env : LoaderEnv π) : RebaseTarget (ProcessMemory π) where
  readAtVmaddr s vmAddr n :=
    match env.vmoAt s.imageVmar vmAddr with
    | .error text => .error text
    | .ok (vmo, offset) =>
      match vmo.read s.heap offset n with
      | none => .error "failed to read rebase bytes from VMO"
      | some bytes => .ok (fromLeBytes n bytes)
  writeAtVmaddr s vmAddr _ data :=
    match env.vmoAt s.imageVmar vmAddr with
    | .error text => (.error text, s)
    | .ok (vmo, offset) =>
      match vmo.write offset (toLeBytes data) s.heap with
      | (true, heap) => (.ok (), { s with heap := heap })
      | (false, heap) => (.error "failed to write rebase bytes into VMO", { s with heap := heap })

end LoaderEnv

/-- `page_align_up`; `none` when the sum overflows. -/
def pageAlignUp (value : Nat) : Option Nat :=
  (checkedAdd value (pageSize - 1)).map fun aligned => aligned / pageSize * pageSize

def mappingFlags (protections : MachOSegmentProtections) : VmFlags :=
  .user ||| (if protections.read then .read else 0) ||| (if protections.write then .write else 0) |||
    (if protections.execute then .execute else 0)

/-- The flags of the VMO behind a segment. -/
def segmentVmoFlags : VmFlags :=
  .read ||| .write ||| .execute ||| .user ||| .map

namespace ProcessMemory

variable {π : Type}

/-- A call on the image region. -/
def onVmar {ε α : Type} (x : Action Vmar ε α) : Action (ProcessMemory π) ε α :=
  focus (·.imageVmar) (fun s vmar => { s with imageVmar := vmar }) x

/-- `Vmo::new`. -/
def newVmo {ε : Type} (size : Nat) (flags : VmFlags) : Action (ProcessMemory π) ε Vmo := fun s =>
  (.ok (Vmo.new s.heap size pageSize flags).1, { s with heap := (Vmo.new s.heap size pageSize flags).2 })

def mapMappingInPageTable {ε : Type} (env : LoaderEnv π) (mapping : VmarMapping) :
    Action (ProcessMemory π) ε (Except ObjectError Unit) := fun s =>
  match env.mapMapping mapping s.heap s.pageTable with
  | (result, heap, pageTable) => (.ok result, { s with heap := heap, pageTable := pageTable })

def unmapEntryFromPageTable {ε : Type} (env : LoaderEnv π) (entry : VmarEntry) :
    Action (ProcessMemory π) ε Unit := fun s =>
  (.ok (), { s with pageTable := env.unmapEntry entry s.pageTable })

def writeVmo {ε : Type} (vmo : Vmo) (offset : Nat) (bytes : List UInt8) :
    Action (ProcessMemory π) ε Bool := fun s =>
  ((.ok (vmo.write offset (bytes.map UInt8.toBitVec) s.heap).1),
    { s with heap := (vmo.write offset (bytes.map UInt8.toBitVec) s.heap).2 })

end ProcessMemory

open ProcessMemory

section Load

variable {π : Type}

/-- `bytes[..file_bytes.len()].copy_from_slice(file_bytes)`. -/
def copyToStart {σ ε : Type} (bytes fileBytes : List UInt8) : Action σ ε (List UInt8) := do
  let _ ← slice bytes 0 fileBytes.length
  return fileBytes ++ bytes.drop fileBytes.length

def mapBootstrapSegment (env : LoaderEnv π) (image : MachOImage) (slide : Nat)
    (segment : MachOLoadSegment) : Action (ProcessMemory π) BootstrapLoadError Unit := do
  let vmStart ← orFail (checkedAdd segment.vmAddr slide)
    (.invalidExecutable "segment virtual address overflowed")
  let vmSize ← orFail (pageAlignUp segment.vmSize) (.invalidExecutable "page alignment overflowed")
  ensure (vmStart % pageSize = 0 ∧ vmSize ≠ 0)
    (.invalidExecutable "bootstrap segments must be page aligned and non-empty")
  let vmEnd ← orFail (checkedAdd vmStart vmSize) (.invalidExecutable "segment virtual range overflowed")
  let range ← orFail (VmRange.new vmStart vmEnd) (.invalidExecutable "segment virtual range is invalid")
  let fileBytes ← mapError .image (image.segmentBytes segment)
  let bytes ← copyToStart (List.replicate vmSize 0) fileBytes
  let vmo ← newVmo vmSize segmentVmoFlags
  let mapping : VmarMapping := ⟨range, mappingFlags segment.initProt, .user, vmo, 0⟩
  let heap ← gets (·.heap)
  mapError (fun _ => .invalidExecutable "segment mapping failed")
    (onVmar (Vmar.mapVmo heap range vmo 0 mapping.flags .user))
  match ← mapMappingInPageTable env mapping with
  | .error e => do
      ignore (onVmar (Vmar.unmap range.start))
      fail (.object e)
  | .ok () => do
      if ← writeVmo vmo 0 bytes then ret ()
      else do
        unmapEntryFromPageTable env (.mapping mapping)
        ignore (onVmar (Vmar.unmap range.start))
        fail (.invalidExecutable "failed to populate bootstrap segment contents")

def bootstrapSlide {σ : Type} (executable : MachOExecutable) : Action σ BootstrapLoadError Nat := do
  let slide := VmLayoutSegment.userImage.start - executable.imageBase
  let imageEnd ← orFail (checkedAdd executable.imageEnd slide)
    (.invalidExecutable "bootstrap image end overflowed")
  let imageLimit ← orFail VmLayoutSegment.userImage.endExclusive
    (.invalidExecutable "user image segment must be bounded")
  ensure (imageEnd ≤ imageLimit)
    (.invalidExecutable "bootstrap image does not fit inside the user image region")
  return slide

def loadImageBytes (env : LoaderEnv π) (imageBytes : List UInt8) :
    Action (ProcessMemory π) BootstrapLoadError ProcessLoadInfo := do
  let image ← mapError .image (MachOImage.fromBytes env.parser imageBytes)
  let executable ← mapError .image (image.executable env.parser)
  let slide ← bootstrapSlide executable
  let hasVspace ← gets (·.hasVspace)
  ensure (hasVspace = true) (.vm .notMapped)
  forEach executable.segments (mapBootstrapSegment env image slide)
  mapError .link (DyldLinker.link ⟨env.parser, image, slide, env.rebaseTarget⟩)
  let entryPoint ← orFail (checkedAdd executable.entry slide)
    (.invalidExecutable "bootstrap entry address overflowed")
  let imageBase ← orFail (checkedAdd executable.imageBase slide)
    (.invalidExecutable "bootstrap image base overflowed")
  let imageEnd ← orFail (checkedAdd executable.imageEnd slide)
    (.invalidExecutable "bootstrap image end overflowed")
  return ⟨entryPoint, imageBase, imageEnd, slide⟩

def loadImageFromVmo (env : LoaderEnv π) (imageVmo : Vmo) :
    Action (ProcessMemory π) BootstrapLoadError ProcessLoadInfo := do
  let heap ← gets (·.heap)
  let streamSize := (heap.inner imageVmo.id).streamSize
  ensure (streamSize ≠ 0) (.invalidExecutable "process image VMO is empty")
  let bytes ← orFail (imageVmo.read heap 0 streamSize)
    (.invalidExecutable "process image VMO contents are unreadable")
  loadImageBytes env (bytes.map UInt8.ofBitVec)

end Load

/-! ## What does not panic -/

section Safety

variable {π : Type} {env : LoaderEnv π} {s : ProcessMemory π} {image : MachOImage}
  {segment : MachOLoadSegment} {slide : Nat}

/-- The segment is cut out of a file that reaches to the image, and if its bytes are in the file they fit in
its memory, or one of the checks before has refused it. -/
def SegmentFits (image : MachOImage) (slide : Nat) (segment : MachOLoadSegment) : Prop :=
  ∀ vmStart ∈ checkedAdd segment.vmAddr slide, ∀ vmSize ∈ pageAlignUp segment.vmSize,
    vmStart % pageSize = 0 ∧ vmSize ≠ 0 → ∀ vmEnd ∈ checkedAdd vmStart vmSize,
      ∀ _range ∈ VmRange.new vmStart vmEnd, ∀ stop ∈ checkedAdd segment.fileOffset segment.fileSize,
        image.offset ≤ image.data.length ∧
          (stop ≤ (image.data.drop image.offset).length → segment.fileSize ≤ vmSize)

variable {σ ε : Type} {bytes : List UInt8}

lemma returns_copyToStart {t : σ} {fileBytes : List UInt8} {Q : List UInt8 → σ → Prop} :
    Returns (copyToStart bytes fileBytes : Action σ ε (List UInt8)) t Q ↔
      fileBytes.length ≤ bytes.length ∧ Q (fileBytes ++ bytes.drop fileBytes.length) t := by
  simp [copyToStart]

lemma returns_mapVmo (f : VmarError → ε) (hw : s.imageVmar.WellFormed) (heap : VmoHeap)
    (range : VmRange) (vmo : Vmo) (vmoOffset : Nat) (flags : VmFlags) (purpose : RegionPurpose) :
    Returns (mapError f (onVmar (Vmar.mapVmo heap range vmo vmoOffset flags purpose))) s
      fun _ t => t.imageVmar.WellFormed := by
  have hmap : Returns (Vmar.mapVmo heap range vmo vmoOffset flags purpose) s.imageVmar
      fun _ vmar => vmar.WellFormed := by
    apply (Vmar.mapVmo_total hw heap range vmo vmoOffset flags purpose).conseq (fun _ => id)
    · rintro _ vmar ⟨-, hinserted⟩
      obtain ⟨_, hedited⟩ := hinserted.edited
      exact hedited.wellFormed
    · exact fun _ _ hrefused => hrefused.1
  exact (returns_mapError f).2 (returns_focus.2 hmap)

lemma returns_unmap (hw : s.imageVmar.WellFormed) (start : Nat) :
    Returns (ignore (onVmar (Vmar.unmap start)) : Action (ProcessMemory π) ε Unit) s fun _ _ => True := by
  have hunmap : Returns (Vmar.unmap start) s.imageVmar fun _ _ => True :=
    (Vmar.unmap_total hw start).conseq (fun _ => id) (fun _ _ _ => trivial) fun _ _ h => h.1
  exact safe_iff_returns.1 (safe_ignore.2 (safe_iff_returns.2 (returns_focus.2 hunmap)))

/-- Neither the VMOs nor the page table have a part in the shape of the region. -/
lemma returns_apart {α β : Type} {x : Action (ProcessMemory π) ε α} {f : α → Action (ProcessMemory π) ε β}
    {Q : β → ProcessMemory π → Prop} (hx : Returns x s fun _ t => t.imageVmar = s.imageVmar)
    (hw : s.imageVmar.WellFormed) (hf : ∀ a t, t.imageVmar.WellFormed → Returns (f a) t Q) :
    Returns (x >>= f) s Q :=
  hx.bind fun a t ht => hf a t (ht ▸ hw)

/-- The bytes that are cut out of the file are those of the segment. -/
lemma length_segment {data : List UInt8} {stop : Nat}
    (hstop : stop ∈ checkedAdd segment.fileOffset segment.fileSize) (hfits : stop ≤ data.length) :
    ((data.take stop).drop segment.fileOffset).length = segment.fileSize := by
  have hsum := checkedAdd_eq_some hstop
  rw [List.length_drop, List.length_take, Nat.min_eq_left hfits]
  omega

lemma returns_mapBootstrapSegment (env : LoaderEnv π) (hw : s.imageVmar.WellFormed)
    {Q : Unit → ProcessMemory π → Prop} (hQ : ∀ t, t.imageVmar.WellFormed → Q () t) :
    Returns (mapBootstrapSegment env image slide segment) s Q ↔ SegmentFits image slide segment := by
  rw [mapBootstrapSegment, returns_bind, returns_orFail]
  refine forall₂_congr fun vmStart _ => ?_
  rw [returns_bind, returns_orFail]
  refine forall₂_congr fun vmSize _ => ?_
  rw [returns_bind, returns_ensure]
  refine forall_congr' fun _ => ?_
  rw [returns_bind, returns_orFail]
  refine forall₂_congr fun vmEnd _ => ?_
  rw [returns_bind, returns_orFail]
  refine forall₂_congr fun range _ => ?_
  rw [returns_bind, returns_mapError, MachOImage.returns_segmentBytes]
  refine forall₂_congr fun stop hstop => and_congr_right fun _ => forall_congr' fun hfits => ?_
  rw [returns_bind, returns_copyToStart, length_segment hstop hfits, List.length_replicate]
  refine and_iff_left ?_
  -- from here on only the region matters, and only two calls touch it
  refine returns_apart (returns_iff.2 rfl) hw fun vmo s₁ hw₁ => ?_
  rw [returns_bind, returns_gets]
  refine (returns_mapVmo _ hw₁ _ _ _ _ _ _).bind fun _ s₂ hw₂ => ?_
  refine returns_apart (returns_iff.2 rfl) hw₂ fun result s₃ hw₃ => ?_
  cases result with
  | error e => exact (returns_unmap hw₃ _).bind fun _ _ _ => returns_fail _
  | ok _ =>
    refine returns_apart (returns_iff.2 rfl) hw₃ fun written s₄ hw₄ => ?_
    cases written with
    | true => exact returns_ret.2 (hQ s₄ hw₄)
    | false =>
      refine returns_apart (returns_iff.2 rfl) hw₄ fun _ s₅ hw₅ => ?_
      exact (returns_unmap hw₅ _).bind fun _ _ _ => returns_fail _

lemma returns_bootstrapSlide {t : σ} {executable : MachOExecutable} {Q : Nat → σ → Prop} :
    Returns (bootstrapSlide executable) t Q ↔
      ∀ slide, (bootstrapSlide executable).outcome t = .ok slide → Q slide t := by
  have hsafe : Safe (bootstrapSlide executable) t := by simp [safe_iff_returns, bootstrapSlide]
  rw [returns_iff_outcome, and_iff_right hsafe]
  simp [bootstrapSlide]

/-- The magic number of the image is known, every segment that is reached fits, and every opcode of the rebase
information can be executed in the state it is reached in. -/
def LoadFits (env : LoaderEnv π) (bytes : List UInt8) (s : ProcessMemory π) : Prop :=
  MachOImage.HeaderFits env.parser bytes ∧
    ∀ image, (MachOImage.fromBytes env.parser bytes).outcome s = .ok image →
      ∀ executable, (image.executable env.parser).outcome s = .ok executable →
        ∀ slide, (bootstrapSlide executable).outcome s = .ok slide → s.hasVspace = true →
          AlongEach (mapBootstrapSegment env image slide) (SegmentFits image slide) executable.segments s ∧
            ∀ t, forEach executable.segments (mapBootstrapSegment env image slide) s = (.ok (), t) →
              DyldLinker.LinkFits ⟨env.parser, image, slide, env.rebaseTarget⟩ t

lemma safe_loadImageBytes (hw : s.imageVmar.WellFormed) :
    Safe (loadImageBytes env bytes) s ↔ LoadFits env bytes s := by
  rw [safe_iff_returns, loadImageBytes, returns_bind, returns_mapError, MachOImage.returns_fromBytes]
  refine and_congr_right fun _ => forall₂_congr fun image _ => ?_
  rw [returns_bind, returns_mapError, MachOImage.returns_executable]
  refine forall₂_congr fun executable _ => ?_
  rw [returns_bind, returns_bootstrapSlide]
  refine forall₂_congr fun slide _ => ?_
  rw [returns_bind, returns_gets, returns_bind, returns_ensure]
  refine forall_congr' fun _ => ?_
  rw [returns_bind, returns_iff_safe, safe_forEach (I := fun t => t.imageVmar.WellFormed)
    (fun segment t ht => safe_iff_returns.trans (returns_mapBootstrapSegment env ht fun _ _ => trivial))
    (fun segment t ht hfits => (returns_mapBootstrapSegment env ht fun _ => id).2 hfits) _ hw]
  -- what follows the link does not panic
  refine and_congr_right fun _ => ⟨fun h t hrun => ?_, fun h _ t hrun => ?_⟩
  · rw [← DyldLinker.safe_link, safe_iff_returns]
    exact ((returns_mapError _).1 (returns_bind.1 (h () t hrun))).mono fun _ _ _ => trivial
  · have hlink := safe_iff_returns.1 (DyldLinker.safe_link.2 (h t hrun))
    exact ((returns_mapError _).2 hlink).bind fun _ _ _ => by simp

end Safety

/-! ## Images -/

/-- A file of one image. -/
def thinParser (machO : MachO) : Parser where
  mach _ := .ok .binary
  magicAndCtx _ _ := .ok (some ⟨true, true⟩)
  machO _ _ := .ok machO

/-- A page table that commits what it maps, in a process with no child regions. -/
def committingEnv (parser : Parser) : LoaderEnv Unit where
  parser := parser
  mapMapping mapping heap _ :=
    match mapping.vmo.commitRange 0 mapping.range.len .anonymous heap with
    | (.ok _, heap) => (.ok (), heap, ())
    | (.error _, heap) => (.error .invalidArgument, heap, ())
  unmapEntry _ _ := ()
  childMappingAt _ _ := none

def imageRange : VmRange := ⟨0x400000, 0x404000, by decide⟩

def imageVmo : Vmo := .root 0 0x1000 .paged

/-- A process whose image VMO holds the bytes. -/
def memoryWith (bytes : List UInt8) : ProcessMemory Unit where
  heap := {
    nextId := 1
    inner := fun _ => .reindexed (.fresh 0x2000 bytes.length segmentVmoFlags)
      [⟨0, ⟨0x1000, 2, 0x1000⟩, .anonymous, true⟩]
    allocator := ⟨0x1000, page_pos, fun calls => some (0x3000 + calls * 0x1000), 0⟩
    memory := fun addr => (bytes.getD (addr - 0x1000) 0).toBitVec }
  imageVmar := .new imageRange
  pageTable := ()
  hasVspace := true

/-- An image of one segment of a page, with the rebase information at the given place. -/
def onePage (fileSize : UInt64) (rebaseOff rebaseSize : UInt32) : MachO where
  filetype := mhExecute
  entry := 0x1000
  segments := [⟨0x1000, 0x1000, 0, fileSize, 7⟩]
  loadCommands := [.dyldInfoOnly ⟨rebaseOff, rebaseSize, 0, 0, 0⟩]

/-- Loading a file of these bytes, which the parser takes for this image. -/
def loaded (machO : MachO) (bytes : List UInt8) : Except (Fault BootstrapLoadError) ProcessLoadInfo :=
  (loadImageFromVmo (committingEnv (thinParser machO)) imageVmo).outcome (memoryWith bytes)

/-- One pointer is rebased. -/
def onePointer : List UInt8 := [0x11, 0x20, 0x08, 0x51, 0x00]

example : loaded (onePage 5 0 5) onePointer = .ok ⟨0x400000, 0x400000, 0x401000, 0x3ff000⟩ := by
  decide +kernel

end Akarin.Sched
