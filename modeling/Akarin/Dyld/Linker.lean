/-
# Akarin.Dyld.Linker -- the rebase interpreter

`DyldLinker::link` interprets a stream of opcodes in the image: they select a segment and an offset in
it, move the offset, and add the slide to the pointers there. Opcodes, the ULEB128 numbers after them
and the fields of the load commands come from the file.

The memory that is rebased is a parameter: a state `σ` with a read and a write at a virtual address,
each of which may refuse.
-/
import Akarin.Dyld.Image

namespace Akarin.Dyld

open Lib (Action)
open Lib.Action
open Memory (checkedAdd)

/-! ## Model -/

/-- `DyldRebaseTarget`; a buffer of `n` bytes is a number of `8 * n` bits, little endian. A write that
is refused may have written some of the bytes. -/
structure RebaseTarget (σ : Type) where
  readAtVmaddr : σ → (vmAddr n : Nat) → Except String (BitVec (8 * n))
  writeAtVmaddr : σ → (vmAddr n : Nat) → BitVec (8 * n) → Except String Unit × σ

/-- Why linking fails. -/
inductive LinkerError where
  | linkError (text : String)
  | ulebReading (text : String)
  | machOParsing (e : ImageParserError)
  deriving DecidableEq

namespace RebaseTarget

variable {σ : Type}

def read (target : RebaseTarget σ) (vmAddr n : Nat) : Action σ LinkerError (BitVec (8 * n)) := fun s =>
  match target.readAtVmaddr s vmAddr n with
  | .ok buffer => (.ok buffer, s)
  | .error text => (.error (.error (.linkError text)), s)

def write (target : RebaseTarget σ) (vmAddr n : Nat) (data : BitVec (8 * n)) :
    Action σ LinkerError Unit := fun s =>
  match target.writeAtVmaddr s vmAddr n data with
  | (.ok (), t) => (.ok (), t)
  | (.error text, t) => (.error (.error (.linkError text)), t)

lemma returns_read {s : σ} (target : RebaseTarget σ) (vmAddr n : Nat) {Q : BitVec (8 * n) → σ → Prop} :
    Returns (target.read vmAddr n) s Q ↔ ∀ buffer, target.readAtVmaddr s vmAddr n = .ok buffer → Q buffer s := by
  rw [returns_iff, read]
  cases target.readAtVmaddr s vmAddr n <;> simp

lemma safe_write {s : σ} (target : RebaseTarget σ) (vmAddr n : Nat) (data : BitVec (8 * n)) :
    Returns (target.write vmAddr n data) s fun _ _ => True := by
  rw [returns_iff, write]
  rcases target.writeAtVmaddr s vmAddr n data with ⟨text | _, t⟩ <;> simp

end RebaseTarget

/-- `REBASE_TYPE_POINTER` and the two 32-bit types; any other type is refused. -/
inductive RebaseType where
  | none
  | pointer
  | textAbsolute32
  | textPcrel32
  deriving DecidableEq

def RebaseType.ofImmediate : Nat → RebaseType
  | 1 => .pointer
  | 2 => .textAbsolute32
  | 3 => .textPcrel32
  | _ => .none

/-- `pointer_size`. -/
def RebaseType.size : RebaseType → Nat
  | .pointer | .none => 8
  | .textAbsolute32 | .textPcrel32 => 4

/-- The `REBASE_OPCODE_*` constants. -/
inductive RebaseOpcode where
  | done
  | setTypeImm
  | setSegmentAndOffsetUleb
  | addAddrUleb
  | addAddrImmScaled
  | doRebaseImmTimes
  | doRebaseUlebTimes
  | doRebaseAddAddrUleb
  | doRebaseUlebTimesSkippingUleb
  deriving DecidableEq

/-- The opcode in the high four bits of a byte. -/
def RebaseOpcode.ofByte (byte : UInt8) : Option RebaseOpcode :=
  match (byte &&& 0xF0).toNat with
  | 0x00 => some .done
  | 0x10 => some .setTypeImm
  | 0x20 => some .setSegmentAndOffsetUleb
  | 0x30 => some .addAddrUleb
  | 0x40 => some .addAddrImmScaled
  | 0x50 => some .doRebaseImmTimes
  | 0x60 => some .doRebaseUlebTimes
  | 0x70 => some .doRebaseAddAddrUleb
  | 0x80 => some .doRebaseUlebTimesSkippingUleb
  | _ => none

/-- The local variables of `link`. -/
structure RebaseState where
  current : Nat
  type : RebaseType
  segIdx : Nat
  segOffset : Nat

/-- `DyldLinker`. -/
structure DyldLinker (σ : Type) where
  parser : Parser
  image : MachOImage
  slide : Nat
  target : RebaseTarget σ

/-- The loop of `read_uleb128` over the bytes from `offset` on. -/
def ulebLoop {σ : Type} : List UInt8 → (result shift offset : Nat) → Action σ LinkerError (Nat × Nat)
  | [], _, _, _ => fail (.ulebReading "Unexpected end of data while reading ULEB128")
  | byte :: rest, result, shift, offset => do
      let group ← shiftLeft 64 (byte &&& 0x7F).toNat shift
      if byte &&& 0x80 = 0 then ret (result ||| group, offset + 1)
      else ulebLoop rest (result ||| group) (shift + 7) (offset + 1)

/-- `read_uleb128`; the number and where it ends. -/
def readUleb128 {σ : Type} (data : List UInt8) (offset : Nat) : Action σ LinkerError (Nat × Nat) :=
  ulebLoop (data.drop offset) 0 0 offset

namespace DyldLinker

variable {σ : Type}

variable (linker : DyldLinker σ)

def applyRebase (segIdx segOffset : Nat) (type : RebaseType) : Action σ LinkerError Unit := do
  let binary ← mapError .machOParsing (linker.image.binary linker.parser)
  let seg ← orFail binary.segments[segIdx]? (.linkError "segment index out of range during rebase")
  let vmAddr ← add 64 seg.vmaddr.toNat segOffset
  let targetVmAddr ← orFail (checkedAdd vmAddr linker.slide)
    (.linkError "rebased virtual address overflowed")
  match type with
  | .pointer => do
      let buffer ← linker.target.read targetVmAddr 8
      let cur ← add 64 buffer.toNat linker.slide
      linker.target.write targetVmAddr 8 (BitVec.ofNat _ cur)
  | .textAbsolute32 => do
      let buffer ← linker.target.read targetVmAddr 4
      linker.target.write targetVmAddr 4 (buffer + BitVec.ofNat _ linker.slide)
  | .textPcrel32 => ret ()
  | .none => fail (.linkError "Unsupported rebase type")

/-- One rebase, after which the offset moves by `step`. -/
def rebaseOnce (step : Nat) (x : RebaseState) : Action σ LinkerError RebaseState := do
  linker.applyRebase x.segIdx x.segOffset x.type
  let segOffset ← add 64 x.segOffset step
  return { x with segOffset := segOffset }

/-- `seg_offset += delta`. -/
def advance (x : RebaseState) (delta : Nat) : Action σ LinkerError RebaseState := do
  return { x with segOffset := ← add 64 x.segOffset delta }

/-- What `link` does with an opcode and its immediate; `none` leaves the loop. -/
def execute (bytes : List UInt8) (stop imm : Nat) (x : RebaseState) :
    RebaseOpcode → Action σ LinkerError (Option RebaseState)
  | .done => do
      ensure (stop - x.current ≤ 15) (.linkError "Rebase opcode terminated early")
      return none
  | .setTypeImm => return some { x with type := .ofImmediate imm }
  | .setSegmentAndOffsetUleb => do
      let (offset, current) ← readUleb128 bytes x.current
      return some { x with current := current, segIdx := imm, segOffset := offset }
  | .addAddrUleb => do
      let (offset, current) ← readUleb128 bytes x.current
      return some (← advance { x with current := current } offset)
  | .addAddrImmScaled => return some (← advance x (imm * x.type.size))
  | .doRebaseImmTimes => return some (← repeatTimes (linker.rebaseOnce x.type.size) imm x)
  | .doRebaseUlebTimes => do
      let (count, current) ← readUleb128 bytes x.current
      return some (← repeatTimes (linker.rebaseOnce x.type.size) count { x with current := current })
  | .doRebaseAddAddrUleb => do
      linker.applyRebase x.segIdx x.segOffset x.type
      let (offset, current) ← readUleb128 bytes x.current
      let step ← add 64 offset x.type.size
      return some (← advance { x with current := current } step)
  | .doRebaseUlebTimesSkippingUleb => do
      let (count, current) ← readUleb128 bytes x.current
      let (skip, current) ← readUleb128 bytes current
      let step ← add 64 skip x.type.size
      return some (← repeatTimes (linker.rebaseOnce step) count { x with current := current })

/-- One round of the loop of `link`. -/
def interpret (stop : Nat) (x : RebaseState) : Action σ LinkerError (Option RebaseState) := do
  let bytes ← linker.image.deref
  let byte ← index bytes x.current
  let opcode ← orFail (RebaseOpcode.ofByte byte) (.linkError "Unknown rebase opcode")
  linker.execute bytes stop (byte &&& 0x0F).toNat { x with current := x.current + 1 } opcode

end DyldLinker

/-- The rebase information of the last `LC_DYLD_INFO`, as an offset and a size. -/
def rebaseRange : List CommandVariant → Nat × Nat → Except LinkerError (Nat × Nat)
  | [], range => .ok range
  | .dyldInfo dyld :: rest, _ | .dyldInfoOnly dyld :: rest, _ =>
    if dyld.bindSize > 0 || dyld.weakBindSize > 0 || dyld.lazyBindSize > 0 then
      .error (.linkError "Binding information is not supported")
    else rebaseRange rest (dyld.rebaseOff.toNat, dyld.rebaseSize.toNat)
  | .other :: rest, range => rebaseRange rest range

namespace DyldLinker

variable {σ : Type}

def link (linker : DyldLinker σ) : Action σ LinkerError Unit := do
  let binary ← mapError .machOParsing (linker.image.binary linker.parser)
  let (rebaseOff, rebaseSize) ← ofExcept (rebaseRange binary.loadCommands (0, 0))
  if rebaseSize = 0 then ret ()
  else do
    let stop ← add 64 rebaseOff rebaseSize
    -- every round reads at least one byte, so `rebaseSize` rounds are enough
    whileLoop (fun x => x.current < stop) (linker.interpret stop) rebaseSize ⟨rebaseOff, .none, 0, 0⟩

end DyldLinker

/-! ## Numbers in the stream -/

section Numbers

variable {σ : Type} {s : σ} {data : List UInt8} {offset : Nat}

/-- The number at the offset ends within ten bytes, or the data ends right after these. -/
def UlebFits (data : List UInt8) (offset : Nat) : Prop :=
  offset + 10 < data.length → ∃ i < 10, ∀ byte ∈ data[offset + i]?, byte &&& 0x80 = 0

/-- A byte that is shifted by 64 or more is behind the end of the number. -/
lemma safe_ulebLoop (bytes : List UInt8) (result shift offset : Nat) :
    Safe (ulebLoop bytes result shift offset : Action σ LinkerError (Nat × Nat)) s ↔
      ∀ n < bytes.length, 64 ≤ shift + 7 * n → ∃ i < n, ∀ byte ∈ bytes[i]?, byte &&& 0x80 = 0 := by
  induction bytes generalizing result shift offset with
  | nil => simp [ulebLoop, safe_iff_returns]
  | cons byte rest ih =>
    have hrest : Returns (if byte &&& 0x80 = 0 then
          ret (result ||| (byte &&& 0x7F).toNat <<< shift % 2 ^ 64, offset + 1)
        else ulebLoop rest (result ||| (byte &&& 0x7F).toNat <<< shift % 2 ^ 64) (shift + 7) (offset + 1))
        s (fun _ _ => True) ↔ byte &&& 0x80 = 0 ∨ ∀ n < rest.length, 64 ≤ shift + 7 + 7 * n →
          ∃ i < n, ∀ byte ∈ rest[i]?, byte &&& 0x80 = 0 := by
      split
      · simp [*]
      · rw [← safe_iff_returns, ih]
        simp [*]
    simp only [safe_iff_returns, ulebLoop, returns_bind, returns_shiftLeft, hrest]
    constructor
    · rintro ⟨hshift, hlater⟩ n hn hlarge
      cases n with
      | zero => omega
      | succ n =>
        rcases hlater with hlast | hlater
        · exact ⟨0, by omega, by simpa using hlast⟩
        · obtain ⟨i, hi, hend⟩ := hlater n (by simpa using hn) (by omega)
          exact ⟨i + 1, by omega, by simpa using hend⟩
    · intro h
      refine ⟨?_, or_iff_not_imp_left.2 fun hmore n hn hlarge => ?_⟩
      · by_contra hshift
        obtain ⟨i, hi, _⟩ := h 0 (by simp) (by omega)
        omega
      · obtain ⟨i, hi, hend⟩ := h (n + 1) (by simpa using hn) (by omega)
        -- the first byte is not the end, so the end is in the rest
        cases i with
        | zero => exact absurd (hend byte (by simp)) hmore
        | succ i => exact ⟨i, by omega, by simpa using hend⟩

lemma safe_readUleb128 :
    Safe (readUleb128 data offset : Action σ LinkerError (Nat × Nat)) s ↔ UlebFits data offset := by
  rw [readUleb128, safe_ulebLoop]
  simp only [List.length_drop, List.getElem?_drop, UlebFits]
  constructor
  · intro h hlong
    exact h 10 (by omega) (by omega)
  · intro h n hn hlarge
    obtain ⟨i, hi, hend⟩ := h (by omega)
    exact ⟨i, by omega, hend⟩

/-- Reading a number does not touch the memory. -/
lemma ulebLoop_state (bytes : List UInt8) (result shift offset : Nat) :
    (ulebLoop bytes result shift offset : Action σ LinkerError (Nat × Nat)) s =
      ((ulebLoop bytes result shift offset : Action Unit LinkerError (Nat × Nat)).outcome (), s) := by
  induction bytes generalizing result shift offset with
  | nil => rfl
  | cons byte rest ih =>
    by_cases hshift : shift < 64
    · by_cases hlast : byte &&& 0x80 = 0
      · simp [ulebLoop, shiftLeft, hshift, hlast, Bind.bind, andThen, ret, outcome]
      · simpa [ulebLoop, shiftLeft, hshift, hlast, Bind.bind, andThen, ret, outcome] using ih _ _ _
    · simp [ulebLoop, shiftLeft, hshift, Bind.bind, andThen, Action.panic, outcome]

/-- The number at the offset does not end too late, and with where it ends it satisfies `P`. -/
def NumberFits (data : List UInt8) (offset : Nat) (P : Nat × Nat → Prop) : Prop :=
  UlebFits data offset ∧
    ∀ number, (readUleb128 data offset : Action Unit LinkerError _).outcome () = .ok number → P number

lemma NumberFits.congr {P P' : Nat × Nat → Prop} (h : ∀ value stop, P (value, stop) ↔ P' (value, stop)) :
    NumberFits data offset P ↔ NumberFits data offset P' :=
  and_congr_right fun _ => forall₂_congr fun number _ => h number.1 number.2

lemma returns_readUleb128 {Q : Nat × Nat → σ → Prop} :
    Returns (readUleb128 data offset) s Q ↔ NumberFits data offset (Q · s) := by
  rw [NumberFits, ← safe_readUleb128 (s := s), returns_iff_safe, readUleb128, readUleb128, ulebLoop_state]
  refine and_congr_right fun _ => forall_congr' fun number => ?_
  simp only [Prod.mk.injEq, and_imp]
  exact ⟨fun h hnumber => h s hnumber rfl, fun h t hnumber ht => ht ▸ h hnumber⟩

lemma yields_ulebLoop (bytes : List UInt8) (result shift offset : Nat) :
    Yields (ulebLoop bytes result shift offset : Action σ LinkerError (Nat × Nat))
      fun number => offset < number.2 := by
  induction bytes generalizing result shift offset with
  | nil => exact yields_fail _ _
  | cons byte rest ih =>
    rw [ulebLoop]
    refine .after fun group => ?_
    split
    · exact yields_ret (Nat.lt_succ_self offset)
    · intro s number t hrun
      have hend := ih _ _ _ s number t hrun
      omega

end Numbers

/-! ## What does not panic -/

namespace DyldLinker

variable {σ : Type} {s : σ} {linker : DyldLinker σ} {x : RebaseState}

section

variable (linker : DyldLinker σ)

/-- The selected offset lies in the address space, and so does the pointer there when it has moved. -/
def AddressFits (x : RebaseState) (s : σ) : Prop :=
  ∀ binary, linker.parser.machO linker.image.data linker.image.offset = .ok binary →
    ∀ seg ∈ binary.segments[x.segIdx]?, seg.vmaddr.toNat + x.segOffset < 2 ^ 64 ∧
      ∀ vmAddr ∈ checkedAdd (seg.vmaddr.toNat + x.segOffset) linker.slide, x.type = .pointer →
        ∀ buffer, linker.target.readAtVmaddr s vmAddr 8 = .ok buffer → buffer.toNat + linker.slide < 2 ^ 64

/-- The rebase of what is selected is not refused. -/
def Rebases (x : RebaseState) (s : σ) : Prop :=
  (linker.applyRebase x.segIdx x.segOffset x.type).outcome s = .ok ()

/-- A rebase of what is selected does not overflow, and neither does the move to the next one. -/
def RebaseFits (step : Nat) (x : RebaseState) (s : σ) : Prop :=
  linker.AddressFits x s ∧ (linker.Rebases x s → x.segOffset + step < 2 ^ 64)

/-- None of `count` rebases overflows. -/
def RebasesFit (step count : Nat) (x : RebaseState) (s : σ) : Prop :=
  Along (linker.rebaseOnce step) (linker.RebaseFits step) count x s

/-- The numbers after the opcode end, and nothing that is added to the offset overflows. -/
def ExecuteFits (bytes : List UInt8) (imm : Nat) (x : RebaseState) (s : σ) : RebaseOpcode → Prop
  | .done | .setTypeImm => True
  | .setSegmentAndOffsetUleb => UlebFits bytes x.current
  | .addAddrUleb => NumberFits bytes x.current fun (offset, _) => x.segOffset + offset < 2 ^ 64
  | .addAddrImmScaled => x.segOffset + imm * x.type.size < 2 ^ 64
  | .doRebaseImmTimes => linker.RebasesFit x.type.size imm x s
  | .doRebaseUlebTimes => NumberFits bytes x.current fun (count, current) =>
      linker.RebasesFit x.type.size count { x with current := current } s
  | .doRebaseAddAddrUleb => linker.AddressFits x s ∧ (linker.Rebases x s →
      NumberFits bytes x.current fun (offset, _) => x.segOffset + (offset + x.type.size) < 2 ^ 64)
  | .doRebaseUlebTimesSkippingUleb => NumberFits bytes x.current fun (count, current) =>
      NumberFits bytes current fun (skip, current) => skip + x.type.size < 2 ^ 64 ∧
        linker.RebasesFit (skip + x.type.size) count { x with current := current } s

/-- There is a byte at the current offset of the image, and what it asks for can be done. -/
def OpcodeFits (x : RebaseState) (s : σ) : Prop :=
  linker.image.offset ≤ linker.image.data.length ∧
    ∃ byte ∈ (linker.image.data.drop linker.image.offset)[x.current]?, ∀ opcode ∈ RebaseOpcode.ofByte byte,
      linker.ExecuteFits (linker.image.data.drop linker.image.offset) (byte &&& 0x0F).toNat
        { x with current := x.current + 1 } s opcode

/-- Each opcode of the rebase information can be executed in the state it is reached in. -/
def LinkFits (s : σ) : Prop :=
  ∀ binary, linker.parser.machO linker.image.data linker.image.offset = .ok binary →
    ∀ range, rebaseRange binary.loadCommands (0, 0) = .ok range →
      AlongWhile (fun x => x.current < range.1 + range.2) (linker.interpret (range.1 + range.2))
        linker.OpcodeFits range.2 ⟨range.1, .none, 0, 0⟩ s

end

lemma safe_applyRebase :
    Safe (linker.applyRebase x.segIdx x.segOffset x.type) s ↔ linker.AddressFits x s := by
  simp only [safe_iff_returns, applyRebase, MachOImage.binary, returns_bind, returns_mapError, returns_ofExcept,
    returns_orFail, returns_add, AddressFits]
  refine forall₄_congr fun binary _ seg _ => and_congr_right fun _ => forall₂_congr fun vmAddr _ => ?_
  cases x.type with
  | none => simp
  | textPcrel32 => simp
  | textAbsolute32 =>
    simp only [returns_bind, RebaseTarget.returns_read, RebaseTarget.safe_write, reduceCtorEq, false_imp_iff,
      implies_true]
  | pointer =>
    simp only [returns_bind, RebaseTarget.returns_read, returns_add, RebaseTarget.safe_write, and_true,
      forall_const]

variable {step : Nat} {y : Action σ LinkerError RebaseState}

lemma safe_rebaseOnce : Safe (linker.rebaseOnce step x) s ↔ linker.RebaseFits step x s := by
  rw [safe_iff_returns, rebaseOnce, returns_bind]
  simp only [returns_bind, returns_add, returns_pure, and_true, returns_const, safe_applyRebase]
  rfl

lemma safe_rebases {count : Nat} :
    Safe (repeatTimes (linker.rebaseOnce step) count x) s ↔ linker.RebasesFit step count x s :=
  safe_repeatTimes (fun _ _ => safe_rebaseOnce) count x s

lemma safe_advance {delta : Nat} :
    Safe (advance x delta : Action σ LinkerError RebaseState) s ↔ x.segOffset + delta < 2 ^ 64 := by
  simp [safe_iff_returns, advance]

/-- `return Some(x)` after the last step of an opcode. -/
lemma returns_some : Returns (y >>= fun x => pure (some x)) s (fun _ _ => True) ↔ Safe y s := by
  simp [safe_iff_returns]

/-- One case per opcode: each reads its numbers, then moves or rebases. -/
lemma safe_execute (stop : Nat) {bytes : List UInt8} {imm : Nat} {opcode : RebaseOpcode} :
    Safe (linker.execute bytes stop imm x opcode) s ↔ linker.ExecuteFits bytes imm x s opcode := by
  rw [safe_iff_returns]
  cases opcode with
  | done => simp [execute, ExecuteFits]
  | setTypeImm => simp [execute, ExecuteFits]
  | setSegmentAndOffsetUleb => simp [execute, ExecuteFits, returns_readUleb128, NumberFits]
  | addAddrUleb =>
    rw [execute, returns_bind, returns_readUleb128, ExecuteFits]
    apply NumberFits.congr
    intro offset current
    rw [returns_some, safe_advance]
  | addAddrImmScaled => rw [execute, returns_some, safe_advance, ExecuteFits]
  | doRebaseImmTimes => rw [execute, returns_some, safe_rebases, ExecuteFits]
  | doRebaseUlebTimes =>
    rw [execute, returns_bind, returns_readUleb128, ExecuteFits]
    apply NumberFits.congr
    intro count current
    rw [returns_some, safe_rebases]
  | doRebaseAddAddrUleb =>
    simp only [execute, advance, returns_bind, returns_readUleb128, returns_add, returns_pure, returns_const,
      safe_applyRebase, and_true]
    refine and_congr_right fun _ => forall_congr' fun _ => NumberFits.congr fun offset current => ?_
    dsimp only
    omega
  | doRebaseUlebTimesSkippingUleb =>
    rw [execute, returns_bind, returns_readUleb128, ExecuteFits]
    apply NumberFits.congr
    intro count current
    rw [returns_bind, returns_readUleb128]
    apply NumberFits.congr
    intro skip current
    rw [returns_bind, returns_add, returns_some, safe_rebases]

lemma safe_interpret {stop : Nat} : Safe (linker.interpret stop x) s ↔ linker.OpcodeFits x s := by
  simp only [safe_iff_returns, interpret, MachOImage.deref, returns_bind, returns_sliceFrom, returns_index,
    returns_orFail, OpcodeFits, ← safe_execute stop]

/-- Offset and size are 32-bit fields. -/
lemma rebaseRange_lt {commands : List CommandVariant} {range range' : Nat × Nat}
    (h : range.1 < 2 ^ 32 ∧ range.2 < 2 ^ 32) (hrange : rebaseRange commands range = .ok range') :
    range'.1 < 2 ^ 32 ∧ range'.2 < 2 ^ 32 := by
  induction commands generalizing range with
  | nil =>
    cases hrange
    exact h
  | cons command rest ih =>
    cases command with
    | other => exact ih h hrange
    | dyldInfo dyld | dyldInfoOnly dyld =>
      rw [rebaseRange] at hrange
      split at hrange
      · cases hrange
      · exact ih ⟨dyld.rebaseOff.toNat_lt, dyld.rebaseSize.toNat_lt⟩ hrange

lemma safe_link : Safe linker.link s ↔ linker.LinkFits s := by
  simp only [safe_iff_returns, link, MachOImage.binary, returns_bind, returns_mapError, returns_ofExcept, LinkFits]
  refine forall₄_congr fun binary _ range hrange => ?_
  obtain ⟨rebaseOff, rebaseSize⟩ := range
  obtain ⟨hoff, hsize⟩ := rebaseRange_lt (by decide) hrange
  split
  · rename_i hempty
    subst hempty
    exact iff_of_true (returns_ret.2 trivial) trivial
  · rw [returns_bind, returns_add, ← safe_iff_returns, safe_whileLoop (fun _ _ => safe_interpret), and_iff_right]
    simp only at hoff hsize
    omega

/-! ## Termination -/

lemma yields_advance (x : RebaseState) (delta : Nat) :
    Yields (advance x delta : Action σ LinkerError RebaseState) fun x' => x'.current = x.current :=
  .after fun _ => yields_ret rfl

lemma yields_rebases (linker : DyldLinker σ) (step count : Nat) (x : RebaseState) :
    Yields (repeatTimes (linker.rebaseOnce step) count x) fun x' => x'.current = x.current := by
  refine yields_repeatTimes (I := fun x' : RebaseState => x'.current = x.current) (fun y hy => ?_) count rfl
  exact .after fun _ => .after fun _ => yields_ret hy

lemma yields_some {current : Nat} (hle : current ≤ x.current) (h : Yields y fun x' => x'.current = x.current) :
    Yields (y >>= fun x => pure (some x)) fun next => ∀ x' ∈ next, current ≤ x'.current := by
  refine h.bind fun x' hx' => yields_ret ?_
  rintro _ ⟨⟩
  exact hx' ▸ hle

/-- The offset in the stream never moves back. -/
lemma yields_execute (linker : DyldLinker σ) (bytes : List UInt8) (stop imm : Nat) (x : RebaseState)
    (opcode : RebaseOpcode) :
    Yields (linker.execute bytes stop imm x opcode) fun next => ∀ x' ∈ next, x.current ≤ x'.current := by
  cases opcode with
  | done => exact .after fun _ => yields_ret (by simp)
  | setTypeImm => exact yields_ret (by simp)
  | setSegmentAndOffsetUleb =>
    refine (yields_ulebLoop _ _ _ _).bind fun number hnumber => yields_ret ?_
    rintro _ ⟨⟩
    exact hnumber.le
  | addAddrUleb =>
    refine (yields_ulebLoop _ _ _ _).bind fun number hnumber => ?_
    exact yields_some hnumber.le (yields_advance _ _)
  | addAddrImmScaled => exact yields_some le_rfl (yields_advance _ _)
  | doRebaseImmTimes => exact yields_some le_rfl (yields_rebases _ _ _ _)
  | doRebaseUlebTimes =>
    refine (yields_ulebLoop _ _ _ _).bind fun number hnumber => ?_
    exact yields_some hnumber.le (yields_rebases _ _ _ _)
  | doRebaseAddAddrUleb =>
    refine .after fun _ => (yields_ulebLoop _ _ _ _).bind fun number hnumber => ?_
    exact .after fun step => yields_some hnumber.le (yields_advance _ _)
  | doRebaseUlebTimesSkippingUleb =>
    refine (yields_ulebLoop _ _ _ _).bind fun count hcount => ?_
    refine (yields_ulebLoop _ _ _ _).bind fun skip hskip => ?_
    exact .after fun step => yields_some (hcount.trans hskip).le (yields_rebases _ _ _ _)

/-- A round of the loop reads at least the byte of the opcode. -/
lemma interpret_advances {stop : Nat} {x' : RebaseState} {s' : σ}
    (h : linker.interpret stop x s = (.ok (some x'), s')) : x.current < x'.current := by
  have hyields : Yields (linker.interpret stop x) fun next => ∀ x' ∈ next, x.current < x'.current := by
    refine .after fun bytes => .after fun byte => ?_
    exact .after fun opcode => yields_execute _ _ _ _ _ _
  exact hyields s (some x') s' h x' rfl

/-- As many rounds as there are bytes are enough. -/
lemma interpret_fuel (linker : DyldLinker σ) (rebaseOff rebaseSize extra : Nat) :
    whileLoop (fun x => x.current < rebaseOff + rebaseSize)
        (linker.interpret (rebaseOff + rebaseSize)) (rebaseSize + extra) ⟨rebaseOff, .none, 0, 0⟩ =
      whileLoop (fun x => x.current < rebaseOff + rebaseSize)
        (linker.interpret (rebaseOff + rebaseSize)) rebaseSize ⟨rebaseOff, .none, 0, 0⟩ := by
  induction extra with
  | zero => rfl
  | succ extra ih =>
    rw [← ih]
    refine whileLoop_fuel (fun x => rebaseOff + rebaseSize - x.current) ?_ ?_ ?_
    · intro x x' s s' hmore hrun
      have hadvances := interpret_advances hrun
      simp only [decide_eq_true_eq] at hmore
      omega
    · intro x hleft
      simp only [decide_eq_false_iff_not]
      omega
    · show rebaseOff + rebaseSize - rebaseOff ≤ rebaseSize + extra
      omega

end DyldLinker

end Akarin.Dyld
