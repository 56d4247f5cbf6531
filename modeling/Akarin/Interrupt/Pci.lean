/-
# Akarin.Interrupt.Pci -- message interrupts of a PCI function

A function raises the vectors that are programmed into its MSI registers or its MSI-X table, and it should
raise those of its active message block only. Enabling MSI-X writes and unmasks as many entries of the table
as the new block has. An entry that an earlier, larger block used stays as it was, unmasked and with a vector
that may belong to somebody else by now (`vectorLaw_fails`).
-/
import Akarin.Interrupt.Line

namespace Akarin.Interrupt

open List
open Lib (Meets runOps run_invariant)

/-! ## Message blocks -/

/-- A vector of a CPU. -/
structure MessageVectorRoute where
  cpuId : Nat
  apicId : Nat
  vector : Nat
  deriving DecidableEq

/-- What a device writes to signal. -/
structure MessageIrqDescriptor where
  addressLo : Nat
  addressHi : Nat
  data : Nat
  cpuId : Nat
  vector : Nat

def MessageVectorRoute.descriptor (route : MessageVectorRoute) : MessageIrqDescriptor where
  addressLo := 0xFEE00000 ||| ((route.apicId % 2 ^ 32 &&& 0xff) <<< 12)
  addressHi := route.apicId % 2 ^ 32 >>> 8
  data := route.vector % 2 ^ 32
  cpuId := route.cpuId
  vector := route.vector

/-! ## Capabilities -/

/-- The trailing zero bits of a 64-bit number. -/
def trailingZeros (n : Nat) : Nat := ((List.range 64).takeWhile fun i => !n.testBit i).length

/-- A power of two is its lowest bit. -/
def isPowerOfTwo (n : Nat) : Bool := 2 ^ trailingZeros n == n

/-- The capability and its registers. `mmc` and `mme` are the fields of the control register for the number of
messages that are supported and enabled. -/
structure PciMsiCapability where
  supports64bit : Bool
  supportsMasking : Bool
  mmc : Fin 8
  enabled : Bool
  mme : Nat
  addressLo : Nat
  addressHi : Nat
  data : Nat
  mask : Nat

namespace PciMsiCapability

variable (capability : PciMsiCapability)

def maxMessages : Nat := 1 <<< capability.mmc.val

def supportsCount (count : Nat) : Bool :=
  isPowerOfTwo count && count ≤ capability.maxMessages

def validateDescriptors (descriptors : List MessageIrqDescriptor) : Bool :=
  match descriptors with
  | [] => false
  | base :: _ =>
    capability.supportsCount descriptors.length &&
      (descriptors.length ≤ 1 || base.vector &&& (descriptors.length - 1) == 0) &&
      descriptors.zipIdx.all fun x =>
        x.1.addressLo == base.addressLo && x.1.addressHi == base.addressHi && x.1.cpuId == base.cpuId &&
          x.1.vector == base.vector + x.2 && x.1.data == base.data + x.2

def enable (descriptors : List MessageIrqDescriptor) : Except IrqError PciMsiCapability :=
  match descriptors with
  | [] => .error .invalidParameter
  | base :: _ =>
    if capability.validateDescriptors descriptors then
      .ok { capability with
        addressLo := base.addressLo
        addressHi := if capability.supports64bit then base.addressHi else capability.addressHi
        data := base.data % 2 ^ 16
        mask := if capability.supportsMasking then 0 else capability.mask
        mme := trailingZeros descriptors.length
        enabled := true }
    else .error .invalidParameter

def disable : PciMsiCapability := { capability with enabled := false }

end PciMsiCapability

/-- A row of the MSI-X table. -/
structure MsixEntry where
  addressLo : Nat
  addressHi : Nat
  data : Nat
  masked : Bool
  deriving DecidableEq

def MsixEntry.of (descriptor : MessageIrqDescriptor) : MsixEntry :=
  ⟨descriptor.addressLo, descriptor.addressHi, descriptor.data, false⟩

/-- `bar` is the error for a table in a BAR that cannot be used. -/
structure PciMsixCapability where
  bar : Option IrqError
  enabled : Bool
  maskAll : Bool
  table : List MsixEntry

namespace PciMsixCapability

def enable (capability : PciMsixCapability) (descriptors : List MessageIrqDescriptor) :
    Except IrqError Unit × PciMsixCapability :=
  if descriptors = [] ∨ capability.table.length < descriptors.length then (.error .invalidParameter, capability)
  else
    match capability.bar with
    | some error => (.error error, { capability with maskAll := true, enabled := false })
    | none =>
      -- only the entries that have a descriptor are written
      (.ok (), { capability with
        table := descriptors.map MsixEntry.of ++ capability.table.drop descriptors.length
        enabled := true
        maskAll := false })

def disable (capability : PciMsixCapability) : PciMsixCapability :=
  { capability with enabled := false, maskAll := true }

end PciMsixCapability

/-! ## The function -/

/-- Errors a PCI method reports. -/
inductive PciInvokeError where
  | invalidParameter
  | notSupported
  | outOfResources
  | fault
  | bufferTooSmall
  | runtimeUnavailable
  | busy
  | controllerFailure
  deriving DecidableEq

def PciInvokeError.of : IrqError → PciInvokeError
  | .invalidParameter => .invalidParameter
  | .notSupported => .notSupported
  | .outOfResources => .outOfResources
  | .invalidIrq _ | .closed => .controllerFailure

/-- Why enabling fails. -/
inductive PciEnableError where
  | object
  | underlying (error : PciInvokeError)
  deriving DecidableEq

/-- What an invocation answers. -/
inductive PciReply where
  | enabled (slots : Nat)
  | disabled
  | insufficientCapabilities
  | objectError
  | underlying (error : PciInvokeError)

/-- The arguments of the enabling calls. -/
structure PciInterruptBindArgs where
  count : Nat
  slotsLen : Nat

/-- What a call meets: whether the handle has the interrupt capability, the arguments if they can be read,
whether there is a PCI runtime, the block that the controller grants, and whether the session objects can be
created and their slots be copied out. -/
structure PciCall where
  permitted : Bool
  args : Option PciInterruptBindArgs
  runtime : Bool
  grant : Except IrqError (List MessageVectorRoute)
  sessions : Bool
  written : Bool

/-- A function with its interrupt state. -/
structure PciFunction where
  present : Bool
  msi : Option PciMsiCapability
  msix : Option PciMsixCapability
  intxEnabled : Bool
  configuring : Bool
  active : Option (List MessageVectorRoute)

namespace PciFunction

section

variable (function : PciFunction)

def disableAllInterrupts : PciFunction :=
  { function with
    msi := function.msi.map (·.disable)
    msix := function.msix.map (·.disable)
    intxEnabled := false }

def disableInterrupts : Except IrqError Unit × PciFunction :=
  if !function.present then (.error .invalidParameter, function) else (.ok (), function.disableAllInterrupts)

def allocateMsi (count : Nat) (grant : Except IrqError (List MessageVectorRoute)) :
    Except IrqError (List MessageVectorRoute) × PciFunction :=
  if !function.present then (.error .invalidParameter, function)
  else
    match function.msi with
    | none => (.error .notSupported, function)
    | some capability =>
      if !capability.supportsCount count then (.error .invalidParameter, function)
      else
        match grant with
        | .error error => (.error error, function)
        | .ok block =>
          let function := function.disableAllInterrupts
          match capability.disable.enable (block.map (·.descriptor)) with
          | .error error => (.error error, function)
          | .ok capability => (.ok block, { function with msi := some capability, intxEnabled := false })

def allocateMsix (count : Nat) (grant : Except IrqError (List MessageVectorRoute)) :
    Except IrqError (List MessageVectorRoute) × PciFunction :=
  if !function.present then (.error .invalidParameter, function)
  else
    match function.msix with
    | none => (.error .notSupported, function)
    | some capability =>
      if count = 0 ∨ capability.table.length < count then (.error .invalidParameter, function)
      else
        match grant with
        | .error error => (.error error, function)
        | .ok block =>
          let function := function.disableAllInterrupts
          match capability.disable.enable (block.map (·.descriptor)) with
          | (.error error, capability) => (.error error, { function with msix := some capability })
          | (.ok (), capability) => (.ok block, { function with msix := some capability, intxEnabled := false })

def beginReconfigure : PciFunction := { function with configuring := true }

def finishReconfigure (active : Option (List MessageVectorRoute)) : PciFunction :=
  { function with active := active, configuring := false }

def cancelReconfigure : PciFunction := { function with configuring := false }

/-- The active block is taken out and given up. -/
def dropActive : PciFunction :=
  match function.active with
  | none => function
  | some _ => { function.disableInterrupts.2 with active := none }

def abortAllocation : PciFunction := function.disableInterrupts.2.finishReconfigure none

end

/-- What enabling MSI and MSI-X share. -/
def enableWith (allocate : PciFunction → Nat → Except IrqError (List MessageVectorRoute) →
      Except IrqError (List MessageVectorRoute) × PciFunction)
    (function : PciFunction) (call : PciCall) (args : PciInterruptBindArgs) :
    Except PciEnableError Nat × PciFunction :=
  if args.count = 0 then (.error (.underlying .invalidParameter), function)
  else if args.slotsLen < args.count then (.error (.underlying .bufferTooSmall), function)
  else if !call.runtime then (.error (.underlying .runtimeUnavailable), function)
  else
    match allocate function.dropActive args.count call.grant with
    | (.error error, function) => (.error (.underlying (.of error)), function)
    | (.ok block, function) =>
      if !call.sessions then (.error .object, function.abortAllocation)
      else if !call.written then (.error (.underlying .fault), function.abortAllocation)
      else (.ok block.length, function.finishReconfigure (some block))

def enableMsi : PciFunction → PciCall → PciInterruptBindArgs → Except PciEnableError Nat × PciFunction :=
  enableWith allocateMsi

def enableMsix : PciFunction → PciCall → PciInterruptBindArgs → Except PciEnableError Nat × PciFunction :=
  enableWith allocateMsix

/-- The failed `disable_interrupts` puts the block back. -/
def finishDisable (function : PciFunction) (runtime : Bool) : PciReply × PciFunction :=
  if !runtime then (.underlying .runtimeUnavailable, function.cancelReconfigure)
  else
    match function.disableInterrupts with
    | (.error error, function) => (.underlying (.of error), function.finishReconfigure function.active)
    | (.ok (), function) => (.disabled, function.finishReconfigure none)

/-- The call of an enabling method. -/
def dispatchEnable
    (enable : PciFunction → PciCall → PciInterruptBindArgs → Except PciEnableError Nat × PciFunction)
    (function : PciFunction) (call : PciCall) : PciReply × PciFunction :=
  if !call.permitted then (.insufficientCapabilities, function)
  else if function.configuring then (.underlying .busy, function)
  else
    match call.args with
    | none => (.underlying .fault, function.beginReconfigure.cancelReconfigure)
    | some args =>
      match enable function.beginReconfigure call args with
      | (.ok slots, function) => (.enabled slots, function)
      | (.error .object, function) => (.objectError, function)
      | (.error (.underlying error), function) => (.underlying error, function.cancelReconfigure)

def dispatchDisable (function : PciFunction) (permitted runtime : Bool) : PciReply × PciFunction :=
  if !permitted then (.insufficientCapabilities, function)
  else if function.configuring then (.underlying .busy, function)
  else function.beginReconfigure.finishDisable runtime

end PciFunction

/-- The interrupt methods of a function. -/
inductive PciOp where
  | enableMsi (call : PciCall)
  | enableMsix (call : PciCall)
  | disableInterrupts (permitted runtime : Bool)

namespace PciFunction

def step (function : PciFunction) : PciOp → PciFunction
  | .enableMsi call => (function.dispatchEnable enableMsi call).2
  | .enableMsix call => (function.dispatchEnable enableMsix call).2
  | .disableInterrupts permitted runtime => (function.dispatchDisable permitted runtime).2

def run (function : PciFunction) (ops : List PciOp) : PciFunction := runOps step function ops

end PciFunction

/-! ## What a function promises -/

/-- The vectors that the device raises are those of the block. -/
def PciMsiCapability.Covers (capability : PciMsiCapability) (block : List MessageVectorRoute) : Prop :=
  block.map (·.vector) = (List.range (2 ^ capability.mme)).map (capability.data + ·)

/-- The registers of an MSI capability after it has been enabled for a block. -/
lemma PciMsiCapability.enable_covers {block : List MessageVectorRoute}
    {capability capability' : PciMsiCapability} (h : capability.enable (block.map (·.descriptor)) = .ok capability')
    (hlegal : ∀ route ∈ block, route.vector < 256) : capability'.Covers block := by
  cases block with
  | nil => cases h
  | cons base rest =>
    simp only [PciMsiCapability.enable, map_cons] at h
    split at h
    · rename_i hvalid
      cases h
      simp only [PciMsiCapability.validateDescriptors, PciMsiCapability.supportsCount, isPowerOfTwo,
        Bool.and_eq_true, beq_iff_eq, all_eq_true] at hvalid
      obtain ⟨⟨⟨hpower, _⟩, _⟩, hall⟩ := hvalid
      have hbase : base.vector < 256 := hlegal base mem_cons_self
      show ((base :: rest).map (·.vector)) =
        (List.range (2 ^ trailingZeros (base.descriptor :: rest.map (·.descriptor)).length)).map
          (base.vector % 2 ^ 32 % 2 ^ 16 + ·)
      rw [hpower, Nat.mod_eq_of_lt (by omega : base.vector < 2 ^ 32),
        Nat.mod_eq_of_lt (by omega : base.vector < 2 ^ 16)]
      refine ext_getElem (by simp) fun i hi _ => ?_
      rw [length_map] at hi
      have hentry := hall (((base :: rest).get ⟨i, hi⟩).descriptor, i) (by
        rw [mk_mem_zipIdx_iff_getElem?, ← map_cons (f := MessageVectorRoute.descriptor),
          getElem?_map, getElem?_eq_getElem hi]
        rfl)
      simp only [getElem_map, getElem_range]
      exact hentry.1.2
    · cases h

section

variable (capability : PciMsixCapability)

/-- Every entry that can be raised is an entry of the block. -/
def PciMsixCapability.Within (block : List MessageVectorRoute) : Prop :=
  ∀ entry ∈ capability.table, entry.masked = false → ∃ route ∈ block, entry = MsixEntry.of route.descriptor

lemma PciMsixCapability.enable_off (descriptors : List MessageIrqDescriptor)
    (hoff : capability.enabled = false) (error : IrqError) (h : (capability.enable descriptors).1 = .error error) :
    (capability.enable descriptors).2.enabled = false := by
  unfold PciMsixCapability.enable at h ⊢
  split_ifs at h ⊢
  · exact hoff
  · cases hbar : capability.bar with
    | some other => rfl
    | none =>
      rw [hbar] at h
      cases h

lemma PciMsixCapability.enable_within {block : List MessageVectorRoute}
    {descriptors : List MessageIrqDescriptor} (hdescriptors : descriptors = block.map (·.descriptor))
    (hrest : ∀ entry ∈ capability.table.drop block.length, entry.masked = true)
    (hon : (capability.enable descriptors).1 = .ok ()) : (capability.enable descriptors).2.Within block := by
  unfold PciMsixCapability.enable at hon ⊢
  split_ifs at hon ⊢ with hbad
  cases hbar : capability.bar with
  | some error =>
    rw [hbar] at hon
    cases hon
  | none =>
    intro entry hentry hmasked
    rcases mem_append.1 hentry with hnew | hold
    · obtain ⟨descriptor, hin, rfl⟩ := mem_map.1 hnew
      rw [hdescriptors] at hin
      obtain ⟨route, hroute, rfl⟩ := mem_map.1 hin
      exact ⟨route, hroute, rfl⟩
    · rw [hdescriptors, length_map] at hold
      exact absurd ((hrest entry hold).symm.trans hmasked) (by decide)

end

namespace PciFunction

/-- Devices raise only vectors of the block. -/
structure VectorLaw (function : PciFunction) : Prop where
  msi : ∀ capability ∈ function.msi, capability.enabled = true →
    ∃ block ∈ function.active, capability.Covers block
  msix : ∀ capability ∈ function.msix, capability.enabled = true →
    ∀ entry ∈ capability.table, entry.masked = false →
      ∃ block ∈ function.active, ∃ route ∈ block, entry = MsixEntry.of route.descriptor

/-- The controller grants vectors of the interrupt table. -/
def Legal : PciOp → Prop
  | .enableMsi call | .enableMsix call =>
    match call.grant with
    | .error _ => True
    | .ok block => ∀ route ∈ block, route.vector < 256
  | .disableInterrupts _ _ => True

/-- MSI-X is enabled with a block that reaches every entry that is not masked. -/
def Reaches (function : PciFunction) : PciOp → Prop
  | .enableMsix call =>
    match call.grant, function.msix with
    | .ok block, some capability => ∀ entry ∈ capability.table.drop block.length, entry.masked = true
    | _, _ => True
  | .enableMsi _ | .disableInterrupts _ _ => True

/-- No mode is enabled. -/
structure Quiet (function : PciFunction) : Prop where
  msi : ∀ capability ∈ function.msi, capability.enabled = false
  msix : ∀ capability ∈ function.msix, capability.enabled = false

/-- What is enabled is programmed for the block. -/
structure Programmed (function : PciFunction) (block : List MessageVectorRoute) : Prop where
  present : function.present = true
  msi : ∀ capability ∈ function.msi, capability.enabled = true → capability.Covers block
  msix : ∀ capability ∈ function.msix, capability.enabled = true → capability.Within block

def Sound (function : PciFunction) : Prop := function.Quiet ∨ ∃ block ∈ function.active, function.Programmed block

variable {function : PciFunction} {block : List MessageVectorRoute} {call : PciCall}

lemma Sound.vectorLaw (h : function.Sound) : function.VectorLaw := by
  rcases h with hquiet | ⟨block, hactive, hprogrammed⟩
  · refine ⟨fun capability hin hon => ?_, fun capability hin hon => ?_⟩
    · exact absurd ((hquiet.msi capability hin).symm.trans hon) (by decide)
    · exact absurd ((hquiet.msix capability hin).symm.trans hon) (by decide)
  · refine ⟨fun capability hin hon => ⟨block, hactive, hprogrammed.msi capability hin hon⟩, ?_⟩
    intro capability hin hon entry hentry hmasked
    exact ⟨block, hactive, hprogrammed.msix capability hin hon entry hentry hmasked⟩

lemma disableAllInterrupts_quiet (function : PciFunction) : function.disableAllInterrupts.Quiet := by
  constructor
  · intro capability hin
    obtain ⟨_, _, rfl⟩ := Option.map_eq_some_iff.1 hin
    rfl
  · intro capability hin
    obtain ⟨_, _, rfl⟩ := Option.map_eq_some_iff.1 hin
    rfl

/-- A function that is not there is left as it is. -/
lemma disableInterrupts_quiet (h : function.present = false → function.Quiet) :
    function.disableInterrupts.2.Quiet := by
  unfold disableInterrupts
  cases hpresent : function.present with
  | false => exact h hpresent
  | true => exact function.disableAllInterrupts_quiet

lemma Sound.quiet_of_gone (h : function.Sound) (hgone : function.present = false) : function.Quiet := by
  rcases h with hquiet | ⟨_, _, hprogrammed⟩
  · exact hquiet
  · exact absurd (hgone.symm.trans hprogrammed.present) (by decide)

lemma Sound.dropActive (h : function.Sound) : function.dropActive.Quiet := by
  unfold PciFunction.dropActive
  cases hactive : function.active with
  | none =>
    rcases h with hquiet | ⟨block, hblock, _⟩
    · exact hquiet
    · rw [hactive] at hblock
      cases hblock
  | some _ =>
    have hquiet := disableInterrupts_quiet h.quiet_of_gone
    exact ⟨hquiet.msi, hquiet.msix⟩

lemma allocateMsi_sound (h : function.Quiet) (count : Nat) (grant : Except IrqError (List MessageVectorRoute))
    (hlegal : ∀ block, grant = .ok block → ∀ route ∈ block, route.vector < 256) :
    match function.allocateMsi count grant with
    | (.error _, function') => function'.Quiet
    | (.ok block, function') => function'.Programmed block := by
  fun_cases allocateMsi function count grant with
  | case5 => exact function.disableAllInterrupts_quiet
  | case6 hpresent capability _ _ block _ capability' henable =>
    rw [Bool.not_eq_true', Bool.not_eq_false] at hpresent
    refine ⟨hpresent, ?_, fun other hother hon => ?_⟩
    · rintro _ ⟨⟩ _
      exact PciMsiCapability.enable_covers henable (hlegal block rfl)
    · exact absurd ((function.disableAllInterrupts_quiet.msix other hother).symm.trans hon) (by decide)
  | _ => exact h

lemma allocateMsix_sound (h : function.Quiet) (count : Nat) (grant : Except IrqError (List MessageVectorRoute))
    (hreaches : ∀ block capability, grant = .ok block → function.msix = some capability →
      ∀ entry ∈ capability.table.drop block.length, entry.masked = true) :
    match function.allocateMsix count grant with
    | (.error _, function') => function'.Quiet
    | (.ok block, function') => function'.Programmed block := by
  fun_cases allocateMsix function count grant with
  | case5 _ capability _ _ block _ error capability' henable =>
    have hoff := capability.disable.enable_off (block.map (·.descriptor)) rfl
    rw [henable] at hoff
    refine ⟨function.disableAllInterrupts_quiet.msi, ?_⟩
    rintro _ ⟨⟩
    exact hoff error rfl
  | case6 hpresent capability hmsix _ block _ capability' henable =>
    have hwithin := capability.disable.enable_within rfl (hreaches block capability rfl hmsix)
    rw [henable] at hwithin
    rw [Bool.not_eq_true', Bool.not_eq_false] at hpresent
    refine ⟨hpresent, fun other hother hon => ?_, ?_⟩
    · exact absurd ((function.disableAllInterrupts_quiet.msi other hother).symm.trans hon) (by decide)
    · rintro _ ⟨⟩ _
      exact hwithin rfl
  | _ => exact h

/-- A block that has been programmed becomes active, or the function is silenced. -/
lemma enableWith_sound {allocate : PciFunction → Nat → Except IrqError (List MessageVectorRoute) →
      Except IrqError (List MessageVectorRoute) × PciFunction} (h : function.Sound)
    (hallocate : ∀ count, match allocate function.dropActive count call.grant with
      | (.error _, function') => function'.Quiet
      | (.ok block, function') => function'.Programmed block) (args : PciInterruptBindArgs) :
    (enableWith allocate function call args).2.Sound := by
  have hresult := hallocate args.count
  fun_cases enableWith allocate function call args with
  | case1 | case2 | case3 => exact h
  | case4 _ _ _ error function' hanswer =>
    rw [hanswer] at hresult
    exact .inl hresult
  | case5 _ _ _ block function' hanswer | case6 _ _ _ block function' hanswer =>
    rw [hanswer] at hresult
    have hquiet := disableInterrupts_quiet fun hgone => absurd (hgone.symm.trans hresult.present) (by decide)
    exact .inl ⟨hquiet.msi, hquiet.msix⟩
  | case7 _ _ _ block function' hanswer =>
    rw [hanswer] at hresult
    exact .inr ⟨block, rfl, hresult.present, hresult.msi, hresult.msix⟩

lemma Sound.configure (h : function.Sound) (configuring : Bool) :
    Sound { function with configuring := configuring } := by
  rcases h with hquiet | ⟨block, hactive, hprogrammed⟩
  · exact .inl ⟨hquiet.msi, hquiet.msix⟩
  · exact .inr ⟨block, hactive, hprogrammed.present, hprogrammed.msi, hprogrammed.msix⟩

lemma Sound.dispatchEnable (h : function.Sound)
    {enable : PciFunction → PciCall → PciInterruptBindArgs → Except PciEnableError Nat × PciFunction}
    (henable : ∀ args, (enable function.beginReconfigure call args).2.Sound) :
    (function.dispatchEnable enable call).2.Sound := by
  unfold PciFunction.dispatchEnable
  split_ifs
  · exact h
  · exact h
  cases call.args with
  | none => exact h.configure false
  | some args =>
    have hresult := henable args
    dsimp only
    generalize enable function.beginReconfigure call args = answer at hresult ⊢
    obtain ⟨_ | _, function'⟩ := answer
    · rename_i error
      cases error with
      | object => exact hresult
      | underlying error => exact hresult.configure false
    · exact hresult

/-- The table is as it was, whichever way the active block is given up. -/
lemma dropActive_msix (function : PciFunction) {capability : PciMsixCapability}
    (h : function.dropActive.msix = some capability) :
    ∃ old, function.msix = some old ∧ capability.table = old.table := by
  unfold PciFunction.dropActive disableInterrupts at h
  split at h
  · exact ⟨capability, h, rfl⟩
  · split_ifs at h
    · exact ⟨capability, h, rfl⟩
    · obtain ⟨old, hold, rfl⟩ := Option.map_eq_some_iff.1 h
      exact ⟨old, hold, rfl⟩

lemma Sound.step (h : function.Sound) (op : PciOp) (hlegal : Legal op) (hreaches : function.Reaches op) :
    (function.step op).Sound := by
  cases op with
  | enableMsi call =>
    refine h.dispatchEnable fun args => enableWith_sound (h.configure true) (fun count => ?_) args
    refine allocateMsi_sound (h.configure true).dropActive count call.grant fun block hgrant => ?_
    simpa only [Legal, hgrant] using hlegal
  | enableMsix call =>
    refine h.dispatchEnable fun args => enableWith_sound (h.configure true) (fun count => ?_) args
    refine allocateMsix_sound (h.configure true).dropActive count call.grant fun block capability hgrant hmsix => ?_
    obtain ⟨old, hold, htable⟩ := function.beginReconfigure.dropActive_msix hmsix
    have hold : function.msix = some old := hold
    rw [htable]
    simpa only [Reaches, hgrant, hold] using hreaches
  | disableInterrupts permitted runtime =>
    show (function.dispatchDisable permitted runtime).2.Sound
    unfold PciFunction.dispatchDisable PciFunction.finishDisable disableInterrupts
    split_ifs
    · exact h
    · exact h
    · exact h.configure false
    · exact h.configure false
    · have hquiet := function.beginReconfigure.disableAllInterrupts_quiet
      exact .inl ⟨hquiet.msi, hquiet.msix⟩

instance (op : PciOp) : Decidable (Legal op) := by
  unfold Legal; repeat' split
  all_goals infer_instance

instance (function : PciFunction) (op : PciOp) : Decidable (function.Reaches op) := by
  unfold Reaches; repeat' split
  all_goals infer_instance

/-- A function with both capabilities and two masked entries in its table. -/
def freshFunction : PciFunction where
  present := true
  msi := some ⟨true, false, 2, false, 0, 0, 0, 0, 0⟩
  msix := some ⟨none, false, false, [⟨0, 0, 0, true⟩, ⟨0, 0, 0, true⟩]⟩
  intxEnabled := true
  configuring := false
  active := none

/-- A call that gets the vectors on the first CPU. -/
def callFor (vectors : List Nat) : PciCall :=
  ⟨true, some ⟨vectors.length, vectors.length⟩, true, .ok (vectors.map (⟨0, 0, ·⟩)), true, true⟩

end PciFunction

end Akarin.Interrupt
