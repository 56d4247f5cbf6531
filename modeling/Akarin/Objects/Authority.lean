/-
# Akarin.Objects.Authority -- no amplification without ADMIN or AGENT

A chain of handle operations, of any length, each met by whatever state the registry is in at that
moment. `obtained_within` says that from a handle without ADMIN and AGENT a chain leads to no
generic capability the handle did not have, and, as long as it does not traverse the tree, to no
interface capability either.

The step that carries the argument is `derive_token`: it adds CLONE and SEND only to a privileged
parent token, so along an unprivileged chain it only removes.
-/
import Akarin.Objects.Handle

namespace Akarin.Objects

open Lib Handle Registry BitFlags Capability
open Lib.BitFlags (Within)

/-! ## Tokens along a path -/

variable {r : Registry} {handle handle' : Handle} {token token' : Token}

lemma Object.deriveToken_within {object : Object} {parentToken : Token}
    (hparent : parentToken.capabilities.isPrivileged = false)
    (h : object.deriveToken parentToken = .ok token) :
    Within token.capabilities parentToken.capabilities := by
  obtain ⟨-, rfl⟩ := Object.deriveToken_eq_ok h
  -- an unprivileged parent gets nothing appended
  rw [hparent, Bool.and_false, if_neg Bool.false_ne_true]
  show Within (parentToken.capabilities &&& ~~~object.maskedCaps ||| 0#32) parentToken.capabilities
  apply Within.or
  · exact and_within_left _ _
  · exact BitVec.zero_and

lemma Registry.walkAll_within {names : List String}
    (htoken : token.capabilities.isPrivileged = false) (h : r.walkAll token names = .ok token') :
    Within token'.capabilities token.capabilities := by
  refine walkAll_rule (I := fun t => Within t.capabilities token.capabilities)
    (fun _ _ _ hderive hwithin => ?_) (.refl _) h
  have hparent := isPrivileged_of_within hwithin htoken
  exact (Object.deriveToken_within hparent hderive).trans hwithin

lemma Registry.startToken_handle {path : String} (h : r.startToken (some handle) path = .ok token) :
    Token.make handle.objectId handle.capabilities handle.interfaceCaps = .ok token := by
  unfold startToken at h
  generalize isAbsolute path = absolute at h
  cases absolute with
  | false => exact h
  | true =>
    dsimp only at h
    split at h
    · exact h
    · cases h

lemma Registry.locateAndThen_within {path : String} (hhandle : handle.capabilities.isPrivileged = false)
    (h : r.locateAndThen (some handle) path = .ok handle') :
    Within handle'.capabilities handle.capabilities := by
  obtain ⟨start, token, finalId, final, hstart, hwalk, -, -, rfl⟩ := locateAndThen_eq_ok h
  obtain rfl := Token.make_eq_ok (startToken_handle hstart)
  exact walkAll_within hhandle hwalk

/-! ## Chains of handle operations -/

/-- Calls that make a handle. -/
inductive HandleOp where
  | deriveHandle (cap : Capability) (interfaceCaps : BitVec 32)
  | tryClone
  | acquireRef
  | downgrade (caps : Capability) (interfaceCaps : BitVec 32)
  | locate (path : String)

namespace HandleOp

/-- The handle an operation makes of a handle. -/
def apply (r : Registry) (handle : Handle) : HandleOp → Except (Fault ObjectError) Handle
  | .deriveHandle cap interfaceCaps => handle.deriveHandle cap interfaceCaps r
  | .tryClone => handle.tryClone r
  | .acquireRef => handle.acquireRef r
  | .downgrade caps interfaceCaps => .ok (handle.downgrade caps interfaceCaps)
  | .locate path => handle.locate path r

def isLocate : HandleOp → Bool
  | .locate _ => true
  | _ => false

end HandleOp

/-- The handle at the end of a chain; between two operations anything may happen to the registry. -/
def obtained (handle : Handle) : List (Registry × HandleOp) → Except (Fault ObjectError) Handle
  | [] => .ok handle
  | (r, op) :: chain =>
    match op.apply r handle with
    | .error e => .error e
    | .ok handle => obtained handle chain

/-- `h'` grants nothing on the same object that `h` does not. -/
structure NoWider (h' h : Handle) : Prop where
  capabilities : Within h'.capabilities h.capabilities
  interfaceCaps : Within h'.interfaceCaps h.interfaceCaps
  uid : h'.uid = h.uid

lemma Handle.acquireRef_noWider (h : handle.acquireRef r = .ok handle') : NoWider handle' handle := by
  obtain rfl := acquireRef_eq_ok h
  exact ⟨.refl _, .refl _, rfl⟩

section

variable (hhandle : handle.capabilities.isPrivileged = false)
include hhandle

lemma Handle.deriveHandle_noWider {cap : Capability} {interfaceCaps : BitVec 32}
    (h : handle.deriveHandle cap interfaceCaps r = .ok handle') : NoWider handle' handle := by
  obtain ⟨hadmin, hagent⟩ := Bool.or_eq_false_iff.1 hhandle
  revert h
  fun_cases deriveHandle handle cap interfaceCaps r with
  | case5 _ derivable effective hderivable hchecks token htoken =>
    rintro ⟨⟩
    -- without ADMIN and AGENT only a cloneable handle derives, and at most what it has
    have hown : derivable = handle.capabilities ∧ effective = handle.interfaceCaps := by
      simp only [Handle.derivable, hadmin, hagent, Bool.false_eq_true, if_false] at hderivable
      split at hderivable
      · cases hderivable
        exact ⟨rfl, rfl⟩
      · cases hderivable
    obtain ⟨rfl, rfl⟩ := hown
    simp only [Bool.or_eq_true, Bool.not_eq_true', bne_iff_ne, not_or, not_not, Bool.not_eq_false] at hchecks
    obtain rfl := Token.make_eq_ok htoken
    refine ⟨contains_iff.1 hchecks.1.1, ?_, rfl⟩
    show Within interfaceCaps handle.interfaceCaps
    rw [Within, BitVec.and_comm]
    exact hchecks.2
  | _ => rintro ⟨⟩

/-- One operation. -/
lemma HandleOp.apply_within {op : HandleOp} (h : op.apply r handle = .ok handle') :
    Within handle'.capabilities handle.capabilities ∧ (op.isLocate = false → NoWider handle' handle) := by
  have hall : NoWider handle' handle → Within handle'.capabilities handle.capabilities ∧
      (op.isLocate = false → NoWider handle' handle) := fun h => ⟨h.capabilities, fun _ => h⟩
  cases op with
  | deriveHandle cap interfaceCaps => exact hall (deriveHandle_noWider hhandle h)
  | tryClone =>
    exact hall (acquireRef_noWider (tryClone_eq_ok h))
  | acquireRef => exact hall (acquireRef_noWider h)
  | downgrade caps interfaceCaps =>
    cases h
    exact hall ⟨remove_within _ _, remove_within _ _, rfl⟩
  | locate path =>
    refine ⟨?_, nofun⟩
    exact locateAndThen_within hhandle (locate_eq_ok h)

end

/-- No capability amplification: whatever a chain of handle operations makes of a handle without
ADMIN and AGENT has no generic capability the handle lacks, and, without `locate`, refers to the same
object with no interface capability the handle lacks. -/
theorem obtained_within (handle handle' : Handle) (chain : List (Registry × HandleOp))
    (hhandle : handle.capabilities.isPrivileged = false) (h : obtained handle chain = .ok handle') :
    Within handle'.capabilities handle.capabilities ∧ ((∀ step ∈ chain, step.2.isLocate = false) →
        handle'.uid = handle.uid ∧ Within handle'.interfaceCaps handle.interfaceCaps) := by
  induction chain generalizing handle with
  | nil =>
    cases h
    exact ⟨.refl _, fun _ => ⟨rfl, .refl _⟩⟩
  | cons step chain ih =>
    obtain ⟨r, op⟩ := step
    unfold obtained at h
    split at h
    · cases h
    rename_i middle hmiddle
    obtain ⟨hwithin, hsame⟩ := HandleOp.apply_within hhandle hmiddle
    obtain ⟨hrest, hrestSame⟩ := ih middle (isPrivileged_of_within hwithin hhandle) h
    refine ⟨hrest.trans hwithin, fun hlocal => ?_⟩
    have hstep := hsame (hlocal (r, op) List.mem_cons_self)
    obtain ⟨huid, hinterface⟩ := hrestSame fun step hmem =>
      hlocal step (List.mem_cons_of_mem _ hmem)
    exact ⟨huid.trans hstep.uid, hinterface.trans hstep.interfaceCaps⟩

/-- A root with one child. -/
def rootAndChild : Registry :=
  (Registry.addChild 0 "dev" Capability.write (Registry.initRoot .new).2).2

/-- A reader's handle on the root. -/
def readerHandle : Handle := ⟨⟨some 0, .clone ||| .read, 0⟩, true, .shared 0⟩

theorem obtained_within_readerHandle : readerHandle.capabilities.isPrivileged = false ∧
    obtained readerHandle [(rootAndChild, .locate "dev"), (rootAndChild, .downgrade Capability.clone 0)]
      = .ok ⟨⟨some 1, Capability.read, 0⟩, true, .shared 1⟩ ∧
    Within Capability.read readerHandle.capabilities :=
  ⟨by decide, by decide, (obtained_within readerHandle ⟨⟨some 1, read, 0⟩, true, .shared 1⟩
    [(rootAndChild, .locate "dev"), (rootAndChild, .downgrade clone 0)] (by decide)
    (by decide)).1⟩

end Akarin.Objects
