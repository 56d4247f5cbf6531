/-
# Akarin.Interrupt.Reconfigure -- concurrent reconfigurations of a PCI function

A call that reconfigures the interrupts of a function claims it with the `configuring` flag. The flag
and the active block are behind a lock that is taken for one access at a time, and calls interleave
between any two accesses; what a call does in between touches neither, so a call carries how it turns
out. The claim is exclusive as long as no call gives it up twice: after a failed `write_slots` the flag
is cleared in `abort_allocation` and once more by the dispatcher, and after a failed
`disable_interrupts` twice in `finish_disable`. The second time it may be the claim of another call
that ends (`exclusive_fails`).
-/
import Akarin.Interrupt.Pci

namespace Akarin.Interrupt

open Lib List
open PciFunction (callFor)

/-- `overwritten` has the blocks that were active when another took their place. -/
structure PciInterruptState where
  configuring : Bool
  active : Option (List MessageVectorRoute)
  overwritten : List (List MessageVectorRoute)

/-- `EnableMsi` and `EnableMsix` differ in the allocation, whose outcome is in the call; `disabled`
says whether `disable_interrupts` succeeds. -/
inductive PciReconfiguration where
  | enable (call : PciCall)
  | disable (permitted runtime disabled : Bool)

/-- The next access of a call to the state. -/
inductive PciPc where
  | begin (op : PciReconfiguration)
  | take (op : PciReconfiguration)
  | finish (active : Option (List MessageVectorRoute)) (cancels : Bool)
  | cancel (again : Bool)
  | returned

/-- The call is between its successful `begin_reconfigure` and its return. -/
def PciPc.claims : PciPc → Bool
  | .begin _ | .returned => false
  | .take _ | .finish .. | .cancel _ => true

namespace PciReconfiguration

def permitted : PciReconfiguration → Bool
  | .enable call => call.permitted
  | .disable permitted _ _ => permitted

/-- The call has begun and checks its arguments and the runtime. -/
def begun : PciReconfiguration → PciPc
  | .enable call =>
    match call.args with
    | none => .cancel false
    | some args =>
      if args.count = 0 ∨ args.slotsLen < args.count ∨ call.runtime = false then .cancel false
      else .take (.enable call)
  | .disable permitted runtime disabled =>
    if runtime then .take (.disable permitted runtime disabled) else .cancel false

/-- The call has taken the active block out, if there was one. -/
def taken (old : Option (List MessageVectorRoute)) : PciReconfiguration → PciPc
  | .enable call =>
    match call.grant with
    | .error _ => .cancel false
    | .ok block =>
      if !call.sessions then .finish none false
      else if !call.written then .finish none true
      else .finish (some block) false
  | .disable _ _ disabled =>
    if disabled then .finish none false
    else if old.isSome then .finish old true
    else .cancel true

/-- The slots can be written if it comes to that, and the interrupts can be disabled. -/
def Spared : PciReconfiguration → Prop
  | .enable call => call.written = true
  | .disable _ _ disabled => disabled = true

end PciReconfiguration

namespace PciInterruptState

def move (s : PciInterruptState) : PciPc → PciInterruptState × PciPc
  | .begin op =>
    if !op.permitted || s.configuring then (s, .returned) else ({ s with configuring := true }, op.begun)
  | .take op => ({ s with active := none }, op.taken s.active)
  | .finish active cancels =>
    (⟨false, active, s.active.toList ++ s.overwritten⟩, if cancels then .cancel false else .returned)
  | .cancel again => ({ s with configuring := false }, if again then .cancel false else .returned)
  | .returned => (s, .returned)

/-- The calls, none of which has begun. -/
def start (active : Option (List MessageVectorRoute)) (ops : List PciReconfiguration) :
    Pool PciInterruptState PciPc :=
  ⟨⟨false, active, []⟩, ops.map .begin⟩

/-- One call makes its next access. -/
def step (pool : Pool PciInterruptState PciPc) (i : Nat) : Pool PciInterruptState PciPc :=
  match pool.tasks[i]? with
  | none => pool
  | some pc => ⟨(pool.shared.move pc).1, pool.tasks.set i (pool.shared.move pc).2⟩

/-- As many calls are in progress as the flag says, one or none, and no block was active when it was
replaced. -/
structure Exclusive (pool : Pool PciInterruptState PciPc) : Prop where
  claimed : weigh (·.claims.toNat) pool.tasks = pool.shared.configuring.toNat
  kept : pool.shared.overwritten = []

/-- What a call relies on: once it has taken out the active block there is none, and it gives up its
claim once. -/
def Fit (s : PciInterruptState) : PciPc → Prop
  | .begin op | .take op => op.Spared
  | .finish _ cancels => cancels = false ∧ s.active = none
  | .cancel again => again = false
  | .returned => True

/-- One reconfigures, and each call fits. -/
structure Sound (pool : Pool PciInterruptState PciPc) : Prop extends Exclusive pool where
  fit : ∀ pc ∈ pool.tasks, Fit pool.shared pc

variable {s s' : PciInterruptState} {tasks : List PciPc} {pc pc' : PciPc} {i : Nat}

/-- The call that has the claim, or takes it when nobody has it, is alone with it. -/
lemma Sound.advance (h : Sound ⟨s, tasks⟩) (hpc : tasks[i]? = some pc)
    (hclaims : pc.claims = s.configuring) (hflag : s'.configuring = pc'.claims) (hfit : Fit s' pc')
    (hkept : s'.overwritten = []) : Sound ⟨s', tasks.set i pc'⟩ := by
  obtain ⟨before, after, rfl, hset⟩ := set_split hpc
  have hcount := h.claimed
  simp only [weigh_append, weigh_cons, hclaims] at hcount
  -- the others have no claim, and rely on nothing in the state
  have hothers : ∀ q ∈ before ++ after, Fit s' q := by
    intro q hq
    have hfit : Fit s q := h.fit q (by simp at hq ⊢; tauto)
    have hle := le_weigh (fun pc : PciPc => pc.claims.toNat) hq
    rw [weigh_append] at hle
    have hzero : q.claims.toNat = 0 := by omega
    cases q <;> first | exact hfit | cases hzero
  rw [hset]
  refine ⟨⟨?_, hkept⟩, ?_⟩
  · simp only [weigh_append, weigh_cons, hflag]
    omega
  · simp only [forall_mem_append, forall_mem_cons] at hothers ⊢
    exact ⟨hothers.1, hfit, hothers.2⟩

lemma begun_fit {op : PciReconfiguration} (h : op.Spared) : op.begun.claims = true ∧ Fit s op.begun := by
  cases op <;> simp only [PciReconfiguration.begun] <;> (repeat' split) <;>
    exact ⟨rfl, by first | exact h | rfl⟩

lemma taken_fit {op : PciReconfiguration} (h : op.Spared) (old : Option (List MessageVectorRoute))
    (hactive : s.active = none) : (op.taken old).claims = true ∧ Fit s (op.taken old) := by
  cases op with
  | enable call =>
    simp only [PciReconfiguration.taken, show call.written = true from h]
    split
    · exact ⟨rfl, rfl⟩
    · split <;> exact ⟨rfl, rfl, hactive⟩
  | disable permitted runtime disabled =>
    simp only [PciReconfiguration.taken, show disabled = true from h]
    exact ⟨rfl, rfl, hactive⟩

lemma Sound.configuring (h : Sound ⟨s, tasks⟩) (hpc : pc ∈ tasks) (hclaims : pc.claims = true) :
    pc.claims = s.configuring := by
  have hle := le_weigh (fun pc : PciPc => pc.claims.toNat) hpc
  rw [h.claimed, hclaims] at hle
  cases hflag : s.configuring with
  | true => exact hclaims
  | false => simp [hflag] at hle

lemma Sound.move (h : Sound ⟨s, tasks⟩) (hpc : tasks[i]? = some pc) :
    Sound ⟨(s.move pc).1, tasks.set i (s.move pc).2⟩ := by
  have hmem := mem_of_getElem? hpc
  have hfit : Fit s pc := h.fit pc hmem
  cases pc with
  | begin op =>
    simp only [PciInterruptState.move]
    split
    · -- refused: a call without a claim returns without one
      refine ⟨⟨?_, h.kept⟩, forall_set (fun _ _ hq => hq) trivial h.fit⟩
      exact (weigh_set (fun pc : PciPc => pc.claims.toNat) hpc .returned).trans h.claimed
    · rename_i hfree
      simp only [Bool.or_eq_true, not_or, Bool.not_eq_true] at hfree
      obtain ⟨hclaims, hnext⟩ := @begun_fit { s with configuring := true } op hfit
      exact h.advance hpc hfree.2.symm hclaims.symm hnext h.kept
  | take op =>
    obtain ⟨hclaims, hnext⟩ := @taken_fit { s with active := none } op hfit s.active rfl
    have hown := h.configuring hmem rfl
    exact h.advance hpc hown (hown.symm.trans hclaims.symm) hnext h.kept
  | finish active cancels =>
    obtain ⟨rfl, hactive⟩ := hfit
    refine h.advance hpc (h.configuring hmem rfl) rfl trivial ?_
    simpa [PciInterruptState.move, hactive] using h.kept
  | cancel again =>
    obtain rfl : again = false := hfit
    exact h.advance hpc (h.configuring hmem rfl) rfl trivial h.kept
  | returned =>
    rw [PciInterruptState.move, set_same hpc]
    exact h

/-- Any number of reconfigurations are exclusive in every schedule, if none of them fails to write the
slots or to disable the interrupts. -/
theorem exclusive_of_spared (active : Option (List MessageVectorRoute)) (ops : List PciReconfiguration)
    (hspared : ∀ op ∈ ops, op.Spared) (schedule : List Nat) :
    Exclusive (runOps step (start active ops) schedule) := by
  refine (run_invariant_all (I := Sound) (fun pool i h => ?_) ⟨⟨?_, rfl⟩, ?_⟩ schedule).toExclusive
  · unfold step
    split
    · exact h
    · exact h.move ‹_›
  · refine weigh_eq_zero fun pc hpc => ?_
    obtain ⟨op, -, rfl⟩ := mem_map.1 hpc
    rfl
  · intro pc hpc
    obtain ⟨op, hop, rfl⟩ := mem_map.1 hpc
    exact hspared op hop

theorem exclusive_of_spared_two :
    (∀ op ∈ [.enable (callFor [0x20]), .disable true true true], PciReconfiguration.Spared op) ∧
      Exclusive (runOps step (start none [.enable (callFor [0x20]), .disable true true true])
        [0, 1, 0]) := by
  have hspared : ∀ op ∈ [.enable (callFor [0x20]), .disable true true true],
      PciReconfiguration.Spared op := by
    simp [PciReconfiguration.Spared, callFor]
  exact ⟨hspared, exclusive_of_spared none _ hspared _⟩

/-- The first call cannot write its slots. Its second release ends the claim of the second call, and
the third begins while that is still at work. -/
theorem exclusive_fails : ¬ Exclusive (runOps step (start none
    [.enable { callFor [0x20] with written := false }, .enable (callFor [0x21]), .enable (callFor [0x22])])
    [0, 0, 0, 1, 0, 2]) := by
  intro h
  exact absurd h.claimed (by decide)

end PciInterruptState

end Akarin.Interrupt
