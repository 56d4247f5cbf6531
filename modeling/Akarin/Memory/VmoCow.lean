/-
# Akarin.Memory.VmoCow -- isolation of private copies through mappings

`page_at` resolves a page along the path to the root, past any mixture of shared views and private
children. `pageOwner` names the node whose own extent answered, and `BeyondCow` says that a node
lies strictly above a private child on the path: a page owned there is shared across a
private-copy boundary and must not be mapped writable.

`mapping_mmu_flags_for_page` looks at the mapped node alone. `mapping_isolated_iff` says exactly
when that is enough: it fails for a shared view of a private child that has not split the page yet.
-/
import Akarin.Memory.VmoRuns

namespace Akarin.Memory

open Option Bool
open Lib (runOps)

namespace Vmo

/-! ## Ownership along the path -/

/-- The node whose own extent backs the page that `page_at` answers. -/
def pageOwner (heap : VmoHeap) : Vmo → Nat → Option Vmo
  | .root id pageSize backing, offset =>
    if (Vmo.root id pageSize backing).offsetIsPageAligned heap offset then
      (ownPage heap id offset).map fun _ => .root id pageSize backing
    else none
  | .child id backing kind parentOffset parent, offset =>
    if (Vmo.child id backing kind parentOffset parent).offsetIsPageAligned heap offset then
      if kind = .privateCow ∧ ownsPage heap id offset = true then
        (ownPage heap id offset).map fun _ => .child id backing kind parentOffset parent
      else (checkedAdd parentOffset offset).bind (pageOwner heap parent)
    else none

/-- `upper` is the node itself or one of its ancestors. -/
inductive AtOrAbove : Vmo → Vmo → Prop
  | self (vmo : Vmo) : AtOrAbove vmo vmo
  | parent {id : Nat} {backing : VmoBacking} {kind : VmoChildKind} {parentOffset : Nat}
      {parent upper : Vmo} (h : AtOrAbove parent upper) :
      AtOrAbove (.child id backing kind parentOffset parent) upper

/-- `upper` lies strictly above a private child on the path from the node to the root. -/
inductive BeyondCow : Vmo → Vmo → Prop
  | here {id : Nat} {backing : VmoBacking} {parentOffset : Nat} {parent upper : Vmo}
      (h : AtOrAbove parent upper) :
      BeyondCow (.child id backing .privateCow parentOffset parent) upper
  | above {id : Nat} {backing : VmoBacking} {kind : VmoChildKind} {parentOffset : Nat}
      {parent upper : Vmo} (h : BeyondCow parent upper) :
      BeyondCow (.child id backing kind parentOffset parent) upper

/-- A writable mapping of the page does not reach across a private-copy boundary. -/
def MappingIsolated (heap : VmoHeap) (vmo : Vmo) (offset : Nat) (requested : MMUFlags) : Prop :=
  (vmo.mappingMmuFlagsForPage heap offset requested).contains .write = true →
    ∀ owner, vmo.pageOwner heap offset = some owner → ¬ BeyondCow vmo owner

/-- Going up through shared views only, the first other node is a private child that owns no page
at the translated offset. -/
def reachesUnsplitCow (heap : VmoHeap) : Vmo → Nat → Bool
  | .root _ _ _, _ => false
  | .child id _ .privateCow _ _, offset => !ownsPage heap id offset
  | .child _ _ .sharedView parentOffset parent, offset =>
    reachesUnsplitCow heap parent (parentOffset + offset)

/-- The node is a shared view, directly or through further shared views, of a private child that
has not split the page. -/
def viewsUnsplitCow (heap : VmoHeap) (vmo : Vmo) (offset : Nat) : Bool :=
  vmo.childKind == some .sharedView && vmo.reachesUnsplitCow heap offset

/-! ## Facts about the path -/

variable {vmo owner upper : Vmo} {heap : VmoHeap} {offset : Nat}

lemma AtOrAbove.sizeOf_le (h : AtOrAbove vmo upper) : sizeOf upper ≤ sizeOf vmo := by
  induction h with
  | self vmo => exact le_rfl
  | parent h ih =>
    refine le_trans ih ?_
    simp only [Vmo.child.sizeOf_spec]
    omega

lemma BeyondCow.sizeOf_lt (h : BeyondCow vmo upper) : sizeOf upper < sizeOf vmo := by
  induction h with
  | here h =>
    refine lt_of_le_of_lt h.sizeOf_le ?_
    simp only [Vmo.child.sizeOf_spec]
    omega
  | above h ih =>
    refine lt_trans ih ?_
    simp only [Vmo.child.sizeOf_spec]
    omega

/-- A node is not beyond itself. -/
lemma BeyondCow.irrefl (vmo : Vmo) : ¬ BeyondCow vmo vmo :=
  fun h => lt_irrefl _ h.sizeOf_lt

lemma pageOwner_isSome (heap : VmoHeap) (vmo : Vmo) (offset : Nat) :
    (vmo.pageOwner heap offset).isSome = (vmo.pageAt heap offset).isSome := by
  induction vmo generalizing offset with
  | root id pageSize backing =>
    unfold pageOwner pageAt
    split
    · exact isSome_map
    · rfl
  | child id backing kind parentOffset parent ih =>
    unfold pageOwner pageAt
    split
    · split
      · exact isSome_map
      · cases checkedAdd parentOffset offset with
        | none => rfl
        | some translated => exact ih translated
    · rfl

/-- The owner of a page is on the path. -/
lemma atOrAbove_of_pageOwner (h : vmo.pageOwner heap offset = some owner) : AtOrAbove vmo owner := by
  induction vmo generalizing offset with
  | root id pageSize backing =>
    unfold pageOwner at h
    split at h
    · obtain ⟨_, -, rfl⟩ := map_eq_some_iff.1 h
      exact .self _
    · cases h
  | child id backing kind parentOffset parent ih =>
    unfold pageOwner at h
    split at h
    · split at h
      · obtain ⟨_, -, rfl⟩ := map_eq_some_iff.1 h
        exact .self _
      · obtain ⟨translated, -, hparent⟩ := bind_eq_some_iff.1 h
        exact .parent (ih hparent)
    · cases h

/-- The page belongs to a node beyond the boundary exactly above an unsplit private child. -/
lemma beyondCow_iff (howner : vmo.pageOwner heap offset = some owner) :
    BeyondCow vmo owner ↔ vmo.reachesUnsplitCow heap offset = true := by
  induction vmo generalizing offset with
  | root id pageSize backing => exact iff_of_false nofun nofun
  | child id backing kind parentOffset parent ih =>
    unfold pageOwner at howner
    split at howner
    case isFalse => cases howner
    cases kind with
    | sharedView =>
      rw [if_neg (fun h => nomatch h.1)] at howner
      obtain ⟨translated, hadd, hparent⟩ := bind_eq_some_iff.1 howner
      obtain rfl := checkedAdd_eq_some hadd
      refine Iff.trans ⟨fun hbeyond => ?_, .above⟩ (ih hparent)
      cases hbeyond with
      | above h => exact h
    | privateCow =>
      rw [reachesUnsplitCow, Bool.not_eq_true']
      cases hsplit : ownsPage heap id offset with
      | false =>
        rw [if_neg (by simp [hsplit])] at howner
        obtain ⟨translated, -, hparent⟩ := bind_eq_some_iff.1 howner
        exact iff_of_true (.here (atOrAbove_of_pageOwner hparent)) rfl
      | true =>
        rw [if_pos ⟨rfl, hsplit⟩] at howner
        obtain ⟨_, -, rfl⟩ := map_eq_some_iff.1 howner
        exact iff_of_false (BeyondCow.irrefl _) nofun

/-- Pages are answered at page-aligned offsets only. -/
lemma aligned_of_pageOwner
    (h : vmo.pageOwner heap offset = some owner) : offset / vmo.pageSize * vmo.pageSize = offset := by
  have haligned : vmo.offsetIsPageAligned heap offset = true := by
    cases vmo with
    | root | child => exact (ite_none_right_eq_some.1 h).1
  simp only [offsetIsPageAligned, and_eq_true, beq_iff_eq] at haligned
  exact Nat.div_mul_cancel (Nat.dvd_of_mod_eq_zero haligned.2)

/-! ## What `mapping_mmu_flags_for_page` protects -/

/-- The write-protection decision is right for every node but a shared view of a private child
that has not split the page: there a requested WRITE survives although the page lies beyond the
private-copy boundary. -/
theorem mapping_isolated_iff (heap : VmoHeap) (vmo : Vmo) (offset : Nat) (requested : MMUFlags) :
    MappingIsolated heap vmo offset requested ↔
      requested.contains MMUFlags.write = false ∨ vmo.pageAt heap offset = none ∨
        vmo.viewsUnsplitCow heap offset = false := by
  have hnone : vmo.pageAt heap offset = none ↔ vmo.pageOwner heap offset = none := by
    rw [← not_isSome_iff_eq_none, ← not_isSome_iff_eq_none, pageOwner_isSome]
  rw [hnone]
  constructor
  · intro hiso
    by_cases hwrite : requested.contains .write = false
    · exact .inl hwrite
    refine .inr ?_
    cases howner : vmo.pageOwner heap offset with
    | none => exact .inl rfl
    | some owner =>
      refine .inr (eq_false_iff.2 fun hviews => ?_)
      obtain ⟨hkind, hreach⟩ := and_eq_true_iff.1 hviews
      have hkept : vmo.mappingMmuFlagsForPage heap offset requested = requested := by
        unfold mappingMmuFlagsForPage
        rw [if_pos (.inl fun h => by rw [h] at hkind; cases hkind)]
      refine hiso ?_ owner howner ((beyondCow_iff howner).2 hreach)
      rw [hkept]
      exact eq_true_of_not_eq_false hwrite
  · intro hcond hwrite owner howner
    rcases hcond with hread | habsent | hviews
    · -- without a requested WRITE the flags come back unchanged
      rw [mappingMmuFlagsForPage, if_pos (.inr hread), hread] at hwrite
      cases hwrite
    · rw [howner] at habsent
      cases habsent
    · rw [beyondCow_iff howner, not_eq_true]
      cases vmo with
      | root id pageSize backing => rfl
      | child id backing kind parentOffset parent =>
        cases kind with
        | sharedView => simpa [viewsUnsplitCow, childKind] using hviews
        | privateCow =>
          -- the node itself is private: WRITE survives only on a page it owns
          have haligned := aligned_of_pageOwner howner
          simp only [mappingMmuFlagsForPage, haligned] at hwrite
          split at hwrite
          · rename_i hor
            rcases hor with hkind | hread
            · exact absurd rfl hkind
            · rw [hread] at hwrite
              cases hwrite
          · split at hwrite
            · rw [MMUFlags.contains_remove_self] at hwrite
              · cases hwrite
              · decide
            · rename_i hown
              simpa [reachesUnsplitCow, Vmo.id] using hown

end Vmo

namespace VmoSystem

/-- A committed page, a private child of it, and a shared view of the private child. -/
def viewOfPrivateHistory : List Op :=
  [.new 0x1000 0x1000 0, .commitRange 0 0 0x1000 .anonymous, .createPrivateChild 0 0 0x1000,
    .createChild 1 0 0x1000]

/-- The view of the unsplit private child keeps WRITE on a page of the root. -/
theorem view_of_private_child_maps_ancestor_writable :
    ∃ sys, sys = runOps step (empty plentifulAllocator fun _ => 0) viewOfPrivateHistory ∧
      ∃ view ∈ sys.vmos, ¬ view.MappingIsolated sys.heap 0 (MMUFlags.read ||| MMUFlags.write) := by
  refine ⟨_, rfl, .child 2 .paged .sharedView 0
    (.child 1 .paged .privateCow 0 (.root 0 0x1000 .paged)), by decide, fun hiso => ?_⟩
  refine hiso (by decide) (.root 0 0x1000 .paged) (by decide) ?_
  exact .above (.here (.self _))

end VmoSystem

end Akarin.Memory
