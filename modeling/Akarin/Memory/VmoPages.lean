/-
# Akarin.Memory.VmoPages -- the committed pages of a root VMO

`Vmo.Holds` says that a root VMO has a committed page at an offset, `Vmo.Firm` that whatever it has there
is committed; both look at the extents only. `pageAt_eq_some` ties them to `page_at`, and the rest says
which operations leave them alone.
-/
import Akarin.Memory.VmoRuns

namespace Akarin.Memory

open List Option

namespace Vmo

variable {vmo : Vmo} {heap heap' : VmoHeap} {offset : Nat}

/-- The VMO shows a committed page at the offset. -/
def Committed (heap : VmoHeap) (vmo : Vmo) (offset : Nat) : Prop :=
  ∃ page, vmo.pageAt heap offset = some page ∧ page.committed = true

/-- A committed extent covers the page. -/
structure Holds (heap : VmoHeap) (vmo : Vmo) (offset : Nat) : Prop where
  root : vmo.isChild = false
  aligned : offset % vmo.pageSize = 0
  inside : offset < vmo.size heap
  extent : ∃ extent ∈ (heap.inner vmo.id).extents, extent.contains offset = true ∧ extent.committed = true

/-- No uncommitted extent covers the page. -/
structure Firm (heap : VmoHeap) (vmo : Vmo) (offset : Nat) : Prop where
  root : vmo.isChild = false
  extents : ∀ extent ∈ (heap.inner vmo.id).extents, extent.contains offset = true → extent.committed = true

/-- The page that a root VMO shows is the one of the extent that covers it. -/
lemma pageAt_eq_some (hsound : (heap.inner vmo.id).Sound vmo) (hroot : vmo.isChild = false)
    {page : VmoPageMetadata} : vmo.pageAt heap offset = some page ↔
      offset % vmo.pageSize = 0 ∧ offset < vmo.size heap ∧
        ∃ extent ∈ (heap.inner vmo.id).extents, extent.contains offset = true ∧
          extent.metadataAt offset = some page := by
  cases vmo with
  | child => cases hroot
  | root id pageSize backing =>
    simp only [pageAt, offsetIsPageAligned, ownPage, Bool.and_eq_true, decide_eq_true_eq, beq_iff_eq]
    constructor
    · intro h
      split at h
      case isFalse => cases h
      case isTrue hin =>
        obtain ⟨extent, hat, hpage⟩ := bind_eq_some_iff.1 h
        obtain ⟨hmem, hcontains⟩ := hsound.extentAt_eq_some.1 hat
        exact ⟨hin.2, hin.1, extent, hmem, hcontains, hpage⟩
    · rintro ⟨haligned, hinside, extent, hmem, hcontains, hpage⟩
      rw [if_pos ⟨hinside, haligned⟩]
      exact bind_eq_some_iff.2
        ⟨extent, hsound.extentAt_eq_some.2 ⟨hmem, hcontains⟩, hpage⟩

lemma Holds.committed (h : vmo.Holds heap offset) (hsound : (heap.inner vmo.id).Sound vmo) :
    vmo.Committed heap offset := by
  obtain ⟨extent, hmem, hcontains, hcommitted⟩ := h.extent
  refine ⟨⟨extent.frame.physAddr + (offset - extent.offset), extent.purpose, extent.committed⟩,
    (pageAt_eq_some hsound h.root).2 ⟨h.aligned, h.inside, extent, hmem, hcontains, ?_⟩, hcommitted⟩
  rw [VmoExtent.metadataAt, if_pos hcontains]

lemma Committed.holds (h : vmo.Committed heap offset) (hsound : (heap.inner vmo.id).Sound vmo)
    (hroot : vmo.isChild = false) : vmo.Holds heap offset := by
  obtain ⟨page, hpage, hcommitted⟩ := h
  obtain ⟨haligned, hinside, extent, hmem, hcontains, hdata⟩ := (pageAt_eq_some hsound hroot).1 hpage
  rw [VmoExtent.metadataAt, if_pos hcontains] at hdata
  cases hdata
  exact ⟨hroot, haligned, hinside, extent, hmem, hcontains, hcommitted⟩

lemma Firm.holds (h : vmo.Firm heap offset) (hsound : (heap.inner vmo.id).Sound vmo)
    {page : VmoPageMetadata} (hpage : vmo.pageAt heap offset = some page) : vmo.Holds heap offset := by
  obtain ⟨haligned, hinside, extent, hmem, hcontains, -⟩ := (pageAt_eq_some hsound h.root).1 hpage
  exact ⟨h.root, haligned, hinside, extent, hmem, hcontains, h.extents extent hmem hcontains⟩

/-- Extents do not overlap, so what covers a held page is committed. -/
lemma Holds.firm (h : vmo.Holds heap offset) (hsound : (heap.inner vmo.id).Sound vmo) :
    vmo.Firm heap offset := by
  refine ⟨h.root, fun extent hmem hcontains => ?_⟩
  obtain ⟨other, hother, hin, hcommitted⟩ := h.extent
  have hat := hsound.extentAt_eq_some.2 ⟨hmem, hcontains⟩
  rw [hsound.extentAt_eq_some.2 ⟨hother, hin⟩] at hat
  rw [← some.inj hat]
  exact hcommitted

/-! ## Operations -/

lemma Holds.of_inner (h : vmo.Holds heap offset)
    (hinner : heap'.inner vmo.id = heap.inner vmo.id) : vmo.Holds heap' offset := by
  obtain ⟨root, aligned, inside, extent⟩ := h
  refine ⟨root, aligned, ?_, ?_⟩
  · rw [size, hinner]
    exact inside
  · rw [hinner]
    exact extent

/-- The extents lose nothing that is committed and win nothing that is not. -/
structure Gains (inner inner' : VmoInner) : Prop where
  size : inner'.size = inner.size
  kept : ∀ extent ∈ inner.extents, extent.committed = true → extent ∈ inner'.extents
  won : ∀ extent ∈ inner'.extents, extent ∈ inner.extents ∨ extent.committed = true

lemma Gains.refl (inner : VmoInner) : Gains inner inner :=
  ⟨rfl, fun _ h _ => h, fun _ h => .inl h⟩

lemma Holds.gains (h : vmo.Holds heap offset)
    (hgains : Gains (heap.inner vmo.id) (heap'.inner vmo.id)) : vmo.Holds heap' offset := by
  obtain ⟨root, aligned, inside, extent, hmem, hcontains, hcommitted⟩ := h
  refine ⟨root, aligned, ?_, extent, hgains.kept extent hmem hcommitted, hcontains, hcommitted⟩
  rw [size, hgains.size]
  exact inside

lemma Firm.won (h : vmo.Firm heap offset) (hwon : ∀ extent ∈ (heap'.inner vmo.id).extents,
      extent ∈ (heap.inner vmo.id).extents ∨ extent.committed = true) : vmo.Firm heap' offset := by
  refine ⟨h.root, fun extent hmem hcontains => ?_⟩
  rcases hwon extent hmem with hold | hcommitted
  · exact h.extents extent hold hcontains
  · exact hcommitted

lemma Firm.of_inner (h : vmo.Firm heap offset)
    (hinner : heap'.inner vmo.id = heap.inner vmo.id) : vmo.Firm heap' offset :=
  h.won fun _ hmem => .inl (hinner ▸ hmem)

/-- The commit of a single page is not cut off half way. -/
lemma commitSupplied_page (vmo : Vmo) (offset : Nat) (heap : VmoHeap) :
    vmo.CommitSupplied offset vmo.pageSize heap := by
  cases hframe : heap.nextFrame with
  | none => exact .inl hframe
  | some phys =>
    refine .inr fun j hj => ?_
    have hlen : ((heap.inner vmo.id).missing (vmo.pagesOf offset vmo.pageSize)).length ≤ 1 := by
      refine le_trans (length_filter_le _ _) ?_
      rw [pagesOf, length_range']
      exact Nat.div_le_of_le_mul (le_of_eq (mul_one _).symm)
    obtain rfl : j = 0 := by omega
    rw [VmoHeap.nextFrame] at hframe
    rw [add_zero, hframe]
    rfl

/-- An extent with a cell outside the range is retained. -/
lemma mem_retained {extents : List VmoExtent} {extent : VmoExtent} {start stop : Nat}
    (hmem : extent ∈ extents) (hcontains : extent.contains offset = true)
    (houtside : ¬ (start ≤ offset ∧ offset < stop)) : extent ∈ retained start stop extents := by
  refine mem_filter.2 ⟨hmem, ?_⟩
  have hspan := VmoExtent.contains_iff.1 hcontains
  simp only [Bool.or_eq_true, decide_eq_true_eq]
  omega

lemma decommitRange_inner (target : Vmo) (start len : Nat) (heap : VmoHeap) :
    ((target.decommitRange start len heap).2.inner target.id).size = (heap.inner target.id).size ∧
      (((target.decommitRange start len heap).2.inner target.id).extents = (heap.inner target.id).extents ∨
        ((target.decommitRange start len heap).2.inner target.id).extents =
          retained start (start + len) (heap.inner target.id).extents) := by
  rcases decommitRange_cases target start len heap with ⟨e, heq⟩ | ⟨_, heq, -, -, hsize, hextents, -⟩
  · rw [heq]
    exact ⟨rfl, .inl rfl⟩
  · rw [heq, VmoHeap.setInner_inner_self]
    exact ⟨hsize, .inr hextents⟩

/-- A decommit leaves alone the pages outside its range. -/
lemma Holds.decommitRange (h : vmo.Holds heap offset) (target : Vmo) {start len : Nat}
    (houtside : target.id = vmo.id → ¬ (start ≤ offset ∧ offset < start + len)) :
    vmo.Holds (target.decommitRange start len heap).2 offset := by
  by_cases hid : target.id = vmo.id
  · obtain ⟨root, aligned, inside, extent, hmem, hcontains, hcommitted⟩ := h
    obtain ⟨hsize, hextents⟩ := decommitRange_inner target start len heap
    rw [hid] at hsize hextents
    refine ⟨root, aligned, ?_, extent, ?_, hcontains, hcommitted⟩
    · rw [size, hsize]
      exact inside
    · rcases hextents with heq | heq
      · rw [heq]
        exact hmem
      · rw [heq]
        exact mem_retained hmem hcontains (houtside hid)
  · exact h.of_inner ((decommitRange_keeps target start len heap).others vmo.id (Ne.symm hid))

lemma Firm.decommitRange (h : vmo.Firm heap offset) (target : Vmo) (start len : Nat) :
    vmo.Firm (target.decommitRange start len heap).2 offset := by
  by_cases hid : target.id = vmo.id
  · obtain ⟨-, hextents⟩ := decommitRange_inner target start len heap
    rw [hid] at hextents
    refine h.won fun extent hmem => .inl ?_
    rcases hextents with heq | heq
    · exact heq ▸ hmem
    · exact mem_of_mem_filter (heq ▸ hmem)
  · exact h.of_inner ((decommitRange_keeps target start len heap).others vmo.id (Ne.symm hid))

lemma setSize_inner (target : Vmo) (newSize : Nat) (heap : VmoHeap) :
    (target.setSize newSize heap).2.inner target.id = heap.inner target.id ∨
      ((target.setSize newSize heap).2.inner target.id).size = newSize ∧
        (((target.setSize newSize heap).2.inner target.id).extents = (heap.inner target.id).extents ∨
          ((target.setSize newSize heap).2.inner target.id).extents =
            (heap.inner target.id).extents.filter (·.offset < newSize)) := by
  rcases setSize_cases target newSize heap with heq | ⟨inner, rfl | rfl, heq⟩
  · rw [heq]
    exact .inl rfl
  · rw [heq, VmoHeap.setInner_inner_self]
    exact .inr ⟨rfl, .inl rfl⟩
  · rw [heq, VmoHeap.setInner_inner_self]
    exact .inr ⟨rfl, .inr rfl⟩

/-- A change of size leaves alone the pages below the new size. -/
lemma Holds.setSize (h : vmo.Holds heap offset) (target : Vmo) {newSize : Nat}
    (hinside : target.id = vmo.id → offset < newSize) :
    vmo.Holds (target.setSize newSize heap).2 offset := by
  by_cases hid : target.id = vmo.id
  · rcases setSize_inner target newSize heap with hinner | ⟨hsize, hextents⟩
    · exact h.of_inner (hid ▸ hinner)
    · obtain ⟨root, aligned, -, extent, hmem, hcontains, hcommitted⟩ := h
      rw [hid] at hsize hextents
      refine ⟨root, aligned, ?_, extent, ?_, hcontains, hcommitted⟩
      · rw [size, hsize]
        exact hinside hid
      · rcases hextents with heq | heq
        · rw [heq]
          exact hmem
        · rw [heq]
          have hspan := VmoExtent.contains_iff.1 hcontains
          have hlt := hinside hid
          refine mem_filter.2 ⟨hmem, decide_eq_true ?_⟩
          omega
  · exact h.of_inner ((setSize_keeps target newSize heap).others vmo.id (Ne.symm hid))

lemma Firm.setSize (h : vmo.Firm heap offset) (target : Vmo) (newSize : Nat) :
    vmo.Firm (target.setSize newSize heap).2 offset := by
  by_cases hid : target.id = vmo.id
  · rcases setSize_inner target newSize heap with hinner | ⟨-, hextents⟩
    · exact h.of_inner (hid ▸ hinner)
    · rw [hid] at hextents
      refine h.won fun extent hmem => .inl ?_
      rcases hextents with heq | heq
      · exact heq ▸ hmem
      · exact mem_of_mem_filter (heq ▸ hmem)
  · exact h.of_inner ((setSize_keeps target newSize heap).others vmo.id (Ne.symm hid))

end Vmo

end Akarin.Memory
