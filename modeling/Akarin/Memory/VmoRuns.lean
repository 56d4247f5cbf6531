/-
# Akarin.Memory.VmoRuns -- a system of VMOs under arbitrary operations

A `VmoSystem` is a heap together with every VMO built so far; an operation picks one of them by
its position. `run_extents_indexed` is the extent/index invariant over runs: from an empty system,
whatever the allocator answers, extents stay disjoint and every index stays exact, provided that no
`commit_range` is refused a frame after having been granted one in the same call.

The proviso is needed. `commit_range` returns through `?` in the middle of its loop and skips the
`rebuild` at the end (`commit_refused_midway_breaks_extents`); the next commit of the range then sees
an unowned page and pushes a second extent over it.
-/
import Akarin.Memory.VmoBytes

namespace Akarin.Memory

open List VmoHeap VmoExtent Vmo
open Lib (Action runOps Meets)

/-! ## What each operation does to the heap -/

namespace Vmo

variable {vmo : Vmo} {heap : VmoHeap}

/-- Only the VMO's own inner state may differ, and it is sound if it was. -/
structure Keeps (vmo : Vmo) (heap heap' : VmoHeap) : Prop extends heap.Touches heap' vmo.id where
  sound : (vmo.childKind = some .privateCow → vmo.backing = .paged) →
    (heap.inner vmo.id).Sound vmo → (heap'.inner vmo.id).Sound vmo

lemma Keeps.refl (vmo : Vmo) (heap : VmoHeap) : vmo.Keeps heap heap := ⟨.refl _ _, fun _ h => h⟩

lemma Keeps.setInner {inner : VmoInner} (h : (heap.inner vmo.id).Sound vmo → inner.Sound vmo) :
    vmo.Keeps heap (heap.setInner vmo.id inner) where
  toTouches := .setInner _ _ _
  sound _ hs := by
    rw [setInner_inner_self]
    exact h hs

section

variable (vmo : Vmo) (offset : Nat)

/-- `track_frame` refuses, or pushes an extent that overlaps none. -/
lemma trackFrame_cases (frame : PhysRun) (purpose : VmoPagePurpose) (committed : Bool) (heap : VmoHeap) :
    vmo.trackFrame offset frame purpose committed heap = (false, heap) ∨
      (vmo.isChild = false ∧ offset % vmo.pageSize = 0 ∧ frame.unitPageSize = vmo.pageSize ∧
        offset < vmo.size heap ∧ offset + frame.lenBytes ≤ vmo.size heap ∧
        (∀ extent ∈ (heap.inner vmo.id).extents,
          ¬ (offset < extent.stop ∧ extent.offset < offset + frame.lenBytes)) ∧
        vmo.trackFrame offset frame purpose committed heap =
          (true, heap.setInner vmo.id ((heap.inner vmo.id).reindexed
            ((heap.inner vmo.id).extents ++ [⟨offset, frame, purpose, committed⟩])))) := by
  fun_cases trackFrame vmo offset frame purpose committed heap with
  | case1 | case2 | case3 | case4 | case5 => exact .inl rfl
  | case6 inner hchild halign stop hadd hsize hover =>
    obtain rfl := checkedAdd_eq_some hadd
    simp only [offsetIsPageAligned, Bool.or_eq_true, Bool.not_eq_true', Bool.and_eq_false_iff,
      bne_iff_ne, not_or, decide_eq_false_iff_not, not_not, beq_eq_false_iff_ne] at halign
    simp only [any_eq_true, Bool.and_eq_true, decide_eq_true_eq, not_exists, not_and]
      at hover
    refine .inr ⟨by simpa using hchild, halign.1.2, halign.2, halign.1.1, by omega, ?_, rfl⟩
    intro extent hextent hboth
    exact hover extent hextent hboth.1 hboth.2

lemma trackFrame_keeps (frame : PhysRun) (purpose : VmoPagePurpose) (committed : Bool) (heap : VmoHeap) :
    vmo.Keeps heap (vmo.trackFrame offset frame purpose committed heap).2 := by
  rcases trackFrame_cases vmo offset frame purpose committed heap with
    heq | ⟨-, halign, hunit, -, -, hclear, heq⟩
  · rw [heq]
    exact .refl _ _
  · rw [heq]
    refine .setInner fun h => h.push ?_ ?_
    · intro other hother o hin
      rw [contains_iff, contains_iff] at hin
      have hnew : offset ≤ o ∧ o < offset + frame.lenBytes := hin.2
      exact hclear other hother ⟨by omega, by omega⟩
    · intro _
      refine ⟨Nat.dvd_of_mod_eq_zero halign, ?_⟩
      rw [PhysRun.lenBytes, hunit]
      exact Nat.dvd_mul_left _ _

lemma untrackFrame_cases (heap : VmoHeap) : vmo.untrackFrame offset heap = (none, heap) ∨
      ∃ position removed, (heap.inner vmo.id).extents[position]? = some removed ∧
        removed.offset = offset ∧ vmo.untrackFrame offset heap =
          (some ⟨removed.frame.physAddr, removed.purpose, removed.committed⟩,
            heap.setInner vmo.id ((heap.inner vmo.id).reindexed
              ((heap.inner vmo.id).extents.eraseIdx position))) := by
  fun_cases untrackFrame vmo offset heap with
  | case1 | case2 | case3 | case4 | case5 => exact .inl rfl
  | case6 inner _ _ _ position hfind removed hget =>
    obtain ⟨hlt, hat, -⟩ := findIdx?_eq_some_iff_getElem.1 hfind
    rw [getElem?_eq_getElem hlt] at hget
    cases hget
    exact .inr ⟨position, _, getElem?_eq_getElem hlt, by simpa using hat, rfl⟩

lemma untrackFrame_keeps (heap : VmoHeap) : vmo.Keeps heap (vmo.untrackFrame offset heap).2 := by
  rcases untrackFrame_cases vmo offset heap with heq | ⟨_, _, -, -, heq⟩
  · rw [heq]
    exact .refl _ _
  · rw [heq]
    exact .setInner fun h => h.sublist (eraseIdx_sublist _ _)

end

lemma setSize_cases (vmo : Vmo) (newSize : Nat) (heap : VmoHeap) :
    vmo.setSize newSize heap = (false, heap) ∨
      ∃ inner, (inner = heap.inner vmo.id ∨ inner = (heap.inner vmo.id).reindexed
          ((heap.inner vmo.id).extents.filter (·.offset < newSize))) ∧
        vmo.setSize newSize heap = (true, heap.setInner vmo.id
          { inner with size := newSize, streamSize := min inner.streamSize newSize }) := by
  fun_cases setSize vmo newSize heap with
  | case1 | case2 | case3 => exact .inl rfl
  | case4 inner _ _ _ kept =>
    refine .inr ⟨kept, ?_, rfl⟩
    unfold kept
    split
    · exact .inr rfl
    · exact .inl rfl

lemma setSize_keeps (vmo : Vmo) (newSize : Nat) (heap : VmoHeap) :
    vmo.Keeps heap (vmo.setSize newSize heap).2 := by
  rcases setSize_cases vmo newSize heap with heq | ⟨inner, hinner, heq⟩
  · rw [heq]
    exact .refl _ _
  · rw [heq]
    refine .setInner fun h => ?_
    have hsound : inner.Sound vmo := by
      rcases hinner with rfl | rfl
      · exact h
      · exact h.sublist filter_sublist
    exact hsound.of_placements rfl rfl

variable {offset len : Nat}

/-- What `check_range` lets through. -/
structure Checked (heap : VmoHeap) (vmo : Vmo) (offset len : Nat) : Prop where
  root : vmo.isChild = false
  paged : vmo.backing = .paged
  nonempty : len ≠ 0
  aligned : offset % vmo.pageSize = 0
  whole : len % vmo.pageSize = 0
  fits : offset + len ≤ vmo.size heap

lemma checkRange_eq_ok {stop : Nat} (h : vmo.checkRange heap offset len = .ok stop) :
    stop = offset + len ∧ vmo.Checked heap offset len := by
  revert h
  fun_cases checkRange heap vmo offset len with
  | case4 hargs stop' hadd =>
    rintro ⟨⟩
    have hstop := checkedAdd_eq_some hadd
    simp only [Bool.or_eq_true, not_or, bne_iff_ne, beq_iff_eq, not_not, Bool.not_eq_true] at hargs
    exact ⟨hstop, hargs.1.1.1.1, hargs.1.1.1.2, hargs.1.1.2, hargs.1.2, hargs.2, by omega⟩
  | _ => exact nofun

/-- The extents a `decommit_range` retains. -/
def retained (offset stop : Nat) (extents : List VmoExtent) : List VmoExtent :=
  extents.filter fun extent =>
    outsideRange offset stop extent || extent.offset < offset || stop < extent.stop

section

variable (vmo : Vmo) (offset len : Nat)

/-- `decommit_range` refuses, or drops the extents in the range, none of which it cuts. -/
lemma decommitRange_cases (heap : VmoHeap) : (∃ e, vmo.decommitRange offset len heap = (.error e, heap)) ∨
      ∃ inner', vmo.decommitRange offset len heap = (.ok len, heap.setInner vmo.id inner') ∧
        vmo.Checked heap offset len ∧ (∀ extent ∈ (heap.inner vmo.id).extents,
          outsideRange offset (offset + len) extent = true ∨
            offset ≤ extent.offset ∧ extent.stop ≤ offset + len) ∧
        inner'.size = (heap.inner vmo.id).size ∧
        inner'.extents = retained offset (offset + len) (heap.inner vmo.id).extents ∧
        ((heap.inner vmo.id).Sound vmo → inner'.Sound vmo) := by
  unfold decommitRange
  cases hcheck : vmo.checkRange heap offset len with
  | error e => exact .inl ⟨_, rfl⟩
  | ok stop =>
    obtain ⟨rfl, hchecked⟩ := checkRange_eq_ok hcheck
    dsimp only
    split
    · exact .inl ⟨_, rfl⟩
    rename_i hwhole
    have huncut : ∀ extent ∈ (heap.inner vmo.id).extents, outsideRange offset (offset + len) extent = true ∨
        offset ≤ extent.offset ∧ extent.stop ≤ offset + len := by
      intro extent hmem
      simp only [any_eq_true, Bool.and_eq_true, Bool.not_eq_true', Bool.or_eq_true, decide_eq_true_eq,
        not_exists, not_and, not_or, not_lt] at hwhole
      exact (Bool.eq_false_or_eq_true _).imp_right (hwhole extent hmem)
    split
    · exact .inr ⟨_, rfl, hchecked, huncut, rfl, rfl, fun h => h.sublist filter_sublist⟩
    · rename_i hlen
      refine .inr ⟨_, rfl, hchecked, huncut, rfl, rfl, fun h => ?_⟩
      rw [filter_sublist.eq_of_length (not_not.1 hlen)]
      exact h

lemma decommitRange_keeps (heap : VmoHeap) : vmo.Keeps heap (vmo.decommitRange offset len heap).2 := by
  rcases decommitRange_cases vmo offset len heap with ⟨_, heq⟩ | ⟨_, heq, -, -, -, -, hsound⟩
  · rw [heq]
    exact .refl _ _
  · rw [heq]
    exact .setInner hsound

/-! ## `commit_range` -/

/-- The pages a commit walks over. -/
def pagesOf : List Nat :=
  List.range' offset (len / vmo.pageSize) vmo.pageSize

/-- The allocator refuses the first request of the commit, or none of them: it does not run dry
between two pages of the range. -/
def CommitSupplied (heap : VmoHeap) : Prop :=
  heap.nextFrame = none ∨ ∀ j, j < ((heap.inner vmo.id).missing (vmo.pagesOf offset len)).length →
      (heap.allocator.answers (heap.allocator.calls + j)).isSome = true

/-- What `commit_range` leaves behind: refused outright; or the loop's effect, with the index
rebuilt exactly when the loop came to its end and pushed something. -/
lemma commitRange_cases (purpose : VmoPagePurpose) (heap : VmoHeap) :
    (∃ e, vmo.commitRange offset len purpose heap = (.error e, heap)) ∨ ∃ frameCount set pushed result,
        vmo.Checked heap offset len ∧ frameCount ≠ 0 ∧
        frameCount * heap.allocator.unitPageSize = vmo.pageSize ∧
        CommitLoopResult vmo frameCount (vmo.pagesOf offset len) false heap result set pushed ∧
        ((∃ e, result.1 = .error e ∧ vmo.commitRange offset len purpose heap = (.error e, result.2)) ∨
          (result.1 = .ok (!pushed.isEmpty) ∧ vmo.commitRange offset len purpose heap =
              (.ok len, if pushed.isEmpty then result.2 else vmo.rebuildIndex result.2))) := by
  unfold commitRange
  cases hcheck : vmo.checkRange heap offset len with
  | error e => exact .inl ⟨_, rfl⟩
  | ok stop =>
    dsimp only
    split
    · exact .inl ⟨_, rfl⟩
    · rename_i hcount
      simp only [Bool.or_eq_true, beq_iff_eq, bne_iff_ne, not_or, not_not] at hcount
      obtain ⟨set, pushed, hres⟩ := commitLoop_result vmo
        (vmo.pageSize / heap.allocator.unitPageSize) purpose (vmo.pagesOf offset len) false heap
      refine .inr ⟨_, set, pushed, _, (checkRange_eq_ok hcheck).2, hcount.1, hcount.2, hres, ?_⟩
      have hreturned := hres.returned
      unfold pagesOf at hreturned ⊢
      rcases hloop : vmo.commitLoop (vmo.pageSize / heap.allocator.unitPageSize) purpose
        (List.range' offset (len / vmo.pageSize) vmo.pageSize) false heap with ⟨e | d, heap'⟩
      · refine .inl ⟨e, rfl, ?_⟩
        simp only [Action.andThen, hloop]
      · rw [hloop] at hreturned
        obtain ⟨rfl, -⟩ := hreturned d rfl
        refine .inr ⟨rfl, ?_⟩
        simp only [Action.andThen, hloop]
        cases pushed.isEmpty <;> rfl

lemma commitRange_touches (purpose : VmoPagePurpose) (heap : VmoHeap) :
    heap.Touches (vmo.commitRange offset len purpose heap).2 vmo.id := by
  rcases commitRange_cases vmo offset len purpose heap with
    ⟨e, heq⟩ | ⟨_, _, _, _, -, -, -, hres, ⟨e, -, heq⟩ | ⟨-, heq⟩⟩ <;> rw [heq]
  · exact .refl _ _
  · exact hres.toTouches
  · dsimp only
    split
    · exact hres.toTouches
    · exact hres.toTouches.trans (.setInner _ _ _)

end

lemma pagesOf_dvd (halign : offset % vmo.pageSize = 0) :
    ∀ page ∈ vmo.pagesOf offset len, vmo.pageSize ∣ page := by
  intro page hpage
  obtain ⟨i, -, rfl⟩ := mem_range'.1 hpage
  exact Nat.dvd_add (Nat.dvd_of_mod_eq_zero halign) (Nat.dvd_mul_right _ _)

lemma pagesOf_nodup (hpos : 0 < vmo.pageSize) : (vmo.pagesOf offset len).Nodup :=
  @List.nodup_range' offset (len / vmo.pageSize) vmo.pageSize hpos

lemma commitRange_sound (offset len : Nat) (purpose : VmoPagePurpose)
    (h : (heap.inner vmo.id).Sound vmo) (hsupplied : vmo.CommitSupplied offset len heap) :
    ((vmo.commitRange offset len purpose heap).2.inner vmo.id).Sound vmo := by
  rcases commitRange_cases vmo offset len purpose heap with
    ⟨e, heq⟩ | ⟨frameCount, set, pushed, result, hcheck, hcount, hunit, hres, hend⟩
  · rw [heq]
    exact h
  -- the loop on its own: when it pushed nothing only `committed` bits changed
  have hloop : pushed = [] → (result.2.inner vmo.id).Sound vmo := by
    intro hnil
    rw [hres.own, hnil, append_nil]
    exact h.of_placements placement_markAll rfl
  rcases hend with ⟨e, hfail, heq⟩ | ⟨hok, heq⟩
  · rw [heq]
    refine hloop ?_
    obtain ⟨hshort, hwhy⟩ := hres.failed e hfail fun _ _ => h.index_lt
    by_contra hne
    have hpos := length_pos_of_ne_nil hne
    rcases hwhy with hnone | hpow
    · rcases hsupplied with hfirst | hall
      · have := hres.granted 0 hpos
        rw [add_zero, show heap.allocator.answers heap.allocator.calls = none from hfirst] at this
        cases this
      · have := hall pushed.length hshort
        rw [hnone] at this
        cases this
    · rw [hres.isPowerOfTwo hne] at hpow
      cases hpow
  · rw [heq]
    by_cases hempty : pushed.isEmpty = true
    · rw [if_pos hempty]
      exact hloop (isEmpty_iff.1 hempty)
    · rw [if_neg hempty, rebuildIndex, setInner_inner_self, hres.own]
      have hpos : 0 < vmo.pageSize := by
        rw [← hunit]
        exact Nat.mul_pos (Nat.pos_of_ne_zero hcount) heap.allocator.unitPageSize_pos
      refine h.pushPages hcheck.paged (pagesOf_dvd hcheck.aligned) (pagesOf_nodup hpos) placement_markAll
        (hres.returned _ hok).2.2.1 ?_
      intro extent hextent
      obtain ⟨hnumber, hsize⟩ := hres.frames extent hextent
      rw [PhysRun.lenBytes, hnumber, hsize, hunit]

/-! ## `materialize_private_cow_page` -/

/-- The page `materialize_private_cow_page` is about to create: the child's own page at `pageOffset`
is unowned, the parent's window starts at `sourceOffset`, and the allocator answers `phys`. -/
structure Materializing (heap : VmoHeap) (vmo parent : Vmo)
    (pageOffset sourceOffset frameCount phys : Nat) : Prop where
  shape : ∃ backing parentOffset, vmo = .child vmo.id backing .privateCow parentOffset parent ∧
    sourceOffset = parentOffset + pageOffset
  aligned : vmo.offsetIsPageAligned heap pageOffset = true
  unowned : (heap.inner vmo.id).index.ownerAt pageOffset = none
  granted : heap.nextFrame = some phys
  frameCount_mul : frameCount * heap.allocator.unitPageSize = vmo.pageSize

/-- The extent that wraps the new frame. -/
def privateExtent (heap : VmoHeap) (parent : Vmo) (pageOffset sourceOffset frameCount phys : Nat)
    (fallbackPurpose : VmoPagePurpose) : VmoExtent :=
  ⟨pageOffset, ⟨phys, frameCount, heap.allocator.unitPageSize⟩,
    match parent.pageAt heap sourceOffset with
    | some page => page.purpose
    | none => fallbackPurpose, true⟩

/-- The four ways through `materialize_private_cow_page`: nothing happens, the allocator refuses,
the frame count is no power of two, or the page is created. -/
lemma materialize_cases (vmo : Vmo) (offset : Nat) (fallbackPurpose : VmoPagePurpose) (heap : VmoHeap) :
    (vmo.materializePrivateCowPage offset fallbackPurpose heap).2 = heap ∨
      (vmo.materializePrivateCowPage offset fallbackPurpose heap).2 = heap.tick ∨
      ∃ parent sourceOffset frameCount phys,
        Materializing heap vmo parent (offset / vmo.pageSize * vmo.pageSize) sourceOffset frameCount
          phys ∧ ((vmo.materializePrivateCowPage offset fallbackPurpose heap).2 =
            heap.tick.writePhys phys (cowSource heap.tick parent sourceOffset) ∨
          (vmo.materializePrivateCowPage offset fallbackPurpose heap).2 =
            (heap.tick.writePhys phys (cowSource heap.tick parent sourceOffset)).setInner vmo.id
              ((heap.inner vmo.id).reindexed ((heap.inner vmo.id).extents ++
                [privateExtent heap.tick parent (offset / vmo.pageSize * vmo.pageSize)
                  sourceOffset frameCount phys fallbackPurpose]))) := by
  fun_cases materializePrivateCowPage vmo offset fallbackPurpose heap with
  | case1 | case2 | case3 | case4 | case8 => exact .inl rfl
  | case5 => exact .inl (Action.orFail_state _ _ _)
  | case6 => exact .inr (.inl rfl)
  | case7 =>
    rename_i id backing parentOffset parent sourceOffset phys hphys _ frameCount _ halign hsource hcount howner
    refine .inr (.inr ⟨parent, sourceOffset, frameCount, phys, ⟨⟨backing, parentOffset, rfl,
      checkedAdd_eq_some hsource⟩, by simpa using halign, howner, hphys, ?_⟩, ?_⟩)
    · simp only [Bool.or_eq_true, bne_iff_ne, not_or, not_not] at hcount
      exact hcount.2
    · unfold installPrivatePage
      split
      · exact .inr (Action.orFail_state _ _ _)
      · exact .inl rfl

lemma Materializing.childKind {parent : Vmo} {pageOffset sourceOffset frameCount phys : Nat}
    (h : Materializing heap vmo parent pageOffset sourceOffset frameCount phys) :
    vmo.childKind = some .privateCow := by
  obtain ⟨backing, parentOffset, hvmo, -⟩ := h.shape
  rw [hvmo]
  rfl

lemma materialize_keeps (vmo : Vmo) (offset : Nat) (fallbackPurpose : VmoPagePurpose)
    (heap : VmoHeap) : vmo.Keeps heap (vmo.materializePrivateCowPage offset fallbackPurpose heap).2 := by
  rcases materialize_cases vmo offset fallbackPurpose heap with
    heq | heq | ⟨parent, sourceOffset, frameCount, phys, hm, heq | heq⟩
  · rw [heq]
    exact .refl _ _
  · rw [heq]
    exact ⟨⟨rfl, fun _ _ => rfl⟩, fun _ h => h⟩
  · rw [heq]
    exact ⟨⟨rfl, fun _ _ => rfl⟩, fun _ h => h⟩
  · rw [heq]
    refine ⟨⟨rfl, fun i hi => setInner_inner_of_ne _ _ hi⟩, fun hbacking h => ?_⟩
    rw [setInner_inner_self]
    have hdvd : vmo.pageSize ∣ offset / vmo.pageSize * vmo.pageSize := Nat.dvd_mul_left _ _
    have hlen : (⟨phys, frameCount, heap.tick.allocator.unitPageSize⟩ : PhysRun).lenBytes
        = vmo.pageSize := hm.frameCount_mul
    refine h.push ?_ fun _ => ⟨hdvd, hlen ▸ dvd_refl _⟩
    intro other hother o hin
    have hspan : offset / vmo.pageSize * vmo.pageSize ≤ o ∧
        o < offset / vmo.pageSize * vmo.pageSize + vmo.pageSize := by
      have hnew := contains_iff.1 hin.2
      rw [stop, privateExtent, hlen] at hnew
      exact hnew
    have hclear := h.page_clear (hbacking hm.childKind) hdvd hm.unowned other hother o hspan.1
      hspan.2
    rw [hin.1] at hclear
    cases hclear

end Vmo

/-! ## The system -/

/-- A heap and every VMO built so far. -/
structure VmoSystem where
  heap : VmoHeap
  vmos : List Vmo

namespace VmoSystem

/-- The operations; `target` is the position of a VMO in `vmos`. -/
inductive Op where
  | new (size pageSize : Nat) (flags : VmFlags)
  | newPhysical (size pageSize : Nat) (flags : VmFlags) (base : Nat)
  | createChild (target offset size : Nat)
  | createPrivateChild (target offset size : Nat)
  | trackFrame (target offset : Nat) (frame : PhysRun) (purpose : VmoPagePurpose) (committed : Bool)
  | untrackFrame (target offset : Nat)
  | setSize (target newSize : Nat)
  | commitRange (target offset len : Nat) (purpose : VmoPagePurpose)
  | decommitRange (target offset len : Nat)
  | materialize (target offset : Nat) (fallbackPurpose : VmoPagePurpose)
  | write (target offset : Nat) (bytes : List Byte)

/-- Run an operation of one VMO. -/
def onVmo (sys : VmoSystem) (target : Nat) (f : Vmo → VmoHeap → VmoHeap) : VmoSystem :=
  match sys.vmos[target]? with
  | none => sys
  | some vmo => { sys with heap := f vmo sys.heap }

/-- Take in a newly built VMO. -/
def adopt (sys : VmoSystem) : Option (Vmo × VmoHeap) → VmoSystem
  | none => sys
  | some (vmo, heap) => ⟨heap, sys.vmos ++ [vmo]⟩

/-- The system after an operation, successful or not. -/
def step (sys : VmoSystem) : Op → VmoSystem
  | .new size pageSize flags => sys.adopt (some (Vmo.new sys.heap size pageSize flags))
  | .newPhysical size pageSize flags base =>
    match Vmo.newPhysical size pageSize flags base sys.heap with
    | (.ok vmo, heap) => sys.adopt (some (vmo, heap))
    | (.error _, heap) => { sys with heap := heap }
  | .createChild target offset size =>
    sys.adopt ((sys.vmos[target]?).bind fun vmo => vmo.createChild sys.heap offset size)
  | .createPrivateChild target offset size =>
    sys.adopt ((sys.vmos[target]?).bind fun vmo => vmo.createPrivateChild sys.heap offset size)
  | .trackFrame target offset frame purpose committed =>
    sys.onVmo target fun vmo heap => (vmo.trackFrame offset frame purpose committed heap).2
  | .untrackFrame target offset =>
    sys.onVmo target fun vmo heap => (vmo.untrackFrame offset heap).2
  | .setSize target newSize => sys.onVmo target fun vmo heap => (vmo.setSize newSize heap).2
  | .commitRange target offset len purpose =>
    sys.onVmo target fun vmo heap => (vmo.commitRange offset len purpose heap).2
  | .decommitRange target offset len =>
    sys.onVmo target fun vmo heap => (vmo.decommitRange offset len heap).2
  | .materialize target offset fallbackPurpose =>
    sys.onVmo target fun vmo heap =>
      (vmo.materializePrivateCowPage offset fallbackPurpose heap).2
  | .write target offset bytes => sys.onVmo target fun vmo heap => (vmo.write offset bytes heap).2

/-- No VMO has been built yet. -/
def empty (allocator : FrameAllocator) (memory : Nat → Byte) : VmoSystem :=
  ⟨⟨0, fun _ => .fresh 0 0 0, allocator, memory⟩, []⟩

/-- Commits are not cut off half way; nothing is asked of the other operations. -/
def Supplied (sys : VmoSystem) : Op → Prop
  | .commitRange target offset len _ =>
    ∀ vmo, sys.vmos[target]? = some vmo → vmo.CommitSupplied offset len sys.heap
  | _ => True

/-- An id stands for one VMO, and a VMO is built after the one it is derived from. -/
structure Identified (sys : VmoSystem) : Prop where
  ids_lt : ∀ vmo ∈ sys.vmos, vmo.id < sys.heap.nextId
  ids_distinct : sys.vmos.Pairwise fun one other => one.id ≠ other.id
  parents : ∀ vmo ∈ sys.vmos, ∀ parent ∈ vmo.parent, parent ∈ sys.vmos

/-- The invariant of the system. -/
structure Sound (sys : VmoSystem) : Prop extends Identified sys where
  private_paged : ∀ vmo ∈ sys.vmos, vmo.childKind = some .privateCow → vmo.backing = .paged
  inner : ∀ vmo ∈ sys.vmos, (sys.heap.inner vmo.id).Sound vmo

variable {sys : VmoSystem}

lemma Identified.id_inj (h : sys.Identified) {one other : Vmo} (hone : one ∈ sys.vmos)
    (hother : other ∈ sys.vmos) (hid : one.id = other.id) : one = other := by
  by_contra hne
  have : Std.Symm fun one other : Vmo => one.id ≠ other.id := ⟨fun _ _ => Ne.symm⟩
  exact h.ids_distinct.forall hone hother hne hid

/-- A VMO built under the next id from those there are. -/
lemma Identified.adopt (h : sys.Identified) {vmo : Vmo} {inner : VmoInner} (hid : vmo.id = sys.heap.nextId)
    (hparent : ∀ parent ∈ vmo.parent, parent ∈ sys.vmos) :
    (sys.adopt (some (vmo, { sys.heap.setInner sys.heap.nextId inner with
      nextId := sys.heap.nextId + 1 }))).Identified := by
  refine ⟨?_, ?_, ?_⟩
  · intro other hother
    rcases mem_append.1 hother with hin | hin
    · exact Nat.lt_succ_of_lt (h.ids_lt other hin)
    · rw [mem_singleton.1 hin, hid]
      exact Nat.lt_succ_self _
  · refine pairwise_append.2 ⟨h.ids_distinct, pairwise_singleton _ _, ?_⟩
    intro other hother new hnew
    rw [mem_singleton.1 hnew, hid]
    exact ne_of_lt (h.ids_lt other hother)
  · intro other hother parent hmem
    rcases mem_append.1 hother with hin | hin
    · exact mem_append_left _ (h.parents other hin parent hmem)
    · exact mem_append_left _ (hparent parent (mem_singleton.1 hin ▸ hmem))

/-- The VMO that is built is sound too. -/
lemma Sound.adopt (h : sys.Sound) {vmo : Vmo} {inner : VmoInner} (hid : vmo.id = sys.heap.nextId)
    (hparent : ∀ parent ∈ vmo.parent, parent ∈ sys.vmos)
    (hpaged : vmo.childKind = some .privateCow → vmo.backing = .paged) (hsound : inner.Sound vmo) :
    (sys.adopt (some (vmo, { sys.heap.setInner sys.heap.nextId inner with
      nextId := sys.heap.nextId + 1 }))).Sound := by
  refine ⟨h.toIdentified.adopt hid hparent, ?_, ?_⟩
  · intro other hother
    rcases mem_append.1 hother with hin | hin
    · exact h.private_paged other hin
    · rw [mem_singleton.1 hin]
      exact hpaged
  · intro other hother
    rcases mem_append.1 hother with hin | hin
    · have : (sys.heap.setInner sys.heap.nextId inner).inner other.id = sys.heap.inner other.id :=
        setInner_inner_of_ne _ _ (ne_of_lt (h.ids_lt other hin))
      exact this.symm ▸ h.inner other hin
    · rw [mem_singleton.1 hin, hid]
      have : (sys.heap.setInner sys.heap.nextId inner).inner sys.heap.nextId = inner :=
        setInner_inner_self _ _ _
      exact this.symm ▸ hsound

lemma deriveChild_eq_some {heap heap' : VmoHeap} {vmo new : Vmo} {kind : VmoChildKind}
    {backing : VmoBacking} {offset size : Nat}
    (h : vmo.deriveChild heap kind backing offset size = some (new, heap')) :
    new = .child heap.nextId backing kind offset vmo ∧ ∃ streamSize flags,
      heap' = { heap.setInner heap.nextId (.fresh size streamSize flags) with
        nextId := heap.nextId + 1 } := by
  revert h
  fun_cases deriveChild heap vmo kind backing offset size with
  | case1 | case2 | case3 => nofun
  | case4 =>
    rintro ⟨⟩
    exact ⟨rfl, _, _, rfl⟩

/-- What an operation can do to a system: nothing, a change to one VMO, or a VMO built under the
next id from those there are. The touched VMO stays sound if frames are `supplied`. -/
inductive Change (sys : VmoSystem) (supplied : Prop) : VmoSystem → Prop where
  | none : Change sys supplied sys
  | touch {vmo : Vmo} {heap : VmoHeap} (mem : vmo ∈ sys.vmos) (touches : sys.heap.Touches heap vmo.id)
      (sound : supplied → (vmo.childKind = some .privateCow → vmo.backing = .paged) →
        (sys.heap.inner vmo.id).Sound vmo → (heap.inner vmo.id).Sound vmo) :
    Change sys supplied { sys with heap := heap }
  | build {vmo : Vmo} {inner : VmoInner} (id : vmo.id = sys.heap.nextId)
      (parents : ∀ parent ∈ vmo.parent, parent ∈ sys.vmos)
      (paged : vmo.childKind = some .privateCow → vmo.backing = .paged) (sound : inner.Sound vmo) :
    Change sys supplied (sys.adopt (some (vmo,
      { sys.heap.setInner sys.heap.nextId inner with nextId := sys.heap.nextId + 1 })))

namespace Change

variable {supplied : Prop}

lemma onVmo (target : Nat) {f : Vmo → VmoHeap → VmoHeap}
    (h : ∀ vmo : Vmo, vmo.Keeps sys.heap (f vmo sys.heap)) : Change sys supplied (sys.onVmo target f) := by
  unfold VmoSystem.onVmo
  cases htarget : sys.vmos[target]? with
  | none => exact .none
  | some vmo => exact .touch (mem_of_getElem? htarget) (h vmo).toTouches fun _ => (h vmo).sound

variable {backing : VmoBacking}

lemma root {pageSize : Nat} {inner : VmoInner} (h : inner.Sound (.root sys.heap.nextId pageSize backing)) :
    Change sys supplied (sys.adopt (some (.root sys.heap.nextId pageSize backing,
      { sys.heap.setInner sys.heap.nextId inner with nextId := sys.heap.nextId + 1 }))) :=
  .build rfl nofun nofun h

lemma derived {vmo : Vmo} (hvmo : vmo ∈ sys.vmos) {kind : VmoChildKind} {offset size : Nat}
    (hpaged : kind = .privateCow → backing = .paged) :
    Change sys supplied (sys.adopt (vmo.deriveChild sys.heap kind backing offset size)) := by
  cases hchild : vmo.deriveChild sys.heap kind backing offset size with
  | none => exact .none
  | some res =>
    obtain ⟨new, heap'⟩ := res
    obtain ⟨rfl, streamSize, flags, rfl⟩ := deriveChild_eq_some hchild
    exact .build rfl (fun parent hparent => Option.some.inj hparent ▸ hvmo)
      (fun hk => hpaged (Option.some.inj hk)) (.fresh _ _ _ _)

lemma identified {sys' : VmoSystem} (hchange : Change sys supplied sys') (h : sys.Identified) :
    sys'.Identified := by
  cases hchange with
  | none => exact h
  | build id parents paged sound => exact h.adopt id parents
  | touch mem touches sound =>
    exact ⟨fun other hother => touches.nextId ▸ h.ids_lt other hother, h.ids_distinct, h.parents⟩

lemma sound {sys' : VmoSystem} (hchange : Change sys supplied sys') (hs : supplied) (h : sys.Sound) :
    sys'.Sound := by
  cases hchange with
  | none => exact h
  | build id parents paged sound => exact h.adopt id parents paged sound
  | @touch vmo heap mem touches sound =>
    have hchange : Change sys supplied { sys with heap := heap } := .touch mem touches sound
    refine ⟨hchange.identified h.toIdentified, h.private_paged, ?_⟩
    intro other hother
    by_cases hid : other.id = vmo.id
    · obtain rfl := h.id_inj hother mem hid
      exact sound hs (h.private_paged other mem) (h.inner other mem)
    · exact touches.others other.id hid ▸ h.inner other hother

end Change

lemma step_change (sys : VmoSystem) (op : Op) : Change sys (sys.Supplied op) (sys.step op) := by
  unfold step
  cases op with
  | new size pageSize flags => exact .root (.fresh _ _ _ _)
  | newPhysical size pageSize flags base =>
    simp only [newPhysical]
    by_cases hzero : pageSize = 0
    · simp only [if_pos hzero]
      exact .none
    · simp only [if_neg hzero]
      exact .root ⟨rfl, pairwise_singleton _ _, nofun⟩
  | createChild target offset size =>
    simp only [createChild]
    cases htarget : sys.vmos[target]? with
    | none => exact .none
    | some vmo => exact .derived (mem_of_getElem? htarget) nofun
  | createPrivateChild target offset size =>
    simp only [createPrivateChild]
    cases htarget : sys.vmos[target]? with
    | none => exact .none
    | some vmo =>
      rw [Option.bind_some]
      split
      · exact .none
      · exact .derived (mem_of_getElem? htarget) fun _ => rfl
  | trackFrame target offset frame purpose committed =>
    exact .onVmo target fun vmo => vmo.trackFrame_keeps _ _ _ _ _
  | untrackFrame target offset => exact .onVmo target fun vmo => vmo.untrackFrame_keeps _ _
  | setSize target newSize => exact .onVmo target fun vmo => vmo.setSize_keeps _ _
  | commitRange target offset len purpose =>
    simp only [onVmo]
    cases htarget : sys.vmos[target]? with
    | none => exact .none
    | some vmo =>
      refine .touch (mem_of_getElem? htarget) (commitRange_touches _ _ _ _ _) fun hs _ h => ?_
      exact commitRange_sound _ _ _ h (hs vmo htarget)
  | decommitRange target offset len => exact .onVmo target fun vmo => vmo.decommitRange_keeps _ _ _
  | materialize target offset fallbackPurpose =>
    exact .onVmo target fun vmo => vmo.materialize_keeps _ _ _
  | write target offset bytes =>
    refine .onVmo target fun vmo => ?_
    have hwithin := vmo.write_within offset bytes sys.heap
    exact ⟨⟨hwithin.nextId, fun i _ => by rw [hwithin.inner]⟩, fun _ h => hwithin.inner ▸ h⟩

/-- Whatever a run does, ids stay unique. -/
lemma run_identified (allocator : FrameAllocator) (memory : Nat → Byte) (ops : List Op) :
    (runOps step (empty allocator memory) ops).Identified :=
  Lib.run_invariant_all (fun sys op h => (sys.step_change op).identified h) ⟨nofun, List.Pairwise.nil, nofun⟩
    ops

lemma Sound.step (h : sys.Sound) (op : Op) (hop : sys.Supplied op) : (sys.step op).Sound :=
  (sys.step_change op).sound hop h

lemma empty_sound (allocator : FrameAllocator) (memory : Nat → Byte) : (empty allocator memory).Sound := by
  refine ⟨run_identified allocator memory [], ?_, ?_⟩ <;>
  · intro vmo hvmo
    cases hvmo

/-- In every run in which no `commit_range` is refused a frame after it was granted one, the
extents of every VMO are pairwise disjoint and its index is exact. -/
theorem run_extents_indexed (allocator : FrameAllocator) (memory : Nat → Byte) (ops : List Op)
    (hops : Meets step Supplied (empty allocator memory) ops) :
    ∀ vmo ∈ (runOps step (empty allocator memory) ops).vmos,
      ((runOps step (empty allocator memory) ops).heap.inner vmo.id).Disjoint ∧
      ((runOps step (empty allocator memory) ops).heap.inner vmo.id).IndexExact := by
  have hsound : (runOps step (empty allocator memory) ops).Sound :=
    Lib.run_invariant (fun _ op h hop => h.step op hop) (empty_sound allocator memory) hops
  intro vmo hvmo
  have h := hsound.inner vmo hvmo
  exact ⟨h.disjoint, h.indexed.exact h.disjoint⟩

/-- An allocator that always has another frame. -/
def plentifulAllocator : FrameAllocator :=
  ⟨0x1000, by decide, fun call => some (0x100000 + call * 0x1000), 0⟩

/-- A two-page VMO, committed and then partly decommitted. -/
def commitHistory : List Op :=
  [.new 0x2000 0x1000 0, .commitRange 0 0 0x2000 .anonymous, .decommitRange 0 0x1000 0x1000]

lemma commitHistory_supplied : Meets step Supplied (empty plentifulAllocator fun _ => 0) commitHistory :=
  ⟨trivial, fun _ _ => .inr fun _ _ => rfl, trivial, trivial⟩

theorem run_extents_indexed_commitHistory :
    Meets step Supplied (empty plentifulAllocator fun _ => 0) commitHistory ∧
      ∀ vmo ∈ (runOps step (empty plentifulAllocator fun _ => 0) commitHistory).vmos,
        ((runOps step (empty plentifulAllocator fun _ => 0) commitHistory).heap.inner vmo.id).Disjoint ∧
        ((runOps step (empty plentifulAllocator fun _ => 0) commitHistory).heap.inner vmo.id).IndexExact :=
  ⟨commitHistory_supplied, run_extents_indexed _ _ _ commitHistory_supplied⟩

/-- An allocator that refuses its second request only. -/
def flakyAllocator : FrameAllocator :=
  ⟨0x1000, by decide, fun call => if call = 1 then none else some (0x100000 + call * 0x1000), 0⟩

/-- A commit of two pages that gets one frame, and a second attempt. -/
def flakyHistory : List Op :=
  [.new 0x2000 0x1000 0, .commitRange 0 0 0x2000 .anonymous, .commitRange 0 0 0x2000 .anonymous]

/-- The refused commit has pushed an extent over page `0` that the index does not know, and the
second attempt pushes another one over the same page. -/
theorem commit_refused_midway_breaks_extents :
    (∃ vmo ∈ (runOps step (empty flakyAllocator fun _ => 0) (flakyHistory.take 2)).vmos,
      ¬ ((runOps step (empty flakyAllocator fun _ => 0) (flakyHistory.take 2)).heap.inner
        vmo.id).IndexExact) ∧ ∃ vmo ∈ (runOps step (empty flakyAllocator fun _ => 0) flakyHistory).vmos,
      ¬ ((runOps step (empty flakyAllocator fun _ => 0) flakyHistory).heap.inner vmo.id).Disjoint := by
  refine ⟨⟨.root 0 0x1000 .paged, by decide, fun hexact => ?_⟩,
    ⟨.root 0 0x1000 .paged, by decide, fun hdisjoint => ?_⟩⟩
  · have hstale := (hexact 0 0).2
      ⟨⟨0, ⟨0x100000, 1, 0x1000⟩, .anonymous, true⟩, by decide, by decide⟩
    have hnone : ((runOps step (empty flakyAllocator fun _ => 0) (flakyHistory.take 2)).heap.inner
        0).index.ownerAt 0 = none := by decide
    rw [show (root 0 0x1000 .paged).id = 0 from rfl, hnone] at hstale
    cases hstale
  · have hzero := @VmoInner.Disjoint.ne 0 0 _ hdisjoint 1
      ⟨0, ⟨0x100000, 1, 0x1000⟩, .anonymous, true⟩ ⟨0, ⟨0x102000, 1, 0x1000⟩, .anonymous, true⟩
      (by decide) (by decide) (by decide) (by decide)
    cases hzero

end VmoSystem

end Akarin.Memory
