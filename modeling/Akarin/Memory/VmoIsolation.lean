/-
# Akarin.Memory.VmoIsolation -- a private child next to its parent

A private child starts with no page of its own. `CowState` runs it together with an ideal array,
the `view`: materialising a page copies into the view what the parent shows there at that moment,
a successful write through the child overwrites the view, and a write through the parent leaves it
alone. `cow_run_isolated` says that the child's materialised pages always read as the view, and
that writes through the child are never seen through the parent.

The first half needs a proviso. `write` on a private child checks a page only when its cursor gets
there, so a write that runs from a materialised page into one that is not fails after having
changed bytes (`torn_write_changes_bytes`).
-/
import Akarin.Memory.VmoRuns

namespace Akarin.Memory

open List Option Vmo VmoExtent VmoHeap
open Lib (Shows Stored CellInjective overwrite runOps Meets)

/-! ## Pages -/

lemma add_le_of_dvd_of_lt {d a b : Nat} (ha : d ∣ a) (hb : d ∣ b) (hlt : a < b) : a + d ≤ b := by
  have := Nat.le_of_dvd (Nat.sub_pos_of_lt hlt) (Nat.dvd_sub hb ha)
  omega

lemma pageBase_eq {pageSize page offset : Nat} (hpage : pageSize ∣ page) (hlo : page ≤ offset)
    (hhi : offset < page + pageSize) : offset / pageSize * pageSize = page := by
  obtain ⟨k, rfl⟩ := hpage
  rw [mul_comm pageSize k] at hlo hhi ⊢
  have hdiv : offset / pageSize = k := by
    refine Nat.div_eq_of_lt_le hlo ?_
    rw [Nat.succ_mul]
    exact hhi
  rw [hdiv]

namespace VmoInner

variable {vmo : Vmo}

/-- A page is owned as a whole: the index answers for its first offset exactly when an extent backs
any given offset of it. -/
lemma Sound.ownsPage_iff {heap : VmoHeap} {id : Nat} (h : (heap.inner id).Sound vmo)
    (hpaged : vmo.backing = .paged) (hpos : 0 < vmo.pageSize) (offset : Nat) :
    ownsPage heap id (offset / vmo.pageSize * vmo.pageSize) = true ↔
      ∃ extent, (heap.inner id).extentAt offset = some extent := by
  have hle := Nat.div_mul_le_self offset vmo.pageSize
  have hlt := Nat.lt_div_mul_add hpos (a := offset)
  have hdvd : vmo.pageSize ∣ offset / vmo.pageSize * vmo.pageSize := Nat.dvd_mul_left _ _
  constructor
  · intro howns
    obtain ⟨i, howner⟩ := isSome_iff_exists.1 howns
    obtain ⟨extent, hi, hin⟩ := (h.indexed.exact h.disjoint _ i).1 howner
    have hmem := mem_of_getElem? hi
    obtain ⟨⟨a, ha⟩, ⟨b, hb⟩⟩ := h.grained hpaged extent hmem
    refine ⟨extent, h.extentAt_eq_some.2 ⟨hmem, contains_iff.2 ?_⟩⟩
    have hspan := contains_iff.1 hin
    refine ⟨le_trans hspan.1 hle, ?_⟩
    -- both the page and the end of the extent are multiples of the page size
    have hstop : extent.stop = (a + b) * vmo.pageSize := by
      rw [stop, ha, hb, ← mul_add, mul_comm]
    rw [hstop] at hspan ⊢
    have hidx : offset / vmo.pageSize + 1 ≤ a + b := Nat.lt_of_mul_lt_mul_right hspan.2
    have hmul := Nat.mul_le_mul_right vmo.pageSize hidx
    rw [Nat.succ_mul] at hmul
    omega
  · rintro ⟨extent, hat⟩
    obtain ⟨hmem, hin⟩ := h.extentAt_eq_some.1 hat
    by_contra hnot
    have hnone : (heap.inner id).index.ownerAt (offset / vmo.pageSize * vmo.pageSize) = none := by
      rw [ownsPage, Bool.not_eq_true, isSome_eq_false_iff] at hnot
      exact isNone_iff_eq_none.1 hnot
    have hclear := h.page_clear hpaged hdvd hnone extent hmem offset hle hlt
    rw [hin] at hclear
    cases hclear

lemma Sound.cellAt_eq_some {inner : VmoInner} (h : inner.Sound vmo) {offset addr : Nat} :
    inner.cellAt offset = some addr ↔ ∃ extent ∈ inner.extents, extent.contains offset = true ∧
      addr = extent.frame.physAddr + (offset - extent.offset) := by
  constructor
  · intro hcell
    obtain ⟨extent, hat, rfl⟩ := map_eq_some_iff.1 hcell
    obtain ⟨hmem, hin⟩ := h.extentAt_eq_some.1 hat
    exact ⟨extent, hmem, hin, rfl⟩
  · rintro ⟨extent, hmem, hin, rfl⟩
    rw [cellAt, h.extentAt_eq_some.2 ⟨hmem, hin⟩]
    rfl

end VmoInner

/-! ## The pair under arbitrary operations -/

/-- What the parent shows at one byte of a page: the byte of the page `page_at` answers, zero when
there is none. -/
def shownByte (heap : VmoHeap) (parent : Vmo) (pageOffset i : Nat) : Byte :=
  match parent.pageAt heap pageOffset with
  | some page => heap.memory (page.phys + i)
  | none => 0

/-- The heap, and the array the child's materialised pages should read as. -/
structure CowState where
  heap : VmoHeap
  view : Nat → Byte

/-- Calls on a parent and its private child. -/
inductive CowOp where
  | parentWrite (offset : Nat) (bytes : List Byte)
  | childWrite (offset : Nat) (bytes : List Byte)
  | materialize (offset : Nat) (fallbackPurpose : VmoPagePurpose)

/-- One operation on the parent or on its private child, whose window starts at `parentOffset`. -/
def cowStep (parent child : Vmo) (parentOffset : Nat) (s : CowState) : CowOp → CowState
  | .parentWrite offset bytes => { s with heap := (parent.write offset bytes s.heap).2 }
  | .childWrite offset bytes =>
    match child.write offset bytes s.heap with
    | (true, heap) => ⟨heap, overwrite s.view offset bytes⟩
    | (false, heap) => ⟨heap, s.view⟩
  | .materialize offset fallbackPurpose =>
    let page := offset / child.pageSize * child.pageSize
    let heap := (child.materializePrivateCowPage offset fallbackPurpose s.heap).2
    -- a page is materialised once; asking again changes nothing
    if !ownsPage s.heap child.id page && ownsPage heap child.id page then
      ⟨heap, fun o => if page ≤ o ∧ o < page + child.pageSize then
        shownByte s.heap parent (parentOffset + page) (o - page) else s.view o⟩
    else ⟨heap, s.view⟩

/-- The frame the allocator hands out next overlaps no frame of a live extent. -/
def FreshFrame (heap : VmoHeap) (len : Nat) : Prop :=
  ∀ phys, heap.nextFrame = some phys → ∀ id < heap.nextId, ∀ extent ∈ (heap.inner id).extents,
    ∀ addr, phys ≤ addr → addr < phys + len → ¬ extent.frame.Covers addr

/-- Frames are fresh when they are asked for. -/
def CowFresh (child : Vmo) (s : CowState) : CowOp → Prop
  | .materialize _ _ => FreshFrame s.heap child.pageSize
  | _ => True

/-- The write lies inside the VMO, starts in a page the child owns and runs into one it does not. -/
def TornWrite (heap : VmoHeap) (child : Vmo) (offset len : Nat) : Prop :=
  offset + len ≤ child.size heap ∧
    ownsPage heap child.id (offset / child.pageSize * child.pageSize) = true ∧
    ∃ i < len, ownsPage heap child.id ((offset + i) / child.pageSize * child.pageSize) = false

/-- No write through the child is torn. -/
def CowWhole (child : Vmo) (s : CowState) : CowOp → Prop
  | .childWrite offset bytes => ¬ TornWrite s.heap child offset bytes.length
  | _ => True

/-! ## Separation -/

/-- The value `create_private_child` builds. -/
abbrev Vmo.privateOf (parent : Vmo) (id parentOffset : Nat) : Vmo :=
  .child id .paged .privateCow parentOffset parent

/-- The child's frames are committed, its own, and place its offsets without overlap. -/
structure Separated (parent : Vmo) (id parentOffset : Nat) (heap : VmoHeap) : Prop where
  pageSize_pos : 0 < parent.pageSize
  sound : (heap.inner id).Sound (parent.privateOf id parentOffset)
  size_dvd : parent.pageSize ∣ (heap.inner id).size
  size_lt : (heap.inner id).size < usizeBound
  fits : ∀ extent ∈ (heap.inner id).extents, extent.stop ≤ (heap.inner id).size
  committed : ∀ extent ∈ (heap.inner id).extents, extent.committed = true
  injective : CellInjective (heap.inner id).cellAt
  id_lt : id < heap.nextId
  parent_lt : ∀ i ∈ parent.ids, i < id
  apart : ∀ addr, (heap.inner id).Backs addr → ¬ heap.Backs parent.ids addr

namespace Separated

variable {parent : Vmo} {id parentOffset : Nat} {heap heap' : VmoHeap}

variable (h : Separated parent id parentOffset heap)
include h

/-- Separation is about the inner states alone. -/
lemma of_inner (hinner : heap'.inner = heap.inner)
    (hnext : heap'.nextId = heap.nextId) : Separated parent id parentOffset heap' where
  pageSize_pos := h.pageSize_pos
  sound := hinner ▸ h.sound
  size_dvd := hinner ▸ h.size_dvd
  size_lt := hinner ▸ h.size_lt
  fits := hinner ▸ h.fits
  committed := hinner ▸ h.committed
  injective := hinner ▸ h.injective
  id_lt := hnext ▸ h.id_lt
  parent_lt := h.parent_lt
  apart addr haddr hbacks := by
    simp only [VmoHeap.Backs, hinner] at haddr hbacks
    exact h.apart addr haddr hbacks

lemma ownsPage_iff (offset : Nat) : ownsPage heap id (offset / parent.pageSize * parent.pageSize) = true ↔
      ∃ extent, (heap.inner id).extentAt offset = some extent :=
  h.sound.ownsPage_iff rfl h.pageSize_pos offset

/-- A write through the child is not seen through the parent. -/
lemma read_childWrite (offset : Nat) (bytes : List Byte) :
    parent.read ((parent.privateOf id parentOffset).write offset bytes heap).2 = parent.read heap := by
  have hwithin : WritesWithin (heap.inner id).Backs heap
      ((parent.privateOf id parentOffset).write offset bytes heap).2 := by
    unfold write
    split
    · exact .refl _ _
    split
    · exact .refl _ _
    exact writeCowLoop_within rfl
  refine read_congr (fun i _ => by rw [hwithin.inner]) fun addr haddr => ?_
  exact hwithin.memory addr fun hbacks => h.apart addr hbacks haddr

end Separated

/-! ## Materialising a page -/

section

variable (heap : VmoHeap) (parent : Vmo) (pageOffset : Nat)

lemma cowSource_getElem? {i : Nat} (hi : i < parent.pageSize) :
    (cowSource heap parent pageOffset)[i]? = some (shownByte heap parent pageOffset i) := by
  unfold cowSource shownByte
  cases parent.pageAt heap pageOffset with
  | some page => simp [readPhys, hi]
  | none => simp [hi]

lemma cowSource_length : (cowSource heap parent pageOffset).length = parent.pageSize := by
  unfold cowSource
  cases parent.pageAt heap pageOffset with
  | some page => simp [readPhys]
  | none => simp

lemma cowSource_tick : cowSource heap.tick parent pageOffset = cowSource heap parent pageOffset := by
  unfold cowSource
  rw [@Vmo.pageAt_congr heap heap.tick parent fun _ _ => rfl]
  rfl

end

/-- The page `page` of a private child has just been given the frame at `phys`. -/
structure Materialized (parent : Vmo) (id parentOffset page phys : Nat) (heap heap' : VmoHeap) : Prop where
  page_dvd : parent.pageSize ∣ page
  page_lt : page < (heap.inner id).size
  unowned : (heap.inner id).index.ownerAt page = none
  granted : heap.nextFrame = some phys
  nextId : heap'.nextId = heap.nextId
  others : ∀ i, i ≠ id → heap'.inner i = heap.inner i
  own : ∃ extent : VmoExtent, extent.offset = page ∧ extent.frame.physAddr = phys ∧
    extent.frame.lenBytes = parent.pageSize ∧ extent.committed = true ∧
    heap'.inner id = (heap.inner id).reindexed ((heap.inner id).extents ++ [extent])
  memory : heap'.memory = (heap.writePhys phys (cowSource heap parent (parentOffset + page))).memory

/-- A call of `materialize_private_cow_page` creates the page, or changes no inner state and no
memory outside the frame it was granted. -/
lemma materialize_private_cases (parent : Vmo) (id parentOffset offset : Nat)
    (fallbackPurpose : VmoPagePurpose) (heap : VmoHeap) :
    let heap' := ((parent.privateOf id parentOffset).materializePrivateCowPage offset
      fallbackPurpose heap).2
    (heap'.nextId = heap.nextId ∧ heap'.inner = heap.inner ∧ ∀ addr,
      (∀ phys, heap.nextFrame = some phys → ¬ (phys ≤ addr ∧ addr < phys + parent.pageSize)) →
        heap'.memory addr = heap.memory addr) ∨
    ∃ phys, Materialized parent id parentOffset (offset / parent.pageSize * parent.pageSize) phys
      heap heap' := by
  intro heap'
  rcases materialize_cases (parent.privateOf id parentOffset) offset fallbackPurpose heap with
    heq | heq | ⟨parent', sourceOffset, frameCount, phys, hm, heq | heq⟩
  · refine .inl ⟨?_, ?_, fun addr _ => ?_⟩ <;> simp only [heap', heq]
  · refine .inl ⟨?_, ?_, fun addr _ => ?_⟩ <;> simp only [heap', heq] <;> rfl
  all_goals
    obtain ⟨backing, parentOffset', hvmo, rfl⟩ := hm.shape
    cases hvmo
    rw [cowSource_tick] at heq
  · refine .inl ⟨?_, ?_, fun addr hout => ?_⟩
    · simp only [heap', heq]
      rfl
    · simp only [heap', heq]
      rfl
    · simp only [heap', heq, writePhys]
      rw [cowSource_length, if_neg (hout phys hm.granted)]
      rfl
  · have haligned := hm.aligned
    simp only [offsetIsPageAligned, Bool.and_eq_true, decide_eq_true_eq, beq_iff_eq]
      at haligned
    refine .inr ⟨phys, Nat.dvd_mul_left _ _, haligned.1, hm.unowned, hm.granted, ?_, ?_, ?_, ?_⟩
    · simp only [heap', heq]
      rfl
    · intro i hi
      simp only [heap', heq]
      exact setInner_inner_of_ne _ _ hi
    · refine ⟨privateExtent heap.tick parent (offset / parent.pageSize * parent.pageSize)
        (parentOffset + offset / parent.pageSize * parent.pageSize) frameCount phys fallbackPurpose,
        rfl, rfl, hm.frameCount_mul, rfl, ?_⟩
      simp only [heap', heq]
      exact setInner_inner_self _ _ _
    · simp only [heap', heq]
      rfl

namespace Materialized

variable {parent : Vmo} {id parentOffset page phys : Nat} {heap heap' : VmoHeap}

variable (hm : Materialized parent id parentOffset page phys heap heap')
include hm

/-- The new page's frame overlaps no frame of a live extent. -/
lemma frame_fresh (hfresh : FreshFrame heap parent.pageSize) {i addr : Nat} (hi : i < heap.nextId)
    (hbacks : (heap.inner i).Backs addr) : ¬ (phys ≤ addr ∧ addr < phys + parent.pageSize) := by
  obtain ⟨extent, hextent, hcovers⟩ := hbacks
  exact fun hin => hfresh phys hm.granted i hi extent hextent addr hin.1 hin.2 hcovers

section

variable (h : Separated parent id parentOffset heap)
include h

lemma own_sound : (heap'.inner id).Sound (parent.privateOf id parentOffset) := by
  obtain ⟨extent, hoffset, -, hlen, -, hinner⟩ := hm.own
  rw [hinner]
  refine h.sound.push ?_ fun _ => ⟨hoffset ▸ hm.page_dvd, hlen ▸ dvd_refl _⟩
  intro other hother o hin
  have hspan := contains_iff.1 hin.2
  rw [stop, hoffset, hlen] at hspan
  have hclear := h.sound.page_clear rfl hm.page_dvd hm.unowned other hother o hspan.1 hspan.2
  rw [hin.1] at hclear
  cases hclear

/-- The placement after the page was added: the old cells, and the page's at its frame. -/
lemma cellAt_cases {o addr : Nat} (hcell : (heap'.inner id).cellAt o = some addr) :
    ((o < page ∨ page + parent.pageSize ≤ o) ∧ (heap.inner id).cellAt o = some addr) ∨
      (page ≤ o ∧ o < page + parent.pageSize ∧ addr = phys + (o - page)) := by
  obtain ⟨other, hother, hin, rfl⟩ := (hm.own_sound h).cellAt_eq_some.1 hcell
  obtain ⟨extent, hoffset, hphys, hlen, -, hinner⟩ := hm.own
  rw [hinner] at hother
  have hspan := contains_iff.1 hin
  rcases mem_append.1 hother with hold | hnew
  · refine .inl ⟨?_, h.sound.cellAt_eq_some.2 ⟨other, hold, hin, rfl⟩⟩
    by_contra hpage
    have hclear := h.sound.page_clear rfl hm.page_dvd hm.unowned other hold o (by omega)
      (by show o < page + parent.pageSize; omega)
    rw [hin] at hclear
    cases hclear
  · rw [mem_singleton.1 hnew] at hspan ⊢
    rw [stop, hoffset, hlen] at hspan
    exact .inr ⟨hspan.1, hspan.2, by rw [hphys, hoffset]⟩

lemma separated (hfresh : FreshFrame heap parent.pageSize) : Separated parent id parentOffset heap' := by
  have hsound := hm.own_sound h
  have hinj : CellInjective (heap'.inner id).cellAt := by
    intro o o' addr ho ho'
    rcases hm.cellAt_cases h ho with ⟨-, hold⟩ | ⟨hlo, hhi, rfl⟩
    · rcases hm.cellAt_cases h ho' with ⟨-, hold'⟩ | ⟨hlo', hhi', rfl⟩
      · exact h.injective o o' addr hold hold'
      · exact absurd ⟨by omega, by omega⟩ (hm.frame_fresh hfresh h.id_lt (h.sound.backs_of_cellAt hold))
    · rcases hm.cellAt_cases h ho' with ⟨-, hold'⟩ | ⟨hlo', hhi', heq⟩
      · exact absurd ⟨by omega, by omega⟩ (hm.frame_fresh hfresh h.id_lt (h.sound.backs_of_cellAt hold'))
      · omega
  obtain ⟨extent, hoffset, hphys, hlen, hcommitted, hinner⟩ := hm.own
  refine ⟨h.pageSize_pos, hsound, ?_, ?_, ?_, ?_, hinj, ?_, h.parent_lt, ?_⟩
  · rw [hinner]
    exact h.size_dvd
  · rw [hinner]
    exact h.size_lt
  · intro other hother
    rw [hinner] at hother ⊢
    rcases mem_append.1 hother with hold | hnew
    · exact h.fits other hold
    · rw [mem_singleton.1 hnew, stop, hoffset, hlen]
      exact add_le_of_dvd_of_lt hm.page_dvd h.size_dvd hm.page_lt
  · intro other hother
    rw [hinner] at hother
    rcases mem_append.1 hother with hold | hnew
    · exact h.committed other hold
    · rw [mem_singleton.1 hnew]
      exact hcommitted
  · rw [hm.nextId]
    exact h.id_lt
  · rintro addr ⟨other, hother, hcovers⟩ ⟨i, hi, hbacks⟩
    rw [hm.others i (ne_of_lt (h.parent_lt i hi))] at hbacks
    rw [hinner] at hother
    rcases mem_append.1 hother with hold | hnew
    · exact h.apart addr ⟨other, hold, hcovers⟩ ⟨i, hi, hbacks⟩
    · rw [mem_singleton.1 hnew] at hcovers
      obtain ⟨hlo, hhi⟩ := hcovers
      have hlt := lt_trans (h.parent_lt i hi) h.id_lt
      exact hm.frame_fresh hfresh hlt hbacks ⟨by omega, by omega⟩

lemma ownsPage : ownsPage heap' id page = true := by
  obtain ⟨extent, hoffset, -, hlen, -, hinner⟩ := hm.own
  have hpos := h.pageSize_pos
  have hat : (heap'.inner id).extentAt page = some extent := by
    refine (hm.own_sound h).extentAt_eq_some.2 ⟨?_, contains_iff.2 ?_⟩
    · rw [hinner]
      exact mem_append_right _ (mem_singleton_self _)
    · rw [stop, hoffset, hlen]
      omega
  obtain ⟨i, howner, -⟩ := bind_eq_some_iff.1 hat
  rw [Vmo.ownsPage, howner]
  rfl

/-- The new page reads as the parent's, the old ones as before. -/
lemma shows (hfresh : FreshFrame heap parent.pageSize)
    {view : Nat → Byte} (hshows : Shows (heap.inner id).cellAt heap.memory view) :
    Shows (heap'.inner id).cellAt heap'.memory fun o => if page ≤ o ∧ o < page + parent.pageSize then
        shownByte heap parent (parentOffset + page) (o - page) else view o := by
  intro o addr hcell
  rw [hm.memory]
  simp only [writePhys, cowSource_length]
  rcases hm.cellAt_cases h hcell with ⟨hout, hold⟩ | ⟨hlo, hhi, rfl⟩
  · rw [if_neg (hm.frame_fresh hfresh h.id_lt (h.sound.backs_of_cellAt hold)), if_neg (by omega)]
    exact hshows o addr hold
  · rw [if_pos ⟨by omega, by omega⟩, if_pos ⟨hlo, hhi⟩, Nat.add_sub_cancel_left,
      getD_eq_getElem?_getD, cowSource_getElem? heap parent _ (by omega)]
    rfl

end

end Materialized

/-! ## Reading and writing through the child -/

namespace Separated

variable {parent : Vmo} {id parentOffset : Nat} {heap : VmoHeap} {view : Nat → Byte}

variable {offset len cursor fuel : Nat} {bytes : List Byte}

variable (h : Separated parent id parentOffset heap)
include h

lemma readLocal_shows (hshows : Shows (heap.inner id).cellAt heap.memory view)
    (hsize : offset + len ≤ (heap.inner id).size) (hbacked : (heap.inner id).BackedOn offset len) :
    readLocal heap id offset len = some ((List.range' offset len).map view) := by
  have hlt := h.size_lt
  rw [readLocal, checkedAdd, if_pos (by omega)]
  dsimp only
  rw [if_neg (by omega)]
  exact readLocalLoop_shows h.sound h.committed hshows le_rfl (by omega) hbacked

lemma writeLocal_stored (hsize : offset + bytes.length ≤ (heap.inner id).size)
    (hbacked : (heap.inner id).BackedOn offset bytes.length) :
    (writeLocal id offset bytes heap).1 = true ∧ Stored (heap.inner id).cellAt offset bytes heap.memory
        (writeLocal id offset bytes heap).2.memory := by
  have hlt := h.size_lt
  rw [writeLocal, checkedAdd, if_pos (by omega)]
  dsimp only
  rw [if_neg (by omega)]
  exact writeLocalLoop_stored h.sound h.committed h.injective le_rfl (by omega)
    hbacked heap

/-- The rest of the cursor's page belongs to the page. -/
lemma ownsPage_chunk {o : Nat} (hlo : cursor ≤ o)
    (hhi : o < cursor + (parent.pageSize - (cursor - cursor / parent.pageSize * parent.pageSize))) :
    o / parent.pageSize * parent.pageSize = cursor / parent.pageSize * parent.pageSize := by
  have hle := Nat.div_mul_le_self cursor parent.pageSize
  have hlt := Nat.lt_div_mul_add h.pageSize_pos (a := cursor)
  exact pageBase_eq (Nat.dvd_mul_left _ _) (by omega) (by omega)

lemma backedOn_chunk (howns : ownsPage heap id (cursor / parent.pageSize * parent.pageSize) = true)
    (hlen : len ≤ parent.pageSize - (cursor - cursor / parent.pageSize * parent.pageSize)) :
    (heap.inner id).BackedOn cursor len := by
  intro o hlo hhi
  refine (h.ownsPage_iff o).1 ?_
  rw [h.ownsPage_chunk hlo (by omega)]
  exact howns

lemma chunk_pos (cursor : Nat) :
    0 < parent.pageSize - (cursor - cursor / parent.pageSize * parent.pageSize) := by
  have hle := Nat.div_mul_le_self cursor parent.pageSize
  have hlt := Nat.lt_div_mul_add h.pageSize_pos (a := cursor)
  omega

lemma page_fits (howns : ownsPage heap id (offset / parent.pageSize * parent.pageSize) = true) :
    offset / parent.pageSize * parent.pageSize + parent.pageSize ≤ (heap.inner id).size := by
  obtain ⟨extent, hat⟩ := (h.ownsPage_iff offset).1 howns
  obtain ⟨hmem, hin⟩ := h.sound.extentAt_eq_some.1 hat
  have hspan := contains_iff.1 hin
  have hstop := h.fits extent hmem
  have hle := Nat.div_mul_le_self offset parent.pageSize
  exact add_le_of_dvd_of_lt (Nat.dvd_mul_left _ _) h.size_dvd (by omega)

/-- A read inside a page the child owns succeeds and returns the array. -/
lemma read_page (hshows : Shows (heap.inner id).cellAt heap.memory view)
    (howns : ownsPage heap id (offset / parent.pageSize * parent.pageSize) = true)
    (hlen : offset + len ≤ offset / parent.pageSize * parent.pageSize + parent.pageSize) :
    (parent.privateOf id parentOffset).read heap offset len =
      some ((List.range' offset len).map view) := by
  have hfits := h.page_fits howns
  have hlt := h.size_lt
  have hle := Nat.div_mul_le_self offset parent.pageSize
  rw [Vmo.read, checkedAdd, if_pos (by omega)]
  dsimp only
  rw [if_neg (by omega)]
  cases len with
  | zero => rfl
  | succ len =>
    have hchunk : min (parent.pageSize -
        (offset - offset / parent.pageSize * parent.pageSize)) (len + 1) = len + 1 := by omega
    rw [readCowLoop]
    simp only [hchunk, howns, if_true]
    rw [h.readLocal_shows hshows (by omega) (h.backedOn_chunk howns (by omega)), Nat.sub_self]
    simp [readCowLoop]

/-- A write over pages the child owns succeeds and overwrites the array. -/
lemma writeCowLoop_stored (hfuel : bytes.length ≤ fuel)
    (hsize : cursor + bytes.length ≤ (heap.inner id).size)
    (hbacked : (heap.inner id).BackedOn cursor bytes.length) :
    (writeCowLoop id parent.pageSize fuel cursor bytes heap).1 = true ∧
      Stored (heap.inner id).cellAt cursor bytes heap.memory
        (writeCowLoop id parent.pageSize fuel cursor bytes heap).2.memory := by
  induction fuel generalizing cursor bytes heap with
  | zero =>
    obtain rfl : bytes = [] := length_eq_zero_iff.1 (by omega)
    exact ⟨rfl, .nil _ _ _⟩
  | succ fuel ih =>
    cases bytes with
    | nil => exact ⟨rfl, .nil _ _ _⟩
    | cons b bs =>
      have hpos : 0 < (b :: bs).length := Nat.succ_pos _
      have hchunkpos := h.chunk_pos cursor
      have howns := (h.ownsPage_iff cursor).2 (hbacked cursor le_rfl (by omega))
      obtain ⟨chunk, hchunk⟩ : ∃ chunk, chunk = min (parent.pageSize -
        (cursor - cursor / parent.pageSize * parent.pageSize)) (b :: bs).length := ⟨_, rfl⟩
      have htake : ((b :: bs).take chunk).length = chunk := by
        rw [length_take]
        omega
      obtain ⟨hok, hfirst⟩ := @writeLocal_stored _ _ _ _ cursor ((b :: bs).take chunk) h
        (by omega) (hbacked.sub le_rfl (by omega))
      rcases hres : writeLocal id cursor ((b :: bs).take chunk) heap with ⟨ok, heap₁⟩
      rw [hres] at hok hfirst
      obtain rfl : ok = true := hok
      have hwithin := writeLocal_within hres
      have hinner : heap₁.inner = heap.inner := hwithin.inner
      rw [writeCowLoop]
      simp only [howns, Bool.not_true, Bool.false_eq_true, if_false, ← hchunk, hres]
      obtain ⟨hok₁, hrest⟩ := @ih heap₁ (cursor + chunk) ((b :: bs).drop chunk)
        (h.of_inner hinner hwithin.nextId) (by rw [length_drop]; omega)
        (by rw [length_drop, hinner]; omega)
        (by rw [hinner]; exact hbacked.sub (by omega) (by rw [length_drop]; omega))
      refine ⟨hok₁, ?_⟩
      rw [hinner] at hrest
      have happend := hfirst.append h.injective htake hrest
      rwa [take_append_drop] at happend

/-- Whatever a read through the child returns, its bytes in pages the child owns are the array's. -/
lemma readCowLoop_shows (hshows : Shows (heap.inner id).cellAt heap.memory view)
    (hsize : cursor + len ≤ (heap.inner id).size)
    (hread : readCowLoop heap id parent.pageSize parentOffset (parent.read heap) fuel cursor len
      = some bytes) {i : Nat} (hi : i < len)
    (howns : ownsPage heap id ((cursor + i) / parent.pageSize * parent.pageSize) = true) :
    bytes[i]? = some (view (cursor + i)) := by
  fun_induction readCowLoop heap id parent.pageSize parentOffset (parent.read heap) fuel cursor len
    generalizing bytes i with
  | case1 => cases hi
  | case2 | case3 => cases hread
  | case4 =>
    rename_i cursor len pageOffset chunk part chunkBytes hpart ih
    obtain ⟨rest, hrest, rfl⟩ := map_eq_some_iff.1 hread
    unfold part at hpart
    by_cases hin : i < chunk
    · -- the byte lies in the cursor's page, which the child therefore owns
      rw [h.ownsPage_chunk (Nat.le_add_right _ _) (by omega)] at howns
      rw [if_pos howns, h.readLocal_shows hshows (by omega) (h.backedOn_chunk howns (by omega))] at hpart
      cases hpart
      rw [getElem?_append_left (by simpa using hin)]
      simp [hin]
    · have hlen : chunkBytes.length = chunk := by
        split at hpart
        · exact readLocal_length hpart
        · obtain ⟨translated, -, hpart⟩ := bind_eq_some_iff.1 hpart
          exact read_length hpart
      rw [getElem?_append_right (by omega), hlen]
      have hshift : cursor + chunk + (i - chunk) = cursor + i := by omega
      have := ih (by omega) hrest (i := i - chunk) (by omega) (by rw [hshift]; exact howns)
      rwa [hshift] at this

end Separated

/-! ## One step and whole runs -/

section Step

variable {parent : Vmo} {id parentOffset : Nat} {s : CowState}

section

variable (h : Separated parent id parentOffset s.heap)
include h

/-- An untorn write through the child stores all its bytes or does nothing. -/
lemma childWrite_cases {offset : Nat} {bytes : List Byte}
    (hwhole : ¬ TornWrite s.heap (parent.privateOf id parentOffset) offset bytes.length) :
    (parent.privateOf id parentOffset).write offset bytes s.heap = (false, s.heap) ∨
      ∃ heap', (parent.privateOf id parentOffset).write offset bytes s.heap = (true, heap') ∧
        Stored (s.heap.inner id).cellAt offset bytes s.heap.memory heap'.memory := by
  rw [write]
  split
  · exact .inl rfl
  rename_i stop hstop
  obtain rfl := checkedAdd_eq_some hstop
  split
  · exact .inl rfl
  rename_i hsize
  by_cases hbacked : (s.heap.inner id).BackedOn offset bytes.length
  · obtain ⟨hok, hstored⟩ := h.writeCowLoop_stored (Nat.le_refl bytes.length) (by omega) hbacked
    exact .inr ⟨_, Prod.ext hok rfl, hstored⟩
  · -- not torn, so it is the first page that is missing
    refine .inl ?_
    have hfirst : ownsPage s.heap id (offset / parent.pageSize * parent.pageSize) = false := by
      refine Bool.eq_false_iff.2 fun hfirst => hbacked fun o hlo hhi => ?_
      by_contra hnone
      refine hwhole ⟨Nat.not_lt.1 hsize, hfirst, o - offset, by omega, ?_⟩
      rw [Nat.add_sub_cancel' hlo]
      exact Bool.eq_false_iff.2 fun howns => hnone ((h.ownsPage_iff o).1 howns)
    cases bytes with
    | nil => exact absurd (fun o hlo hhi => absurd hhi (Nat.not_lt.2 hlo)) hbacked
    | cons b bs =>
      rw [length_cons, writeCowLoop]
      simp [hfirst]

lemma Separated.step (op : CowOp)
    (hfresh : CowFresh (parent.privateOf id parentOffset) s op) : Separated parent id parentOffset
      (cowStep parent (parent.privateOf id parentOffset) parentOffset s op).heap := by
  cases op with
  | parentWrite offset bytes =>
    have hwithin := parent.write_within offset bytes s.heap
    exact h.of_inner hwithin.inner hwithin.nextId
  | childWrite offset bytes =>
    have hwithin := (parent.privateOf id parentOffset).write_within offset bytes s.heap
    simp only [cowStep]
    split <;>
    · rename_i heap' hres
      rw [hres] at hwithin
      exact h.of_inner hwithin.inner hwithin.nextId
  | materialize offset fallbackPurpose =>
    have hheap : (cowStep parent (parent.privateOf id parentOffset) parentOffset s
        (.materialize offset fallbackPurpose)).heap = ((parent.privateOf id
        parentOffset).materializePrivateCowPage offset fallbackPurpose s.heap).2 := by
      simp only [cowStep]
      split <;> rfl
    rw [hheap]
    rcases materialize_private_cases parent id parentOffset offset fallbackPurpose s.heap with
      ⟨hnext, hinner, -⟩ | ⟨phys, hm⟩
    · exact h.of_inner hinner hnext
    · exact hm.separated h hfresh

lemma Separated.step_shows (hshows : Shows (s.heap.inner id).cellAt s.heap.memory s.view) (op : CowOp)
    (hfresh : CowFresh (parent.privateOf id parentOffset) s op)
    (hwhole : CowWhole (parent.privateOf id parentOffset) s op) :
    Shows ((cowStep parent (parent.privateOf id parentOffset) parentOffset s op).heap.inner id).cellAt
      (cowStep parent (parent.privateOf id parentOffset) parentOffset s op).heap.memory
      (cowStep parent (parent.privateOf id parentOffset) parentOffset s op).view := by
  cases op with
  | parentWrite offset bytes =>
    -- the parent writes inside its own frames, where the child has no cell
    have hwithin := parent.write_within offset bytes s.heap
    simp only [cowStep, hwithin.inner]
    refine hshows.of_agree fun o addr hcell => hwithin.memory addr ?_
    exact h.apart addr (h.sound.backs_of_cellAt hcell)
  | childWrite offset bytes =>
    rcases childWrite_cases h hwhole with hres | ⟨heap', hres, hstored⟩
    · simp only [cowStep, hres]
      exact hshows
    · have hwithin := (parent.privateOf id parentOffset).write_within offset bytes s.heap
      rw [hres] at hwithin
      have hinner : heap'.inner = s.heap.inner := hwithin.inner
      simp only [cowStep, hres, hinner]
      exact hstored.shows h.injective hshows
  | materialize offset fallbackPurpose =>
    simp only [cowStep]
    rcases materialize_private_cases parent id parentOffset offset fallbackPurpose s.heap with
      ⟨-, hinner, hmemory⟩ | ⟨phys, hm⟩
    · -- no page was created: its ownership is what it was
      rw [ownsPage_congr (congrFun hinner _), Bool.not_and_self, if_neg Bool.false_ne_true]
      rw [hinner]
      refine hshows.of_agree fun o addr hcell => hmemory addr fun phys hphys hin => ?_
      obtain ⟨extent, hextent, hcovers⟩ := h.sound.backs_of_cellAt hcell
      exact hfresh phys hphys id h.id_lt extent hextent addr hin.1 hin.2 hcovers
    · have hunowned : ownsPage s.heap id (offset / parent.pageSize * parent.pageSize) = false := by
        rw [ownsPage, hm.unowned]
        rfl
      have hcreated := hm.ownsPage h
      simp only [Vmo.pageSize, Vmo.id, hunowned, hcreated, Bool.not_false, Bool.and_self, if_true]
      exact hm.shows h hfresh hshows

end

end Step

/-! ## Where the pair comes from -/

namespace VmoSystem

/-- Every id along the path of a VMO has been given out. -/
lemma Identified.ids_placed {sys : VmoSystem} (h : sys.Identified) {vmo : Vmo} (hvmo : vmo ∈ sys.vmos) :
    ∀ id ∈ vmo.ids, id < sys.heap.nextId := by
  induction vmo with
  | root => exact fun id hid => mem_singleton.1 hid ▸ h.ids_lt _ hvmo
  | child _ _ _ _ parent ih =>
    intro id hid
    rcases mem_cons.1 hid with rfl | hid
    · exact h.ids_lt _ hvmo
    · exact ih (h.parents _ hvmo parent rfl) id hid

end VmoSystem

open VmoSystem

/-- A newly derived private child owns nothing, so it is separated from its parent. -/
lemma separated_of_createPrivateChild {parent child : Vmo} {heap heap' : VmoHeap}
    {offset size : Nat} (hids : ∀ id ∈ parent.ids, id < heap.nextId)
    (hchild : parent.createPrivateChild heap offset size = some (child, heap')) :
    ∃ id, child = parent.privateOf id offset ∧ Separated parent id offset heap' ∧
      ∀ o, (heap'.inner id).cellAt o = none := by
  unfold createPrivateChild at hchild
  split at hchild
  · cases hchild
  revert hchild
  fun_cases deriveChild heap parent .privateCow .paged offset size with
  | case1 | case2 | case3 => rintro ⟨⟩
  | case4 hguard stop hstop hsize streamSize =>
    rintro ⟨⟩
    simp only [Bool.or_eq_true, beq_iff_eq, bne_iff_ne, not_or, not_not] at hguard
    have hdvd := Nat.dvd_of_mod_eq_zero hguard.2
    have hinner : ∀ inner, ({ heap.setInner heap.nextId inner with
        nextId := heap.nextId + 1 } : VmoHeap).inner heap.nextId = inner :=
      setInner_inner_self heap heap.nextId
    refine ⟨heap.nextId, rfl, ?_, fun o => by rw [hinner]; rfl⟩
    refine ⟨Nat.pos_of_ne_zero fun hzero => hguard.1.1.2 ?_, ?_, ?_, ?_, ?_, ?_, ?_, Nat.lt_succ_self _,
      hids, ?_⟩
    · rw [hzero] at hdvd
      exact Nat.eq_zero_of_zero_dvd hdvd
    all_goals rw [hinner]
    · exact .fresh _ _ _ _
    · exact hdvd
    · rw [checkedAdd] at hstop
      split at hstop
      · exact Nat.lt_of_le_of_lt (Nat.le_add_left ..) ‹_›
      · cases hstop
    · exact fun _ hextent => absurd hextent not_mem_nil
    · exact fun _ hextent => absurd hextent not_mem_nil
    · intro o o' cell hcell
      cases hcell
    · rintro addr ⟨extent, hextent, -⟩
      cases hextent

/-! ## The law over runs -/

/-- The pages the child owns read as the array: a read inside one of them succeeds and returns the
array, and any read that succeeds agrees with the array wherever it touches one. -/
structure ReadsAs (child : Vmo) (heap : VmoHeap) (view : Nat → Byte) : Prop where
  inside : ∀ offset len, ownsPage heap child.id (offset / child.pageSize * child.pageSize) = true →
    offset + len ≤ offset / child.pageSize * child.pageSize + child.pageSize →
    child.read heap offset len = some ((List.range' offset len).map view)
  across : ∀ offset len bytes, child.read heap offset len = some bytes → ∀ i < len,
    ownsPage heap child.id ((offset + i) / child.pageSize * child.pageSize) = true →
    bytes[i]? = some (view (offset + i))

lemma Separated.readsAs {parent : Vmo} {id parentOffset : Nat} {heap : VmoHeap}
    {view : Nat → Byte} (h : Separated parent id parentOffset heap)
    (hshows : Shows (heap.inner id).cellAt heap.memory view) :
    ReadsAs (parent.privateOf id parentOffset) heap view where
  inside _ _ howns hlen := h.read_page hshows howns hlen
  across offset len bytes hread i hi howns := by
    rw [Vmo.read] at hread
    split at hread
    · cases hread
    rename_i stop hstop
    obtain rfl := checkedAdd_eq_some hstop
    split at hread
    · cases hread
    rename_i hsize
    exact h.readCowLoop_shows hshows (Nat.not_lt.1 hsize) hread hi howns

/-- Copy-on-write isolation over every interleaving of writes through the parent, writes through
the private child and materialisations, from the moment the child is derived, when frames are
fresh: no write through the child is seen through the parent, and, if no write through the child
is torn, the child's materialised pages read as the view. -/
theorem cow_run_isolated (allocator : FrameAllocator) (memory : Nat → Byte)
    (history : List VmoSystem.Op) {parent child : Vmo} {offset size : Nat} {heap : VmoHeap}
    (hparent : parent ∈ (runOps VmoSystem.step (.empty allocator memory) history).vmos)
    (hchild : parent.createPrivateChild
      (runOps VmoSystem.step (.empty allocator memory) history).heap offset size = some (child, heap))
    (view : Nat → Byte) (ops : List CowOp)
    (hfresh : Meets (cowStep parent child offset) (CowFresh child) ⟨heap, view⟩ ops) : (∀ o bytes,
      parent.read (child.write o bytes (runOps (cowStep parent child offset) ⟨heap, view⟩ ops).heap).2 =
      parent.read (runOps (cowStep parent child offset) ⟨heap, view⟩ ops).heap) ∧
    (Meets (cowStep parent child offset) (CowWhole child) ⟨heap, view⟩ ops →
      ReadsAs child (runOps (cowStep parent child offset) ⟨heap, view⟩ ops).heap
        (runOps (cowStep parent child offset) ⟨heap, view⟩ ops).view) := by
  have hplaced := (run_identified allocator memory history).ids_placed hparent
  obtain ⟨id, rfl, hstart, hnone⟩ := separated_of_createPrivateChild hplaced hchild
  constructor
  · intro o bytes
    have hsep : Separated parent id offset
        (runOps (cowStep parent (parent.privateOf id offset) offset) ⟨heap, view⟩ ops).heap :=
      Lib.run_invariant (I := fun s => Separated parent id offset s.heap)
        (fun s op h hop => h.step op hop) hstart hfresh
    exact hsep.read_childWrite o bytes
  · intro hwhole
    have hend := Lib.run_invariant (I := fun s => Separated parent id offset s.heap ∧
        Shows (s.heap.inner id).cellAt s.heap.memory s.view)
      (fun s op h hop => ⟨h.1.step op hop.1, h.1.step_shows h.2 op hop.1 hop.2⟩)
      ⟨hstart, fun o addr hcell => by rw [hnone o] at hcell; cases hcell⟩ (hfresh.and hwhole)
    exact hend.1.readsAs hend.2

/-- A root of two pages, the first one committed. -/
def cowHistory : List VmoSystem.Op := [.new 0x2000 0x1000 0, .commitRange 0 0 0x1000 .anonymous]

def cowParent : Vmo := .root 0 0x1000 .paged

def cowChild : Vmo := cowParent.privateOf 1 0

/-- The heap once the child has been derived from it. -/
def cowHeap : VmoHeap :=
  { (runOps VmoSystem.step (.empty plentifulAllocator fun _ => 0)
      cowHistory).heap.setInner 1 (.fresh 0x2000 0x2000 0) with nextId := 2 }

lemma cowChild_created : cowParent.createPrivateChild
    (runOps VmoSystem.step (.empty plentifulAllocator fun _ => 0) cowHistory).heap
    0 0x2000 = some (cowChild, cowHeap) := rfl

lemma cowHeap_freshFrame : FreshFrame cowHeap 0x1000 := by
  intro phys hphys id hid extent hextent addr hlo hhi hcovers
  have hid : id < 2 := hid
  obtain rfl : phys = 0x101000 := (Option.some.inj hphys).symm
  rcases (by omega : id = 0 ∨ id = 1) with rfl | rfl
  · have hextents : (cowHeap.inner 0).extents = [⟨0, ⟨0x100000, 1, 0x1000⟩, .anonymous, true⟩] := by decide
    rw [hextents] at hextent
    rw [mem_singleton.1 hextent] at hcovers
    have hend : addr < 0x100000 + 0x1000 := hcovers.2
    omega
  · cases hextent

/-- The first page is materialised and then written from both sides. -/
def cowOps : List CowOp :=
  [.materialize 0x10 .anonymous, .childWrite 0x20 [1], .parentWrite 0x20 [2]]

theorem cow_run_isolated_cowOps :
    Meets (cowStep cowParent cowChild 0) (CowFresh cowChild) ⟨cowHeap, fun _ => 0⟩ cowOps ∧
    Meets (cowStep cowParent cowChild 0) (CowWhole cowChild) ⟨cowHeap, fun _ => 0⟩ cowOps ∧
    ReadsAs cowChild (runOps (cowStep cowParent cowChild 0) ⟨cowHeap, fun _ => 0⟩ cowOps).heap
      (runOps (cowStep cowParent cowChild 0) ⟨cowHeap, fun _ => 0⟩ cowOps).view := by
  have hfresh : Meets (cowStep cowParent cowChild 0) (CowFresh cowChild) ⟨cowHeap, fun _ => 0⟩
      cowOps := ⟨cowHeap_freshFrame, trivial, trivial, trivial⟩
  have hwhole : Meets (cowStep cowParent cowChild 0) (CowWhole cowChild) ⟨cowHeap, fun _ => 0⟩
      cowOps := by
    refine ⟨trivial, ?_, trivial, trivial⟩
    rintro ⟨-, -, i, hi, howns⟩
    obtain rfl : i = 0 := Nat.lt_one_iff.1 hi
    exact absurd howns (by decide)
  exact ⟨hfresh, hwhole, (cow_run_isolated plentifulAllocator (fun _ => 0) cowHistory
    (by decide) cowChild_created (fun _ => 0) cowOps hfresh).2 hwhole⟩

/-- The first page is materialised, and a write of two bytes runs over its end. -/
def tornOps : List CowOp := [.materialize 0 .anonymous, .childWrite 0xfff [1, 1]]

/-- The write fails, yet the last byte of the materialised page has changed. -/
theorem torn_write_changes_bytes :
    Meets (cowStep cowParent cowChild 0) (CowFresh cowChild) ⟨cowHeap, fun _ => 0⟩ tornOps ∧
    ¬ ReadsAs cowChild (runOps (cowStep cowParent cowChild 0) ⟨cowHeap, fun _ => 0⟩ tornOps).heap
      (runOps (cowStep cowParent cowChild 0) ⟨cowHeap, fun _ => 0⟩ tornOps).view := by
  refine ⟨⟨cowHeap_freshFrame, trivial, trivial⟩, fun hreads => ?_⟩
  have hread := hreads.inside 0xfff 1 (by decide) (by decide)
  have hbyte : cowChild.read (runOps (cowStep cowParent cowChild 0) ⟨cowHeap, fun _ => 0⟩
      tornOps).heap 0xfff 1 = some [1] := by decide
  have hview : (runOps (cowStep cowParent cowChild 0) ⟨cowHeap, fun _ => 0⟩ tornOps).view 0xfff = 0 :=
    by decide
  rw [hbyte, range'_one, map_singleton, hview] at hread
  exact absurd hread (by decide)

end Akarin.Memory
