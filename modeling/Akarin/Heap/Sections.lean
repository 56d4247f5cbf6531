/-
# Akarin.Heap.Sections -- the metadata of the slab pages

`init_frame_allocator` reserves metadata for the pages of the boot heap's free regions and of the low
memory, builds one section per range from it, and feeds the same ranges to the frame allocator. The
reservation is carved out of the boot heap itself, so that the ranges are read again after it; they have
not grown, and the reservation is large enough for them.

The frame allocator hands out what it was fed and what was given back to it. Its frames have metadata as
long as nothing else comes back than what it has handed out, and no range is reclaimed that has no
metadata (`Backed`).
-/
import Akarin.Heap.Early
import Akarin.Heap.Frame
import Akarin.Heap.Slab

namespace Akarin.Heap

open List FrameAllocator Option Bool
open Lib (runOps Meets run_invariant)

/-! ## Model -/

/-- The part of a usable arena that the boot heap leaves out. -/
def lowRange (arena : Arena) : Option (Nat × Nat) :=
  if arena.kind = .usable ∧ arena.start < min arena.stop LOW_MEM_THRESHOLD then
    some (arena.start, min arena.stop LOW_MEM_THRESHOLD)
  else none

/-- A region as `iter_regions` and `BootUsableRanges` yield it, in physical addresses. -/
def heapRange (region : FreeRegion) : Nat × Nat :=
  let start := region.start - physicalMemoryOffset
  (start, min (start + region.size) (2 ^ 64 - 1))

section

variable (heap : EarlyAllocator)

def bootUsableRanges (map : List Arena) : List (Nat × Nat) :=
  heap.map heapRange ++ map.filterMap lowRange

/-- `boot_usable_range_stats`: how many ranges there are, and how many pages. -/
def bootUsableRangeStats (map : List Arena) : Nat × Nat :=
  (bootUsableRanges heap map).foldl
    (fun (sections, pages) range => (sections + 1, pages + (range.2 - range.1) / PAGE_SIZE)) (0, 0)

/-- `SlubStorage`, by the numbers of sections and of pages it has room for. -/
structure SlubStorage where
  sections : Nat
  pages : Nat

/-- `alloc_slice` of elements of a size, aligned to eight. -/
def allocSlice (elementSize length : Nat) : Option EarlyAllocator :=
  let size := elementSize * max length 1
  if size > 2 ^ 63 - 1 then none else (heap.alloc size 8).map Prod.snd

/-- `alloc_storage`: a section takes 32 bytes, the metadata of a page 16. -/
def allocStorage (sectionCount totalPages : Nat) : Option (SlubStorage × EarlyAllocator) :=
  if sectionCount = 0 ∨ totalPages = 0 then none
  else
    match allocSlice heap 32 sectionCount with
    | none => none
    | some heap => (allocSlice heap 16 totalPages).map fun heap => (⟨sectionCount, totalPages⟩, heap)

end

/-- The loop of `from_storage`. -/
def fillSections (storage : SlubStorage) :
    List (Nat × Nat) → (nextSection nextMeta : Nat) → Option (List SlubSection)
  | [], _, _ => some []
  | range :: ranges, nextSection, nextMeta =>
    let start := alignUp range.1 PAGE_SIZE
    let stop := alignDown range.2 PAGE_SIZE
    if stop ≤ start then fillSections storage ranges nextSection nextMeta
    else
      let pageCount := (stop - start) / PAGE_SIZE
      if nextSection ≥ storage.sections ∨ nextMeta + pageCount > storage.pages then none
      else
        (fillSections storage ranges (nextSection + 1) (nextMeta + pageCount)).map (⟨start, stop⟩ :: ·)

def fromStorage (storage : SlubStorage) (ranges : List (Nat × Nat)) : Option (List SlubSection) :=
  fillSections storage ranges 0 0

/-- Which of the three expectations of `init_frame_allocator` fails. -/
inductive InitPanic where
  | storage
  | sections
  | feed
  deriving DecidableEq

section

variable [LLFree]

/-- What `init_frame_allocator` leaves behind. -/
structure Boot where
  heap : EarlyAllocator
  sections : List SlubSection
  frames : FrameAllocator

/-- The end of the last usable arena. -/
def maxPhys (map : List Arena) : Nat :=
  ((map.filter (·.kind = .usable)).map Arena.stop).foldl max 0

def initFrameAllocator (maxOrder : Nat) (heap : EarlyAllocator) (map : List Arena) :
    Except InitPanic Boot :=
  let (sectionCount, totalPages) := bootUsableRangeStats heap map
  match allocStorage heap sectionCount totalPages with
  | none => .error .storage
  | some (storage, heap) =>
    match fromStorage storage (bootUsableRanges heap map) with
    | none => .error .sections
    | some sections =>
      match (FrameAllocator.new maxOrder (maxPhys map)).feed (bootUsableRanges heap map) with
      | none => .error .feed
      | some frames => .ok ⟨heap, sections, frames⟩

/-- The frame allocator at work. History: the frames that it has handed out. -/
structure FramePool where
  frames : FrameAllocator
  handed : Nat → Bool

/-- Calls that move frames. -/
inductive FrameOp where
  | alloc (zone : Zone) (id num : Nat)
  | dealloc (virt num : Nat)
  /-- `reclaim_reserved_range`. -/
  | reclaim (start stop : Nat)

namespace FramePool

/-- A step that panics leaves the state as it is. -/
def step (pool : FramePool) : FrameOp → FramePool
  | .alloc zone id num =>
    match pool.frames.alloc zone id num with
    | none => pool
    | some (phys, frames) =>
      ⟨frames, fun frame => (phys / PAGE_SIZE ≤ frame && frame < phys / PAGE_SIZE + 2 ^ orderOf num) ||
        pool.handed frame⟩
  | .dealloc virt num =>
    match pool.frames.dealloc virt num with
    | none => pool
    | some frames => { pool with frames := frames }
  | .reclaim start stop =>
    match pool.frames.feed [(start, stop)] with
    | none => pool
    | some frames => { pool with frames := frames }

end FramePool

/-- The frame lies in a section. -/
def hasSection (sections : List SlubSection) (frame : Nat) : Bool :=
  sections.any (·.contains (frame * PAGE_SIZE))

/-- What comes back was handed out, and what is reclaimed has metadata. -/
def Backed (sections : List SlubSection) (pool : FramePool) : FrameOp → Prop
  | .alloc .. => True
  | .dealloc virt num => ∀ phys ∈ virtToPhys virt, ∀ i < 2 ^ orderOf num,
      pool.handed (phys / PAGE_SIZE + i) = true
  | .reclaim start stop => ∀ frame < stop / PAGE_SIZE, alignUp start PAGE_SIZE ≤ frame * PAGE_SIZE →
      hasSection sections frame = true

instance (sections : List SlubSection) (pool : FramePool) (op : FrameOp) :
    Decidable (Backed sections pool op) := by
  cases op <;> unfold Backed <;> infer_instance

end

/-! ## The reservation is large enough -/

/-- The pages of a range, as `boot_usable_range_stats` counts them. -/
def pagesOf (range : Nat × Nat) : Nat := (range.2 - range.1) / PAGE_SIZE

lemma stats_eq (heap : EarlyAllocator) (map : List Arena) : bootUsableRangeStats heap map =
      ((bootUsableRanges heap map).length, ((bootUsableRanges heap map).map pagesOf).sum) := by
  have hfold : ∀ (ranges : List (Nat × Nat)) (sections pages : Nat),
      ranges.foldl (fun (sections, pages) range =>
        (sections + 1, pages + (range.2 - range.1) / PAGE_SIZE)) (sections, pages) =
        (sections + ranges.length, pages + (ranges.map pagesOf).sum) := by
    intro ranges
    induction ranges with
    | nil =>
      intro sections pages
      rfl
    | cons range ranges ih =>
      intro sections pages
      simp only [foldl_cons, ih, length_cons, map_cons, sum_cons, pagesOf]
      congr 1 <;> omega
  rw [bootUsableRangeStats, hfold]
  simp

/-- Rounding to whole pages loses pages and never gains one. -/
lemma wholePages_le (range : Nat × Nat) :
    (alignDown range.2 PAGE_SIZE - alignUp range.1 PAGE_SIZE) / PAGE_SIZE ≤ pagesOf range := by
  simp only [alignDown, alignUp, pagesOf, PAGE_SIZE]
  omega

variable {heap rest : EarlyAllocator} {storage : SlubStorage} {map : List Arena}
  {ranges : List (Nat × Nat)} {sections : List SlubSection}

/-- `from_storage` succeeds if there is room for all of the ranges. -/
lemma fillSections_isSome
    (nextSection nextMeta : Nat) (hsections : nextSection + ranges.length ≤ storage.sections)
    (hpages : nextMeta + (ranges.map pagesOf).sum ≤ storage.pages) :
    ∃ sections, fillSections storage ranges nextSection nextMeta = some sections := by
  induction ranges generalizing nextSection nextMeta with
  | nil => exact ⟨[], rfl⟩
  | cons range ranges ih =>
    have hwhole := wholePages_le range
    simp only [length_cons, map_cons, sum_cons] at hsections hpages
    simp only [fillSections]
    split
    · exact ih nextSection nextMeta (by omega) (by omega)
    · rw [if_neg (by omega)]
      obtain ⟨sections, heq⟩ := ih (nextSection + 1)
        (nextMeta + (alignDown range.2 PAGE_SIZE - alignUp range.1 PAGE_SIZE) / PAGE_SIZE)
        (by omega) (by omega)
      exact ⟨_, by rw [heq]; rfl⟩

/-- The boot heap's part of the statistics. -/
def heapPages (heap : EarlyAllocator) : Nat := (heap.map fun region => pagesOf (heapRange region)).sum

lemma pagesOf_heapRange_mono {r region : FreeRegion} (hstart : r.start = region.start)
    (hsize : r.size ≤ region.size) : pagesOf (heapRange r) ≤ pagesOf (heapRange region) := by
  simp only [pagesOf, heapRange, hstart]
  exact Nat.div_le_div_right (by omega)

/-- Serving a request leaves no more regions, and no more pages in them. -/
lemma allocSlice_shrinks {elementSize length : Nat} (h : allocSlice heap elementSize length = some rest) :
    rest.length ≤ heap.length ∧ heapPages rest ≤ heapPages heap := by
  simp only [allocSlice] at h
  split at h
  · cases h
  · obtain ⟨⟨address, rest'⟩, halloc, rfl⟩ := map_eq_some_iff.1 h
    obtain ⟨before, region, left, after, rfl, rfl, _, hhigh, _, hone, hleft⟩ :=
      EarlyAllocator.allocFrom_cases halloc
    simp only [heapPages, length_append, length_cons, map_append, map_cons, sum_append, sum_cons]
    match left, hone with
    | [], _ => simp only [length_nil, map_nil, sum_nil]; omega
    | [r], _ =>
      have hkept := hleft r (mem_singleton_self r)
      have hmono := pagesOf_heapRange_mono hkept.1 (by simp only [FreeRegion.stop] at *; omega)
      simp only [length_singleton, map_singleton, sum_singleton]
      omega
    | _ :: r :: _, hone => exact ((pairwise_cons.1 hone).1 r (mem_cons_self ..)).elim

lemma allocStorage_shrinks {sectionCount totalPages : Nat}
    (h : allocStorage heap sectionCount totalPages = some (storage, rest)) :
    storage = ⟨sectionCount, totalPages⟩ ∧ rest.length ≤ heap.length ∧
      heapPages rest ≤ heapPages heap := by
  revert h
  fun_cases allocStorage heap sectionCount totalPages with
  | case3 _ mid hsections =>
    intro h
    obtain ⟨rest', hmetas, heq⟩ := map_eq_some_iff.1 h
    obtain ⟨rfl, rfl⟩ := Prod.mk.inj heq
    have hfirst := allocSlice_shrinks hsections
    have hsecond := allocSlice_shrinks hmetas
    exact ⟨rfl, by omega, by omega⟩
  | _ => exact nofun

/-- What the storage was reserved for is not less than what is left to be described. -/
lemma fromStorage_isSome
    (h : allocStorage heap (bootUsableRangeStats heap map).1 (bootUsableRangeStats heap map).2 =
      some (storage, rest)) :
    ∃ sections, fromStorage storage (bootUsableRanges rest map) = some sections := by
  obtain ⟨rfl, hlength, hpages⟩ := allocStorage_shrinks h
  refine fillSections_isSome 0 0 ?_ ?_
  · simp only [stats_eq, bootUsableRanges, length_append, length_map]
    omega
  · simp only [stats_eq, bootUsableRanges, map_append, List.map_map, sum_append]
    simp only [heapPages] at hpages
    have hcomp : pagesOf ∘ heapRange = fun region => pagesOf (heapRange region) := rfl
    rw [hcomp]
    omega

/-! ## The frames have metadata -/

/-- Every whole page of a range is in a section. -/
lemma fillSections_covers {nextSection nextMeta : Nat}
    (h : fillSections storage ranges nextSection nextMeta = some sections) {range : Nat × Nat}
    (hmem : range ∈ ranges) {frame : Nat} (hlow : alignUp range.1 PAGE_SIZE ≤ frame * PAGE_SIZE)
    (hhigh : (frame + 1) * PAGE_SIZE ≤ alignDown range.2 PAGE_SIZE) :
    hasSection sections frame = true := by
  induction ranges generalizing nextSection nextMeta sections with
  | nil => cases hmem
  | cons first ranges ih =>
    simp only [fillSections] at h
    split at h
    · rename_i hempty
      rcases mem_cons.1 hmem with rfl | hrest
      · simp only [PAGE_SIZE] at *
        omega
      · exact ih h hrest
    · split at h
      · cases h
      · obtain ⟨others, hothers, rfl⟩ := map_eq_some_iff.1 h
        simp only [hasSection, any_cons, or_eq_true]
        rcases mem_cons.1 hmem with rfl | hrest
        · refine .inl ?_
          simp only [SlubSection.contains, and_eq_true, decide_eq_true_eq]
          exact ⟨hlow, by simp only [PAGE_SIZE] at *; omega⟩
        · exact .inr (ih hothers hrest)

section

variable [LLFree] {maxOrder : Nat} {boot : Boot}

/-- What `init_frame_allocator` does when it does not panic. -/
lemma initFrameAllocator_ok (h : initFrameAllocator maxOrder heap map = .ok boot) : ∃ storage,
    allocStorage heap (bootUsableRangeStats heap map).1 (bootUsableRangeStats heap map).2 =
      some (storage, boot.heap) ∧
    fromStorage storage (bootUsableRanges boot.heap map) = some boot.sections ∧
    (FrameAllocator.new maxOrder (maxPhys map)).feed (bootUsableRanges boot.heap map) =
      some boot.frames := by
  revert h
  fun_cases initFrameAllocator maxOrder heap map with
  | case4 _ _ hstats storage rest hstorage =>
    rintro ⟨⟩
    rw [hstats]
    exact ⟨storage, hstorage, ‹_›, ‹_›⟩
  | _ => exact nofun

/-- The frames that the frame allocator has, and those that it has handed out, have metadata. -/
structure FramePool.Covered (sections : List SlubSection) (pool : FramePool) : Prop where
  free : ∀ frame, pool.frames.free frame = true → hasSection sections frame = true
  handed : ∀ frame, pool.handed frame = true → hasSection sections frame = true

/-- The pool right after `init_frame_allocator`. -/
def Boot.pool (boot : Boot) : FramePool := ⟨boot.frames, fun _ => false⟩

lemma Boot.covered
    (h : initFrameAllocator maxOrder heap map = .ok boot) : boot.pool.Covered boot.sections := by
  obtain ⟨storage, _, hsections, hfeed⟩ := initFrameAllocator_ok h
  refine ⟨fun frame hfree => ?_, nofun⟩
  rcases feed_free hfeed hfree with hnew | ⟨range, hmem, hlow, hhigh⟩
  · cases (FrameAllocator.new_free ..).symm.trans hnew
  · exact fillSections_covers hsections hmem hlow hhigh

lemma FramePool.Covered.step_covered {pool : FramePool} {op : FrameOp}
    (h : pool.Covered sections) (hop : Backed sections pool op) : (pool.step op).Covered sections := by
  cases op with
  | alloc zone id num =>
    simp only [FramePool.step]
    split
    · exact h
    · rename_i phys frames halloc
      obtain ⟨_, _, hblock, hless⟩ := alloc_spec halloc
      refine ⟨fun frame hfree => h.free frame (hless frame hfree), fun frame hhanded => ?_⟩
      simp only [or_eq_true, and_eq_true, decide_eq_true_eq] at hhanded
      rcases hhanded with ⟨hlow, hhigh⟩ | hold
      · exact h.free frame (hblock frame hlow hhigh).1
      · exact h.handed frame hold
  | dealloc virt num =>
    simp only [FramePool.step]
    split
    · exact h
    · rename_i frames hdealloc
      refine ⟨fun frame hfree => ?_, h.handed⟩
      rcases dealloc_free hdealloc hfree with hold | ⟨phys, hphys, hlow, hhigh⟩
      · exact h.free frame hold
      · have hhanded := hop phys hphys (frame - phys / PAGE_SIZE) (by omega)
        rw [Nat.add_sub_cancel' hlow] at hhanded
        exact h.handed frame hhanded
  | reclaim start stop =>
    simp only [FramePool.step]
    split
    · exact h
    · rename_i frames hfeed
      refine ⟨fun frame hfree => ?_, h.handed⟩
      rcases feed_free hfeed hfree with hold | ⟨range, hmem, hlow, hhigh⟩
      · exact h.free frame hold
      · obtain rfl := mem_singleton.1 hmem
        refine hop frame ?_ hlow
        simp only [alignDown, PAGE_SIZE] at *
        omega

end

/-! ## The slab allocator finds the metadata -/

namespace Slab

/-- The pages that the caches hold have metadata. -/
def CurrentMeta (s : Slab) : Prop :=
  ∀ cache k, s.current cache k ≠ 0 → s.hasMeta (s.current cache k) = true

variable {s s' : Slab}

lemma CurrentMeta.congr (h : s.CurrentMeta) (hsections : s'.sections = s.sections)
    (hcaches : s'.caches = s.caches) : s'.CurrentMeta := by
  intro cache k hne
  simp only [current, hasMeta, hcaches, hsections] at hne ⊢
  exact h cache k hne

lemma releaseCacheReference_sections (s : Slab) (page : Nat) :
    (s.releaseCacheReference page).sections = s.sections ∧
      (s.releaseCacheReference page).caches = s.caches := by
  simp only [releaseCacheReference]
  split <;> exact ⟨rfl, rfl⟩

/-- A slot holds what it held, or what was written. -/
lemma current_setCurrent_cases (s : Slab) (cache k page cache' k' : Nat) :
    (s.setCurrent cache k page).current cache' k' = s.current cache' k' ∨
      (s.setCurrent cache k page).current cache' k' = page := by
  unfold setCurrent
  split
  · exact .inl rfl
  · rename_i slots hslots
    simp only [current]
    by_cases hcache : cache' = cache
    · subst hcache
      rw [getElem?_set_self (List.getElem?_eq_some_iff.1 hslots).1, hslots]
      by_cases hk : k' = k ∧ k < slots.length
      · obtain ⟨rfl, hlt⟩ := hk
        exact .inr (by simp [getElem?_set_self hlt])
      · refine .inl ?_
        by_cases heq : k' = k
        · have hlen : slots.length ≤ k := by omega
          simp [heq, set_eq_of_length_le hlen]
        · simp [getElem?_set_ne (Ne.symm heq)]
    · exact .inl (by rw [getElem?_set_ne (Ne.symm hcache)])

variable (h : s.CurrentMeta)
include h

variable (cache k : Nat)

/-- Writing a slot puts a page with metadata, or none, into it. -/
lemma CurrentMeta.setCurrent {page : Nat}
    (hpage : page ≠ 0 → s.hasMeta page = true) : (s.setCurrent cache k page).CurrentMeta := by
  intro cache' k' hne
  have hmeta : ∀ phys, (s.setCurrent cache k page).hasMeta phys = s.hasMeta phys := by
    intro phys
    rw [hasMeta, setCurrent_sections, hasMeta]
  rw [hmeta]
  rcases current_setCurrent_cases s cache k page cache' k' with heq | heq
  · rw [heq] at hne ⊢
    exact h cache' k' hne
  · rw [heq] at hne ⊢
    exact hpage hne

/-- The cache lets its current page go. -/
lemma CurrentMeta.letGo (page : Nat) : ((s.setCurrent cache k 0).releaseCacheReference page).CurrentMeta ∧
      ((s.setCurrent cache k 0).releaseCacheReference page).sections = s.sections := by
  obtain ⟨hsections, hcaches⟩ := releaseCacheReference_sections (s.setCurrent cache k 0) page
  have hempty : (s.setCurrent cache k 0).CurrentMeta :=
    h.setCurrent cache k fun hne => absurd rfl hne
  exact ⟨hempty.congr hsections hcaches, hsections.trans (setCurrent_sections s cache k 0)⟩

lemma CurrentMeta.takeObject (page : Nat) :
    (s.takeObject cache k page).CurrentMeta ∧ (s.takeObject cache k page).sections = s.sections := by
  have htaken : ∀ head refcount, ((s.setFreeHead page head).setRefcount page refcount).CurrentMeta :=
    fun head refcount => h.congr rfl rfl
  simp only [Slab.takeObject]
  split
  · obtain ⟨hmeta, hsections⟩ := (htaken _ _).letGo cache k page
    exact ⟨hmeta.congr rfl rfl, hsections⟩
  · exact ⟨h.congr rfl rfl, rfl⟩

lemma CurrentMeta.installPage {page : Nat} (hpage : s.hasMeta page = true) :
    (s.installPage cache k page).CurrentMeta ∧ (s.installPage cache k page).sections = s.sections := by
  have hinit : ({ s with pages := (page, k) :: s.pages }.initializePage page (objectSize k)
      |>.setRefcount page 1).CurrentMeta := h.congr rfl rfl
  exact ⟨hinit.setCurrent cache k fun _ => hpage, setCurrent_sections ..⟩

/-- One turn of the loop does not panic. -/
lemma CurrentMeta.tryCurrent : match s.tryCurrent cache k with
    | .finished s' result => s'.CurrentMeta ∧ s'.sections = s.sections ∧ result ≠ .panicked
    | .exhausted s' => s'.CurrentMeta ∧ s'.sections = s.sections := by
  fun_cases Slab.tryCurrent s cache k with
  | case1 => exact ⟨h, rfl⟩
  | case2 _ hzero hmeta =>
    rw [h cache k hzero] at hmeta
    cases hmeta
  | case3 page => exact h.letGo cache k page
  | case4 page =>
    obtain ⟨hcurrent, hsections⟩ := h.takeObject cache k page
    exact ⟨hcurrent, hsections, nofun⟩

/-- `alloc` does not panic as long as the pages it is given have metadata. -/
lemma CurrentMeta.alloc {frames : List Nat} (hframes : ∀ page ∈ frames, s.hasMeta page = true) :
    (s.alloc cache k frames).1.CurrentMeta ∧ (s.alloc cache k frames).1.sections = s.sections ∧
      (s.alloc cache k frames).2 ≠ .panicked := by
  induction frames generalizing s with
  | nil =>
    have hturn := h.tryCurrent cache k
    cases hattempt : s.tryCurrent cache k with
    | finished s' result =>
      simp only [Slab.alloc, hattempt] at hturn ⊢
      exact hturn
    | exhausted s' =>
      simp only [Slab.alloc, hattempt] at hturn ⊢
      exact ⟨hturn.1, hturn.2, by simp⟩
  | cons page frames ih =>
    have hturn := h.tryCurrent cache k
    cases hattempt : s.tryCurrent cache k with
    | finished s' result =>
      simp only [Slab.alloc, hattempt] at hturn ⊢
      exact hturn
    | exhausted s' =>
      simp only [hattempt] at hturn
      have hmeta : ∀ phys, s'.hasMeta phys = s.hasMeta phys := by
        intro phys
        rw [hasMeta, hturn.2, hasMeta]
      have hpage : s'.hasMeta page = true := by
        rw [hmeta]
        exact hframes page (mem_cons_self ..)
      simp only [Slab.alloc, hattempt, if_pos hpage]
      obtain ⟨hinstalled, hsections⟩ := hturn.1.installPage cache k hpage
      obtain ⟨hcurrent, hrest, hpanic⟩ := ih hinstalled fun other hother => by
        rw [hasMeta, hsections, hturn.2]
        exact hframes other (mem_cons_of_mem _ hother)
      exact ⟨hcurrent, hrest.trans (hsections.trans hturn.2), hpanic⟩

lemma CurrentMeta.dealloc (ptr size align : Nat) : (s.dealloc cache ptr size align).CurrentMeta ∧
      (s.dealloc cache ptr size align).sections = s.sections := by
  fun_cases Slab.dealloc s cache ptr size align with
  | case3 k _ page _ hpage =>
    fun_cases deallocObject with
    | case2 =>
      -- the cache takes the page up, whose metadata was found
      constructor
      · apply CurrentMeta.setCurrent
        · exact h.congr rfl rfl
        · exact fun _ => hpage
      · rw [setCurrent_sections]
        rfl
    | _ => exact ⟨h.congr rfl rfl, rfl⟩
  | _ => exact ⟨h, rfl⟩

lemma CurrentMeta.releaseSlots (ks : List Nat) :
    (s.releaseSlots cache ks).CurrentMeta ∧ (s.releaseSlots cache ks).sections = s.sections := by
  fun_induction Slab.releaseSlots s cache ks with
  | case1 | case3 => exact ⟨h, rfl⟩
  | case2 _ _ _ _ _ ih => exact ih h
  | case4 s k ks _ _ _ ih =>
    obtain ⟨hsections, hcaches⟩ := releaseCacheReference_sections s (s.current cache k)
    obtain ⟨hmeta, heq⟩ := ih ((h.congr hsections hcaches).setCurrent cache k fun hne => absurd rfl hne)
    exact ⟨hmeta, heq.trans ((setCurrent_sections ..).trans hsections)⟩

/-- The pages that an operation is given. -/
def framesOf : SlabOp → List Nat
  | .alloc _ _ _ frames => frames
  | _ => []

lemma CurrentMeta.step {op : SlabOp} (hframes : ∀ page ∈ framesOf op, s.hasMeta page = true) :
    (s.step op).CurrentMeta ∧ (s.step op).sections = s.sections := by
  cases op with
  | alloc cache size align frames =>
    simp only [Slab.step]
    split
    · exact ⟨h, rfl⟩
    · obtain ⟨hmeta, hsections, _⟩ := h.alloc cache _ hframes
      exact ⟨hmeta, hsections⟩
  | dealloc cache ptr size align => exact h.dealloc cache ptr size align
  | release cache => exact h.releaseSlots cache _
  | store address value => exact ⟨h.congr rfl rfl, rfl⟩

end Slab

/-! ## Pages and objects together -/

section

variable [LLFree]

/-- The frame allocator and the slab allocator that turns to it. A page that the slab allocator asks for
or gives back is an operation on the frames of its own. -/
structure PageWorld where
  pool : FramePool
  slab : Slab

/-- Calls on frames or on the slab. -/
inductive PageOp where
  | frame (op : FrameOp)
  | slab (op : SlabOp)

namespace PageWorld

def step (w : PageWorld) : PageOp → PageWorld
  | .frame op => { w with pool := w.pool.step op }
  | .slab op => { w with slab := w.slab.step op }

def run (w : PageWorld) (ops : List PageOp) : PageWorld := runOps step w ops

/-- The page was handed out by the frame allocator. -/
def Handed (w : PageWorld) (page : Nat) : Prop :=
  page % PAGE_SIZE = 0 ∧ w.pool.handed (page / PAGE_SIZE) = true
deriving Decidable

/-- The slab allocator works on pages that the frame allocator has handed out, and what comes back to the
frame allocator is backed. -/
def Meant (w : PageWorld) : PageOp → Prop
  | .frame op => Backed w.slab.sections w.pool op
  | .slab op => ∀ page ∈ Slab.framesOf op, w.Handed page

instance (w : PageWorld) (op : PageOp) : Decidable (w.Meant op) := by
  cases op <;> unfold Meant <;> infer_instance

/-- Right after `init_frame_allocator`, with empty caches. -/
def ofBoot (boot : Boot) (memory : Nat → Nat) (cacheCount : Nat) : PageWorld where
  pool := boot.pool
  slab := .new boot.sections memory cacheCount

/-- Every frame that the frame allocator can return lies in a section, and the slab allocator does not
miss the metadata of a page that it is given. -/
def MetadataLaw (w : PageWorld) : Prop :=
  (∀ zone id num phys frames, w.pool.frames.alloc zone id num = some (phys, frames) →
    ∀ i < 2 ^ orderOf num, hasSection w.slab.sections (phys / PAGE_SIZE + i) = true) ∧
  ∀ cache k frames, (∀ page ∈ frames, w.Handed page) → (w.slab.alloc cache k frames).2 ≠ .panicked

/-- Every page the slab may own has metadata. -/
structure Sound (w : PageWorld) : Prop where
  covered : w.pool.Covered w.slab.sections
  currentMeta : w.slab.CurrentMeta

variable {w : PageWorld}

lemma Sound.hasMeta (h : w.Sound) {page : Nat} (hpage : w.Handed page) : w.slab.hasMeta page = true := by
  have hsection := h.covered.handed _ hpage.2
  have heq : page / PAGE_SIZE * PAGE_SIZE = page :=
    Nat.div_mul_cancel (Nat.dvd_of_mod_eq_zero hpage.1)
  rw [hasSection, heq] at hsection
  exact hsection

lemma Sound.law (h : w.Sound) : w.MetadataLaw := by
  refine ⟨fun zone id num phys frames halloc i hi => ?_, fun cache k frames hframes => ?_⟩
  · obtain ⟨_, _, hblock, _⟩ := alloc_spec halloc
    exact h.covered.free _ (hblock _ (Nat.le_add_right ..) (by omega)).1
  · exact (h.currentMeta.alloc cache k fun page hpage => h.hasMeta (hframes page hpage)).2.2

lemma step_sound (h : w.Sound) {op : PageOp} (hop : w.Meant op) : (w.step op).Sound := by
  cases op with
  | frame op => exact ⟨h.covered.step_covered hop, h.currentMeta⟩
  | slab op =>
    obtain ⟨hmeta, hsections⟩ :=
      h.currentMeta.step fun page hpage => h.hasMeta (hop page hpage)
    refine ⟨?_, hmeta⟩
    show w.pool.Covered (w.slab.step op).sections
    rw [hsections]
    exact h.covered

lemma ofBoot_sound {maxOrder : Nat} {boot : Boot}
    (h : initFrameAllocator maxOrder heap map = .ok boot) (memory : Nat → Nat) (cacheCount : Nat) :
    (ofBoot boot memory cacheCount).Sound := by
  refine ⟨Boot.covered h, fun cache k hne => absurd ?_ hne⟩
  -- the caches are empty
  simp only [ofBoot, Slab.new, Slab.current, getElem?_replicate]
  split
  · simp only [bind_some, getElem?_replicate]
    split <;> rfl
  · rfl

end PageWorld

/-- `from_storage` does not fail. After `init_frame_allocator`, in every run in which the frames that come
back were handed out before and the ranges that are reclaimed have metadata, the frames of the allocator
have metadata. -/
theorem metadataLaw_of_backed (maxOrder : Nat) (heap : EarlyAllocator) (map : List Arena)
    (memory : Nat → Nat) (cacheCount : Nat) : initFrameAllocator maxOrder heap map ≠ .error .sections ∧
    ∀ boot, initFrameAllocator maxOrder heap map = .ok boot →
      ∀ ops, Meets PageWorld.step PageWorld.Meant (PageWorld.ofBoot boot memory cacheCount) ops →
        ((PageWorld.ofBoot boot memory cacheCount).run ops).MetadataLaw := by
  constructor
  · simp only [initFrameAllocator]
    split
    · exact nofun
    · rename_i storage rest hstorage
      obtain ⟨sections, hsections⟩ := fromStorage_isSome hstorage
      rw [hsections]
      simp only
      split <;> exact nofun
  · intro boot hboot ops hops
    have hsound := run_invariant (I := PageWorld.Sound) (fun w op hw hop => PageWorld.step_sound hw hop)
      (PageWorld.ofBoot_sound hboot memory cacheCount) hops
    exact hsound.law

end

/-- 512 KiB below and 496 KiB above the stack that the kernel has started on. -/
def stackMap : List Arena :=
  [⟨0x100000, 0x180000, .usable⟩, ⟨0x180000, 0x184000, .kernelStack⟩, ⟨0x184000, 0x200000, .usable⟩]

/-- The world after `init_boot_heap` and `init_frame_allocator`. -/
def stackWorld : Option PageWorld :=
  match initFrameAllocator 18 (.initFromMap [] stackMap) stackMap with
  | .ok boot => some (PageWorld.ofBoot boot (fun _ => 0) 1)
  | .error _ => none

/-- A page for objects, and a block of two pages that comes back. -/
def pageDay : List PageOp :=
  [.frame (.alloc .dma32 0 1), .slab (.alloc 0 24 8 [0x100000]), .frame (.alloc .dma32 2 2),
    .frame (.dealloc (physToVirt 0x102000) 2), .slab (.dealloc 0 (physToVirt 0x100000) 24 8)]

theorem metadataLaw_pageDay : ∃ w ∈ stackWorld, (w.run pageDay).MetadataLaw := by
  have hmeets : (match stackWorld with
      | some w => decide (Meets PageWorld.step PageWorld.Meant w pageDay)
      | none => false) = true := by decide +kernel
  unfold stackWorld at hmeets ⊢
  cases hboot : initFrameAllocator 18 (EarlyAllocator.initFromMap [] stackMap) stackMap with
  | ok boot =>
    rw [hboot] at hmeets
    exact ⟨_, rfl, (metadataLaw_of_backed 18 (.initFromMap [] stackMap) stackMap
      (fun _ => 0) 1).2 boot hboot pageDay (of_decide_eq_true hmeets)⟩
  | error _ =>
    rw [hboot] at hmeets
    cases hmeets

/-- The scheduler reclaims the stack, and a page of it goes to the slab allocator. -/
def stackReclaimed : List PageOp :=
  [.frame (.reclaim 0x180000 0x184000), .frame (.alloc .dma32 0x80 1)]

/-- The stack was not usable memory at boot: its frames are handed out, and they have no metadata. -/
theorem metadataLaw_fails : ∃ w ∈ stackWorld, ¬ (w.run stackReclaimed).MetadataLaw := by
  have hpanic : (match stackWorld with
      | some w => decide ((w.run stackReclaimed).Handed 0x180000 ∧
          ((w.run stackReclaimed).slab.alloc 0 0 [0x180000]).2 = .panicked)
      | none => false) = true := by decide +kernel
  cases hworld : stackWorld with
  | some w =>
    rw [hworld] at hpanic
    obtain ⟨hhanded, hresult⟩ := of_decide_eq_true hpanic
    exact ⟨w, rfl, fun hlaw => hlaw.2 0 0 [0x180000] (forall_mem_singleton.2 hhanded) hresult⟩
  | none =>
    rw [hworld] at hpanic
    cases hpanic

end Akarin.Heap
