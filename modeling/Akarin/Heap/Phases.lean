/-
# Akarin.Heap.Phases -- live blocks across the phases

As long as the boot heap serves, the live blocks are what has been cut out of its free regions. When it is
left, the frame allocator and the sections get whole pages of what is free, so that a block of the boot
heap has no byte in a free frame and no page with metadata: it is an object of no slab page, and freeing
it as a small one does nothing. From then on a block is an object of a slab page, or it lies outside of
the free frames and of the slab pages (`BlockSound`).
-/
import Akarin.Heap.Subsystem

namespace Akarin.Heap

open List Option EarlyAllocator Block FrameAllocator Bool

/-! ## Orders -/

lemma le_two_pow_orderOf (n : Nat) : n ≤ 2 ^ orderOf n := by
  unfold orderOf
  split
  · simpa using ‹n ≤ 1›
  · have hlt := Nat.lt_log2_self (n := n - 1)
    omega

variable {n m : Nat}

lemma orderOf_mono (h : n ≤ m) : orderOf n ≤ orderOf m := by
  unfold orderOf
  split
  · exact Nat.zero_le _
  · rw [if_neg (by omega)]
    refine Nat.succ_le_succ ((Nat.le_log2 (by omega)).2 ?_)
    have hself := Nat.log2_self_le (show n - 1 ≠ 0 by omega)
    omega

lemma powerOfTwo_iff : powerOfTwo n = true ↔ n = 2 ^ orderOf n := by
  rw [powerOfTwo, beq_iff_eq]
  exact eq_comm

/-- Of two powers of two the smaller divides the larger. -/
lemma powerOfTwo_dvd (hn : powerOfTwo n = true) (hle : n ≤ 2 ^ m) : n ∣ 2 ^ m := by
  rw [powerOfTwo_iff.1 hn] at hle ⊢
  exact Nat.pow_dvd_pow 2 ((Nat.pow_le_pow_iff_right (by decide)).1 hle)

lemma alignedPageCount_spec {numPages alignment count : Nat}
    (h : alignedPageCount numPages alignment = some count) :
    numPages ≤ count ∧ pageCount (max alignment PAGE_SIZE) ≤ count := by
  have hchecked : ∀ {n p}, checkedNextPowerOfTwo n = some p → n ≤ p := by
    intro n p hp
    unfold checkedNextPowerOfTwo at hp
    split at hp
    · cases hp
      exact le_two_pow_orderOf n
    · cases hp
  unfold alignedPageCount at h
  split at h
  · rename_i pages alignPages hpages halign
    cases h
    have hfirst := hchecked hpages
    have hsecond := hchecked halign
    omega
  · cases h

lemma size_le_pageCount (size : Nat) : size ≤ pageCount size * PAGE_SIZE := by
  simp only [pageCount, PAGE_SIZE]
  omega

/-! ## What a call of the slab allocator leaves as it is -/

namespace Slab

/-- The sections and the number of caches are kept, and there are no new pages. -/
structure Keeps (s s' : Slab) : Prop where
  sections : s'.sections = s.sections
  caches : s'.caches.length = s.caches.length
  pages : ∀ page ∈ s'.pages, page ∈ s.pages

variable {s s' s'' : Slab}

lemma Keeps.refl (s : Slab) : s.Keeps s := ⟨rfl, rfl, fun _ h => h⟩

lemma Keeps.trans (h : s.Keeps s') (h' : s'.Keeps s'') : s.Keeps s'' :=
  ⟨h'.sections.trans h.sections, h'.caches.trans h.caches, fun page hpage => h.pages page (h'.pages page hpage)⟩

section

variable (s : Slab)

lemma keeps_setCurrent (cache k page : Nat) : s.Keeps (s.setCurrent cache k page) :=
  ⟨setCurrent_sections .., length_caches_setCurrent .., fun p hp => by simpa using hp⟩

lemma keeps_releaseCacheReference (page : Nat) : s.Keeps (s.releaseCacheReference page) := by
  simp only [releaseCacheReference]
  split
  · exact ⟨rfl, rfl, fun p hp => mem_of_mem_filter hp⟩
  · exact ⟨rfl, rfl, fun p hp => hp⟩

lemma keeps_takeObject (cache k page : Nat) : s.Keeps (s.takeObject cache k page) := by
  have hletGo : ∀ t : Slab, s.Keeps t → s.Keeps ((t.setCurrent cache k 0).releaseCacheReference page) :=
    fun t ht => (ht.trans (keeps_setCurrent t cache k 0)).trans (keeps_releaseCacheReference _ page)
  simp only [takeObject]
  split
  · have htaken : ∀ head refcount, s.Keeps ((s.setFreeHead page head).setRefcount page refcount) :=
      fun head refcount => ⟨rfl, rfl, fun _ hp => hp⟩
    exact ⟨(hletGo _ (htaken _ _)).sections, (hletGo _ (htaken _ _)).caches, (hletGo _ (htaken _ _)).pages⟩
  · exact ⟨rfl, rfl, fun p hp => hp⟩

lemma keeps_dealloc (cache ptr size align : Nat) : s.Keeps (s.dealloc cache ptr size align) := by
  fun_cases dealloc s cache ptr size align with
  | case3 =>
    fun_cases deallocObject with
    | case1 => exact ⟨rfl, rfl, fun p hp => mem_of_mem_filter hp⟩
    | case2 =>
      refine ⟨setCurrent_sections .., length_caches_setCurrent .., fun p hp => ?_⟩
      rw [setCurrent_pages] at hp
      exact hp
    | case3 => exact ⟨rfl, rfl, fun p hp => hp⟩
  | _ => exact .refl s

lemma keeps_releaseSlots (cache : Nat) (ks : List Nat) : s.Keeps (s.releaseSlots cache ks) := by
  fun_induction releaseSlots s cache ks with
  | case1 | case3 => exact .refl _
  | case2 => assumption
  | case4 s k ks _ _ _ ih =>
    exact ((keeps_releaseCacheReference s _).trans (keeps_setCurrent _ cache k 0)).trans ih

lemma releaseSlots_live (cache : Nat) (ks : List Nat) : (s.releaseSlots cache ks).live = s.live := by
  fun_induction releaseSlots s cache ks with
  | case1 | case3 => rfl
  | case2 => assumption
  | case4 s k ks _ _ _ ih => rw [ih, setCurrent_live, releaseCacheReference_live]

end

variable {cache ptr size align k page : Nat}

lemma dealloc_live (hk : classIndex size align = some k) (hpage : pageBaseForPtr ptr = some page)
    (hmeta : s.hasMeta page = true) : (s.dealloc cache ptr size align).live = s.live.erase (ptr, k) := by
  simp only [dealloc, hk, hpage, hmeta, if_true, deallocObject]
  split
  · rfl
  · split
    · rw [setCurrent_live]
      rfl
    · rfl

/-- An object whose page has no metadata is left alone. -/
lemma dealloc_of_not_hasMeta (h : ∀ page, pageBaseForPtr ptr = some page → s.hasMeta page = false) :
    s.dealloc cache ptr size align = s := by
  unfold dealloc
  split
  · rfl
  · split
    · rfl
    · rename_i page hpage
      rw [h page hpage]
      rfl

/-- Without a frame the call is served from the current page, or there is none. -/
lemma Balanced.alloc_nil (h : s.Sound) (hcache : cache < s.caches.length) (k : Nat) :
    (s.alloc cache k [] = (s, .outOfMemory) ∧ s.current cache k = 0) ∨
      ∃ t a, s.alloc cache k [] = (t, .object a) ∧ t.Sound ∧ t.live = (a, k) :: s.live ∧ s.Keeps t := by
  by_cases hcurrent : s.current cache k = 0
  · exact .inl ⟨by simp [alloc, tryCurrent, hcurrent], hcurrent⟩
  · have halloc := h.alloc_of_current hcurrent []
    have hsound := h.takeObject hcache rfl hcurrent
    exact .inr ⟨_, _, halloc, hsound, takeObject_live .., keeps_takeObject ..⟩

/-- With a frame that is new and has metadata the call is served from the frame. -/
lemma Balanced.alloc_one (h : s.Sound) (hcache : cache < s.caches.length)
    (hk : k < SIZE_CLASSES.length) (hcurrent : s.current cache k = 0) (hne : page ≠ 0)
    (haligned : page % PAGE_SIZE = 0) (hfresh : page ∉ s.pages.map Prod.fst) :
    (∃ t, s.alloc cache k [page] = (t, .panicked)) ∨
      ∃ t a, s.alloc cache k [page] = (t, .object a) ∧ t.Sound ∧ t.live = (a, k) :: s.live ∧
        t.sections = s.sections ∧ t.caches.length = s.caches.length ∧
        ∀ p ∈ t.pages, p ∈ s.pages ∨ p = (page, k) := by
  rw [alloc_of_none hcurrent]
  by_cases hmeta : s.hasMeta page = true
  · have hinstalled := h.installPage hcache hk hcurrent hne haligned hmeta hfresh
    have hcur : (s.installPage cache k page).current cache k = page :=
      installPage_current hcache h.slots hk
    have hcache' : cache < (s.installPage cache k page).caches.length := by simpa using hcache
    rcases hinstalled.alloc_nil hcache' k with ⟨_, hzero⟩ | ⟨t, a, heq, hsound, hlive, hkeeps⟩
    · rw [hcur] at hzero
      exact absurd hzero hne
    · rw [if_pos hmeta]
      refine .inr ⟨t, a, heq, hsound, ?_, ?_, ?_, fun p hp => ?_⟩
      · rw [hlive, installPage_live]
      · rw [hkeeps.sections]
        exact setCurrent_sections ..
      · rw [hkeeps.caches, length_caches_installPage]
      · have hin := hkeeps.pages p hp
        simp only [Slab.installPage, setCurrent_pages, initializePage, setRefcount, setFreeHead,
          mem_cons] at hin
        exact hin.symm
  · rw [if_neg hmeta]
    exact .inl ⟨_, rfl⟩

lemma Balanced.div_mul_page (h : s.Sound) (hpage : (page, k) ∈ s.pages) :
    page / PAGE_SIZE * PAGE_SIZE = page :=
  Nat.div_mul_cancel (Nat.dvd_of_mod_eq_zero (h.page page k hpage).aligned)

/-- A store that meets no object of a page leaves the lists alone. -/
lemma Balanced.write_outside (h : s.Sound) {address : Nat}
    (hout : ∀ page k, (page, k) ∈ s.pages → address ∉ objects page k) (value : Nat) :
    (s.write address value).Sound := by
  refine { h with page := fun page k hpage => ?_ }
  have hsound := h.page page k hpage
  obtain ⟨free, hchain, hnodup, hfree⟩ := hsound.free_list
  have hchain' := hchain.update (fun hmem => hout page k hpage ((hfree address).1 hmem).1) value
  exact { hsound with free_list := ⟨free, hchain', hnodup, hfree⟩ }

end Slab

/-! ## Giving pages back -/

lemma virtToPhys_physToVirt (phys : Nat) : virtToPhys (physToVirt phys) = some phys := by
  simp [virtToPhys, physToVirt]

lemma physToVirt_virtToPhys {virt phys : Nat} (h : virtToPhys virt = some phys) :
    physToVirt phys = virt := by
  unfold virtToPhys at h
  split at h
  · rw [physToVirt, ← some.inj h]
    exact Nat.sub_add_cancel ‹_›
  · cases h

/-- What becomes free are pages that the slab allocator has had. -/
lemma Runtime.settle_free [LLFree] {r r' : Runtime} {frames : FrameAllocator} {slab : Slab}
    (h : r.settle frames slab = some r') : r'.slab = slab ∧
      ∀ frame, r'.frames.free frame = true → frames.free frame = true ∨
        ∃ page k, (page, k) ∈ r.slab.pages ∧ (page, k) ∉ slab.pages ∧ frame = page / PAGE_SIZE := by
  obtain ⟨frames', hfold, rfl⟩ := map_eq_some_iff.1 h
  refine ⟨rfl, fun frame hfree => ?_⟩
  have hstep : ∀ (pages : List (Nat × Nat)) (frames : FrameAllocator),
      pages.foldlM (fun (frames : FrameAllocator) page => frames.dealloc (physToVirt page.1) 1) frames =
        some frames' →
      frames.free frame = true ∨ ∃ page ∈ pages, frame = page.1 / PAGE_SIZE := by
    intro pages
    induction pages with
    | nil =>
      intro frames hdone
      cases hdone
      exact .inl hfree
    | cons page pages ih =>
      intro frames hdone
      rw [foldlM_cons] at hdone
      obtain ⟨next, hdealloc, hrest⟩ := bind_eq_some_iff.1 hdone
      rcases ih next hrest with hnext | ⟨other, hmem, heq⟩
      · rcases dealloc_free hdealloc hnext with hold | ⟨phys, hphys, hlow, hhigh⟩
        · exact .inl hold
        · rw [virtToPhys_physToVirt] at hphys
          cases hphys
          have hone : 2 ^ orderOf 1 = 1 := rfl
          exact .inr ⟨page, mem_cons_self .., by omega⟩
      · exact .inr ⟨other, mem_cons_of_mem _ hmem, heq⟩
  rcases hstep _ frames hfold with hold | ⟨⟨page, k⟩, hmem, heq⟩
  · exact .inl hold
  · obtain ⟨hin, hout⟩ := mem_filter.1 hmem
    exact .inr ⟨page, k, hin, by simpa using hout, heq⟩

/-! ## The invariant -/

/-- The bytes that are set aside for a block: with frames the ones that go back with it. -/
def Block.extent (b : Block) : Nat :=
  match b.home with
  | .boot => max b.size 1
  | .object k => objectSize k
  | .frames => 2 ^ orderOf (pageCount b.size) * PAGE_SIZE

def Block.Holds (b : Block) (byte : Nat) : Prop := b.start ≤ byte ∧ byte < b.start + b.extent

/-- The two extents have no byte in common. -/
def Block.Clear (a b : Block) : Prop := a.start + a.extent ≤ b.start ∨ b.start + b.extent ≤ a.start

/-- The block is no object of a slab page. -/
def Block.Solid (b : Block) : Prop := ∀ k, b.home ≠ .object k

section

variable [LLFree] (r : Runtime) (b : Block)

/-- No byte of the block is in a free frame or in a slab page. -/
def Outside : Prop :=
  ∀ byte, b.Holds byte → (∀ frame, r.frames.free frame = true → ¬ InPage (frame * PAGE_SIZE) byte) ∧
    ∀ page k, (page, k) ∈ r.slab.pages → ¬ InPage page byte

/-- No byte of the block is in a page with metadata. -/
def Untracked : Prop :=
  ∀ byte, b.Holds byte → ∀ page, page % PAGE_SIZE = 0 → r.slab.hasMeta page = true → ¬ InPage page byte

/-- Where the block is, by where it came from. -/
def Placed : Prop :=
  match b.home with
  | .object k => (b.start, k) ∈ r.slab.live ∧ classIndex b.size b.align = some k ∧ b.paged = false
  | .frames => Outside r b ∧ b.start % PAGE_SIZE = 0 ∧ physicalMemoryOffset ≤ b.start ∧
      (b.paged = false → isSmallLayout b.size b.align = false)
  | .boot => Outside r b ∧ Untracked r b

/-- The block is aligned, in its place, and not larger than what is set aside for it. -/
structure BlockSound : Prop where
  aligned : b.start % b.align = 0
  fits : b.size ≤ b.extent
  placed : Placed r b

end

/-- The state of the frame and slab allocators and the live blocks fit together. -/
structure RuntimeSound [LLFree] (r : Runtime) (live : List Block) : Prop where
  slab : r.slab.Sound
  taken : ∀ page k, (page, k) ∈ r.slab.pages → r.frames.free (page / PAGE_SIZE) = false
  starts : (live.map start).Nodup
  block : ∀ b ∈ live, BlockSound r b
  solid : ∀ a ∈ live, ∀ b ∈ live, a.Solid → b.Solid → a.start ≠ b.start → a.Clear b
  bootstrap : 0 < r.slab.caches.length

/-- The state of the boot heap and the live blocks fit together. -/
structure BootSound (heap : EarlyAllocator) (live : List Block) : Prop where
  tidy : heap.Tidy
  above : ∀ byte, heap.Free byte → physToVirt LOW_MEM_THRESHOLD ≤ byte
  home : ∀ b ∈ live, b.home = .boot
  aligned : ∀ b ∈ live, b.start % b.align = 0
  start : ∀ b ∈ live, physToVirt LOW_MEM_THRESHOLD ≤ b.start
  taken : ∀ b ∈ live, ∀ byte, b.Holds byte → ¬ heap.Free byte
  apart : live.Pairwise Block.Clear

/-- What holds between two calls, by whether the boot heap still serves. -/
def MemorySubsystem.Sound [LLFree] (m : MemorySubsystem) : Prop :=
  match m.runtime with
  | none => m.phase = .bootHeap ∧ BootSound m.heap m.live
  | some r => (m.phase = .bootstrapSlub ∨ m.phase = .perCpuSlub) ∧ RuntimeSound r m.live

/-! ### Blocks -/

section Blocks

variable {b c : Block} {live : List Block} {byte k frame : Nat}

lemma Block.extent_pos (b : Block) (hclass : ∀ k, b.home = .object k → k < SIZE_CLASSES.length) :
    0 < b.extent := by
  unfold extent
  split
  · omega
  · rename_i k hk
    have hsize := (objectSize_spec (hclass k hk)).1
    omega
  · exact Nat.mul_pos (Nat.two_pow_pos _) (by decide)

/-- Blocks without a common byte are clear of each other. -/
lemma Block.clear_of_bytes (hb : 0 < b.extent) (hc : 0 < c.extent)
    (h : ∀ byte, b.Holds byte → ¬ c.Holds byte) : b.Clear c := by
  by_contra hover
  simp only [Block.Clear, Block.Holds] at *
  rcases le_total b.start c.start with hle | hle
  · exact h c.start ⟨by omega, by omega⟩ ⟨by omega, by omega⟩
  · exact h b.start ⟨by omega, by omega⟩ ⟨by omega, by omega⟩

lemma Block.Clear.not_holds (h : b.Clear c) (hb : b.Holds byte) : ¬ c.Holds byte := by
  simp only [Block.Clear, Block.Holds] at *
  omega

lemma Block.Clear.symm (h : b.Clear c) : c.Clear b := Or.symm h

instance : Std.Symm Block.Clear := ⟨fun _ _ h => h.symm⟩

lemma Block.solid_or_object (b : Block) : b.Solid ∨ ∃ k, b.home = .object k := by
  by_cases hsolid : b.Solid
  · exact .inl hsolid
  · exact .inr (by simpa [Block.Solid] using hsolid)

lemma mem_without {start : Nat} : b ∈ live.filter (·.start ≠ start) ↔ b ∈ live ∧ b.start ≠ start := by
  simp [mem_filter]

/-- Two pages that share a byte are one. -/
lemma InPage.unique {p q : Nat} (hp : p % PAGE_SIZE = 0) (hq : q % PAGE_SIZE = 0)
    (hpb : InPage p byte) (hqb : InPage q byte) : p = q := by
  simp only [InPage, physToVirt, PAGE_SIZE] at *
  omega

variable [LLFree] {r r' : Runtime}

/-- The bytes that the caller may use are among those set aside. -/
lemma BlockSound.holds (h : BlockSound r b) (hb : b.Has byte) : b.Holds byte := by
  have hfits := h.fits
  simp only [Block.Has, Block.Holds] at *
  omega

lemma BlockSound.outside (h : BlockSound r b) (hsolid : b.Solid) : Outside r b := by
  have hplaced := h.placed
  unfold Placed at hplaced
  split at hplaced
  · rename_i k hk
    exact absurd hk (hsolid k)
  · exact hplaced.1
  · exact hplaced.1

lemma BlockSound.object (h : BlockSound r b) (hhome : b.home = .object k) :
    (b.start, k) ∈ r.slab.live ∧ classIndex b.size b.align = some k ∧ b.paged = false := by
  have hplaced := h.placed
  unfold Placed at hplaced
  rw [hhome] at hplaced
  exact hplaced

/-- A block keeps its place if its object stays, and if it stays outside of what becomes free or a slab
page. -/
lemma BlockSound.transfer (h : BlockSound r b) (hsections : r'.slab.sections = r.slab.sections)
    (hobject : ∀ k, b.home = .object k → (b.start, k) ∈ r'.slab.live)
    (houtside : b.Solid → Outside r' b) : BlockSound r' b := by
  refine ⟨h.aligned, h.fits, ?_⟩
  have hplaced := h.placed
  have hmeta : ∀ page, r'.slab.hasMeta page = r.slab.hasMeta page := by
    intro page
    rw [Slab.hasMeta, hsections, Slab.hasMeta]
  unfold Placed at hplaced ⊢
  split at hplaced
  · rename_i k hk
    exact ⟨hobject k hk, hplaced.2⟩
  · rename_i hframes
    exact ⟨houtside (fun k hk => by rw [hframes] at hk; cases hk), hplaced.2⟩
  · rename_i hboot
    refine ⟨houtside (fun k hk => by rw [hboot] at hk; cases hk), fun byte hbyte page hpage hm => ?_⟩
    rw [hmeta] at hm
    exact hplaced.2 byte hbyte page hpage hm

/-- The page of an object, and the object's bytes in it. -/
lemma RuntimeSound.object_page (h : RuntimeSound r live) {a : Nat} (hlive : (a, k) ∈ r.slab.live) :
    ∃ page, (page, k) ∈ r.slab.pages ∧ a ∈ objects page k ∧
      ∀ byte, a ≤ byte → byte < a + objectSize k → InPage page byte := by
  obtain ⟨page, hpage, hobject⟩ := h.slab.live_mem a k hlive
  obtain ⟨hlow, hhigh⟩ := object_bounds (h.slab.page page k hpage).class_lt hobject
  exact ⟨page, hpage, hobject, fun byte hle hlt => ⟨by omega, by omega⟩⟩

lemma RuntimeSound.extent_pos (h : RuntimeSound r live) (hb : b ∈ live) : 0 < b.extent := by
  refine b.extent_pos fun k hk => ?_
  exact classIndex_lt ((h.block b hb).object hk).2.1

instance : Std.Symm Slab.Apart := ⟨fun _ _ => Or.symm⟩

/-- Live blocks are clear of each other. -/
lemma RuntimeSound.clear (h : RuntimeSound r live) (hb : b ∈ live) (hc : c ∈ live)
    (hne : b.start ≠ c.start) : b.Clear c := by
  have hmixed : ∀ x ∈ live, ∀ y ∈ live, ∀ k, x.home = .object k → y.Solid → x.Clear y := by
    intro x hx y hy k hk hsolid
    obtain ⟨page, hpage, _, hbytes⟩ := h.object_page ((h.block x hx).object hk).1
    refine clear_of_bytes (h.extent_pos hx) (h.extent_pos hy) fun byte hxb hyb => ?_
    rw [Block.Holds, extent, hk] at hxb
    exact ((h.block y hy).outside hsolid byte hyb).2 page k hpage (hbytes byte hxb.1 hxb.2)
  rcases b.solid_or_object with hbs | ⟨k, hk⟩ <;> rcases c.solid_or_object with hcs | ⟨j, hj⟩
  · exact h.solid b hb c hc hbs hcs hne
  · exact (hmixed c hc b hb j hj hbs).symm
  · exact hmixed b hb c hc k hk hcs
  · -- two objects: the slab allocator keeps them apart
    have hapart := h.slab.live_apart.forall ((h.block b hb).object hk).1 ((h.block c hc).object hj).1
      fun heq => hne (Prod.mk.inj heq).1
    simpa [Block.Clear, extent, hk, hj, Slab.Apart] using hapart

lemma RuntimeSound.holds_start (h : RuntimeSound r live) (hb : b ∈ live) : b.Holds b.start :=
  ⟨le_rfl, Nat.lt_add_of_pos_right (h.extent_pos hb)⟩

/-- A slab page is no free frame. -/
lemma RuntimeSound.page_taken (h : RuntimeSound r live) {page : Nat}
    (hpage : (page, k) ∈ r.slab.pages) (hfree : r.frames.free frame = true) (hin : InPage page byte)
    (hin' : InPage (frame * PAGE_SIZE) byte) : False := by
  have heq := InPage.unique (h.slab.page page k hpage).aligned (Nat.mul_mod_left ..) hin hin'
  have htaken := h.taken page k hpage
  rw [heq, Nat.mul_div_cancel _ (by decide), hfree] at htaken
  cases htaken

/-- No byte of a live block is in a free frame. -/
lemma RuntimeSound.not_free (h : RuntimeSound r live) (hb : b ∈ live) (hbyte : b.Holds byte)
    (hfree : r.frames.free frame = true) : ¬ InPage (frame * PAGE_SIZE) byte := by
  intro hin
  rcases b.solid_or_object with hsolid | ⟨k, hk⟩
  · exact ((h.block b hb).outside hsolid byte hbyte).1 frame hfree hin
  · obtain ⟨page, hpage, _, hbytes⟩ := h.object_page ((h.block b hb).object hk).1
    rw [Block.Holds, extent, hk] at hbyte
    exact h.page_taken hpage hfree (hbytes byte hbyte.1 hbyte.2) hin

end Blocks

/-! ### Pages of the frame allocator -/

section Frames

variable [LLFree] {r : Runtime} {b : Block} {live : List Block} {frames : FrameAllocator}

/-- The frames of a block that the frame allocator hands out are set aside for it. -/
lemma RuntimeSound.frames_alloc (h : RuntimeSound r live) {zone : Zone} {id count phys : Nat}
    (halloc : r.frames.alloc zone id count = some (phys, frames)) {size align : Nat} {paged : Bool}
    (hcount : pageCount size ≤ count) (haligned : physToVirt phys % align = 0)
    (hlarge : paged = false → isSmallLayout size align = false) : RuntimeSound { r with frames := frames }
      (⟨physToVirt phys, size, align, .frames, paged⟩ :: live) := by
  obtain ⟨hphys, _, hblock, hless⟩ := alloc_spec halloc
  obtain ⟨base, hbase⟩ := zone.start_dvd
  have horder : 2 ^ orderOf (pageCount size) ≤ 2 ^ orderOf count :=
    Nat.pow_le_pow_right (by decide) (orderOf_mono hcount)
  -- a byte of the block is in a frame that was free and is so no more
  have hbytes : ∀ byte, Block.Holds ⟨physToVirt phys, size, align, .frames, paged⟩ byte →
      ∃ frame, InPage (frame * PAGE_SIZE) byte ∧ r.frames.free frame = true ∧ frames.free frame = false := by
    intro byte hbyte
    simp only [Block.Holds, Block.extent, physToVirt] at hbyte
    have hframe : InPage ((byte - physicalMemoryOffset) / PAGE_SIZE * PAGE_SIZE) byte := by
      simp only [InPage, physToVirt, PAGE_SIZE]
      omega
    refine ⟨(byte - physicalMemoryOffset) / PAGE_SIZE, hframe, hblock _ ?_ ?_⟩ <;>
      simp only [hphys, hbase, PAGE_SIZE] at * <;> omega
  have hpos : ∀ c ∈ live, ∀ byte, Block.Holds ⟨physToVirt phys, size, align, .frames, paged⟩ byte →
      ¬ c.Holds byte := by
    intro c hc byte hbyte hcb
    obtain ⟨frame, hin, hfree, _⟩ := hbytes byte hbyte
    exact h.not_free hc hcb hfree hin
  have hextent : 0 < (⟨physToVirt phys, size, align, .frames, paged⟩ : Block).extent :=
    Block.extent_pos _ (by simp)
  have hclear : ∀ c ∈ live, (⟨physToVirt phys, size, align, .frames, paged⟩ : Block).Clear c :=
    fun c hc => Block.clear_of_bytes hextent (h.extent_pos hc) (hpos c hc)
  refine ⟨h.slab, fun page k hpage => ?_, ?_, fun c hc => ?_, ?_, h.bootstrap⟩
  · by_contra hfree
    rw [not_eq_false] at hfree
    have hold := hless _ hfree
    rw [h.taken page k hpage] at hold
    cases hold
  · rw [map_cons, nodup_cons]
    refine ⟨fun hmem => ?_, h.starts⟩
    obtain ⟨c, hc, heq⟩ := mem_map.1 hmem
    have hsame : c.start = physToVirt phys := heq
    refine hpos c hc (physToVirt phys) ⟨le_rfl, Nat.lt_add_of_pos_right hextent⟩ ?_
    rw [← hsame]
    exact h.holds_start hc
  · rcases mem_cons.1 hc with rfl | hold
    · refine ⟨haligned, ?_, ⟨fun byte hbyte => ?_, ?_, Nat.le_add_left .., hlarge⟩⟩
      · have hsize := size_le_pageCount size
        have hpages := le_two_pow_orderOf (pageCount size)
        exact le_trans hsize (Nat.mul_le_mul_right _ hpages)
      · obtain ⟨frame, hin, hfree, hgone⟩ := hbytes byte hbyte
        refine ⟨fun other hother hin' => ?_, fun page k hpage hin' => ?_⟩
        · have heq := InPage.unique (Nat.mul_mod_left ..) (Nat.mul_mod_left ..) hin hin'
          rw [Nat.eq_of_mul_eq_mul_right (by decide) heq, hother] at hgone
          cases hgone
        · exact h.page_taken hpage hfree hin' hin
      · simp only [hphys, hbase, physToVirt, physicalMemoryOffset, PAGE_SIZE]
        omega
    · refine (h.block c hold).transfer rfl (fun k hk => ((h.block c hold).object hk).1) ?_
      intro hsolid byte hbyte
      obtain ⟨hfree, hpages⟩ := (h.block c hold).outside hsolid byte hbyte
      exact ⟨fun frame hf => hfree frame (hless frame hf), hpages⟩
  · intro x hx y hy hxs hys hne
    rcases mem_cons.1 hx with rfl | hxold <;> rcases mem_cons.1 hy with rfl | hyold
    · exact absurd rfl hne
    · exact hclear y hyold
    · exact (hclear x hxold).symm
    · exact h.solid x hxold y hyold hxs hys hne

/-- Frames that lie in a block can go back with it. -/
lemma RuntimeSound.frames_dealloc (h : RuntimeSound r live) (hb : b ∈ live) (hsolid : b.Solid)
    {num : Nat} (hdealloc : r.frames.dealloc b.start num = some frames)
    (hin : ∀ phys, virtToPhys b.start = some phys → ∀ frame, phys / PAGE_SIZE ≤ frame →
      frame < phys / PAGE_SIZE + 2 ^ orderOf num → ∀ byte, InPage (frame * PAGE_SIZE) byte → b.Holds byte) :
    RuntimeSound { r with frames := frames } (live.filter (·.start ≠ b.start)) := by
  have hfree : ∀ frame, frames.free frame = true → r.frames.free frame = true ∨
      ∀ byte, InPage (frame * PAGE_SIZE) byte → b.Holds byte := by
    intro frame hframe
    rcases dealloc_free hdealloc hframe with hold | ⟨phys, hphys, hlow, hhigh⟩
    · exact .inl hold
    · exact .inr (hin phys hphys frame hlow hhigh)
  refine ⟨h.slab, fun page k hpage => ?_, h.starts.sublist (filter_sublist.map _), fun c hc => ?_,
    fun x hx y hy => h.solid x (mem_without.1 hx).1 y (mem_without.1 hy).1, h.bootstrap⟩
  · by_contra hnot
    rw [not_eq_false] at hnot
    rcases hfree _ hnot with hold | hinside
    · rw [h.taken page k hpage] at hold
      cases hold
    · have hself : InPage page (physToVirt page) := ⟨le_rfl, Nat.lt_add_of_pos_right (by decide)⟩
      rw [h.slab.div_mul_page hpage] at hinside
      exact ((h.block b hb).outside hsolid _ (hinside _ hself)).2 page k hpage hself
  · obtain ⟨hmem, hne⟩ := mem_without.1 hc
    refine (h.block c hmem).transfer rfl (fun k hk => ((h.block c hmem).object hk).1) ?_
    intro hcs byte hbyte
    obtain ⟨hcfree, hpages⟩ := (h.block c hmem).outside hcs byte hbyte
    refine ⟨fun frame hf hinframe => ?_, hpages⟩
    rcases hfree frame hf with hold | hinside
    · exact hcfree frame hold hinframe
    · exact (h.clear hmem hb hne).not_holds hbyte (hinside byte hinframe)

end Frames

/-! ### Objects of the slab allocator -/

/-- The classes are powers of two, so that an object has the alignment it was chosen for. -/
lemma classIndex_aligned {a k size align : Nat} (hk : classIndex size align = some k)
    (halign : powerOfTwo align = true) (ha : a % objectSize k = 0) : size ≤ objectSize k ∧ a % align = 0 := by
  have hpow : ∀ k < SIZE_CLASSES.length, objectSize k = 2 ^ (k + 3) := by decide
  obtain ⟨hsize, hle⟩ := classIndex_le hk
  have hdvd : align ∣ objectSize k := by
    rw [hpow k (classIndex_lt hk)] at hle ⊢
    exact powerOfTwo_dvd halign hle
  exact ⟨hsize, Nat.mod_eq_zero_of_dvd (Nat.dvd_trans hdvd (Nat.dvd_of_mod_eq_zero ha))⟩

section Objects

variable [LLFree] {r r' : Runtime} {live live' : List Block} {frames : FrameAllocator} {slab : Slab}

/-- What a call of the slab allocator may do, perhaps with a frame that was free. -/
structure Runtime.Serves (r : Runtime) (frames : FrameAllocator) (slab : Slab) : Prop where
  less : ∀ frame, frames.free frame = true → r.frames.free frame = true
  sound : slab.Sound
  sections : slab.sections = r.slab.sections
  caches : 0 < slab.caches.length
  pages : ∀ page k, (page, k) ∈ slab.pages → (page, k) ∈ r.slab.pages ∨
    r.frames.free (page / PAGE_SIZE) = true ∧ frames.free (page / PAGE_SIZE) = false

lemma RuntimeSound.serves (h : RuntimeSound r live) (hslab : slab.Sound) (hkeeps : r.slab.Keeps slab) :
    r.Serves r.frames slab :=
  ⟨fun _ hf => hf, hslab, hkeeps.sections, hkeeps.caches ▸ h.bootstrap, fun _ _ hp => .inl (hkeeps.pages _ hp)⟩

/-- The slab allocator has served a call, and the frame allocator has taken back what pages it has let
go. -/
lemma RuntimeSound.reslab (h : RuntimeSound r live) (hsettle : r.settle frames slab = some r')
    (hserves : r.Serves frames slab) (hstarts : (live'.map start).Nodup)
    (hlive : ∀ b ∈ live', (b ∈ live ∧ ∀ k, b.home = .object k → (b.start, k) ∈ slab.live) ∨
      (¬ b.Solid ∧ BlockSound r' b)) : RuntimeSound r' live' := by
  obtain ⟨hframes, hslab, hsections, hcaches, hpages⟩ := hserves
  obtain ⟨rfl, hfree⟩ := Runtime.settle_free hsettle
  refine ⟨hslab, fun page k hpage => ?_, hstarts, fun b hb => ?_, fun a ha b hb has hbs hne => ?_, hcaches⟩
  · by_contra hnot
    rw [not_eq_false] at hnot
    rcases hfree _ hnot with hold | ⟨other, j, hother, hgone, heq⟩
    · rcases hpages page k hpage with hkept | ⟨_, hdrawn⟩
      · have hfalse := h.taken page k hkept
        rw [hframes _ hold] at hfalse
        cases hfalse
      · rw [hold] at hdrawn
        cases hdrawn
    · rcases hpages page k hpage with hkept | ⟨hwas, _⟩
      · -- the page that was let go would be this one
        have hsame : other = page := by
          rw [← h.slab.div_mul_page hother, ← heq, hslab.div_mul_page hpage]
        subst hsame
        obtain rfl := h.slab.class_unique hkept hother
        exact hgone hpage
      · have hfalse := h.taken other j hother
        rw [← heq, hwas] at hfalse
        cases hfalse
  · rcases hlive b hb with ⟨hold, hobject⟩ | ⟨_, hsound⟩
    · refine (h.block b hold).transfer hsections hobject fun hsolid byte hbyte => ?_
      obtain ⟨hout, hpagesOut⟩ := (h.block b hold).outside hsolid byte hbyte
      refine ⟨fun frame hf hin => ?_, fun page k hpage hin => ?_⟩
      · rcases hfree frame hf with hwas | ⟨page, k, hpage, _, rfl⟩
        · exact hout frame (hframes frame hwas) hin
        · rw [h.slab.div_mul_page hpage] at hin
          exact hpagesOut page k hpage hin
      · rcases hpages page k hpage with hkept | ⟨hwas, _⟩
        · exact hpagesOut page k hkept hin
        · rw [← hslab.div_mul_page hpage] at hin
          exact hout _ hwas hin
    · exact hsound
  · have hmem : ∀ c ∈ live', c.Solid → c ∈ live := by
      intro c hc hcs
      rcases hlive c hc with ⟨hold, _⟩ | ⟨hnot, _⟩
      · exact hold
      · exact absurd hcs hnot
    exact h.solid a (hmem a ha has) b (hmem b hb hbs) has hbs hne

variable {a k size align : Nat}

/-- An object that is handed out starts no live block. -/
lemma RuntimeSound.fresh (h : RuntimeSound r live) (hslab : slab.Sound)
    (hlive : slab.live = (a, k) :: r.slab.live)
    (hpages : ∀ page k, (page, k) ∈ slab.pages → (page, k) ∈ r.slab.pages ∨
      r.frames.free (page / PAGE_SIZE) = true) : a ∉ live.map start := by
  intro hmem
  obtain ⟨b, hb, rfl⟩ := mem_map.1 hmem
  have hapart := hslab.live_apart
  rw [hlive, pairwise_cons] at hapart
  have hobject : (b.start, k) ∈ slab.live := by
    rw [hlive]
    exact mem_cons_self ..
  obtain ⟨page, hpage, hin⟩ := hslab.live_mem b.start k hobject
  have hclass := (hslab.page page k hpage).class_lt
  have hsize := (objectSize_spec hclass).1
  rcases b.solid_or_object with hsolid | ⟨j, hj⟩
  · obtain ⟨hlow, hhigh⟩ := object_bounds hclass hin
    have hinpage : InPage page b.start := ⟨hlow, by omega⟩
    obtain ⟨hfree, hout⟩ := (h.block b hb).outside hsolid _ (h.holds_start hb)
    rcases hpages page k hpage with hkept | hwas
    · exact hout page k hkept hinpage
    · refine hfree _ hwas ?_
      rw [hslab.div_mul_page hpage]
      exact hinpage
  · obtain ⟨hold, hclass', _⟩ := (h.block b hb).object hj
    have hboth := hapart.1 _ hold
    have hsize' := (objectSize_spec (classIndex_lt hclass')).1
    simp only [Slab.Apart] at hboth
    omega

/-- A call of `alloc` that returns an object. -/
lemma RuntimeSound.object_alloc (h : RuntimeSound r live) (hsettle : r.settle frames slab = some r')
    (hserves : r.Serves frames slab) (hlive : slab.live = (a, k) :: r.slab.live)
    (hk : classIndex size align = some k) (halign : powerOfTwo align = true) :
    RuntimeSound r' (⟨a, size, align, .object k, false⟩ :: live) := by
  obtain ⟨hr', _⟩ := Runtime.settle_free hsettle
  have hobject : (a, k) ∈ slab.live := by
    rw [hlive]
    exact mem_cons_self ..
  have hslab := hserves.sound
  refine h.reslab hsettle hserves ?_ fun b hb => ?_
  · rw [map_cons, nodup_cons]
    refine ⟨h.fresh hslab hlive fun page j hpage => ?_, h.starts⟩
    exact (hserves.pages page j hpage).imp_right And.left
  · rcases mem_cons.1 hb with rfl | hold
    · refine .inr ⟨fun hsolid => hsolid k rfl, ?_⟩
      obtain ⟨page, hpage, hin⟩ := hslab.live_mem a k hobject
      have hsound := hslab.page page k hpage
      obtain ⟨hfits, haligned⟩ := classIndex_aligned hk halign
        (object_aligned hsound.class_lt hsound.aligned hin)
      refine ⟨haligned, hfits, ?_⟩
      rw [← hr'] at hobject
      exact ⟨hobject, hk, rfl⟩
    · refine .inl ⟨hold, fun j hj => ?_⟩
      rw [hlive]
      exact mem_cons_of_mem _ ((h.block b hold).object hj).1

end Objects

/-! ## The boot heap -/

section Boot

variable {heap rest : EarlyAllocator} {live : List Block} {size align start : Nat} {paged : Bool}

variable {b : Block} {map : List Arena} {storage : SlubStorage}

lemma EarlyAllocator.alloc_aligned (halign : powerOfTwo align = true)
    (halloc : heap.alloc size align = some (start, rest)) : start % align = 0 := by
  obtain ⟨_, _, _, _, _, _, _, _, hmod, _⟩ := allocFrom_cases halloc
  have hdvd : align ∣ max align 8 := by
    rcases le_total align 8 with hle | hle
    · rw [max_eq_right hle]
      exact powerOfTwo_dvd halign (m := 3) hle
    · exact ⟨1, (Nat.max_eq_left hle).trans (Nat.mul_one align).symm⟩
  exact Nat.mod_eq_zero_of_dvd (Nat.dvd_trans hdvd (Nat.dvd_of_mod_eq_zero hmod))

section

variable (h : BootSound heap live)
include h

lemma BootSound.extent_eq (hb : b ∈ live) : b.extent = max b.size 1 := by
  simp [extent, h.home b hb]

lemma BootSound.alloc (halloc : heap.alloc size align = some (start, rest))
    (halign : powerOfTwo align = true) : BootSound rest (⟨start, size, align, .boot, paged⟩ :: live) := by
  obtain ⟨htidy, hless, hblock⟩ := alloc_carves h.tidy halloc
  have hstart := hblock start le_rfl (by omega)
  refine ⟨htidy, fun byte hbyte => h.above byte (hless byte hbyte), ?_, ?_, ?_, ?_, ?_⟩
  · exact forall_mem_cons.2 ⟨rfl, h.home⟩
  · exact forall_mem_cons.2 ⟨EarlyAllocator.alloc_aligned halign halloc, h.aligned⟩
  · exact forall_mem_cons.2 ⟨h.above start hstart.1, h.start⟩
  · refine forall_mem_cons.2 ⟨fun byte hbyte => (hblock byte hbyte.1 hbyte.2).2, ?_⟩
    exact fun b hb byte hbyte hfree => h.taken b hb byte hbyte (hless byte hfree)
  · refine pairwise_cons.2 ⟨fun b hb => ?_, h.apart⟩
    refine clear_of_bytes ?_ ?_ fun byte hnew hold => ?_
    · exact extent_pos _ nofun
    · rw [h.extent_eq hb]
      omega
    · exact h.taken b hb byte hold (hblock byte hnew.1 hnew.2).1

/-- The bytes of a region that is added are neither free nor in a block that stays live. -/
lemma BootSound.addRegion {live' : List Block} (hlive : live'.Sublist live) {phys : Nat}
    (hnew : ∀ byte, physToVirt phys ≤ byte → byte < physToVirt (phys + size) →
      ¬ heap.Free byte ∧ ∀ b ∈ live', ¬ b.Holds byte) : BootSound (heap.addRegion phys size) live' := by
  refine ⟨addRegion_tidy h.tidy fun byte hlow hhigh => (hnew byte hlow hhigh).1, fun byte hbyte => ?_,
    fun c hc => h.home c (hlive.subset hc), fun c hc => h.aligned c (hlive.subset hc),
    fun c hc => h.start c (hlive.subset hc), fun c hc byte hbyte hfree => ?_, h.apart.sublist hlive⟩
  · rcases addRegion_adds hbyte with hold | ⟨_, _, habove⟩
    · exact h.above byte hold
    · exact habove
  · rcases addRegion_adds hfree with hold | ⟨hlow, hhigh, _⟩
    · exact h.taken c (hlive.subset hc) byte hbyte hold
    · exact (hnew byte hlow hhigh).2 c hc hbyte

lemma BootSound.dealloc (hb : b ∈ live) {phys : Nat} (hphys : virtToPhys b.start = some phys) :
    BootSound (heap.addRegion phys (max b.size 1)) (live.filter (·.start ≠ b.start)) := by
  refine h.addRegion filter_sublist fun byte hlow hhigh => ?_
  have hin : b.Holds byte := by
    have hvirt := physToVirt_virtToPhys hphys
    have hextent := h.extent_eq hb
    simp only [Block.Holds, physToVirt] at *
    omega
  refine ⟨h.taken b hb byte hin, fun c hc hold => ?_⟩
  obtain ⟨hmem, hne⟩ := mem_without.1 hc
  have hclear : c.Clear b := h.apart.forall hmem hb fun heq => hne (congrArg Block.start heq)
  exact hclear.not_holds hold hin

end

/-- The usable arenas do not overlap. -/
def Separate (map : List Arena) : Prop :=
  (map.filter (·.kind = .usable)).Pairwise fun a b => a.stop ≤ b.start ∨ b.stop ≤ a.start

/-- What is free after `init_from_map` is in the usable arenas, above the low memory. -/
lemma initFromMap_sound (hmap : Separate map) (hheap : heap.Tidy)
    (habove : ∀ byte, heap.Free byte → physToVirt LOW_MEM_THRESHOLD ≤ byte)
    (hnew : ∀ byte, heap.Free byte → ∀ arena ∈ map, arena.kind = .usable →
      ¬ (physToVirt arena.start ≤ byte ∧ byte < physToVirt arena.stop)) : (heap.initFromMap map).Tidy ∧
      ∀ byte, (heap.initFromMap map).Free byte → physToVirt LOW_MEM_THRESHOLD ≤ byte := by
  induction map generalizing heap with
  | nil => exact ⟨hheap, habove⟩
  | cons arena map ih =>
    have hrest : Separate map := by
      unfold Separate at hmap ⊢
      rw [filter_cons] at hmap
      split at hmap
      · exact (pairwise_cons.1 hmap).2
      · exact hmap
    have hfold : heap.initFromMap (arena :: map) = initFromMap
        (if arena.kind = .usable then heap.addRegion arena.start (arena.stop - arena.start) else heap) map :=
      rfl
    rw [hfold]
    split
    · rename_i husable
      -- the bytes of the arena were not free
      have hstop : ∀ byte, physToVirt arena.start ≤ byte →
          byte < physToVirt (arena.start + (arena.stop - arena.start)) →
          byte < physToVirt arena.stop := by
        intro byte hlow hhigh
        simp only [physToVirt] at *
        omega
      refine ih hrest (addRegion_tidy hheap fun byte hlow hhigh hfree => ?_) ?_ ?_
      · exact hnew byte hfree arena (mem_cons_self ..) husable ⟨hlow, hstop byte hlow hhigh⟩
      · intro byte hfree
        rcases addRegion_adds hfree with hold | ⟨_, _, hlow⟩
        · exact habove byte hold
        · exact hlow
      · intro byte hfree other hother husable'
        rcases addRegion_adds hfree with hold | ⟨hlow, hhigh, _⟩
        · exact hnew byte hold other (mem_cons_of_mem _ hother) husable'
        · have hapart : arena.stop ≤ other.start ∨ other.stop ≤ arena.start := by
            unfold Separate at hmap
            rw [filter_cons_of_pos (by simpa using husable)] at hmap
            exact (pairwise_cons.1 hmap).1 other (mem_filter.2 ⟨hother, by simpa using husable'⟩)
          have hbyte := hstop byte hlow hhigh
          simp only [physToVirt] at *
          omega
    · exact ih hrest hheap habove fun byte hfree other hother =>
        hnew byte hfree other (mem_cons_of_mem _ hother)

/-- What is free after the metadata is reserved was free before. -/
lemma allocStorage_free {sectionCount totalPages : Nat} (hheap : heap.Tidy)
    (h : allocStorage heap sectionCount totalPages = some (storage, rest)) :
    rest.Tidy ∧ ∀ byte, rest.Free byte → heap.Free byte := by
  have hslice : ∀ {before after : EarlyAllocator} {elementSize length : Nat}, before.Tidy →
      allocSlice before elementSize length = some after →
      after.Tidy ∧ ∀ byte, after.Free byte → before.Free byte := by
    intro before after elementSize length htidy halloc
    simp only [allocSlice] at halloc
    split at halloc
    · cases halloc
    · obtain ⟨⟨address, left⟩, hblock, rfl⟩ := map_eq_some_iff.1 halloc
      obtain ⟨htidy', hless, _⟩ := alloc_carves htidy hblock
      exact ⟨htidy', hless⟩
  revert h
  fun_cases allocStorage heap sectionCount totalPages with
  | case3 _ mid hsections =>
    intro h
    obtain ⟨left, hmetas, heq⟩ := map_eq_some_iff.1 h
    obtain ⟨_, rfl⟩ := Prod.mk.inj heq
    obtain ⟨hmid, hmidFree⟩ := hslice hheap hsections
    obtain ⟨hrest, hrestFree⟩ := hslice hmid hmetas
    exact ⟨hrest, fun byte hbyte => hmidFree byte (hrestFree byte hbyte)⟩
  | _ => rintro ⟨⟩

/-- A whole page of a usable range is free in the boot heap, or in the low memory. -/
lemma wholePage_free (hheap : heap.Tidy)
    (habove : ∀ byte, heap.Free byte → physToVirt LOW_MEM_THRESHOLD ≤ byte) {range : Nat × Nat}
    (hrange : range ∈ bootUsableRanges heap map) {page byte : Nat}
    (hlow : alignUp range.1 PAGE_SIZE ≤ page) (hhigh : page + PAGE_SIZE ≤ alignDown range.2 PAGE_SIZE)
    (hin : InPage page byte) : heap.Free byte ∨ byte < physToVirt LOW_MEM_THRESHOLD := by
  have hup : range.1 ≤ alignUp range.1 PAGE_SIZE := by
    simp only [alignUp, PAGE_SIZE]
    omega
  have hdown : alignDown range.2 PAGE_SIZE ≤ range.2 := Nat.div_mul_le_self _ _
  simp only [InPage, physToVirt] at hin
  rcases mem_append.1 hrange with hheapRange | hlowRange
  · obtain ⟨region, hregion, rfl⟩ := mem_map.1 hheapRange
    have hsize := hheap.sized region hregion
    have hstart := habove region.start ⟨region, hregion, le_rfl, by
      simp only [FreeRegion.stop, FreeRegion.headerSize] at *
      omega⟩
    refine .inl ⟨region, hregion, ?_, ?_⟩
    · simp only [heapRange, physToVirt] at *
      omega
    · simp only [heapRange, physToVirt, FreeRegion.stop] at *
      omega
  · obtain ⟨arena, _, harena⟩ := mem_filterMap.1 hlowRange
    unfold lowRange at harena
    split at harena
    · obtain rfl := some.inj harena
      simp only at *
      refine .inr ?_
      simp only [physToVirt]
      omega
    · cases harena

/-- A section is made of the whole pages of a range. -/
lemma fillSections_mem {ranges : List (Nat × Nat)} {nextSection nextMeta : Nat}
    {sections : List SlubSection} (h : fillSections storage ranges nextSection nextMeta = some sections)
    {part : SlubSection} (hmem : part ∈ sections) :
    ∃ range ∈ ranges, part = ⟨alignUp range.1 PAGE_SIZE, alignDown range.2 PAGE_SIZE⟩ := by
  induction ranges generalizing nextSection nextMeta sections with
  | nil =>
    cases h
    cases hmem
  | cons first ranges ih =>
    have hlift : (∃ range ∈ ranges, part = ⟨alignUp range.1 PAGE_SIZE, alignDown range.2 PAGE_SIZE⟩) →
        ∃ range ∈ first :: ranges, part = ⟨alignUp range.1 PAGE_SIZE, alignDown range.2 PAGE_SIZE⟩ := by
      rintro ⟨range, hrange, heq⟩
      exact ⟨range, mem_cons_of_mem _ hrange, heq⟩
    simp only [fillSections] at h
    split at h
    · exact hlift (ih h hmem)
    · split at h
      · cases h
      · obtain ⟨others, hothers, rfl⟩ := map_eq_some_iff.1 h
        rcases mem_cons.1 hmem with rfl | hrest
        · exact ⟨first, mem_cons_self .., rfl⟩
        · exact hlift (ih hothers hrest)

/-- The boot heap is left: its blocks are in no frame that is free and in no page with metadata. -/
lemma BootSound.init [LLFree] (h : BootSound heap live) {maxOrder : Nat} {boot : Boot}
    (hboot : initFrameAllocator maxOrder heap map = .ok boot) (memory : Nat → Nat) (cpuCount : Nat) :
    RuntimeSound ⟨boot.frames, .new boot.sections memory (cpuCount + 1)⟩ live := by
  obtain ⟨storage, hstorage, hsections, hfeed⟩ := initFrameAllocator_ok hboot
  obtain ⟨htidy, hless⟩ := allocStorage_free h.tidy hstorage
  have hpage : ∀ b ∈ live, ∀ byte, b.Holds byte → ∀ range ∈ bootUsableRanges boot.heap map, ∀ page,
      alignUp range.1 PAGE_SIZE ≤ page → page + PAGE_SIZE ≤ alignDown range.2 PAGE_SIZE →
      ¬ InPage page byte := by
    intro b hb byte hbyte range hrange page hlow hhigh hin
    rcases wholePage_free htidy (fun x hx => h.above x (hless x hx)) hrange hlow hhigh hin with hfree | hbelow
    · exact h.taken b hb byte hbyte (hless byte hfree)
    · have hstart := h.start b hb
      have hle := hbyte.1
      omega
  have hpos : ∀ b ∈ live, 0 < b.extent := by
    intro b hb
    rw [h.extent_eq hb]
    omega
  refine ⟨Slab.new_sound .., fun page k hmem => (by cases hmem), ?_, fun b hb => ?_, ?_, Nat.succ_pos _⟩
  · rw [List.Nodup, pairwise_map]
    refine h.apart.imp_of_mem fun {a b} ha hb hclear => ?_
    have ha' := hpos a ha
    have hb' := hpos b hb
    simp only [Block.Clear] at hclear
    omega
  · refine ⟨h.aligned b hb, by rw [h.extent_eq hb]; omega, ?_⟩
    unfold Placed
    rw [h.home b hb]
    refine ⟨fun byte hbyte => ⟨fun frame hfree => ?_, fun page k hmem => (by cases hmem)⟩,
      fun byte hbyte page hpageMod hmeta => ?_⟩
    · rcases feed_free hfeed hfree with hnew | ⟨range, hrange, hlow, hhigh⟩
      · cases (new_free ..).symm.trans hnew
      · refine hpage b hb byte hbyte range hrange _ hlow ?_
        rw [← Nat.succ_mul]
        exact hhigh
    · obtain ⟨part, hpart, hcontains⟩ := any_eq_true.1 hmeta
      obtain ⟨range, hrange, rfl⟩ := fillSections_mem hsections hpart
      simp only [SlubSection.contains, and_eq_true, decide_eq_true_eq] at hcontains
      refine hpage b hb byte hbyte range hrange page hcontains.1 ?_
      have hstop : alignDown range.2 PAGE_SIZE % PAGE_SIZE = 0 := Nat.mul_mod_left ..
      have hlt := hcontains.2
      simp only [PAGE_SIZE] at *
      omega
  · intro a ha b hb _ _ hne
    exact h.apart.forall ha hb fun heq => hne (congrArg Block.start heq)

end Boot

end Akarin.Heap
