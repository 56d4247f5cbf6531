/-
# Akarin.Heap.Safety -- every call keeps the live blocks apart

One lemma per call: the state after it is sound again if the call is legal and careful. The law of the
subsystem follows from the invariant, and with it the law of every run.
-/
import Akarin.Heap.Phases

namespace Akarin.Heap

open List Option
open Lib (Meets run_invariant)

namespace MemorySubsystem

lemma classIndex_small {k size align : Nat} (h : classIndex size align = some k) :
    isSmallLayout size align = true := by
  have hbound : ∀ k < SIZE_CLASSES.length, objectSize k ≤ SMALL_ALLOC_LIMIT := by decide
  have hle := hbound k (classIndex_lt h)
  obtain ⟨hsize, halign⟩ := classIndex_le h
  simp only [isSmallLayout, Bool.and_eq_true, decide_eq_true_eq]
  omega

lemma pageCount_mul (numPages : Nat) : pageCount (numPages * PAGE_SIZE) = numPages := by
  simp only [pageCount, PAGE_SIZE]
  omega

/-- The frames that go back with a block lie in it. -/
lemma frames_in_block {b : Block} {phys frame numPages byte : Nat} (hstart : b.start % PAGE_SIZE = 0)
    (hextent : 2 ^ orderOf numPages * PAGE_SIZE ≤ b.extent) (hphys : virtToPhys b.start = some phys)
    (hlow : phys / PAGE_SIZE ≤ frame) (hhigh : frame < phys / PAGE_SIZE + 2 ^ orderOf numPages)
    (hin : InPage (frame * PAGE_SIZE) byte) : b.Holds byte := by
  have hvirt := physToVirt_virtToPhys hphys
  have hoffset : physicalMemoryOffset % PAGE_SIZE = 0 := by decide
  simp only [InPage, physToVirt] at hin hvirt
  simp only [Block.Holds, PAGE_SIZE] at *
  omega

section

variable [LLFree] {m : MemorySubsystem} {r : Runtime} {size align : Nat}

/-! ## Which allocator serves -/

section

variable (h : m.Sound)
include h

lemma Sound.ofBoot (hr : m.runtime = none) : m.phase = .bootHeap ∧ BootSound m.heap m.live := by
  unfold Sound at h
  rw [hr] at h
  exact h

lemma Sound.ofRuntime (hr : m.runtime = some r) :
    (m.phase = .bootstrapSlub ∨ m.phase = .perCpuSlub) ∧ RuntimeSound r m.live := by
  unfold Sound at h
  rw [hr] at h
  exact h

lemma Sound.runtime_of_phase (hphase : m.phase ≠ .bootHeap) : ∃ r, m.runtime = some r := by
  cases hr : m.runtime with
  | none => exact absurd (h.ofBoot hr).1 hphase
  | some r => exact ⟨r, rfl⟩

lemma Sound.runtime_none (hphase : m.phase = .bootHeap) : m.runtime = none := by
  cases hr : m.runtime with
  | none => rfl
  | some r =>
    rcases (h.ofRuntime hr).1 with hp | hp <;> rw [hphase] at hp <;> cases hp

/-! ## Allocation -/

lemma Sound.bootHeapAlloc (hr : m.runtime = none) (halign : powerOfTwo align = true)
    (paged : Bool) : (m.bootHeapAlloc size align paged).Sound := by
  obtain ⟨hphase, hboot⟩ := h.ofBoot hr
  unfold MemorySubsystem.bootHeapAlloc
  split
  · exact h
  · rename_i start heap halloc
    unfold Sound
    simp only [hr]
    exact ⟨hphase, hboot.alloc halloc halign⟩

end

variable {b : Block} {numPages cache phys cpu byte : Nat} {pick : Option (Zone × Nat)}

section

variable {fa fa' : FrameAllocator} {zone : Zone} {id count : Nat}
  (halloc : fa.alloc zone id count = some (phys, fa'))
  (hcount : alignedPageCount numPages align = some count) (halign : powerOfTwo align = true)
include halloc hcount halign

/-- A block of frames starts at a multiple of the alignment it was sized for, counted from its zone. -/
lemma block_offset : phys = zone.start + id * PAGE_SIZE ∧ align ∣ id * PAGE_SIZE := by
  obtain ⟨hphys, hid, _⟩ := FrameAllocator.alloc_spec halloc
  have hpages := (alignedPageCount_spec hcount).2
  have hpow := le_two_pow_orderOf count
  have hpage : PAGE_SIZE = 2 ^ 12 := rfl
  have hle : align ≤ 2 ^ (orderOf count + 12) := by
    have hself := size_le_pageCount (max align PAGE_SIZE)
    calc align ≤ max align PAGE_SIZE := Nat.le_max_left ..
      _ ≤ pageCount (max align PAGE_SIZE) * PAGE_SIZE := hself
      _ ≤ 2 ^ orderOf count * PAGE_SIZE := Nat.mul_le_mul_right _ (le_trans hpages hpow)
      _ = 2 ^ (orderOf count + 12) := by rw [hpage, ← Nat.pow_add]
  refine ⟨hphys, Nat.dvd_trans (powerOfTwo_dvd halign hle) ?_⟩
  rw [Nat.pow_add, hpage]
  exact Nat.mul_dvd_mul_right (Nat.dvd_of_mod_eq_zero hid) _

lemma block_aligned (hzone : physToVirt zone.start % align = 0) : physToVirt phys % align = 0 := by
  obtain ⟨rfl, hdvd⟩ := block_offset halloc hcount halign
  rw [physToVirt, Nat.add_right_comm]
  exact Nat.mod_eq_zero_of_dvd (Nat.dvd_add (Nat.dvd_of_mod_eq_zero hzone) hdvd)

end

section

variable (h : m.Sound)
include h

lemma Sound.allocPagesWithZone {alignment : Nat} {paged : Bool} (halign : powerOfTwo alignment = true)
    (hzone : m.runtime.isSome = true → ZoneAligned alignment pick) (hsize : pageCount size ≤ numPages)
    (hlarge : paged = false → isSmallLayout size alignment = false) :
    (m.allocPagesWithZone numPages alignment pick size paged).Sound := by
  fun_cases MemorySubsystem.allocPagesWithZone m numPages alignment pick size paged with
  | case3 _ r hr count zone id hcount phys frames halloc =>
    obtain ⟨hphase, hsound⟩ := h.ofRuntime hr
    have hzone' := hzone (by rw [hr]; rfl) (zone, id) rfl
    refine ⟨hphase, hsound.frames_alloc halloc ?_ (block_aligned halloc hcount halign hzone') hlarge⟩
    exact le_trans hsize (alignedPageCount_spec hcount).1
  | case5 _ _ hr hvalid =>
    simp only [validLayout, Bool.and_eq_true] at hvalid
    exact h.bootHeapAlloc hr hvalid.1 paged
  | _ => exact h

/-- The slab allocator has served a call, and the frame allocator takes back what it can. -/
lemma Sound.settle (hr : m.runtime = some r) {frames : FrameAllocator} {slab : Slab} {live : List Block}
    (hsound : ∀ r', r.settle frames slab = some r' → RuntimeSound r' live) :
    (m.settle r frames slab live).Sound := by
  unfold MemorySubsystem.settle
  split
  · exact h
  · rename_i r' hsettle
    exact ⟨(h.ofRuntime hr).1, hsound r' hsettle⟩

lemma Sound.allocSmall (hr : m.runtime = some r)
    (hcache : cache < r.slab.caches.length) (halign : powerOfTwo align = true)
    (hzero : pick ≠ some (.low, 0)) : (m.allocSmall r cache size align pick).Sound := by
  obtain ⟨_, hsound⟩ := h.ofRuntime hr
  unfold MemorySubsystem.allocSmall
  split
  · exact h
  · rename_i k hk
    rcases hsound.slab.alloc_nil hcache k with ⟨hnone, hcurrent⟩ | ⟨t, a, heq, ht, hlive, hkeeps⟩
    · rw [hnone]
      simp only
      split
      · refine h.settle hr fun r' hsettle => ?_
        exact hsound.reslab hsettle (hsound.serves hsound.slab (.refl _)) hsound.starts
          fun b hb => .inl ⟨hb, fun j hj => ((hsound.block b hb).object hj).1⟩
      · rename_i phys frames hpick
        obtain ⟨⟨zone, id⟩, hpicked, halloc⟩ := bind_eq_some_iff.1 hpick
        simp only at halloc
        obtain ⟨hphys, _, hblock, hless⟩ := FrameAllocator.alloc_spec halloc
        obtain ⟨base, hbase⟩ := zone.start_dvd
        have hmod : phys % PAGE_SIZE = 0 := by
          simp only [hphys, hbase, PAGE_SIZE]
          omega
        have hne : phys ≠ 0 := by
          rintro rfl
          refine hzero ?_
          rw [hpicked]
          cases zone <;> simp only [Zone.start, PAGE_SIZE] at hphys
          · rw [show id = 0 by omega]
          · omega
          · omega
        have hone := hblock (phys / PAGE_SIZE) le_rfl (Nat.lt_add_of_pos_right (Nat.two_pow_pos _))
        have hfresh : phys ∉ r.slab.pages.map Prod.fst := by
          intro hmem
          obtain ⟨⟨page, j⟩, hpage, rfl⟩ := mem_map.1 hmem
          have htaken := hsound.taken page j hpage
          rw [hone.1] at htaken
          cases htaken
        rcases hsound.slab.alloc_one hcache (classIndex_lt hk) hcurrent hne hmod hfresh with
          ⟨t, hpanic⟩ | ⟨t, a, heq, ht, hlive, hsections, hcaches, hpages⟩
        · rw [hpanic]
          exact h
        · rw [heq]
          refine h.settle hr fun r' hsettle => ?_
          refine hsound.object_alloc hsettle ⟨hless, ht, hsections, ?_, fun page j hpage => ?_⟩ hlive hk halign
          · rw [hcaches]
            exact hsound.bootstrap
          · rcases hpages (page, j) hpage with hold | hnew
            · exact .inl hold
            · obtain ⟨rfl, _⟩ := Prod.mk.inj hnew
              exact .inr hone
    · rw [heq]
      refine h.settle hr fun r' hsettle => ?_
      exact hsound.object_alloc hsettle (hsound.serves ht hkeeps) hlive hk halign

lemma Sound.allocRuntime
    (hcache : ∀ r ∈ m.runtime, cache < r.slab.caches.length) (halign : powerOfTwo align = true)
    (hpick : m.runtime.isSome = true →
      if isSmallLayout size align then pick ≠ some (.low, 0) else ZoneAligned align pick) :
    (m.allocRuntime cache size align pick).Sound := by
  unfold MemorySubsystem.allocRuntime
  split
  · rename_i hsmall
    split
    · exact h
    · rename_i r hr
      have hzero := hpick (by rw [hr]; rfl)
      rw [if_pos hsmall] at hzero
      exact h.allocSmall hr (hcache r hr) halign hzero
  · rename_i hlarge
    refine h.allocPagesWithZone halign (fun hsome => ?_) le_rfl
      fun _ => Bool.eq_false_iff.2 hlarge
    have hzone := hpick hsome
    rwa [if_neg hlarge] at hzone

lemma Sound.allocGlobal (hlegal : m.Legal (.allocGlobal cpu size align pick))
    (hcareful : m.Careful (.allocGlobal cpu size align pick)) :
    (m.allocGlobal cpu size align pick).Sound := by
  obtain ⟨halign, hcache⟩ := hlegal
  unfold MemorySubsystem.allocGlobal
  split
  · exact h
  · cases hphase : m.phase with
    | uninit => exact h
    | bootHeap => exact h.bootHeapAlloc (h.runtime_none hphase) halign false
    | bootstrapSlub =>
      exact h.allocRuntime (fun r hr => (h.ofRuntime hr).2.bootstrap) halign hcareful
    | perCpuSlub => exact h.allocRuntime hcache halign hcareful

/-! ## Giving back -/

lemma Sound.bootHeapDealloc (hr : m.runtime = none) (hb : b ∈ m.live) :
    (m.bootHeapDealloc b.start b.size).Sound := by
  obtain ⟨hphase, hboot⟩ := h.ofBoot hr
  unfold MemorySubsystem.bootHeapDealloc
  split
  · exact h
  · rename_i phys hphys
    unfold Sound
    simp only [hr]
    exact ⟨hphase, hboot.dealloc hb hphys⟩

end

section

variable (h : m.Sound)
include h

lemma Sound.deallocPages (hb : b ∈ m.live)
    (hsize : b.size = numPages * PAGE_SIZE ∨ m.runtime.isSome = true)
    (hcount : numPages = pageCount b.size) (hsolid : ∀ r ∈ m.runtime, b.Solid)
    (hwhole : m.runtime.isSome = true → m.GoesBackWhole b.start numPages) :
    (m.deallocPages b.start numPages).Sound := by
  fun_cases MemorySubsystem.deallocPages m b.start numPages with
  | case3 _ r hr frames hdealloc =>
    obtain ⟨hphase, hsound⟩ := h.ofRuntime hr
    have hbs : b.Solid := hsolid r hr
    have hblock := hsound.block b hb
    -- the frames that go back are the block's own
    have hown : b.start % PAGE_SIZE = 0 ∧ 2 ^ orderOf numPages * PAGE_SIZE ≤ b.extent := by
      have hplaced := hblock.placed
      unfold Placed at hplaced
      split at hplaced
      · rename_i k hk
        exact absurd hk (hbs k)
      · rename_i hframes
        refine ⟨hplaced.2.1, ?_⟩
        rw [hcount, Block.extent, hframes]
      · rename_i hboot
        obtain ⟨hstart, hfits⟩ := hwhole (by rw [hr]; rfl) b hb rfl hboot
        exact ⟨hstart, le_trans hfits hblock.fits⟩
    refine ⟨hphase, hsound.frames_dealloc hb hbs hdealloc ?_⟩
    intro phys hphys frame hlow hhigh byte hin
    exact frames_in_block hown.1 hown.2 hphys hlow hhigh hin
  | case4 _ hr =>
    rcases hsize with heq | hsome
    · rw [← heq]
      exact h.bootHeapDealloc hr hb
    · rw [hr] at hsome
      cases hsome
  | _ => exact h

lemma Sound.deallocRuntime (hb : b ∈ m.live) (hpaged : b.paged = false)
    (hr : m.runtime = some r) (hcache : cache < r.slab.caches.length)
    (hwhole : isSmallLayout b.size b.align = false → m.GoesBackWhole b.start (pageCount b.size)) :
    (m.deallocRuntime cache b.start b.size b.align).Sound := by
  obtain ⟨hphase, hsound⟩ := h.ofRuntime hr
  have hblock := hsound.block b hb
  unfold MemorySubsystem.deallocRuntime
  split
  · rename_i hsmall
    rw [hr]
    refine h.settle hr fun r' hsettle => ?_
    have hkeeps := r.slab.keeps_dealloc cache b.start b.size b.align
    have hstarts : ((m.live.filter (·.start ≠ b.start)).map Block.start).Nodup :=
      hsound.starts.sublist (filter_sublist.map _)
    have hplaced := hblock.placed
    unfold Placed at hplaced
    split at hplaced
    · rename_i k hk
      obtain ⟨hlive, hclass, _⟩ := hplaced
      obtain ⟨page, hpage, hobject⟩ := hsound.slab.live_mem b.start k hlive
      have hpageSound := hsound.slab.page page k hpage
      have hbase := pageBaseForPtr_object hpageSound.class_lt hpageSound.aligned hobject
      have hslab : (r.slab.dealloc cache b.start b.size b.align).Sound :=
        Slab.step_sound (.dealloc cache b.start b.size b.align) hsound.slab
          ⟨hcache, k, hclass, hlive⟩ trivial
      refine hsound.reslab hsettle (hsound.serves hslab hkeeps) hstarts fun c hc => .inl ?_
      obtain ⟨hmem, hne⟩ := mem_without.1 hc
      refine ⟨hmem, fun j hj => ?_⟩
      rw [Slab.dealloc_live hclass hbase hpageSound.hasMeta]
      refine (mem_erase_of_ne fun heq => ?_).2 ((hsound.block c hmem).object hj).1
      exact hne (Prod.mk.inj heq).1
    · rw [hplaced.2.2.2 hpaged] at hsmall
      cases hsmall
    · -- a page with a block of the boot heap has no metadata
      have hnone : r.slab.dealloc cache b.start b.size b.align = r.slab := by
        refine Slab.dealloc_of_not_hasMeta fun page hpage => ?_
        by_contra hmeta
        rw [Bool.not_eq_false] at hmeta
        obtain ⟨phys, hphys, rfl⟩ := map_eq_some_iff.1 hpage
        have hvirt := physToVirt_virtToPhys hphys
        refine hplaced.2 b.start (hsound.holds_start hb) _ (Nat.mul_mod_left ..) hmeta ?_
        simp only [InPage, physToVirt, alignDown, PAGE_SIZE] at *
        omega
      rw [hnone] at hsettle
      refine hsound.reslab hsettle (hsound.serves hsound.slab (.refl _)) hstarts fun c hc => .inl ?_
      have hmem := (mem_without.1 hc).1
      exact ⟨hmem, fun j hj => ((hsound.block c hmem).object hj).1⟩
  · rename_i hlarge
    refine h.deallocPages hb (.inr (by rw [hr]; rfl)) rfl (fun r' hr' k hk => ?_)
      fun _ => hwhole (Bool.eq_false_iff.2 hlarge)
    exact hlarge (classIndex_small (hblock.object hk).2.1)

lemma Sound.deallocGlobal {ptr : Nat} (hlegal : m.Legal (.deallocGlobal cpu ptr size align))
    (hcareful : m.Careful (.deallocGlobal cpu ptr size align)) :
    (m.deallocGlobal cpu ptr size align).Sound := by
  obtain ⟨hcache, b, hb, rfl, rfl, rfl, hpaged⟩ := hlegal
  unfold MemorySubsystem.deallocGlobal
  split
  · exact h
  · cases hphase : m.phase with
    | uninit => exact h
    | bootHeap => exact h.bootHeapDealloc (h.runtime_none hphase) hb
    | bootstrapSlub =>
      obtain ⟨r, hr⟩ := h.runtime_of_phase (by rw [hphase]; simp)
      exact h.deallocRuntime hb hpaged hr (h.ofRuntime hr).2.bootstrap (hcareful (by rw [hr]; rfl))
    | perCpuSlub =>
      obtain ⟨r, hr⟩ := h.runtime_of_phase (by rw [hphase]; simp)
      exact h.deallocRuntime hb hpaged hr (hcache r hr) (hcareful (by rw [hr]; rfl))

/-! ## Phases and stores -/

lemma Sound.enterNextPhase (cpuCount maxOrder : Nat) (memory : Nat → Nat) :
    (m.enterNextPhase cpuCount maxOrder memory).Sound := by
  unfold MemorySubsystem.enterNextPhase
  cases hphase : m.phase with
  | uninit | perCpuSlub => exact h
  | bootHeap =>
    simp only
    split
    · exact h
    · rename_i boot hboot
      exact ⟨.inl rfl, (h.ofBoot (h.runtime_none hphase)).2.init hboot memory cpuCount⟩
  | bootstrapSlub =>
    simp only
    split
    · exact h
    · rename_i r' hsettle
      obtain ⟨r, hr, hsettle⟩ := bind_eq_some_iff.1 hsettle
      obtain ⟨_, hsound⟩ := h.ofRuntime hr
      have hkeeps := r.slab.keeps_releaseSlots 0 (range SIZE_CLASSES.length)
      have hslab := hsound.slab.releaseSlots hsound.bootstrap (range SIZE_CLASSES.length)
      refine ⟨.inr rfl, hsound.reslab hsettle (hsound.serves hslab hkeeps) hsound.starts
        fun b hb => .inl ⟨hb, fun j hj => ?_⟩⟩
      show _ ∈ (r.slab.releaseSlots 0 _).live
      rw [Slab.releaseSlots_live]
      exact ((hsound.block b hb).object hj).1

lemma Sound.store {address : Nat} (value : Nat)
    (hlegal : m.Legal (.store address value)) : (m.store address value).Sound := by
  obtain ⟨b, hb, hlow, hhigh⟩ := hlegal
  cases hr : m.runtime with
  | none =>
    unfold MemorySubsystem.store Sound
    simp only [hr, map_none]
    exact h.ofBoot hr
  | some r =>
    obtain ⟨hphase, hsound⟩ := h.ofRuntime hr
    unfold MemorySubsystem.store Sound
    simp only [hr, map_some]
    have hslab : (r.slab.write address value).Sound := by
      have hblock := hsound.block b hb
      by_cases hsolid : b.Solid
      · refine hsound.slab.write_outside (fun page k hpage hobject => ?_) value
        obtain ⟨hobjLow, hobjHigh⟩ := object_bounds (hsound.slab.page page k hpage).class_lt hobject
        have hsize := (objectSize_spec (hsound.slab.page page k hpage).class_lt).1
        have hbyte : b.Has address := ⟨hlow, by omega⟩
        exact (hblock.outside hsolid address (hblock.holds hbyte)).2 page k hpage ⟨hobjLow, by omega⟩
      · simp only [Block.Solid, not_forall, not_not] at hsolid
        obtain ⟨k, hk⟩ := hsolid
        obtain ⟨hlive, hclass, _⟩ := hblock.object hk
        have hfits := (classIndex_le hclass).1
        exact hsound.slab.store hlive ⟨hlow, by simp only; omega⟩ value
    refine ⟨hphase, hslab, hsound.taken, hsound.starts, fun c hc => ?_, hsound.solid, hsound.bootstrap⟩
    exact (hsound.block c hc).transfer rfl (fun k hk => ((hsound.block c hc).object hk).1)
      fun hsolid => (hsound.block c hc).outside hsolid

lemma step_sound {op : HeapOp} (hlegal : m.Legal op) (hcareful : m.Careful op) : (m.step op).Sound := by
  cases op with
  | allocGlobal cpu size align pick => exact h.allocGlobal hlegal hcareful
  | deallocGlobal cpu ptr size align => exact h.deallocGlobal hlegal hcareful
  | allocPages numPages alignment pick =>
    refine h.allocPagesWithZone hlegal hcareful ?_ nofun
    rw [pageCount_mul]
  | deallocPages addr numPages =>
    obtain ⟨b, hb, rfl, hsize, hpaged⟩ := hlegal
    have hcount : numPages = pageCount b.size := by rw [hsize, pageCount_mul]
    refine h.deallocPages hb (.inl hsize) hcount (fun r hr k hk => ?_) hcareful
    have hnot := (((h.ofRuntime hr).2.block b hb).object hk).2.2
    rw [hpaged] at hnot
    cases hnot
  | enterNextPhase cpuCount maxOrder memory => exact h.enterNextPhase cpuCount maxOrder memory
  | store address value => exact h.store value hlegal

end

/-! ## The law -/

lemma boot_sound {map : List Arena} (hmap : Separate map) : (boot map).Sound := by
  have hempty : ∀ byte, ¬ EarlyAllocator.Free [] byte := by simp [EarlyAllocator.Free]
  obtain ⟨htidy, habove⟩ : (EarlyAllocator.initFromMap [] map).Tidy ∧ _ :=
    initFromMap_sound hmap ⟨List.Pairwise.nil, by simp⟩ (fun byte hfree => absurd hfree (hempty byte))
      fun byte hfree => absurd hfree (hempty byte)
  exact ⟨rfl, htidy, habove, by simp [boot], by simp [boot], by simp [boot], by simp [boot],
    List.Pairwise.nil⟩

/-- Of two objects of a page the live one is not in the free list. -/
lemma RuntimeSound.not_offered {live : List Block} (h : RuntimeSound r live) (hb : b ∈ live)
    (hbyte : b.Holds byte) : ¬ r.slab.Offers byte := by
  rintro ⟨page, k, free, a, hpage, hchain, ha, hlow, hhigh⟩
  have hpageSound := h.slab.page page k hpage
  obtain ⟨free', hchain', _, hfree⟩ := hpageSound.free_list
  obtain rfl := hchain.unique hchain'
  obtain ⟨hobject, hnotLive⟩ := (hfree a).1 ha
  obtain ⟨hpageLow, hpageHigh⟩ := object_bounds hpageSound.class_lt hobject
  have hin : InPage page byte := ⟨by omega, by omega⟩
  by_cases hsolid : b.Solid
  · exact ((h.block b hb).outside hsolid byte hbyte).2 page k hpage hin
  · simp only [Block.Solid, not_forall, not_not] at hsolid
    obtain ⟨j, hj⟩ := hsolid
    obtain ⟨hlive, _⟩ := (h.block b hb).object hj
    obtain ⟨q, hq, hobject', hbytes⟩ := h.object_page hlive
    rw [Block.Holds, Block.extent, hj] at hbyte
    obtain rfl := InPage.unique (h.slab.page q j hq).aligned hpageSound.aligned
      (hbytes byte hbyte.1 hbyte.2) hin
    obtain rfl := h.slab.class_unique hq hpage
    have hne : b.start ≠ a := by
      rintro rfl
      exact hnotLive hlive
    have hapart := objects_apart hobject' hobject hne
    have hbelow : byte < b.start + objectSize k := hbyte.2
    omega

lemma Sound.law (h : m.Sound) : m.HeapLaw := by
  cases hr : m.runtime with
  | none =>
    obtain ⟨_, hboot⟩ := h.ofBoot hr
    have hholds : ∀ b ∈ m.live, ∀ byte, b.Has byte → b.Holds byte := by
      intro b hb byte hbyte
      simp only [Block.Has, Block.Holds, hboot.extent_eq hb] at *
      omega
    refine ⟨hboot.apart.imp_of_mem fun {a b} ha hb hclear => ?_, hboot.aligned, ?_⟩
    · simp only [Block.Clear, hboot.extent_eq ha, hboot.extent_eq hb] at hclear
      omega
    · intro b hb byte hbyte
      unfold Available
      rw [hr]
      exact hboot.taken b hb byte (hholds b hb byte hbyte)
  | some r =>
    obtain ⟨_, hsound⟩ := h.ofRuntime hr
    refine ⟨?_, fun b hb => (hsound.block b hb).aligned, ?_⟩
    · refine (pairwise_map.1 hsound.starts).imp_of_mem fun {a b} ha hb hne => ?_
      have hclear := hsound.clear ha hb hne
      have hafits := (hsound.block a ha).fits
      have hbfits := (hsound.block b hb).fits
      simp only [Block.Clear] at hclear
      omega
    · intro b hb byte hbyte
      have hholds := (hsound.block b hb).holds hbyte
      unfold Available
      rw [hr]
      rintro (⟨frame, hfree, hin⟩ | hoffer)
      · exact hsound.not_free hb hholds hfree hin
      · exact RuntimeSound.not_offered hsound hb hholds hoffer

/-- In every run from a memory map whose usable arenas do not overlap, in which every call is legal and
careful, the live blocks stay apart, aligned and out of what can be allocated. -/
theorem heapLaw_of_careful (map : List Arena) (hmap : Separate map) (ops : List HeapOp)
    (hops : Meets step (fun m op => m.Legal op ∧ m.Careful op) (boot map) ops) :
    ((boot map).run ops).HeapLaw :=
  (run_invariant (I := Sound) (fun _ _ h hop => step_sound h hop.1 hop.2) (boot_sound hmap) hops).law

instance (m : MemorySubsystem) (op : HeapOp) : Decidable (m.Legal op) := by
  cases op <;> unfold Legal <;> infer_instance

instance (m : MemorySubsystem) (op : HeapOp) : Decidable (m.Careful op) := by
  cases op <;> unfold Careful <;> infer_instance

end

/-- One mebibyte in the second zone. -/
def oneArena : List Arena := [⟨0x100000, 0x200000, .usable⟩]

/-- Blocks of the boot heap, one of them a page that is given back as one later, then objects and pages of
the two phases that follow. -/
def throughThePhases : List HeapOp :=
  [.allocGlobal 0 100 16 none, .allocPages 1 4096 none, .enterNextPhase 2 18 fun _ => 0,
    .deallocGlobal 0 (physToVirt 0x1fff90) 100 16, .deallocPages (physToVirt 0x1fe000) 1,
    .allocGlobal 0 24 8 (some (.dma32, 0)), .store (physToVirt 0x100008) 7,
    .enterNextPhase 2 18 fun _ => 0, .allocGlobal 1 5000 4096 (some (.dma32, 2)),
    .deallocGlobal 1 (physToVirt 0x100000) 24 8]

theorem heapLaw_throughThePhases : ((boot oneArena).run throughThePhases).live.length = 1 ∧
      ((boot oneArena).run throughThePhases).phase = .perCpuSlub ∧
      ((boot oneArena).run throughThePhases).HeapLaw :=
  ⟨by decide +kernel, by decide +kernel,
    heapLaw_of_careful oneArena (by unfold Separate oneArena; decide) throughThePhases (by decide +kernel)⟩

/-- Two blocks of the boot heap in one page; the larger one is given back once the boot heap is left. -/
def sharedPage : List HeapOp :=
  [.allocGlobal 0 3000 8 none, .allocGlobal 0 100 8 none, .enterNextPhase 2 18 fun _ => 0,
    .deallocGlobal 0 (physToVirt 0x1ff448) 3000 8]

/-- The page goes to the frame allocator with the bytes of the other block. -/
theorem heapLaw_fails : Separate oneArena ∧ Meets step Legal (boot oneArena) sharedPage ∧
    ¬ ((boot oneArena).run sharedPage).HeapLaw := by
  refine ⟨by unfold Separate oneArena; decide, by decide +kernel, fun hlaw => ?_⟩
  have hlive : (⟨physToVirt 0x1ff3e0, 100, 8, .boot, false⟩ : Block) ∈
      ((boot oneArena).run sharedPage).live := by decide +kernel
  have hfree : (((boot oneArena).run sharedPage).runtime.any fun r => r.frames.free 0x1ff) = true := by
    decide +kernel
  refine hlaw.unavailable _ hlive (physToVirt 0x1ff3e0) ?_ ?_
  · unfold Block.Has physToVirt
    decide
  · unfold Available
    cases hr : ((boot oneArena).run sharedPage).runtime with
    | none =>
      rw [hr] at hfree
      cases hfree
    | some r =>
      rw [hr] at hfree
      refine .inl ⟨0x1ff, hfree, ?_⟩
      unfold InPage physToVirt PAGE_SIZE
      decide

/-! ## Pages at physical addresses -/

/-- The block starts at a physical address that is a multiple of the alignment. -/
def PhysAligned (b : Block) (alignment : Nat) : Prop :=
  ∃ phys, virtToPhys b.start = some phys ∧ phys % alignment = 0

/-- Once there is a frame allocator, the pages that `alloc_pages` returns are aligned just if the zone that
they come from starts at a multiple of the alignment. -/
theorem physAligned_iff_zone [LLFree] (m : MemorySubsystem) (hruntime : m.runtime.isSome = true)
    (numPages alignment : Nat) (halign : powerOfTwo alignment = true) (zone : Zone) (id : Nat) (b : Block)
    (hserved : (m.allocPages numPages alignment (some (zone, id))).live = b :: m.live) :
    PhysAligned b alignment ↔ zone.start % alignment = 0 := by
  obtain ⟨r, hr⟩ := isSome_iff_exists.1 hruntime
  have hrefused : m.live ≠ b :: m.live := (cons_ne_self b m.live).symm
  unfold allocPages MemorySubsystem.allocPagesWithZone at hserved
  rw [hr] at hserved
  split at hserved
  · exact absurd hserved hrefused
  · cases hcount : alignedPageCount numPages alignment with
    | none =>
      rw [hcount] at hserved
      exact absurd hserved hrefused
    | some count =>
      rw [hcount] at hserved
      dsimp only at hserved
      split at hserved
      · exact absurd hserved hrefused
      · rename_i phys frames halloc
        obtain ⟨rfl, -⟩ := cons.inj hserved
        obtain ⟨rfl, hdvd⟩ := block_offset halloc hcount halign
        simp only [PhysAligned, virtToPhys_physToVirt, some.injEq, exists_eq_left',
          ← Nat.dvd_iff_mod_eq_zero]
        exact (Nat.dvd_add_iff_left hdvd).symm

/-- Three mebibytes in the second zone, which starts at the first mebibyte. -/
def started : MemorySubsystem :=
  (boot [⟨0x100000, 0x400000, .usable⟩]).run [.enterNextPhase 1 18 fun _ => 0]

theorem physAligned_started : ∃ b, (started.allocPages 4 0x4000 (some (.dma32, 4))).live =
    b :: started.live ∧ PhysAligned b 0x4000 :=
  ⟨_, by decide +kernel, (physAligned_iff_zone started (by decide +kernel) 4 0x4000 (by decide) .dma32 4
    ⟨physToVirt 0x104000, 0x4000, 0x4000, .frames, true⟩ (by decide +kernel)).2 (by decide)⟩

/-- Two mebibytes that are to be aligned to their size come from the start of the second zone. -/
theorem physAligned_fails : started.runtime.isSome = true ∧ powerOfTwo 0x200000 = true ∧
    ∃ b, (started.allocPages 512 0x200000 (some (.dma32, 0))).live = b :: started.live ∧
      ¬ PhysAligned b 0x200000 := by
  refine ⟨by decide +kernel, by decide, ⟨physToVirt 0x100000, 0x200000, 0x200000, .frames, true⟩,
    by decide +kernel, ?_⟩
  rintro ⟨phys, hphys, hmod⟩
  rw [virtToPhys_physToVirt] at hphys
  cases hphys
  exact absurd hmod (by decide)

end MemorySubsystem

end Akarin.Heap
