/-
# Akarin.Heap.Blocks -- the blocks of usable memory

`mark_usable` cuts a range of memory into blocks that the zone can take back: powers of two of frames, aligned
to their size. The cursor's trailing zeros keep a block aligned, the largest power of two in the rest keeps it
inside the range, and as every block starts where the one before it ends, nothing is left out.
-/
import Akarin.Heap.Frame
import Mathlib.Order.CompletePartialOrder
import Mathlib.Order.Interval.Finset.Nat

namespace Akarin.Heap.FrameAllocator

open List

/-- The frames that are whole pages of a range, by their numbers in the zone. -/
def wholePages (zone : Zone) (start stop : Nat) : Set Nat :=
  {frame | start ≤ zone.start + frame * PAGE_SIZE ∧ zone.start + (frame + 1) * PAGE_SIZE ≤ stop}

/-- The frames of a block, which is a first frame and an order. -/
def blockFrames (block : Nat × Nat) : Set Nat := Set.Ico block.1 (block.1 + 2 ^ block.2)

/-- The blocks are apart, make up the frames, and are aligned. -/
structure Tiles (maxOrder : Nat) (frames : Set Nat) (blocks : List (Nat × Nat)) : Prop where
  apart : blocks.Pairwise fun b c => Disjoint (blockFrames b) (blockFrames c)
  union : ∀ frame, frame ∈ frames ↔ ∃ b ∈ blocks, frame ∈ blockFrames b
  order_le : ∀ b ∈ blocks, b.2 ≤ maxOrder
  aligned : ∀ b ∈ blocks, 2 ^ b.2 ∣ b.1

/-- The blocks that the loop of `mark_usable` passes to the zone. -/
def markBlocks (maxOrder : Nat) : (fuel frame frameEnd : Nat) → List (Nat × Nat)
  | 0, _, _ => []
  | fuel + 1, frame, frameEnd =>
    if frame < frameEnd then
      let order := min (min (trailingZeros frame) maxOrder) (Nat.log2 (frameEnd - frame))
      (frame, order) :: markBlocks maxOrder fuel (frame + 2 ^ order) frameEnd
    else []

/-- The blocks that `mark_usable` passes to the zone. -/
def usableBlocks (maxOrder : Nat) (zone : Zone) (rangeStart rangeStop : Nat) : List (Nat × Nat) :=
  let start := alignUp rangeStart PAGE_SIZE
  let stop := alignDown rangeStop PAGE_SIZE
  markBlocks maxOrder ((stop - start) / PAGE_SIZE) ((start - zone.start) / PAGE_SIZE)
    ((stop - zone.start) / PAGE_SIZE)

/-- A number is a multiple of its lowest bit. -/
lemma two_pow_trailingZeros_dvd {n : Nat} (hn : n < 2 ^ 64) : 2 ^ trailingZeros n ∣ n := by
  cases n with
  | zero => exact dvd_zero _
  | succ m =>
    show 2 ^ Nat.log2 (m + 1 &&& (2 ^ 64 - (m + 1))) ∣ m + 1
    by_cases hlow : m + 1 &&& (2 ^ 64 - (m + 1)) = 0
    · rw [hlow]
      exact one_dvd _
    · -- the bit is set in the number and clear in the one before, so nothing is below it
      have hbit := Nat.testBit_log2 hlow
      rw [Nat.testBit_and, Nat.testBit_two_pow_sub_succ (by omega)] at hbit
      by_contra hdvd
      rw [Nat.testBit_eq_decide_div_mod_eq, Nat.testBit_eq_decide_div_mod_eq,
        Nat.succ_div_of_not_dvd hdvd] at hbit
      simp only [Bool.and_eq_true, decide_eq_true_eq, Bool.not_eq_true', decide_eq_false_iff_not] at hbit
      exact hbit.2.2 hbit.1

variable {zone : Zone} {maxOrder fuel first last order start stop : Nat}
  {blocks : List (Nat × Nat)}

lemma Tiles.nil (hlast : last ≤ first) : Tiles maxOrder (Set.Ico first last) [] := by
  refine ⟨.nil, fun frame => ?_, by simp, by simp⟩
  simp only [Set.mem_Ico, not_mem_nil, false_and, exists_false, iff_false]
  omega

/-- A block before the others. -/
lemma Tiles.cons (h : Tiles maxOrder (Set.Ico (first + 2 ^ order) last) blocks)
    (hle : order ≤ maxOrder) (hdvd : 2 ^ order ∣ first) (hstop : first + 2 ^ order ≤ last) :
    Tiles maxOrder (Set.Ico first last) ((first, order) :: blocks) := by
  refine ⟨.cons (fun b hb => ?_) h.apart, fun frame => ?_, ?_, ?_⟩
  · rw [Set.disjoint_left]
    intro frame hfirst hframe
    have hrest := (h.union frame).2 ⟨b, hb, hframe⟩
    exact absurd hfirst.2 (Nat.not_lt.2 hrest.1)
  · rw [exists_mem_cons_iff, ← h.union]
    simp only [blockFrames, Set.mem_Ico]
    omega
  · exact forall_mem_cons.2 ⟨hle, h.order_le⟩
  · exact forall_mem_cons.2 ⟨hdvd, h.aligned⟩

/-- The blocks tile what is left of the range. -/
lemma markBlocks_tiles (hlast : last ≤ 2 ^ 64) (hfuel : last ≤ first + fuel) :
    Tiles maxOrder (Set.Ico first last) (markBlocks maxOrder fuel first last) := by
  induction fuel generalizing first with
  | zero => exact .nil hfuel
  | succ fuel ih =>
    rw [markBlocks]
    split
    · rename_i hlt
      dsimp only
      generalize horder : min (min (trailingZeros first) maxOrder) (Nat.log2 (last - first)) = order
      have hpos := Nat.two_pow_pos order
      apply (ih (by omega)).cons
      · omega
      · exact (Nat.pow_dvd_pow 2 (by omega)).trans (two_pow_trailingZeros_dvd (by omega))
      · have hpow : 2 ^ order ≤ 2 ^ Nat.log2 (last - first) := Nat.pow_le_pow_right (by decide) (by omega)
        have hself := Nat.log2_self_le (show last - first ≠ 0 by omega)
        omega
    · exact .nil (by omega)

section

variable [LLFree] {fa fa' : FrameAllocator}

/-- The zone takes the blocks back, one after the other. -/
def putAll (fa : FrameAllocator) (zone : Zone) (blocks : List (Nat × Nat)) : Option FrameAllocator :=
  blocks.foldlM (fun fa block => fa.put zone block.1 block.2) fa

/-- Only the frames change. -/
lemma put_eq {id : Nat} (h : fa.put zone id order = some fa') :
    fa'.maxOrder = fa.maxOrder ∧ fa'.totalFrames = fa.totalFrames := by
  obtain ⟨frames, -, rfl⟩ := Option.map_eq_some_iff.1 h
  exact ⟨rfl, rfl⟩

lemma putAll_total (h : fa.putAll zone blocks = some fa') : fa'.totalFrames = fa.totalFrames := by
  induction blocks generalizing fa with
  | nil =>
    cases h
    rfl
  | cons block blocks ih =>
    obtain ⟨fb, hput, hrest⟩ := Option.bind_eq_some_iff.1 h
    rw [ih hrest, (put_eq hput).2]

lemma markLoop_eq :
    fa.markLoop zone fuel first last = fa.putAll zone (markBlocks fa.maxOrder fuel first last) := by
  induction fuel generalizing fa first with
  | zero => rfl
  | succ fuel ih =>
    rw [markLoop, markBlocks]
    split
    · dsimp only
      rw [putAll, foldlM_cons]
      cases hput : fa.put zone first _ with
      | none => rfl
      | some fb =>
        rw [← (put_eq hput).1]
        exact ih
    · rfl

end

lemma wholePages_eq (stop : Nat) (hstart : zone.start ≤ start) : wholePages zone start stop =
    Set.Ico ((alignUp start PAGE_SIZE - zone.start) / PAGE_SIZE)
      ((alignDown stop PAGE_SIZE - zone.start) / PAGE_SIZE) := by
  obtain ⟨base, hbase⟩ := zone.start_dvd
  ext frame
  simp only [wholePages, Set.mem_ofPred_eq, Set.mem_Ico, hbase, alignUp, alignDown, PAGE_SIZE] at *
  omega

lemma ncard_wholePages (stop : Nat) (hstart : zone.start ≤ start) : (wholePages zone start stop).ncard =
    (alignDown stop PAGE_SIZE - alignUp start PAGE_SIZE) / PAGE_SIZE := by
  rw [wholePages_eq stop hstart, ← Finset.coe_Ico, Set.ncard_coe_finset, Nat.card_Ico]
  obtain ⟨base, hbase⟩ := zone.start_dvd
  simp only [hbase, alignUp, alignDown, PAGE_SIZE] at *
  omega

lemma usableBlocks_tiles (hstart : zone.start ≤ start) (hstop : stop ≤ zone.stop) :
    Tiles maxOrder (wholePages zone start stop) (usableBlocks maxOrder zone start stop) := by
  have hzone : zone.stop ≤ 2 ^ 64 := by cases zone <;> decide
  obtain ⟨base, hbase⟩ := zone.start_dvd
  rw [wholePages_eq stop hstart]
  apply markBlocks_tiles
  · simp only [hbase, alignDown, PAGE_SIZE] at *
    omega
  · simp only [hbase, alignUp, alignDown, PAGE_SIZE] at *
    omega

/-- A range with a whole page passes the assertion and the test for an empty range. -/
lemma markUsable_eq [LLFree] (fa : FrameAllocator) (hstart : zone.start ≤ start) (hstop : stop ≤ zone.stop)
    (hpage : (wholePages zone start stop).Nonempty) : fa.markUsable zone start stop =
      (fa.putAll zone (usableBlocks fa.maxOrder zone start stop)).map fun fa =>
        fa.addTotal zone (wholePages zone start stop).ncard := by
  obtain ⟨page, hlow, hhigh⟩ := hpage
  obtain ⟨base, hbase⟩ := zone.start_dvd
  have hcontains : ¬ (alignDown stop PAGE_SIZE = 0 ∨
      ¬ (zone.contains start = true ∧ zone.contains (alignDown stop PAGE_SIZE - 1) = true)) := by
    simp only [Zone.contains, Bool.and_eq_true, decide_eq_true_eq]
    simp only [hbase, alignDown, PAGE_SIZE] at *
    omega
  have hsome : ¬ (alignDown stop PAGE_SIZE ≤ alignUp start PAGE_SIZE ∨
      alignDown stop PAGE_SIZE - alignUp start PAGE_SIZE < PAGE_SIZE) := by
    simp only [hbase, alignUp, alignDown, PAGE_SIZE] at *
    omega
  rw [ncard_wholePages stop hstart, usableBlocks, ← markLoop_eq]
  simp only [markUsable]
  rw [if_neg hcontains, if_neg hsome]

/-- The blocks tile the whole pages of a range inside the zone, `mark_usable` passes these blocks to the zone,
one after the other, and when the zone refuses none of them the total grows by the number of the pages. -/
theorem markUsable_tiles [LLFree] (fa : FrameAllocator) (zone : Zone) (start stop : Nat)
    (hstart : zone.start ≤ start) (hstop : stop ≤ zone.stop)
    (hpage : (wholePages zone start stop).Nonempty) :
    Tiles fa.maxOrder (wholePages zone start stop) (usableBlocks fa.maxOrder zone start stop) ∧
      (fa.markUsable zone start stop).map FrameAllocator.frames =
        (fa.putAll zone (usableBlocks fa.maxOrder zone start stop)).map FrameAllocator.frames ∧
      ∀ fa', fa.markUsable zone start stop = some fa' → ∀ other, fa'.totalFrames other =
        fa.totalFrames other + if other = zone then (wholePages zone start stop).ncard else 0 := by
  rw [markUsable_eq fa hstart hstop hpage]
  refine ⟨usableBlocks_tiles hstart hstop, ?_, fun fa' hfa other => ?_⟩
  · rw [Option.map_map]
    rfl
  · obtain ⟨fb, hput, rfl⟩ := Option.map_eq_some_iff.1 hfa
    rw [addTotal, putAll_total hput]
    split
    · subst other
      exact Function.update_self ..
    · exact Function.update_of_ne ‹_› ..

/-- From the second page to the ninth: all of these were allocated. -/
theorem markUsable_tiles_lowPages : ∃ fa', (new 10 0x100000).markUsable .low 0x1800 0x9fff = some fa' ∧
    fa'.totalFrames .low = (wholePages .low 0x1800 0x9fff).ncard := by
  have hfed : ((new 10 0x100000).markUsable .low 0x1800 0x9fff).isSome = true := by decide +kernel
  obtain ⟨fa', hfa⟩ := Option.isSome_iff_exists.1 hfed
  have htotal := (markUsable_tiles (new 10 0x100000) .low 0x1800 0x9fff (by decide) (by decide)
    ⟨2, by decide, by decide⟩).2.2 fa' hfa .low
  exact ⟨fa', hfa, htotal.trans (Nat.zero_add _)⟩

end Akarin.Heap.FrameAllocator
