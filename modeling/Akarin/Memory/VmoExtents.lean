/-
# Akarin.Memory.VmoExtents -- extents, their index, and what each operation does to them

The index of a VMO is a cache over its extents. This module says when the two fit together
(`VmoInner.Sound`), what the loop of `commit_range` does to them (`CommitEffect`), and that pushing pages
keeps them so. What holds over whole runs is in `Akarin.Memory.VmoRuns`.
-/
import Akarin.Lib.Runs
import Akarin.Memory.Vmo

namespace Akarin.Memory

open List VmoExtent VmoRangeIndex Bool
open Lib (Action Fault)

/-! ## What a rebuilt index answers -/

namespace VmoInner

lemma snapshots_concat (extents : List VmoExtent) (extent : VmoExtent) : snapshots (extents ++ [extent]) =
      snapshots extents ++ [(extents.length, extent.offset, extent.stop)] := by
  simp [snapshots, zipIdx_append]

lemma lastOwner_concat (extents : List VmoExtent) (extent : VmoExtent) (offset : Nat) :
    lastOwner (snapshots (extents ++ [extent])) offset =
      if extent.contains offset then some extents.length
      else lastOwner (snapshots extents) offset := by
  simp [snapshots_concat, lastOwner, contains_iff]

/-- Extent `i` contains the offset and no later extent does. -/
structure LastAt (extents : List VmoExtent) (i offset : Nat) : Prop where
  contains : ∃ extent, extents[i]? = some extent ∧ extent.contains offset = true
  last : ∀ j extent, i < j → extents[j]? = some extent → extent.contains offset = false

variable {offset i : Nat} {extents : List VmoExtent}

lemma LastAt.lt_length (h : LastAt extents i offset) : i < extents.length := by
  obtain ⟨extent, hextent, -⟩ := h.contains
  exact (List.getElem?_eq_some_iff.1 hextent).1

lemma getElem?_concat {α : Type} (xs : List α) (x : α) (i : Nat) :
    (xs ++ [x])[i]? = if i = xs.length then some x else xs[i]? := by
  by_cases h : i = xs.length
  · subst h
    simp
  · rw [if_neg h]
    rcases lt_or_gt_of_ne h with hlt | hgt
    · rw [getElem?_append_left hlt]
    · rw [getElem?_eq_none (by simp; omega), getElem?_eq_none (by omega)]

lemma lastAt_concat {extent : VmoExtent} : LastAt (extents ++ [extent]) i offset ↔
      (i = extents.length ∧ extent.contains offset = true) ∨
        (extent.contains offset = false ∧ LastAt extents i offset) := by
  constructor
  · rintro ⟨⟨e, he, hin⟩, hlast⟩
    rw [getElem?_concat] at he
    split at he
    · rename_i hi
      cases he
      exact .inl ⟨hi, hin⟩
    · have hi := (List.getElem?_eq_some_iff.1 he).1
      refine .inr ⟨hlast extents.length extent hi (by simp), ⟨e, he, hin⟩, ?_⟩
      intro j e' hij he'
      have hj := (List.getElem?_eq_some_iff.1 he').1
      exact hlast j e' hij (by rw [getElem?_concat, if_neg (by omega)]; exact he')
  · rintro (⟨rfl, hin⟩ | ⟨hout, h⟩)
    · refine ⟨⟨extent, by simp, hin⟩, ?_⟩
      intro j e hij he
      have hj := (List.getElem?_eq_some_iff.1 he).1
      simp at hj
      omega
    · have hi := h.lt_length
      obtain ⟨⟨e, he, hin⟩, hlast⟩ := h
      refine ⟨⟨e, by rw [getElem?_concat, if_neg (by omega)]; exact he, hin⟩, ?_⟩
      intro j e' hij he'
      rw [getElem?_concat] at he'
      split at he'
      · cases he'
        exact hout
      · exact hlast j e' hij he'

/-- The rebuilt index names the last extent that contains the offset. -/
lemma ownerAt_rebuild_eq_some : (rebuild (snapshots extents)).ownerAt offset = some i ↔
      LastAt extents i offset := by
  rw [ownerAt_rebuild]
  induction extents using reverseRecOn with
  | nil =>
    constructor
    · intro h
      cases h
    · intro h
      have := h.lt_length
      simp at this
  | append_singleton extents extent ih =>
    rw [lastOwner_concat, lastAt_concat, ← ih]
    by_cases hin : extent.contains offset = true
    · simp [hin, eq_comm]
    · simp [hin]

lemma ownerAt_rebuild_eq_none : (rebuild (snapshots extents)).ownerAt offset = none ↔
      ∀ extent ∈ extents, extent.contains offset = false := by
  rw [ownerAt_rebuild]
  induction extents using reverseRecOn with
  | nil => simp [snapshots, lastOwner]
  | append_singleton extents extent ih =>
    rw [lastOwner_concat]
    by_cases hin : extent.contains offset = true
    · simp [hin]
    · rw [if_neg hin, ih]
      simp only [mem_append, mem_singleton]
      constructor
      · rintro h e (he | rfl)
        · exact h e he
        · simpa using hin
      · intro h e he
        exact h e (.inl he)

/-! ## The two properties -/

/-- No offset lies in two extents. -/
def Disjoint (inner : VmoInner) : Prop :=
  inner.extents.Pairwise fun one other =>
    ∀ offset, ¬ (one.contains offset = true ∧ other.contains offset = true)

/-- The index answers `i` for an offset exactly when extent `i` exists and contains it. -/
def IndexExact (inner : VmoInner) : Prop :=
  ∀ offset i, inner.index.ownerAt offset = some i ↔
    ∃ extent, inner.extents[i]? = some extent ∧ extent.contains offset = true

/-- The index is the one `rebuild` computes from the extents. -/
def Indexed (inner : VmoInner) : Prop := inner.index = .rebuild (snapshots inner.extents)

variable {inner : VmoInner}

lemma Disjoint.ne (h : inner.Disjoint) {j : Nat} {one other : VmoExtent}
    (hi : inner.extents[i]? = some one) (hj : inner.extents[j]? = some other)
    (hone : one.contains offset = true) (hother : other.contains offset = true) : i = j := by
  obtain ⟨hil, rfl⟩ := List.getElem?_eq_some_iff.1 hi
  obtain ⟨hjl, rfl⟩ := List.getElem?_eq_some_iff.1 hj
  have hpair := pairwise_iff_getElem.1 h
  rcases lt_trichotomy i j with hlt | heq | hgt
  · exact absurd ⟨hone, hother⟩ (hpair i j hil hjl hlt offset)
  · exact heq
  · exact absurd ⟨hother, hone⟩ (hpair j i hjl hil hgt offset)

/-- Over disjoint extents a freshly rebuilt index is exact. -/
lemma Indexed.exact (hi : inner.Indexed) (hd : inner.Disjoint) : inner.IndexExact := by
  intro offset i
  rw [hi, ownerAt_rebuild_eq_some]
  constructor
  · exact fun h => h.contains
  · rintro ⟨extent, hextent, hin⟩
    refine ⟨⟨extent, hextent, hin⟩, ?_⟩
    intro j other hij hother
    by_contra hcontains
    have := hd.ne hextent hother hin (by simpa using hcontains)
    omega

end VmoInner

/-! ## Page-grained extents -/

/-- The extent starts on a page boundary and covers whole pages. -/
def VmoExtent.Grained (extent : VmoExtent) (pageSize : Nat) : Prop :=
  pageSize ∣ extent.offset ∧ pageSize ∣ extent.frame.lenBytes

variable {extent : VmoExtent}

/-- A page-grained extent that misses the start of a page misses the whole page. -/
lemma VmoExtent.Grained.clear {pageSize pageOffset offset : Nat} (h : extent.Grained pageSize)
    (hpage : pageSize ∣ pageOffset) (hout : extent.contains pageOffset = false) (hlo : pageOffset ≤ offset)
    (hhi : offset < pageOffset + pageSize) : extent.contains offset = false := by
  obtain ⟨⟨a, ha⟩, ⟨b, hb⟩⟩ := h
  obtain ⟨c, hc⟩ := hpage
  have hpos : 0 < pageSize := by omega
  rw [← not_eq_true, contains_iff] at hout ⊢
  have hstop : extent.stop = pageSize * (a + b) := by rw [stop, ha, hb, mul_add]
  rw [ha, hstop, hc] at hout
  rw [ha, hstop]
  rcases lt_or_ge c a with hlt | hge
  · have : pageSize * (c + 1) ≤ pageSize * a := Nat.mul_le_mul_left _ hlt
    rw [mul_add, mul_one] at this
    omega
  · have hca : pageSize * a ≤ pageSize * c := Nat.mul_le_mul_left _ hge
    rcases lt_or_ge c (a + b) with hlt | hge'
    · exact absurd ⟨hca, Nat.mul_lt_mul_of_pos_left hlt hpos⟩ hout
    · have : pageSize * (a + b) ≤ pageSize * c := Nat.mul_le_mul_left _ hge'
      omega

/-- What the operations maintain for one VMO. -/
structure VmoInner.Sound (vmo : Vmo) (inner : VmoInner) : Prop where
  indexed : inner.Indexed
  disjoint : inner.Disjoint
  grained : vmo.backing = .paged → ∀ extent ∈ inner.extents, extent.Grained vmo.pageSize

namespace VmoInner

variable {vmo : Vmo} {inner : VmoInner}

lemma Sound.fresh (vmo : Vmo) (size streamSize : Nat) (flags : VmFlags) :
    Sound vmo (fresh size streamSize flags) where
  indexed := rfl
  disjoint := List.Pairwise.nil
  grained := by
    intro _ extent hextent
    cases hextent

/-- Dropping extents and rebuilding. -/
lemma Sound.sublist (h : Sound vmo inner) {extents : List VmoExtent}
    (hsub : extents.Sublist inner.extents) : Sound vmo (inner.reindexed extents) where
  indexed := rfl
  disjoint := h.disjoint.sublist hsub
  grained hbacking extent hextent := h.grained hbacking extent (hsub.subset hextent)

/-- Pushing an extent that overlaps none and rebuilding. -/
lemma Sound.push (h : Sound vmo inner) {extent : VmoExtent} (hclear : ∀ other ∈ inner.extents, ∀ offset,
      ¬ (other.contains offset = true ∧ extent.contains offset = true))
    (hgrain : vmo.backing = .paged → extent.Grained vmo.pageSize) :
    Sound vmo (inner.reindexed (inner.extents ++ [extent])) where
  indexed := rfl
  disjoint := by
    refine pairwise_append.2 ⟨h.disjoint, pairwise_singleton _ _, ?_⟩
    intro other hother extent' hextent'
    rw [mem_singleton.1 hextent']
    exact hclear other hother
  grained := by
    intro hbacking other hother
    rcases mem_append.1 hother with hother | hother
    · exact h.grained hbacking other hother
    · rw [mem_singleton.1 hother]
      exact hgrain hbacking

end VmoInner

/-! ## The loop of `commit_range` -/

/-- Only the inner state of one VMO, the allocator and the memory may differ. -/
structure VmoHeap.Touches (heap heap' : VmoHeap) (id : Nat) : Prop where
  nextId : heap'.nextId = heap.nextId
  others : ∀ i, i ≠ id → heap'.inner i = heap.inner i

namespace VmoHeap.Touches

lemma refl (heap : VmoHeap) (id : Nat) : heap.Touches heap id := ⟨rfl, fun _ _ => rfl⟩

lemma setInner (heap : VmoHeap) (id : Nat) (inner : VmoInner) : heap.Touches (heap.setInner id inner) id :=
  ⟨rfl, fun _ h => setInner_inner_of_ne heap inner h⟩

lemma trans {heap₁ heap₂ heap₃ : VmoHeap} {id : Nat} (h₁ : heap₁.Touches heap₂ id)
    (h₂ : heap₂.Touches heap₃ id) : heap₁.Touches heap₃ id :=
  ⟨h₂.nextId.trans h₁.nextId, fun i hi => (h₂.others i hi).trans (h₁.others i hi)⟩

end VmoHeap.Touches

/-- Where an extent lies and what backs it; `committed` and `purpose` aside. -/
def VmoExtent.placement (extent : VmoExtent) : Nat × PhysRun := (extent.offset, extent.frame)

/-- The extent after its bit may have been set. -/
def VmoExtent.marked (extent : VmoExtent) (set : Bool) : VmoExtent :=
  { extent with committed := extent.committed || set }

/-- The extents with the bits of some of them set. -/
def markAll (set : Nat → Bool) (extents : List VmoExtent) : List VmoExtent :=
  extents.mapIdx fun i extent => extent.marked (set i)

/-- The pages of the range that the index calls unowned. -/
def VmoInner.missing (inner : VmoInner) (pages : List Nat) : List Nat :=
  pages.filter fun page => (inner.index.ownerAt page).isNone

/-- The range has a page that the index files under the extent in that place. -/
def VmoInner.meets (inner : VmoInner) (pages : List Nat) (i : Nat) : Bool :=
  pages.any fun page => inner.index.ownerAt page == some i

lemma marked_marked (extent : VmoExtent) (set set' : Bool) :
    (extent.marked set).marked set' = extent.marked (set || set') := by
  rw [marked, marked, marked, Bool.or_assoc]

variable {set set' : Nat → Bool} {extents : List VmoExtent}

lemma placement_markAll : (markAll set extents).map placement = extents.map placement := by
  refine ext_getElem? fun i => ?_
  rw [getElem?_map, getElem?_map, markAll, getElem?_mapIdx, Option.map_map]
  rfl

lemma markAll_eq_self (h : ∀ i, ∀ extent ∈ extents, extent.committed = true ∨ set i = false) :
    markAll set extents = extents := by
  refine mapIdx_eq_iff.2 fun i => ?_
  cases hi : extents[i]? with
  | none => rfl
  | some extent =>
    rcases h i extent (mem_of_getElem? hi) with hset | hset
    · rw [Option.map_some, marked, hset, Bool.true_or, ← hset]
    · rw [Option.map_some, marked, hset, Bool.or_false]

/-- What a part of the loop of `commit_range` does to the heap: it sets the bits of some extents, pushes committed
ones behind them and consumes allocator answers. The index is not touched. -/
structure CommitEffect (vmo : Vmo) (heap heap' : VmoHeap) (set : Nat → Bool) (pushed : List VmoExtent) : Prop
    extends heap.Touches heap' vmo.id where
  unitPageSize : heap'.allocator.unitPageSize = heap.allocator.unitPageSize
  answers : heap'.allocator.answers = heap.allocator.answers
  own : heap'.inner vmo.id = { heap.inner vmo.id with
    extents := markAll set (heap.inner vmo.id).extents ++ pushed }
  committed : ∀ extent ∈ pushed, extent.committed = true

variable {one pushed other : List VmoExtent} {vmo : Vmo} {heap heap₁ : VmoHeap}

lemma CommitEffect.trans {heap₂ heap₃ : VmoHeap} {two : List VmoExtent}
    (h₁ : CommitEffect vmo heap₁ heap₂ set one) (h₂ : CommitEffect vmo heap₂ heap₃ set' two) :
    CommitEffect vmo heap₁ heap₃ (fun i => set i || set' i) (one ++ two) where
  toTouches := h₁.toTouches.trans h₂.toTouches
  unitPageSize := h₂.unitPageSize.trans h₁.unitPageSize
  answers := h₂.answers.trans h₁.answers
  own := by
    -- what has been pushed has its bit set already
    have hone : ∀ set : Nat → Bool, one.mapIdx (fun i extent => extent.marked (set i)) = one :=
      fun _ => markAll_eq_self fun _ extent hextent => .inl (h₁.committed extent hextent)
    rw [h₂.own, h₁.own]
    simp only [markAll, mapIdx_append, mapIdx_mapIdx, hone, append_assoc, Function.comp_def, marked_marked]
  committed extent hextent := (mem_append.1 hextent).elim (h₁.committed extent) (h₂.committed extent)

lemma CommitEffect.still {heap' : VmoHeap} (h : heap' = heap ∨ heap' = heap.tick) :
    CommitEffect vmo heap heap' (fun _ => false) [] := by
  have hown : heap.inner vmo.id = { heap.inner vmo.id with
      extents := markAll (fun _ => false) (heap.inner vmo.id).extents ++ [] } := by
    rw [markAll_eq_self fun _ _ _ => .inr rfl, append_nil]
  rcases h with rfl | rfl <;> exact ⟨⟨rfl, fun _ _ => rfl⟩, rfl, rfl, hown, nofun⟩

/-- How the loop of `commit_range` ends over some pages, which bits it has set and what it has pushed. -/
structure CommitLoopResult (vmo : Vmo) (frameCount : Nat) (pages : List Nat) (dirty : Bool) (heap : VmoHeap)
    (result : Except (Fault VmoRangeOpError) Bool × VmoHeap) (set : Nat → Bool) (pushed : List VmoExtent) : Prop
    extends CommitEffect vmo heap result.2 set pushed where
  frames : ∀ extent ∈ pushed,
    extent.frame.number = frameCount ∧ extent.frame.unitPageSize = heap.allocator.unitPageSize
  isPowerOfTwo : pushed ≠ [] → Vmo.isPowerOfTwo frameCount = true
  granted : ∀ j, j < pushed.length → (heap.allocator.answers (heap.allocator.calls + j)).isSome = true
  returned : ∀ d, result.1 = .ok d → d = (dirty || !pushed.isEmpty) ∧
    result.2.allocator.calls = heap.allocator.calls + pushed.length ∧
    pushed.map (·.offset) = (heap.inner vmo.id).missing pages ∧ set = (heap.inner vmo.id).meets pages
  failed : ∀ e, result.1 = .error e → (∀ page i, (heap.inner vmo.id).index.ownerAt page = some i →
      i < (heap.inner vmo.id).extents.length) →
    pushed.length < ((heap.inner vmo.id).missing pages).length ∧
      (heap.allocator.answers (heap.allocator.calls + pushed.length) = none ∨
        Vmo.isPowerOfTwo frameCount = false)

variable {frameCount page : Nat} {rest : List Nat} {dirty d : Bool} {e : Fault VmoRangeOpError}
  {result : Except (Fault VmoRangeOpError) Bool × VmoHeap}

/-- An iteration that changes nothing and fails. -/
lemma CommitLoopResult.stopped (h : heap₁ = heap ∨ heap₁ = heap.tick)
    (hwhy : (∀ page i, (heap.inner vmo.id).index.ownerAt page = some i →
      i < (heap.inner vmo.id).extents.length) → (heap.inner vmo.id).index.ownerAt page = none ∧
      (heap.nextFrame = none ∨ Vmo.isPowerOfTwo frameCount = false)) :
    CommitLoopResult vmo frameCount [page] false heap (.error e, heap₁) (fun _ => false) [] := by
  refine ⟨.still h, nofun, nofun, nofun, nofun, fun _ _ hrange => ?_⟩
  obtain ⟨hnone, hwhy⟩ := hwhy hrange
  exact ⟨by simp [VmoInner.missing, hnone], hwhy⟩

/-- An iteration that fails ends the loop. -/
lemma CommitLoopResult.stop (h : CommitLoopResult vmo frameCount [page] false heap (.error e, heap₁) set one) :
    CommitLoopResult vmo frameCount (page :: rest) dirty heap (.error e, heap₁) set one where
  __ := h
  returned := nofun
  failed e he hrange := by
    obtain ⟨hshort, hwhy⟩ := h.failed e he hrange
    refine ⟨lt_of_lt_of_le hshort ?_, hwhy⟩
    exact ((cons_sublist_cons.2 (nil_sublist rest)).filter _).length_le

/-- One successful iteration in front of the rest of the loop. -/
lemma CommitLoopResult.cons (h : CommitLoopResult vmo frameCount [page] false heap (.ok d, heap₁) set one)
    (hrest : CommitLoopResult vmo frameCount rest (dirty || d) heap₁ result set' pushed) :
    CommitLoopResult vmo frameCount (page :: rest) dirty heap result (fun i => set i || set' i)
      (one ++ pushed) := by
  obtain ⟨rfl, hcalls, hone, rfl⟩ := h.returned d rfl
  have hindex : (heap₁.inner vmo.id).index = (heap.inner vmo.id).index := by rw [h.own]
  have hmissing : (heap.inner vmo.id).missing (page :: rest) =
      one.map (·.offset) ++ (heap₁.inner vmo.id).missing rest := by
    rw [hone, VmoInner.missing, VmoInner.missing, VmoInner.missing, hindex, ← filter_append]
    rfl
  refine ⟨h.trans hrest.toCommitEffect, ?_, ?_, ?_, ?_, ?_⟩
  · intro extent hextent
    rcases mem_append.1 hextent with hin | hin
    · exact h.frames extent hin
    · exact h.unitPageSize ▸ hrest.frames extent hin
  · intro hne
    by_cases hone : one = []
    · exact hrest.isPowerOfTwo fun hpushed => hne (by rw [hone, hpushed]; rfl)
    · exact h.isPowerOfTwo hone
  · intro j hj
    rw [length_append] at hj
    rcases lt_or_ge j one.length with hlt | hge
    · exact h.granted j hlt
    · have hlater := hrest.granted (j - one.length) (by omega)
      rwa [h.answers, hcalls, add_assoc, Nat.add_sub_cancel' hge] at hlater
  · intro d hd
    obtain ⟨hdirty, hcalls', hpushed, hset⟩ := hrest.returned d hd
    refine ⟨?_, ?_, ?_, ?_⟩
    · rw [hdirty]
      cases one <;> simp
    · rw [hcalls', hcalls, length_append, add_assoc]
    · rw [map_append, hpushed, hmissing]
    · funext i
      rw [hset, VmoInner.meets, VmoInner.meets, VmoInner.meets, hindex, ← any_append]
      rfl
  · intro e he hrange
    obtain ⟨hshort, hwhy⟩ := hrest.failed e he fun page i hi => by
      have := hrange page i (hindex ▸ hi)
      rw [h.own, length_append, markAll, length_mapIdx]
      omega
    rw [hcalls, h.answers, add_assoc, ← length_append] at hwhy
    refine ⟨?_, hwhy⟩
    rw [hmissing, length_append, length_append, length_map]
    omega

lemma commitPage_result (vmo : Vmo) (frameCount : Nat) (purpose : VmoPagePurpose) (page : Nat)
    (heap : VmoHeap) : ∃ set one, CommitLoopResult vmo frameCount [page] false heap
      (vmo.commitPage frameCount purpose page heap) set one := by
  cases howner : (heap.inner vmo.id).index.ownerAt page with
  | some owner =>
    cases hat : (heap.inner vmo.id).extents[owner]? with
    | none =>
      simp only [Vmo.commitPage, howner, hat]
      refine ⟨_, _, .stopped (.inl rfl) fun hrange => ?_⟩
      exact absurd (hrange page owner howner) (getElem?_eq_none_iff.1 hat).not_gt
    | some extent =>
      simp only [Vmo.commitPage, howner, hat]
      refine ⟨(heap.inner vmo.id).meets [page], [], ⟨.setInner _ _ _, rfl, rfl, ?_, nofun⟩, nofun, nofun, nofun,
        fun d hd => ?_, nofun⟩
      · have hmark : (heap.inner vmo.id).extents.set owner { extent with committed := true } =
            markAll ((heap.inner vmo.id).meets [page]) (heap.inner vmo.id).extents := by
          refine ext_getElem? fun i => ?_
          rw [markAll, getElem?_mapIdx, getElem?_set]
          by_cases hi : owner = i
          · subst hi
            rw [if_pos rfl, if_pos (List.getElem?_eq_some_iff.1 hat).1, hat]
            simp [VmoInner.meets, howner, marked]
          · simp [VmoInner.meets, howner, marked, hi, beq_false_of_ne hi]
        rw [VmoHeap.setInner_inner_self, hmark, append_nil]
      · cases hd
        exact ⟨rfl, rfl, by simp [VmoInner.missing, howner], rfl⟩
  | none =>
    cases hframe : heap.nextFrame with
    | none =>
      simp only [Vmo.commitPage, howner, hframe]
      exact ⟨_, _, .stopped (.inr rfl) fun _ => ⟨howner, .inl hframe⟩⟩
    | some phys =>
      by_cases hpow : Vmo.isPowerOfTwo frameCount = true
      · simp only [Vmo.commitPage, howner, hframe, hpow, if_true]
        refine ⟨fun _ => false, [⟨page, ⟨phys, frameCount, heap.allocator.unitPageSize⟩, purpose, true⟩],
          ⟨⟨rfl, fun _ hi => VmoHeap.setInner_inner_of_ne _ _ hi⟩, rfl, rfl, ?_, by simp⟩, by simp, fun _ => hpow,
          fun j hj => ?_, fun d hd => ?_, nofun⟩
        · rw [VmoHeap.setInner_inner_self, markAll_eq_self fun _ _ _ => .inr rfl]
        · obtain rfl : j = 0 := by simpa using hj
          exact Option.isSome_iff_exists.2 ⟨phys, hframe⟩
        · cases hd
          exact ⟨rfl, rfl, by simp [VmoInner.missing, howner], by funext i; simp [VmoInner.meets, howner]⟩
      · simp only [Vmo.commitPage, howner, hframe, if_neg hpow]
        exact ⟨_, _, .stopped (.inr rfl) fun _ => ⟨howner, .inr (by simpa using hpow)⟩⟩

lemma commitLoop_result (vmo : Vmo) (frameCount : Nat) (purpose : VmoPagePurpose)
    (pages : List Nat) (dirty : Bool) (heap : VmoHeap) :
    ∃ set pushed, CommitLoopResult vmo frameCount pages dirty heap
      (vmo.commitLoop frameCount purpose pages dirty heap) set pushed := by
  induction pages generalizing dirty heap with
  | nil =>
    refine ⟨_, [], .still (.inl rfl), nofun, nofun, nofun, fun d hd => ?_, nofun⟩
    cases hd
    exact ⟨(Bool.or_false _).symm, rfl, rfl, rfl⟩
  | cons page rest ih =>
    obtain ⟨set, one, hpage⟩ := commitPage_result vmo frameCount purpose page heap
    rw [Vmo.commitLoop, Action.andThen]
    rcases hres : vmo.commitPage frameCount purpose page heap with ⟨e | d, heap₁⟩
    · rw [hres] at hpage
      exact ⟨set, one, hpage.stop⟩
    · rw [hres] at hpage
      obtain ⟨set', pushed, hrest⟩ := ih (dirty || d) heap₁
      exact ⟨_, _, hpage.cons hrest⟩

/-! ## Soundness is kept -/

namespace VmoInner

variable {vmo : Vmo} {inner : VmoInner}

lemma snapshots_of_placements (h : one.map placement = other.map placement) :
    snapshots one = snapshots other := by
  have hsnap : ∀ extents : List VmoExtent, snapshots extents =
      (extents.map placement).zipIdx.map fun (placed, owner) =>
        (owner, placed.1, placed.1 + placed.2.lenBytes) := by
    intro extents
    rw [zipIdx_map, map_map]
    rfl
  rw [hsnap, hsnap, h]

variable (h : Sound vmo inner)
include h

/-- Soundness looks at the placements and the index only. -/
lemma Sound.of_placements {inner' : VmoInner}
    (hplace : inner'.extents.map placement = inner.extents.map placement)
    (hindex : inner'.index = inner.index) : Sound vmo inner' where
  indexed := by
    rw [Indexed, hindex, h.indexed, snapshots_of_placements hplace]
  disjoint := by
    have hpair : (inner.extents.map placement).Pairwise fun one other =>
        ∀ offset, ¬ ((one.1 ≤ offset ∧ offset < one.1 + one.2.lenBytes) ∧
          (other.1 ≤ offset ∧ offset < other.1 + other.2.lenBytes)) := by
      refine pairwise_map.2 (h.disjoint.imp fun hout offset hin => hout offset ?_)
      rwa [contains_iff, contains_iff]
    rw [← hplace, pairwise_map] at hpair
    refine hpair.imp fun hout offset hin => hout offset ?_
    rwa [contains_iff, contains_iff] at hin
  grained := by
    intro hbacking extent hextent
    have hmem : extent.placement ∈ inner.extents.map placement :=
      hplace ▸ mem_map_of_mem hextent
    obtain ⟨extent', hextent', heq⟩ := mem_map.1 hmem
    have hgrain := h.grained hbacking extent' hextent'
    have hoffset : extent'.offset = extent.offset := congrArg Prod.fst heq
    have hframe : extent'.frame = extent.frame := congrArg Prod.snd heq
    rwa [VmoExtent.Grained, hoffset, hframe] at hgrain

lemma Sound.index_lt {offset i : Nat}
    (hi : inner.index.ownerAt offset = some i) : i < inner.extents.length := by
  rw [h.indexed, ownerAt_rebuild_eq_some] at hi
  exact hi.lt_length

/-- A page the index calls unowned is clear of every extent. -/
lemma Sound.page_clear (hbacking : vmo.backing = .paged) {page : Nat}
    (hpage : vmo.pageSize ∣ page) (howner : inner.index.ownerAt page = none) :
    ∀ extent ∈ inner.extents, ∀ offset, page ≤ offset → offset < page + vmo.pageSize →
      extent.contains offset = false := by
  intro extent hextent offset hlo hhi
  rw [h.indexed, ownerAt_rebuild_eq_none] at howner
  exact (h.grained hbacking extent hextent).clear hpage (howner extent hextent) hlo hhi

/-- Pushing whole pages that the index calls unowned, then rebuilding. -/
lemma Sound.pushPages (hbacking : vmo.backing = .paged) {pages : List Nat}
    (hpages : ∀ page ∈ pages, vmo.pageSize ∣ page) (hnodup : pages.Nodup) {old : List VmoExtent}
    (hold : old.map placement = inner.extents.map placement)
    (hoffsets : pushed.map (·.offset) = inner.missing pages)
    (hlen : ∀ extent ∈ pushed, extent.frame.lenBytes = vmo.pageSize) :
    Sound vmo (inner.reindexed (old ++ pushed)) := by
  have holdSound : Sound vmo { inner with extents := old } := h.of_placements hold rfl
  have hpage : ∀ extent ∈ pushed, vmo.pageSize ∣ extent.offset ∧
      inner.index.ownerAt extent.offset = none := by
    intro extent hextent
    have hmem : extent.offset ∈ inner.missing pages := hoffsets ▸ mem_map_of_mem hextent
    obtain ⟨hin, hnone⟩ := mem_filter.1 hmem
    exact ⟨hpages _ hin, by simpa using hnone⟩
  have hspan : ∀ extent ∈ pushed, ∀ offset, extent.contains offset = true →
      extent.offset ≤ offset ∧ offset < extent.offset + vmo.pageSize := by
    intro extent hextent offset hin
    rw [contains_iff, stop, hlen extent hextent] at hin
    exact hin
  refine ⟨rfl, ?_, ?_⟩
  · refine pairwise_append.2 ⟨holdSound.disjoint, ?_, ?_⟩
    · -- two pushed extents start on different pages
      have hdistinct : pushed.Pairwise fun one other => one.offset ≠ other.offset := by
        have : (pushed.map (·.offset)).Nodup := hoffsets ▸ hnodup.filter _
        exact pairwise_map.1 this
      refine hdistinct.imp_of_mem fun {one other} hone hother hne offset hin => ?_
      have hgrain : one.Grained vmo.pageSize :=
        ⟨(hpage one hone).1, (hlen one hone) ▸ dvd_refl _⟩
      have hout : one.contains other.offset = false := by
        rw [← not_eq_true]
        intro hcontains
        have hb := hspan one hone other.offset hcontains
        obtain ⟨a, ha⟩ := (hpage one hone).1
        obtain ⟨b, hb'⟩ := (hpage other hother).1
        rw [ha, hb', ← Nat.mul_succ] at hb
        have hle : a ≤ b := Nat.le_of_mul_le_mul_left hb.1 (by
          rcases Nat.eq_zero_or_pos vmo.pageSize with h0 | hpos
          · simp [h0] at hb
          · exact hpos)
        have hlt : b < a.succ := Nat.lt_of_mul_lt_mul_left hb.2
        exact hne (by rw [ha, hb', show a = b by omega])
      have hother' := hspan other hother offset hin.2
      have := hgrain.clear (hpage other hother).1 hout hother'.1 hother'.2
      rw [hin.1] at this
      cases this
    · intro other hother extent hextent offset hin
      have hpage' := hpage extent hextent
      have hb := hspan extent hextent offset hin.2
      have := holdSound.page_clear hbacking hpage'.1 hpage'.2 other hother offset hb.1 hb.2
      rw [hin.1] at this
      cases this
  · intro _ extent hextent
    rcases mem_append.1 hextent with hin | hin
    · exact holdSound.grained hbacking extent hin
    · exact ⟨(hpage extent hin).1, (hlen extent hin) ▸ dvd_refl _⟩

end VmoInner

end Akarin.Memory
