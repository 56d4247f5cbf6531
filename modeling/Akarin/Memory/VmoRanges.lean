/-
# Akarin.Memory.VmoRanges -- committing, giving up and counting the pages of a range

The pages of a VMO are grouped in extents with one `committed` bit each. `commit_range` works page by
page but sets the bit of the extent, so that an uncommitted extent which sticks out of the range is
committed as a whole; `decommit_range` refuses to cut an extent. The pages outside the range stay as they are
exactly if no uncommitted extent is cut (`rangeLaw_commit_iff_uncut`).
-/
import Akarin.Memory.VmoPages

namespace Akarin.Memory

open List VmoExtent VmoHeap
open Lib (Action Fault runOps)

namespace Vmo

variable {vmo : Vmo} {heap heap' : VmoHeap} {offset len : Nat}

/-- The loop of `query_committed_bytes`. -/
def countCommitted (heap : VmoHeap) (vmo : Vmo) : List Nat → Nat → Nat
  | [], committed => committed
  | pageOffset :: rest, committed =>
    countCommitted heap vmo rest
      (if (vmo.pageAt heap pageOffset).any (·.committed) then committed + vmo.pageSize else committed)

def queryCommittedBytes (heap : VmoHeap) (vmo : Vmo) (offset len : Nat) : Except VmoRangeOpError Nat :=
  if len == 0 || offset % vmo.pageSize != 0 || len % vmo.pageSize != 0 then .error .invalidArgument
  else
    match checkedAdd offset len with
    | none => .error .invalidRange
    | some stop =>
      if vmo.size heap < stop then .error .invalidRange
      else .ok (countCommitted heap vmo (vmo.pagesOf offset len) 0)

lemma countCommitted_eq (heap : VmoHeap) (vmo : Vmo) (pages : List Nat) (committed : Nat) :
    countCommitted heap vmo pages committed = committed +
      vmo.pageSize * pages.countP fun page => (vmo.pageAt heap page).any (·.committed) := by
  induction pages generalizing committed with
  | nil => rfl
  | cons page rest ih =>
    rw [countCommitted, ih, countP_cons]
    split
    · rw [mul_add, mul_one]
      omega
    · rfl

variable {page n : Nat} {extent : VmoExtent} {pushed : List VmoExtent} {purpose : VmoPagePurpose}

lemma Checked.mem_pagesOf (h : vmo.Checked heap offset len) : page ∈ vmo.pagesOf offset len ↔
      page % vmo.pageSize = 0 ∧ offset ≤ page ∧ page < offset + len := by
  obtain ⟨-, -, hnonempty, halign, hlen, -⟩ := h
  have hpos : 0 < vmo.pageSize := Nat.pos_of_ne_zero fun hzero => by
    rw [hzero, Nat.mod_zero] at hlen
    exact hnonempty hlen
  obtain ⟨first, rfl⟩ := Nat.dvd_of_mod_eq_zero halign
  obtain ⟨count, rfl⟩ := Nat.dvd_of_mod_eq_zero hlen
  rw [pagesOf, mem_range', Nat.mul_div_cancel_left _ hpos]
  constructor
  · rintro ⟨i, hi, rfl⟩
    have := Nat.mul_lt_mul_of_pos_left hi hpos
    rw [← mul_add, Nat.mul_mod_right]
    exact ⟨rfl, Nat.mul_le_mul_left _ (Nat.le_add_right _ _), by rw [Nat.mul_add]; omega⟩
  · rintro ⟨hpage, hlo, hhi⟩
    obtain ⟨i, rfl⟩ := Nat.dvd_of_mod_eq_zero hpage
    rw [← mul_add] at hhi
    have hlo := Nat.le_of_mul_le_mul_left hlo hpos
    have hhi := Nat.lt_of_mul_lt_mul_left hhi
    exact ⟨i - first, by omega, by rw [← mul_add, Nat.add_sub_cancel' hlo]⟩

/-! ## What a commit does to the extents -/

lemma Gains.of_effect {set : Nat → Bool} (h : CommitEffect vmo heap heap' set pushed) :
    Gains (heap.inner vmo.id) (heap'.inner vmo.id) := by
  rw [h.own]
  refine ⟨rfl, fun extent hmem hcommitted => ?_, fun extent hmem => ?_⟩
  · obtain ⟨i, hi, rfl⟩ := mem_iff_getElem.1 hmem
    refine mem_append_left _ (mem_mapIdx.2 ⟨i, hi, ?_⟩)
    rw [marked, hcommitted, Bool.true_or, ← hcommitted]
  · rcases mem_append.1 hmem with hold | hnew
    · obtain ⟨i, hi, rfl⟩ := mem_mapIdx.1 hold
      cases hset : set i with
      | true => exact .inr (Bool.or_true _)
      | false =>
        rw [marked, Bool.or_false]
        exact .inl (getElem_mem hi)
    · exact .inr (h.committed extent hnew)

/-- Whatever its outcome, a commit gives up no committed extent and leaves new ones only if committed. -/
lemma commitRange_gains (vmo : Vmo) (offset len : Nat) (purpose : VmoPagePurpose)
    (heap : VmoHeap) : Gains (heap.inner vmo.id)
      ((vmo.commitRange offset len purpose heap).2.inner vmo.id) := by
  rcases commitRange_cases vmo offset len purpose heap with
    ⟨e, heq⟩ | ⟨_, _, _, _, -, -, -, hres, ⟨e, -, heq⟩ | ⟨-, heq⟩⟩ <;> rw [heq]
  · exact .refl _
  · exact .of_effect hres.toCommitEffect
  · obtain ⟨hsize, hkept, hwon⟩ := Gains.of_effect hres.toCommitEffect
    dsimp only
    split
    · exact ⟨hsize, hkept, hwon⟩
    · rw [rebuildIndex, setInner_inner_self]
      exact ⟨hsize, hkept, hwon⟩

/-- No uncommitted extent lies partly in the range; what it has behind the end of the VMO does not count. -/
def Uncut (heap : VmoHeap) (vmo : Vmo) (offset len : Nat) : Prop :=
  ∀ extent ∈ (heap.inner vmo.id).extents, extent.committed = false →
    outsideRange offset (offset + len) extent = true ∨
      offset ≤ extent.offset ∧ min extent.stop (vmo.size heap) ≤ offset + len

/-- The extents after a commit: those that were there in their places, with the bit set where the
range meets them, and behind them one committed page for each that was missing. -/
structure Commits (heap heap' : VmoHeap) (vmo : Vmo) (offset len : Nat) (pushed : List VmoExtent) : Prop
    extends Checked heap vmo offset len where
  sound : (heap'.inner vmo.id).Sound vmo
  size : vmo.size heap' = vmo.size heap
  extents : (heap'.inner vmo.id).extents = markAll ((heap.inner vmo.id).meets (vmo.pagesOf offset len))
    (heap.inner vmo.id).extents ++ pushed
  offsets : pushed.map (·.offset) = (heap.inner vmo.id).missing (vmo.pagesOf offset len)
  lenBytes : ∀ extent ∈ pushed, extent.frame.lenBytes = vmo.pageSize
  committed : ∀ extent ∈ pushed, extent.committed = true

lemma commitRange_commits (hsound : (heap.inner vmo.id).Sound vmo)
    (h : vmo.commitRange offset len purpose heap = (.ok n, heap')) :
    ∃ pushed, Commits heap heap' vmo offset len pushed := by
  rcases commitRange_cases vmo offset len purpose heap with
    ⟨e, heq⟩ | ⟨frameCount, set, pushed, result, hcheck, -, hcount, hres, ⟨e, -, heq⟩ | ⟨hok, heq⟩⟩
  · rw [heq] at h
    cases h
  · rw [heq] at h
    cases h
  obtain ⟨-, -, hoffsets, rfl⟩ := hres.returned _ hok
  have hsupplied : vmo.CommitSupplied offset len heap := by
    refine .inr fun j hj => hres.granted j ?_
    rwa [← hoffsets, length_map] at hj
  have hsound' := commitRange_sound offset len purpose hsound hsupplied
  -- rebuilding the index leaves the extents
  have hinner : (heap'.inner vmo.id).size = (result.2.inner vmo.id).size ∧
      (heap'.inner vmo.id).extents = (result.2.inner vmo.id).extents := by
    rw [heq] at h
    cases h
    split
    · exact ⟨rfl, rfl⟩
    · rw [rebuildIndex, setInner_inner_self]
      exact ⟨rfl, rfl⟩
  rw [h] at hsound'
  rw [hres.own] at hinner
  refine ⟨pushed, hcheck, hsound', hinner.1, hinner.2, hoffsets, fun extent hmem => ?_, hres.committed⟩
  obtain ⟨hnumber, hunit⟩ := hres.frames extent hmem
  rw [PhysRun.lenBytes, hnumber, hunit, hcount]

lemma Commits.mem_marked (h : Commits heap heap' vmo offset len pushed) {i : Nat}
    (hi : i < (heap.inner vmo.id).extents.length) :
    (heap.inner vmo.id).extents[i].marked ((heap.inner vmo.id).meets (vmo.pagesOf offset len) i) ∈
      (heap'.inner vmo.id).extents := by
  rw [h.extents]
  exact mem_append_left _ (mem_mapIdx.2 ⟨i, hi, rfl⟩)

/-- Where no uncommitted extent is cut, an extent over an offset outside the range is not marked. -/
lemma Commits.kept (h : Commits heap heap' vmo offset len pushed)
    (hsound : (heap.inner vmo.id).Sound vmo) (huncut : vmo.Uncut heap offset len)
    {i o : Nat} (hi : i < (heap.inner vmo.id).extents.length)
    (ho : (heap.inner vmo.id).extents[i].contains o = true) (hlt : o < vmo.size heap)
    (hout : ¬ (offset ≤ o ∧ o < offset + len)) :
    (heap.inner vmo.id).extents[i].marked ((heap.inner vmo.id).meets (vmo.pagesOf offset len) i) =
      (heap.inner vmo.id).extents[i] := by
  cases hcommitted : (heap.inner vmo.id).extents[i].committed with
  | true => rw [marked, hcommitted, Bool.true_or, ← hcommitted]
  | false =>
    have hmeets : (heap.inner vmo.id).meets (vmo.pagesOf offset len) i = false := by
      rw [VmoInner.meets, any_eq_false]
      intro page hpage howner
      -- an extent over a page of the range and over the offset would be cut
      obtain ⟨extent', hi', hin⟩ :=
        (hsound.indexed.exact hsound.disjoint page i).1 (by simpa using howner)
      obtain rfl := Option.mem_unique (getElem?_eq_getElem hi) hi'
      have hcut := huncut _ (getElem_mem hi) hcommitted
      have hrange := (h.mem_pagesOf.1 hpage).2
      rw [contains_iff] at hin ho
      simp only [outsideRange, Bool.or_eq_true, decide_eq_true_eq] at hcut
      omega
    rw [marked, hmeets, Bool.or_false]

/-- What a commit that has succeeded should have done: the range is committed, and nothing else has changed. -/
structure CommitLaw (heap heap' : VmoHeap) (vmo : Vmo) (offset len : Nat) : Prop where
  committed : ∀ page, page % vmo.pageSize = 0 → offset ≤ page → page < offset + len → vmo.Committed heap' page
  elsewhere : ∀ page, ¬ (offset ≤ page ∧ page < offset + len) → vmo.pageAt heap' page = vmo.pageAt heap page

/-- The law of the other range operations on one VMO and one range. -/
structure RangeLaw (heap : VmoHeap) (vmo : Vmo) (offset len : Nat) : Prop where
  decommitted : ∀ n heap', vmo.decommitRange offset len heap = (.ok n, heap') →
    (∀ page, offset ≤ page → page < offset + len → vmo.pageAt heap' page = none) ∧
    ∀ page, ¬ (offset ≤ page ∧ page < offset + len) → vmo.pageAt heap' page = vmo.pageAt heap page
  refused : ∀ e heap', vmo.decommitRange offset len heap = (.error e, heap') → heap' = heap
  counted : len ≠ 0 → offset % vmo.pageSize = 0 → len % vmo.pageSize = 0 →
    offset + len ≤ vmo.size heap → vmo.queryCommittedBytes heap offset len = .ok (vmo.pageSize *
      (vmo.pagesOf offset len).countP fun page => (vmo.pageAt heap page).any (·.committed))

/-- An extent that the range cuts has a page in the range and one outside, in front of the end of the VMO. -/
lemma Checked.exists_pages_of_cut (h : vmo.Checked heap offset len) (hgrain : extent.Grained vmo.pageSize)
    (hcut : ¬ (outsideRange offset (offset + len) extent = true ∨
      offset ≤ extent.offset ∧ min extent.stop (vmo.size heap) ≤ offset + len)) :
    ∃ inside outside, inside % vmo.pageSize = 0 ∧ (offset ≤ inside ∧ inside < offset + len) ∧
      extent.contains inside = true ∧ outside % vmo.pageSize = 0 ∧ outside < vmo.size heap ∧
      ¬ (offset ≤ outside ∧ outside < offset + len) ∧ extent.contains outside = true := by
  obtain ⟨-, -, hnonempty, halign, hlen, hsize⟩ := h
  simp only [outsideRange, Bool.or_eq_true, decide_eq_true_eq, not_or, not_and, not_le] at hcut
  simp only [contains_iff]
  obtain ⟨⟨hstop, hstart⟩, hcut⟩ := hcut
  rcases lt_or_ge extent.offset offset with hfront | hbehind
  · -- the page in front of the range
    have hgap := Nat.le_of_dvd (Nat.sub_pos_of_lt hfront)
      (Nat.dvd_sub (Nat.dvd_of_mod_eq_zero halign) hgrain.1)
    refine ⟨offset, offset - vmo.pageSize, halign, by omega, by omega, ?_, by omega, ?_, by omega⟩
    · rw [Nat.sub_mod_eq_zero_of_mod_eq (halign.trans (Nat.mod_self _).symm)]
    · have : 0 < vmo.pageSize := Nat.pos_of_ne_zero fun hzero => by simp [hzero] at hlen; omega
      omega
  · -- the page behind the range
    have hend := hcut hbehind
    refine ⟨extent.offset, offset + len, Nat.mod_eq_zero_of_dvd hgrain.1, by omega, by omega, ?_, by omega,
      by omega, by omega⟩
    rw [Nat.add_mod, halign, hlen, Nat.zero_mod]

section

variable (hsound : (heap.inner vmo.id).Sound vmo)
include hsound

/-- Every page of a committed range is held. -/
lemma Commits.holds (h : Commits heap heap' vmo offset len pushed)
    (hpage : page ∈ vmo.pagesOf offset len) : vmo.Holds heap' page := by
  obtain ⟨haligned, -, hhi⟩ := h.mem_pagesOf.1 hpage
  refine ⟨h.root, haligned, h.size ▸ lt_of_lt_of_le hhi h.fits, ?_⟩
  cases howner : (heap.inner vmo.id).index.ownerAt page with
  | some i =>
    obtain ⟨extent, hat, hin⟩ := (hsound.indexed.exact hsound.disjoint page i).1 howner
    obtain ⟨hi, rfl⟩ := List.getElem?_eq_some_iff.1 hat
    refine ⟨_, h.mem_marked hi, hin, ?_⟩
    have hmeets : (heap.inner vmo.id).meets (vmo.pagesOf offset len) i = true :=
      any_eq_true.2 ⟨page, hpage, by simp [howner]⟩
    rw [hmeets, marked, Bool.or_true]
  | none =>
    have hmissing : page ∈ pushed.map (·.offset) :=
      h.offsets ▸ mem_filter.2 ⟨hpage, by rw [howner]; rfl⟩
    obtain ⟨extent, hmem, rfl⟩ := mem_map.1 hmissing
    refine ⟨extent, h.extents ▸ mem_append_right _ hmem, ?_, h.committed extent hmem⟩
    have hpos : vmo.pageSize ≠ 0 := fun hzero => by
      rw [pagesOf, hzero, Nat.div_zero] at hpage
      cases hpage
    rw [VmoExtent.contains_iff, stop, h.lenBytes extent hmem]
    omega

/-- A page that has been committed is firm. -/
lemma commitRange_page_firm (hok : (vmo.commitRange offset vmo.pageSize purpose heap).1 = .ok n) :
    vmo.Firm (vmo.commitRange offset vmo.pageSize purpose heap).2 offset := by
  obtain ⟨pushed, h⟩ := commitRange_commits hsound (Prod.ext hok rfl)
  have hpage := h.mem_pagesOf.2
    ⟨h.aligned, le_rfl, Nat.lt_add_of_pos_right (Nat.pos_of_ne_zero h.nonempty)⟩
  exact (h.holds hsound hpage).firm h.sound

/-- The pages outside a committed range stay, unless the range cuts an uncommitted extent. -/
lemma Commits.elsewhere (h : Commits heap heap' vmo offset len pushed) (huncut : vmo.Uncut heap offset len)
    (hout : ¬ (offset ≤ page ∧ page < offset + len)) : vmo.pageAt heap' page = vmo.pageAt heap page := by
  refine Option.ext fun data => ?_
  rw [pageAt_eq_some h.sound h.root, pageAt_eq_some hsound h.root, h.size]
  refine and_congr_right fun haligned => and_congr_right fun hlt => ⟨?_, ?_⟩
  · rintro ⟨extent, hmem, hin, hdata⟩
    rw [h.extents] at hmem
    rcases mem_append.1 hmem with hold | hnew
    · obtain ⟨i, hi, rfl⟩ := mem_mapIdx.1 hold
      rw [h.kept hsound huncut hi hin hlt hout] at hin hdata
      exact ⟨_, getElem_mem hi, hin, hdata⟩
    · -- a page that was pushed lies in the range
      have hoffset : extent.offset ∈ (heap.inner vmo.id).missing (vmo.pagesOf offset len) :=
        h.offsets ▸ mem_map_of_mem hnew
      have hrange := h.mem_pagesOf.1 (mem_filter.1 hoffset).1
      rw [contains_iff, stop, h.lenBytes extent hnew] at hin
      have hfirst := Nat.sub_mod_eq_zero_of_mod_eq (haligned.trans hrange.1.symm)
      rw [Nat.mod_eq_of_lt (by omega)] at hfirst
      omega
  · rintro ⟨extent, hmem, hin, hdata⟩
    obtain ⟨i, hi, rfl⟩ := mem_iff_getElem.1 hmem
    exact ⟨_, h.kept hsound huncut hi hin hlt hout ▸ h.mem_marked hi, hin, hdata⟩

/-- A commit that cuts an uncommitted extent shows on a page outside the range. -/
lemma Commits.uncut (h : Commits heap heap' vmo offset len pushed)
    (helse : ∀ page, ¬ (offset ≤ page ∧ page < offset + len) → vmo.pageAt heap' page = vmo.pageAt heap page) :
    vmo.Uncut heap offset len := by
  intro extent hmem hcommitted
  by_contra hcut
  obtain ⟨inside, outside, hinside, hrange, hin, houtside, hlt, hout, hon⟩ :=
    h.exists_pages_of_cut (hsound.grained h.paged extent hmem) hcut
  obtain ⟨i, hi, rfl⟩ := mem_iff_getElem.1 hmem
  have howner := (hsound.indexed.exact hsound.disjoint inside i).2 ⟨_, getElem?_eq_getElem hi, hin⟩
  have hmeets : (heap.inner vmo.id).meets (vmo.pagesOf offset len) i = true :=
    any_eq_true.2 ⟨inside, h.mem_pagesOf.2 ⟨hinside, hrange⟩, by simp [howner]⟩
  -- the page outside is committed afterwards, so that it was before
  have hheld : vmo.Holds heap' outside :=
    ⟨h.root, houtside, h.size ▸ hlt, _, h.mem_marked hi, hon, by rw [hmeets, marked, Bool.or_true]⟩
  have hbefore : vmo.Committed heap outside := by
    rw [Committed, ← helse outside hout]
    exact hheld.committed h.sound
  have hfirm := ((hbefore.holds hsound h.root).firm hsound).extents _ hmem hon
  rw [hcommitted] at hfirm
  cases hfirm

lemma decommitRange_law (h : vmo.decommitRange offset len heap = (.ok n, heap')) :
    (∀ page, offset ≤ page → page < offset + len → vmo.pageAt heap' page = none) ∧
    ∀ page, ¬ (offset ≤ page ∧ page < offset + len) → vmo.pageAt heap' page = vmo.pageAt heap page := by
  rcases decommitRange_cases vmo offset len heap with
    ⟨e, heq⟩ | ⟨inner', heq, hcheck, huncut, hsize, hextents, hsound'⟩ <;> rw [heq] at h <;> cases h
  have hsound' := hsound' hsound
  have hmem : ∀ {extent page}, extent.contains page = true →
      (extent ∈ retained offset (offset + len) (heap.inner vmo.id).extents ↔
        extent ∈ (heap.inner vmo.id).extents ∧ ¬ (offset ≤ page ∧ page < offset + len)) := by
    intro extent page hin
    refine ⟨fun hkept => ?_, fun hmem => mem_retained hmem.1 hin hmem.2⟩
    obtain ⟨hmem, hkept⟩ := mem_filter.1 hkept
    refine ⟨hmem, fun hrange => ?_⟩
    have hcut := huncut extent hmem
    rw [contains_iff] at hin
    simp only [outsideRange, Bool.or_eq_true, decide_eq_true_eq] at hcut hkept
    omega
  rw [← setInner_inner_self heap vmo.id inner'] at hsize hextents hsound'
  refine ⟨fun page hlo hhi => ?_, fun page hout => Option.ext fun data => ?_⟩
  · rw [Option.eq_none_iff_forall_ne_some]
    intro data hdata
    obtain ⟨-, -, extent, hkept, hin, -⟩ := (pageAt_eq_some hsound' hcheck.root).1 hdata
    rw [hextents] at hkept
    exact ((hmem hin).1 hkept).2 ⟨hlo, hhi⟩
  · rw [pageAt_eq_some hsound' hcheck.root, pageAt_eq_some hsound hcheck.root, size, hsize, hextents]
    refine and_congr_right fun _ => and_congr_right fun _ => exists_congr fun extent => ?_
    constructor
    · rintro ⟨hkept, hin, hdata⟩
      exact ⟨((hmem hin).1 hkept).1, hin, hdata⟩
    · rintro ⟨hold, hin, hdata⟩
      exact ⟨(hmem hin).2 ⟨hold, hout⟩, hin, hdata⟩

end

lemma rangeLaw {id pageSize : Nat} (hword : (heap.inner id).size < usizeBound)
    (hsound : (heap.inner id).Sound (.root id pageSize .paged)) :
    (Vmo.root id pageSize .paged).RangeLaw heap offset len where
  decommitted _ _ h := decommitRange_law hsound h
  refused e heap' h := by
    rcases decommitRange_cases (.root id pageSize .paged) offset len heap with
      ⟨_, heq⟩ | ⟨_, heq, -⟩ <;> rw [heq] at h <;> cases h
    rfl
  counted hlen halign hwhole hsize := by
    have hbound : offset + len < usizeBound := lt_of_le_of_lt hsize hword
    rw [queryCommittedBytes, if_neg (by simp [hlen, halign, hwhole]), checkedAdd, if_pos hbound]
    dsimp only
    rw [if_neg (Nat.not_lt.2 hsize), countCommitted_eq, zero_add]

/-- On a root VMO with paged backing whose extents are disjoint, page-grained and indexed, a commit that succeeds
keeps its law exactly if the range cuts no uncommitted extent; the other range operations always keep theirs. -/
theorem rangeLaw_commit_iff_uncut (heap : VmoHeap) (id pageSize offset len : Nat)
    (hword : (heap.inner id).size < usizeBound)
    (hsound : (heap.inner id).Sound (.root id pageSize .paged)) :
    (Vmo.root id pageSize .paged).RangeLaw heap offset len ∧ ∀ purpose n heap',
      (Vmo.root id pageSize .paged).commitRange offset len purpose heap = (.ok n, heap') →
        (CommitLaw heap heap' (.root id pageSize .paged) offset len ↔
          (Vmo.root id pageSize .paged).Uncut heap offset len) := by
  refine ⟨rangeLaw hword hsound, fun purpose n heap' h => ?_⟩
  obtain ⟨pushed, hcommits⟩ := commitRange_commits hsound h
  refine ⟨fun hlaw => hcommits.uncut hsound hlaw.elsewhere, fun huncut => ⟨?_, ?_⟩⟩
  · intro page haligned hlo hhi
    exact (hcommits.holds hsound (hcommits.mem_pagesOf.2 ⟨haligned, hlo, hhi⟩)).committed hcommits.sound
  · exact fun page hout => hcommits.elsewhere hsound huncut hout

/-- A page of its own and an uncommitted extent of two pages. -/
def groupedOps : List VmoSystem.Op :=
  [.new 0x4000 0x1000 0, .commitRange 0 0 0x1000 .anonymous,
    .trackFrame 0 0x1000 ⟨0x50000, 2, 0x1000⟩ .heap false]

def groupedHeap : VmoHeap :=
  (runOps VmoSystem.step (.empty VmoSystem.plentifulAllocator fun _ => 0) groupedOps).heap

lemma groupedHeap_sound : (groupedHeap.inner 0).Sound (.root 0 0x1000 .paged) := by
  have hsupplied : Lib.Meets VmoSystem.step VmoSystem.Supplied
      (.empty VmoSystem.plentifulAllocator fun _ => 0) groupedOps :=
    ⟨trivial, fun _ _ => .inr fun _ _ => rfl, trivial, trivial⟩
  exact (Lib.run_invariant (fun _ op h hop => h.step op hop)
    (VmoSystem.empty_sound _ _) hsupplied).inner (.root 0 0x1000 .paged) (by decide)

/-- A commit of both pages of the extent. -/
theorem rangeLaw_groupedHeap :
    (Vmo.root 0 0x1000 .paged).pageAt groupedHeap 0x2000 = some ⟨0x51000, .heap, false⟩ ∧
      CommitLaw groupedHeap ((Vmo.root 0 0x1000 .paged).commitRange 0x1000 0x3000 .anonymous groupedHeap).2
        (.root 0 0x1000 .paged) 0x1000 0x3000 := by
  have hok : ((Vmo.root 0 0x1000 .paged).commitRange 0x1000 0x3000 .anonymous groupedHeap).1 =
      .ok 0x3000 := by decide
  refine ⟨by decide, ((rangeLaw_commit_iff_uncut groupedHeap 0 0x1000 0x1000 0x3000 (by decide)
    groupedHeap_sound).2 .anonymous 0x3000 _ (Prod.ext hok rfl)).2 ?_⟩
  unfold Uncut
  decide

/-- Committing one of the two pages commits the other. -/
theorem rangeLaw_fails :
    ((Vmo.root 0 0x1000 .paged).commitRange 0x1000 0x1000 .anonymous groupedHeap).1 = .ok 0x1000 ∧
      ¬ CommitLaw groupedHeap ((Vmo.root 0 0x1000 .paged).commitRange 0x1000 0x1000 .anonymous groupedHeap).2
        (.root 0 0x1000 .paged) 0x1000 0x1000 :=
  ⟨by decide, fun h => absurd (h.elsewhere 0x2000 (by decide)) (by decide)⟩

end Vmo

end Akarin.Memory
