/-
# Akarin.Memory.VmarInvariant -- the entry map and the free-space tree stay in step

The representation invariant of a region (`Vmar.WellFormed`): entries are page-aligned, inside the
region, stored under their own start page and pairwise disjoint, and the segment tree describes
exactly the pages no entry covers. Every operation keeps it on every outcome, so it holds after any
sequence of calls; the tree's answer for any span of pages is then the true summary of the
complement of the entries.
-/
import Akarin.Lib.FreeRuns
import Akarin.Lib.Runs
import Akarin.Memory.Vmar

namespace Akarin.Memory

open Option VmarNode VmRange Lib Collections Bool SegmentTree Action
open Lib (Action Fault)
open Lib.FreeRuns

/-! ## What a node says about a row of pages -/

/-- The node is the summary of the row: its length and its leading, trailing and longest run of
free pages. -/
structure VmarNode.Summarises (node : VmarNode) (row : List Bool) : Prop where
  len : node.len = row.length
  prefixFree : node.prefixFree = leading row
  suffixFree : node.suffixFree = trailing row
  maxFree : node.maxFree = longest row

lemma VmarNode.merge_summarises {left right : VmarNode} {xs ys : List Bool}
    (hl : left.Summarises xs) (hr : right.Summarises ys) : (merge left right).Summarises (xs ++ ys) where
  len := by simp [merge, hl.len, hr.len]
  prefixFree := by
    simp only [merge, hl.len, hl.prefixFree, hr.prefixFree]
    exact (leading_append xs ys).symm
  suffixFree := by
    simp only [merge, hr.len, hl.suffixFree, hr.suffixFree]
    exact (trailing_append xs ys).symm
  maxFree := by
    simp only [merge, hl.maxFree, hr.maxFree, hl.suffixFree, hr.prefixFree]
    exact (longest_append xs ys).symm

lemma VmarNode.apply_summarises (node lazyValue : VmarNode) (len : Nat) {free : Bool}
    (h : lazyValue.fill = some free) :
    (apply node lazyValue len).Summarises (List.replicate len free) := by
  cases free with
  | true =>
    simp only [apply, h]
    constructor
    · simp
    · exact (leading_replicate_true len).symm
    · exact (leading_replicate_true len).symm.trans (trailing_replicate len true).symm
    · exact (longest_replicate_true len).symm
  | false =>
    simp only [apply, h]
    constructor
    · simp
    · exact (leading_replicate_false len).symm
    · exact (leading_replicate_false len).symm.trans (trailing_replicate len false).symm
    · exact (longest_replicate_false len).symm

/-- Free-space nodes summarise rows of free/used pages; `free` and `used` paint them. -/
def vmarLaw : SummaryLaw VmarNode Bool where
  Summarises := VmarNode.Summarises
  Paints lazyValue free := lazyValue.fill = some free
  merge := merge_summarises
  apply node len h := apply_summarises node _ len h

lemma VmarNode.Summarises.fullyFree_iff {node : VmarNode} {row : List Bool}
    (h : node.Summarises row) : node.fullyFree = true ↔ ∀ page ∈ row, page = true := by
  rw [← longest_eq_length_iff, ← h.len, ← h.maxFree]
  simp [fullyFree]

section Runs

variable {node : VmarNode} {free : Nat → Bool} {start stop : Nat}

section

variable (h : node.Summarises (cells free start stop))
include h

lemma VmarNode.Summarises.le_prefixFree_iff (k : Nat) :
    k ≤ node.prefixFree ↔ k ≤ stop - start ∧ ∀ q, start ≤ q → q < start + k → free q = true := by
  rw [h.prefixFree, le_leading_iff]
  simp only [getElem?_cells]
  refine ⟨fun hrun => ⟨Nat.le_of_not_lt fun hk => ?_, fun q hlo hhi => ?_⟩,
    fun ⟨hk, hrun⟩ i hi => ⟨by omega, hrun _ (by omega) (by omega)⟩⟩
  · have := (hrun _ hk).1
    omega
  · simpa [show start + (q - start) = q by omega] using (hrun (q - start) (by omega)).2

lemma VmarNode.Summarises.le_suffixFree_iff (k : Nat) :
    k ≤ node.suffixFree ↔ k ≤ stop - start ∧ ∀ q, stop - k ≤ q → q < stop → free q = true := by
  rw [h.suffixFree, trailing, le_leading_iff]
  simp only [getElem?_cells_reverse]
  refine ⟨fun hrun => ⟨Nat.le_of_not_lt fun hk => ?_, fun q hlo hhi => ?_⟩,
    fun hfree i hi => ⟨by omega, hfree.2 _ (by omega) (by omega)⟩⟩
  · have := (hrun _ hk).1
    omega
  · simpa [show stop - 1 - (stop - 1 - q) = q by omega] using (hrun (stop - 1 - q) (by omega)).2

/-- A span whose longest run is too short holds no fit. -/
lemma VmarNode.Summarises.fits_eq_empty {n : Nat}
    (hn : node.maxFree < n) : fits free start stop n = ∅ := by
  rw [Set.eq_empty_iff_forall_notMem]
  rintro p ⟨hlo, hhi, hfree⟩
  have hle : n ≤ longest (cells free start stop) := le_longest (p - start) fun i hi => by
    rw [getElem?_cells, show start + (p - start + i) = p + i by omega]
    exact ⟨by omega, hfree _ (by omega) (by omega)⟩
  rw [← h.maxFree] at hle
  omega

end

end Runs

/-- The tree describes which of the first `count` pages are free. -/
structure Tracks (tree : SegmentTree VmarNode) (free : Nat → Bool) (count : Nat) : Prop where
  domainStart_eq : tree.domainStart = 0
  domainEnd_eq : tree.domainEnd = count
  described : tree.Describes vmarLaw free

section Tracks

variable {tree : SegmentTree VmarNode} {free free' : Nat → Bool} {start stop count n : Nat}

section

variable (h : Tracks tree free count)
include h

lemma Tracks.congr (heq : ∀ page, free page = free' page) : Tracks tree free' count :=
  ⟨h.domainStart_eq, h.domainEnd_eq, h.described.congr fun page _ _ => heq page⟩

lemma Tracks.query (hlt : start < stop) (hle : stop ≤ count) :
    ∃ node tree', tree.query start stop = (.ok node, tree') ∧
      node.Summarises (cells free start stop) ∧ Tracks tree' free count := by
  obtain ⟨node, tree', hquery, hsum, hdesc, hstart, hend⟩ := query_describes h.described
    hlt (by rw [h.domainStart_eq]; omega) (by rw [h.domainEnd_eq]; exact hle)
  exact ⟨node, tree', hquery, hsum, hstart.trans h.domainStart_eq, hend.trans h.domainEnd_eq, hdesc⟩

lemma Tracks.update {value : VmarNode} {painted : Bool}
    (hv : vmarLaw.Paints value painted) (hlt : start < stop) (hle : stop ≤ count) :
    (tree.update start stop value).1 = .ok () ∧
      Tracks (tree.update start stop value).2 (repaint free start stop painted) count := by
  obtain ⟨hok, hdesc⟩ := update_describes h.described hv hlt
    (by rw [h.domainStart_eq]; omega) (by rw [h.domainEnd_eq]; exact hle)
  obtain ⟨hstart, hend⟩ := update_domain tree start stop value
  exact ⟨hok, hstart.trans h.domainStart_eq, hend.trans h.domainEnd_eq, hdesc⟩

end

/-- `find_first_fit` answers the first fit of its span. -/
lemma findFirstFit_spec (hn : 0 < n) (fuel : Nat) (h : Tracks tree free count)
    (hfuel : stop - start < fuel) (hle : stop ≤ count) :
    FirstOf (fits free start stop n) (Vmar.findFirstFit fuel tree start stop n).1 ∧
      Tracks (Vmar.findFirstFit fuel tree start stop n).2 free count := by
  induction fuel generalizing tree start stop with
  | zero => exact absurd hfuel (Nat.not_lt_zero _)
  | succ fuel ih =>
    unfold Vmar.findFirstFit
    split
    · refine ⟨Set.eq_empty_iff_forall_notMem.2 fun p hp => ?_, h⟩
      obtain ⟨hlo, hhi, -⟩ := hp
      omega
    obtain ⟨summary, tree₁, hquery, hsum, h₁⟩ := h.query (show start < stop by omega) hle
    simp only [hquery]
    split
    · exact ⟨hsum.fits_eq_empty ‹_›, h₁⟩
    split
    · -- the span is as long as the request, so it is free as a whole
      have hall : summary.fullyFree = true := by
        have hlen := hsum.len.trans (length_cells free start stop)
        have hmax := hsum.maxFree.trans_le (longest_le_length _)
        simp only [fullyFree, beq_iff_eq, length_cells] at hmax ⊢
        omega
      refine ⟨⟨⟨le_rfl, by omega, fun q hlo hhi => ?_⟩, fun p hp => hp.1⟩, h₁⟩
      exact hsum.fullyFree_iff.1 hall _ (mem_cells.2 ⟨q, hlo, by omega, rfl⟩)
    have hmid : start < start + (stop - start) / 2 ∧ start + (stop - start) / 2 < stop := by omega
    generalize start + (stop - start) / 2 = mid at hmid ⊢
    rw [if_pos hmid.1]
    have hrec := ih h₁ (show mid - start < fuel by omega) (by omega)
    revert hrec
    rcases Vmar.findFirstFit fuel tree₁ start mid n with ⟨_ | found, tree₂⟩ <;> rintro ⟨hleft, h₂⟩
    · -- nothing in the left half: over the middle, or in the right half
      obtain ⟨left, tree₃, hquery₂, hsum₂, h₃⟩ := h₂.query hmid.1 (by omega)
      obtain ⟨right, tree₄, hquery₃, hsum₃, h₄⟩ := h₃.query hmid.2 hle
      simp only [hquery₂, hquery₃]
      split
      · exact ⟨isLeast_fits_mid hleft hsum₂.le_suffixFree_iff hsum₃.le_prefixFree_iff hmid.1.le
          hmid.2.le ‹_›, h₄⟩
      · rw [if_pos hmid.2, fits_right hleft hsum₂.le_suffixFree_iff hsum₃.le_prefixFree_iff
          hmid.1.le (by omega)]
        exact ih h₄ (by omega) hle
    · exact ⟨isLeast_fits_left hmid.2.le hleft, h₂⟩

end Tracks

/-! ## Histories of the free-space tree -/

lemma fresh_tracks {n : Nat} (hn : 0 < n) :
    Tracks ((SegmentTree.new 0 n).update 0 n .free).2 (fun _ => true) n := by
  obtain ⟨-, hdesc⟩ := update_all_describes (c := true) (.new 0 n)
    (show vmarLaw.Paints .free true from rfl) hn
  obtain ⟨hstart, hend⟩ := update_domain (new 0 n) 0 n free
  exact ⟨hstart, hend, hdesc⟩

/-- What a tree is asked; an update makes its range free or used. -/
inductive TreeOp where
  | update (start stop : Nat) (free : Bool)
  | query (start stop : Nat)

namespace TreeOp

def Valid (n : Nat) : TreeOp → Prop
  | update start stop _ | query start stop => start < stop ∧ stop ≤ n

def step (tree : SegmentTree VmarNode) : TreeOp → SegmentTree VmarNode
  | update start stop free => (tree.update start stop (if free then .free else .used)).2
  | query start stop => (tree.query start stop).2

/-- What the operation makes of the page, if it is an update that covers it. -/
def paints (page : Nat) : TreeOp → Option Bool
  | update start stop free => if start ≤ page ∧ page < stop then some free else none
  | query .. => none

/-- Whether the last update that covers the page was a free one. -/
def lastFree (ops : List TreeOp) (page : Nat) : Bool := (ops.reverse.findSome? (paints page)).getD true

/-- The tree after `new(0..n)`, the update of `0..n` with the free node and the history. -/
def treeAfter (n : Nat) (ops : List TreeOp) : SegmentTree VmarNode :=
  runOps step ((SegmentTree.new 0 n).update 0 n .free).2 ops

/-- The numbers of a node; its tag is no part of an answer. -/
def counts (node : VmarNode) : Nat × Nat × Nat × Nat :=
  (node.len, node.prefixFree, node.suffixFree, node.maxFree)

/-- The numbers of the pages in a range. -/
def freeCounts (free : Nat → Bool) (start stop : Nat) : Nat × Nat × Nat × Nat :=
  (stop - start, leading (cells free start stop), trailing (cells free start stop),
    longest (cells free start stop))

variable {n : Nat} {ops : List TreeOp}

lemma treeAfter_tracks (hn : 0 < n) (hops : ∀ op ∈ ops, op.Valid n) :
    Tracks (treeAfter n ops) (lastFree ops) n := by
  -- from the last operation backwards, which is where a page is looked up first
  induction ops using List.reverseRecOn with
  | nil => exact fresh_tracks hn
  | append_singleton ops op ih =>
    rw [List.forall_mem_append, List.forall_mem_singleton] at hops
    have h := ih hops.1
    rw [treeAfter, runOps_append]
    cases op with
    | update start stop free =>
      have hpaints : vmarLaw.Paints (if free then .free else .used) free := by cases free <;> rfl
      refine (h.update hpaints hops.2.1 hops.2.2).2.congr fun page => ?_
      simp only [lastFree, List.reverse_append, List.reverse_singleton, List.singleton_append,
        List.findSome?_cons, repaint, paints]
      split <;> rfl
    | query start stop =>
      obtain ⟨node, tree, hquery, -, htracks⟩ := h.query hops.2.1 hops.2.2
      show Tracks ((treeAfter n ops).query start stop).2 _ n
      rw [hquery]
      refine htracks.congr fun page => ?_
      simp [lastFree, paints, List.findSome?_cons]

/-- After any valid history a query counts the pages whose last covering update was free, and no
query of the history makes a difference to that. -/
theorem query_lastFree (hn : 0 < n) (hops : ∀ op ∈ ops, op.Valid n) {start stop : Nat}
    (hlt : start < stop) (hle : stop ≤ n) : ((treeAfter n ops).query start stop).1.map counts =
      .ok (freeCounts (lastFree ops) start stop) ∧
    ∀ before after a b, ops = before ++ query a b :: after →
      ((treeAfter n (before ++ after)).query start stop).1.map counts =
        ((treeAfter n ops).query start stop).1.map counts := by
  have hanswer : ∀ {ops}, (∀ op ∈ ops, op.Valid n) → ((treeAfter n ops).query start stop).1.map counts =
      .ok (freeCounts (lastFree ops) start stop) := by
    intro ops hops
    obtain ⟨node, tree, hquery, hsum, -⟩ := (treeAfter_tracks hn hops).query hlt hle
    rw [hquery, freeCounts, ← hsum.prefixFree, ← hsum.suffixFree, ← hsum.maxFree,
      ← length_cells (lastFree ops), ← hsum.len]
    rfl
  refine ⟨hanswer hops, ?_⟩
  rintro before after a b rfl
  have hvalid : ∀ op ∈ before ++ after, op.Valid n := fun op hop => hops op (by grind)
  have hlast : lastFree (before ++ query a b :: after) = lastFree (before ++ after) := by
    funext page
    simp [lastFree, paints, List.findSome?_cons]
  rw [hanswer hops, hanswer hvalid, hlast]

/-- The first three of four pages are used, and two of them freed again. -/
theorem query_lastFree_fourPages :
    ((treeAfter 4 [.update 0 3 false, .query 1 4, .update 1 3 true]).query 0 4).1.map counts
      = .ok (4, 0, 3, 3) :=
  (query_lastFree (by decide) (by simp [Valid]) (by decide) le_rfl).1

end TreeOp

/-! ## Pages and entries -/

namespace Vmar

/-- The address of a page of the region. -/
def pageAddr (vmar : Vmar) (page : Nat) : Nat := vmar.range.start + page * pageSize

/-- No entry covers the page. -/
def pageFree (vmar : Vmar) (page : Nat) : Bool :=
  !vmar.entries.toList.any fun stored => stored.2.range.contains (vmar.pageAddr page)

variable {entry : VmarEntry} {key page : Nat} {vmar' vmar₁ vmar₂ : Vmar} {tree : SegmentTree VmarNode}

lemma pageFree_iff {vmar : Vmar} : vmar.pageFree page = true ↔
    ∀ (key : Nat) (entry : VmarEntry), vmar.entries[key]? = some entry →
      entry.range.contains (vmar.pageAddr page) = false := by
  simp only [pageFree, not_eq_true', List.any_eq_false, not_eq_true]
  constructor
  · intro h key entry hentry
    exact h (key, entry) (mem_toList_iff.2 hentry)
  · intro h stored hstored
    exact h stored.1 stored.2 (mem_toList_iff.1 hstored)

/-- The range spans whole pages `start` to `stop` of the region. -/
structure Spans (vmar : Vmar) (range : VmRange) (start stop : Nat) : Prop where
  start_eq : range.start = vmar.pageAddr start
  stop_eq : range.stop = vmar.pageAddr stop
  lt : start < stop
  le : stop ≤ vmar.pageCount

/-- The representation invariant. -/
structure WellFormed (vmar : Vmar) : Prop where
  start_aligned : vmar.range.start % pageSize = 0
  pageCount_pos : 0 < vmar.pageCount
  pageCount_eq : vmar.pageCount = vmar.range.len / pageSize
  inside : ∀ (key : Nat) (entry : VmarEntry), vmar.entries[key]? = some entry →
    vmar.validateChildRange entry.range = true
  keyed : ∀ (key : Nat) (entry : VmarEntry), vmar.entries[key]? = some entry →
    entry.range.start = vmar.pageAddr key
  apart : ∀ (key key' : Nat) (entry entry' : VmarEntry), vmar.entries[key]? = some entry →
    vmar.entries[key']? = some entry' → key ≠ key' →
    entry.range.stop ≤ entry'.range.start ∨ entry'.range.stop ≤ entry.range.start
  tracks : Tracks vmar.tree vmar.pageFree vmar.pageCount

variable {vmar : Vmar} {range : VmRange} {start stop : Nat}

lemma Spans.contains_iff (h : vmar.Spans range start stop) (page : Nat) :
    range.contains (vmar.pageAddr page) = true ↔ start ≤ page ∧ page < stop := by
  rw [VmRange.contains_iff, h.start_eq, h.stop_eq]
  simp only [pageAddr, pageSize]
  omega

lemma validateChildRange_iff : vmar.validateChildRange range = true ↔
    range.isPageAligned = true ∧ vmar.range.containsRange range = true := by
  simp [validateChildRange]

/-- A validated range spans whole pages, and `page_span` computes them. -/
lemma WellFormed.spans_of_valid (hw : vmar.WellFormed) (hv : vmar.validateChildRange range = true) :
    ∃ start stop, vmar.pageSpan range = some (start, stop) ∧ vmar.Spans range start stop := by
  obtain ⟨halign, hin⟩ := validateChildRange_iff.1 hv
  rw [isPageAligned_iff] at halign
  rw [containsRange_iff] at hin
  have hself := hw.start_aligned
  have hlt := range.start_lt_stop
  have hcount := hw.pageCount_eq
  simp only [pageSize, VmRange.len] at halign hself hcount
  refine ⟨(range.start - vmar.range.start) / pageSize, (range.stop - vmar.range.start) / pageSize, ?_, ?_⟩
  · have hcontains : vmar.range.contains range.start = true := by
      rw [contains_iff]
      omega
    simp only [pageSpan, pageIndex, hcontains, if_true]
    rw [if_pos]
    simp only [pageSize, VmRange.len]
    omega
  · constructor <;> simp only [pageAddr, pageSize] <;> omega

/-- Conversely `page_span` answers only for spans of the region. -/
lemma WellFormed.spans_entry (hw : vmar.WellFormed)
    (h : vmar.entries[key]? = some entry) : ∃ stop, vmar.pageSpan entry.range = some (key, stop) ∧
      vmar.Spans entry.range key stop := by
  obtain ⟨start, stop, hspan, hs⟩ := hw.spans_of_valid (hw.inside key entry h)
  have hkey := hw.keyed key entry h
  have heq : start = key := by
    have hstart := hs.start_eq
    rw [hkey] at hstart
    simp only [pageAddr, pageSize] at hstart
    omega
  subst heq
  exact ⟨stop, hspan, hs⟩

/-! ## Tree access -/

/-- The two states differ in their trees only. -/
structure SameEntries (vmar vmar' : Vmar) : Prop where
  range : vmar'.range = vmar.range
  pageCount : vmar'.pageCount = vmar.pageCount
  entries : vmar'.entries = vmar.entries

lemma SameEntries.pageFree (h : vmar.SameEntries vmar') : vmar'.pageFree = vmar.pageFree := by
  funext page
  simp only [Vmar.pageFree, pageAddr, h.range, h.entries]

/-- Entries may go, or change without changing their range, if the tree follows. -/
lemma WellFormed.of_ranges (hw : vmar.WellFormed) {entries : Std.TreeMap Nat VmarEntry}
    (hold : ∀ (key : Nat) (entry : VmarEntry), entries[key]? = some entry →
      ∃ old, vmar.entries[key]? = some old ∧ old.range = entry.range)
    (htracks : Tracks tree { vmar with entries := entries }.pageFree vmar.pageCount) :
    WellFormed { vmar with entries := entries, tree := tree } := by
  constructor
  · exact hw.start_aligned
  · exact hw.pageCount_pos
  · exact hw.pageCount_eq
  · intro key entry hentry
    obtain ⟨old, hstored, hrange⟩ := hold key entry hentry
    exact hrange ▸ hw.inside key old hstored
  · intro key entry hentry
    obtain ⟨old, hstored, hrange⟩ := hold key entry hentry
    exact hrange ▸ hw.keyed key old hstored
  · intro key key' entry entry' hentry hentry' hne
    obtain ⟨old, hstored, hrange⟩ := hold key entry hentry
    obtain ⟨old', hstored', hrange'⟩ := hold key' entry' hentry'
    exact hrange ▸ hrange' ▸ hw.apart key key' old old' hstored hstored' hne
  · exact htracks

/-- Another tree that describes the same pages will do. -/
lemma WellFormed.withTree (hw : vmar.WellFormed) (h : Tracks tree vmar.pageFree vmar.pageCount) :
    WellFormed { vmar with tree := tree } :=
  hw.of_ranges (fun _ entry hentry => ⟨entry, hentry, rfl⟩) h

lemma queryPages_spec (hw : vmar.WellFormed) (hlt : start < stop) (hle : stop ≤ vmar.pageCount) :
    Action.Spec (· = vmar) (queryPages start stop)
      (fun node vmar' => node.Summarises (cells vmar.pageFree start stop) ∧
        vmar'.WellFormed ∧ vmar.SameEntries vmar') (fun _ _ => False) := by
  rintro _ rfl
  obtain ⟨node, tree, hquery, hsum, htracks⟩ := hw.tracks.query hlt hle
  simp only [queryPages, hquery]
  exact ⟨hsum, hw.withTree htracks, ⟨rfl, rfl, rfl⟩⟩

/-! ## Taking and giving back pages -/

/-- A stored entry's own pages are not free. -/
lemma pageFree_eq_false (hentry : vmar.entries[key]? = some entry)
    (hin : entry.range.contains (vmar.pageAddr page) = true) : vmar.pageFree page = false := by
  by_contra hfree
  rw [not_eq_false, pageFree_iff] at hfree
  rw [hfree key entry hentry] at hin
  cases hin

section

variable (hw : vmar.WellFormed)
include hw

/-- An entry covers the page it is stored under. -/
lemma WellFormed.key_used (hentry : vmar.entries[key]? = some entry) : vmar.pageFree key = false := by
  obtain ⟨stop, -, hspan⟩ := hw.spans_entry hentry
  exact pageFree_eq_false hentry ((hspan.contains_iff key).2 ⟨le_rfl, hspan.lt⟩)

/-- Two entries of a well-formed region never cover the same address. -/
lemma WellFormed.key_eq_of_contains {key' addr : Nat}
    {entry' : VmarEntry} (hentry : vmar.entries[key]? = some entry)
    (hentry' : vmar.entries[key']? = some entry') (hin : entry.range.contains addr = true)
    (hin' : entry'.range.contains addr = true) : key = key' := by
  by_contra hne
  have hapart := hw.apart key key' entry entry' hentry hentry' hne
  rw [contains_iff] at hin hin'
  omega

/-- Storing an entry over free pages and marking them used. -/
lemma WellFormed.occupy
    (hvalid : vmar.validateChildRange entry.range = true) (hs : vmar.Spans entry.range start stop)
    (hfree : ∀ page, start ≤ page → page < stop → vmar.pageFree page = true) :
    (vmar.tree.update start stop .used).1 = .ok () ∧ WellFormed { vmar with
        entries := vmar.entries.insert start entry
        tree := (vmar.tree.update start stop .used).2 } := by
  obtain ⟨hok, htracks⟩ := hw.tracks.update (show vmarLaw.Paints .used false from rfl) hs.lt hs.le
  -- every other entry keeps clear of the span
  have hclear : ∀ (key : Nat) (other : VmarEntry), vmar.entries[key]? = some other →
      other.range.stop ≤ entry.range.start ∨ entry.range.stop ≤ other.range.start := by
    intro key other hother
    obtain ⟨stop', -, hspan⟩ := hw.spans_entry hother
    by_contra hoverlap
    have hlt := hspan.lt
    have hlt' := hs.lt
    have hbounds : start < stop' ∧ key < stop := by
      rw [hspan.start_eq, hspan.stop_eq, hs.start_eq, hs.stop_eq] at hoverlap
      simp only [pageAddr, pageSize] at hoverlap
      omega
    have hused := pageFree_eq_false hother ((hspan.contains_iff (max start key)).2 (by omega))
    rw [hfree (max start key) (by omega) (by omega)] at hused
    cases hused
  refine ⟨hok, ?_⟩
  constructor
  · exact hw.start_aligned
  · exact hw.pageCount_pos
  · exact hw.pageCount_eq
  · intro key other hother
    rcases getElem?_insert_cases hother with ⟨rfl, rfl⟩ | ⟨_, hold⟩
    · exact hvalid
    · exact hw.inside key other hold
  · intro key other hother
    rcases getElem?_insert_cases hother with ⟨rfl, rfl⟩ | ⟨_, hold⟩
    · exact hs.start_eq
    · exact hw.keyed key other hold
  · intro key key' one other hone hother hne
    rcases getElem?_insert_cases hone with ⟨rfl, rfl⟩ | ⟨_, hold⟩ <;>
      rcases getElem?_insert_cases hother with ⟨heq, rfl⟩ | ⟨_, hold'⟩
    · exact absurd heq hne
    · exact (hclear key' other hold').symm
    · exact hclear key one hold
    · exact hw.apart key key' one other hold hold' hne
  · refine htracks.congr fun page => ?_
    rw [Bool.eq_iff_iff, pageFree_iff]
    by_cases hin : start ≤ page ∧ page < stop
    · simp only [repaint, if_pos hin, false_eq_true, false_iff, not_forall]
      refine ⟨start, entry, by simp, ?_⟩
      rw [not_eq_false]
      exact (hs.contains_iff page).2 hin
    · rw [repaint, if_neg hin, pageFree_iff]
      have hout : entry.range.contains (vmar.pageAddr page) = false := by
        rw [← not_eq_true, hs.contains_iff]
        exact hin
      constructor
      · intro h key other hother
        rcases getElem?_insert_cases hother with ⟨rfl, rfl⟩ | ⟨_, hold⟩
        · exact hout
        · exact h key other hold
      · intro h key other hother
        by_cases hkey : start = key
        · -- an old entry under the same key would cover the free page `start`
          subst hkey
          have hused := hw.key_used hother
          rw [hfree start le_rfl hs.lt] at hused
          cases hused
        · exact h key other (by simp [getElem?_insert, hkey, hother])

/-- Removing an entry and marking its pages free. -/
lemma WellFormed.release
    (hentry : vmar.entries[key]? = some entry) (hs : vmar.Spans entry.range key stop) :
    (vmar.tree.update key stop .free).1 = .ok () ∧ WellFormed { vmar with
        entries := vmar.entries.erase key
        tree := (vmar.tree.update key stop .free).2 } := by
  obtain ⟨hok, htracks⟩ := hw.tracks.update (show vmarLaw.Paints .free true from rfl) hs.lt hs.le
  have hold : ∀ (key' : Nat) (other : VmarEntry), (vmar.entries.erase key)[key']? = some other →
      key ≠ key' ∧ vmar.entries[key']? = some other := fun _ _ => getElem?_erase_some
  refine ⟨hok, hw.of_ranges (fun key' other hother => ⟨other, (hold key' other hother).2, rfl⟩)
    (htracks.congr fun page => ?_)⟩
  rw [Bool.eq_iff_iff, pageFree_iff]
  by_cases hin : key ≤ page ∧ page < stop
  · simp only [repaint, if_pos hin, true_iff]
    intro key' other hother
    obtain ⟨hne, hother⟩ := hold key' other hother
    rw [← not_eq_true]
    intro hcontains
    exact hne (hw.key_eq_of_contains hentry hother ((hs.contains_iff page).2 hin) hcontains)
  · rw [repaint, if_neg hin, pageFree_iff]
    constructor
    · intro h key' other hother
      exact h key' other (hold key' other hother).2
    · intro h key' other hother
      by_cases hkey : key = key'
      · subst hkey
        rw [hentry] at hother
        cases hother
        rw [← not_eq_true]
        exact fun hcontains => hin ((hs.contains_iff page).1 hcontains)
      · exact h key' other (by simp [getElem?_erase, hkey, hother])

/-- Changing entries without changing which keys are taken, or any stored range. -/
lemma WellFormed.withRanges {entries : Std.TreeMap Nat VmarEntry}
    (h : ∀ key : Nat, (entries[key]?).map VmarEntry.range = (vmar.entries[key]?).map VmarEntry.range) :
    WellFormed { vmar with entries := entries } := by
  have hfind : ∀ {a b : Option VmarEntry}, a.map VmarEntry.range = b.map VmarEntry.range →
      ∀ entry, a = some entry → ∃ other, b = some other ∧ other.range = entry.range := by
    intro a b hab entry hentry
    rw [hentry, map_some] at hab
    exact map_eq_some_iff.1 hab.symm
  have hold := fun key => hfind (h key)
  have hnew := fun key => hfind (h key).symm
  refine hw.of_ranges hold (hw.tracks.congr fun page => ?_)
  rw [Bool.eq_iff_iff, pageFree_iff, pageFree_iff]
  constructor
  · intro hfree key entry hentry
    obtain ⟨old, hstored, hrange⟩ := hold key entry hentry
    exact hrange ▸ hfree key old hstored
  · intro hfree key old hstored
    obtain ⟨entry, hentry, hrange⟩ := hnew key old hstored
    exact hrange ▸ hfree key entry hentry

end

/-! ## Operations -/

/-- A well-formed region over a given range. -/
def Over (range : VmRange) (vmar : Vmar) : Prop := vmar.WellFormed ∧ vmar.range = range

lemma new_over (h : range.start % pageSize = 0) (hpos : 0 < range.len / pageSize) :
    Over range (new range) := by
  have hmax : max (range.len / pageSize) 1 = range.len / pageSize := max_eq_left hpos
  have hfree : (new range).pageFree = fun _ => true := by
    funext page
    rw [pageFree_iff]
    intro key entry hentry
    simp [new] at hentry
  have htree : (new range).tree = ((SegmentTree.new 0 (range.len / pageSize)).update 0
      (range.len / pageSize) free).2 := by
    simp only [new, hmax, if_pos hpos.ne']
  refine ⟨?_, rfl⟩
  constructor
  · exact h
  · exact hpos
  · rfl
  · intro key entry hentry
    simp [new] at hentry
  · intro key entry hentry
    simp [new] at hentry
  · intro key key' entry entry' hentry
    simp [new] at hentry
  · rw [hfree, htree]
    exact fresh_tracks hpos

/-- What a call leaves behind: a well-formed region over the same range, and what its entry map
answers. -/
structure Edited (vmar vmar' : Vmar) (lookup : Nat → Option VmarEntry) : Prop where
  wellFormed : vmar'.WellFormed
  range : vmar'.range = vmar.range
  entries : ∀ key : Nat, vmar'.entries[key]? = lookup key

/-- No entry has changed. -/
def Unchanged (vmar vmar' : Vmar) : Prop := Edited vmar vmar' fun key => vmar.entries[key]?

/-- Under one key the entry map now answers `entry`. -/
def EditedAt (vmar vmar' : Vmar) (key : Nat) (entry : Option VmarEntry) : Prop :=
  Edited vmar vmar' fun k => if k = key then entry else vmar.entries[k]?

lemma Unchanged.of_eq (hw : vmar.WellFormed) (h : vmar' = vmar) : Unchanged vmar vmar' := by
  subst h
  exact ⟨hw, rfl, fun _ => rfl⟩

lemma Unchanged.unchanged (h : Unchanged vmar vmar₁) (h' : Unchanged vmar₁ vmar₂) : Unchanged vmar vmar₂ :=
  ⟨h'.wellFormed, h'.range.trans h.range, fun key => (h'.entries key).trans (h.entries key)⟩

lemma Unchanged.editedAt {entry : Option VmarEntry}
    (h : Unchanged vmar vmar₁) (h' : EditedAt vmar₁ vmar₂ key entry) : EditedAt vmar vmar₂ key entry := by
  refine ⟨h'.wellFormed, h'.range.trans h.range, fun k => (h'.entries k).trans ?_⟩
  split
  · rfl
  · exact h.entries k

/-- A call that edits, or fails without a trace among the entries, keeps the region well-formed. -/
lemma Edited.keeps {α : Type} {x : Action Vmar VmarError α} {Q : α → Vmar → Vmar → Prop}
    {E : Fault VmarError → Vmar → Vmar → Prop} (hspec : ∀ vmar : Vmar, vmar.WellFormed →
      Action.Spec (· = vmar) x (fun a vmar' => Q a vmar vmar') (fun e vmar' => E e vmar vmar'))
    (hQ : ∀ a vmar vmar', Q a vmar vmar' → ∃ lookup, Edited vmar vmar' lookup)
    (hE : ∀ e vmar vmar', E e vmar vmar' → Unchanged vmar vmar') : Action.Keeps (Over range) x := by
  refine .of_start fun vmar ⟨hw, hrange⟩ => ?_
  refine (hspec vmar hw).conseq (fun _ => id) (fun a vmar' h => ?_) (fun e vmar' h => ?_)
  · obtain ⟨lookup, hedit⟩ := hQ a vmar vmar' h
    exact ⟨hedit.wellFormed, hedit.range.trans hrange⟩
  · have hkept := hE e vmar vmar' h
    exact ⟨hkept.wellFormed, hkept.range.trans hrange⟩

/-- The entry is new under its key and lies inside the region. -/
def Inserted (entry : VmarEntry) (vmar vmar' : Vmar) : Prop :=
  vmar.validateChildRange entry.range = true ∧
    ∃ key, vmar.entries[key]? = none ∧ EditedAt vmar vmar' key (some entry)

lemma Inserted.edited (h : Inserted entry vmar vmar') : ∃ lookup, Edited vmar vmar' lookup := by
  obtain ⟨-, key, -, hedit⟩ := h
  exact ⟨_, hedit⟩

lemma Unchanged.inserted (h : Unchanged vmar vmar₁)
    (h' : Inserted entry vmar₁ vmar₂) : Inserted entry vmar vmar₂ := by
  obtain ⟨hvalid, key, hnew, hedit⟩ := h'
  refine ⟨?_, key, (h.entries key).symm.trans hnew, h.editedAt hedit⟩
  simpa only [validateChildRange, h.range] using hvalid

lemma SameEntries.unchanged (h : vmar.SameEntries vmar') (hw : vmar'.WellFormed) : Unchanged vmar vmar' :=
  ⟨hw, h.range, fun key => by rw [h.entries]⟩

/-- A call that is refused has not panicked, and no entry has changed. -/
def Refused (vmar : Vmar) (fault : Lib.Fault VmarError) (vmar' : Vmar) : Prop :=
  fault ≠ .panic ∧ Unchanged vmar vmar'

lemma Refused.of_eq (hw : vmar.WellFormed) (e : VmarError) (h : vmar' = vmar) :
    Refused vmar (.error e) vmar' :=
  ⟨nofun, .of_eq hw h⟩

/-- The range may be taken: it is page-aligned, inside the region, and none of its pages is used. -/
def Vacant (vmar : Vmar) (range : VmRange) : Prop :=
  vmar.validateChildRange range = true ∧
    ∀ page, range.contains (vmar.pageAddr page) = true → vmar.pageFree page = true

/-- The page span of a valid range lies in the tree, so neither of its two uses is out of range. -/
lemma insertEntry_total (hw : vmar.WellFormed) (entry : VmarEntry) :
    Action.Spec (· = vmar) (insertEntry entry) (fun _ vmar' => Inserted entry vmar vmar')
      (fun fault vmar' => Refused vmar fault vmar' ∧ ¬ vmar.Vacant entry.range) := by
  refine .get_bind (.ensure_bind (fun hvalid => ?_)
    (fun hvalid _ h => ⟨.of_eq hw _ h, fun hvacant => hvalid hvacant.1⟩))
  obtain ⟨startPage, endPage, hspan, hs⟩ := hw.spans_of_valid hvalid
  rw [hspan]
  refine .orFail_bind (fun span heq => ?_) nofun
  cases heq
  refine .bind ((queryPages_spec hw hs.lt hs.le).conseq (fun _ => id) (fun _ _ => id)
    (fun _ _ h => h.elim)) fun status => ?_
  refine .ensure_bind (fun hfree => ?_) fun hused vmar' ⟨hsum, hw', hsame⟩ =>
    ⟨⟨nofun, hsame.unchanged hw'⟩, fun hvacant => hused (hsum.fullyFree_iff.2 fun b hb => ?_)⟩
  swap
  · obtain ⟨page, hlo, hhi, rfl⟩ := mem_cells.1 hb
    exact hvacant.2 page ((hs.contains_iff page).2 ⟨hlo, hhi⟩)
  rintro vmar' ⟨hsum, hw', hsame⟩
  -- the queried pages are free, so the entry may take them
  have hpages : ∀ page, startPage ≤ page → page < endPage → vmar'.pageFree page = true := by
    intro page hlo hhi
    rw [hsame.pageFree]
    exact hsum.fullyFree_iff.1 hfree _ (mem_cells.2 ⟨page, hlo, hhi, rfl⟩)
  have hs' : vmar'.Spans entry.range startPage endPage := by
    refine ⟨?_, ?_, hs.lt, ?_⟩
    · rw [hs.start_eq, pageAddr, pageAddr, hsame.range]
    · rw [hs.stop_eq, pageAddr, pageAddr, hsame.range]
    · exact hsame.pageCount ▸ hs.le
  have hvalid' : vmar'.validateChildRange entry.range = true := by
    simpa only [validateChildRange, hsame.range] using hvalid
  obtain ⟨hok, hwell⟩ := hw'.occupy hvalid' hs' hpages
  -- an entry stored under the start page would cover it
  have hnew : vmar.entries[startPage]? = none := by
    rw [eq_none_iff_forall_ne_some]
    intro old hold
    have hused := hw.key_used hold
    rw [← hsame.pageFree, hpages startPage le_rfl hs.lt] at hused
    cases hused
  have hupdate : (vmar'.tree.update startPage endPage .used).1 = .ok () := hok
  simp only [bind, Action.andThen, Action.modify, updatePages, hupdate]
  refine ⟨hvalid, startPage, hnew, hwell, hsame.range, fun key => ?_⟩
  rw [getElem?_insert, hsame.entries]
  simp only [eq_comm]

lemma allocateChild_spec (hw : vmar.WellFormed) (childRange : VmRange) (child : Nat) :
    Action.Spec (· = vmar) (allocateChild childRange child)
      (fun _ vmar' => Inserted (.region childRange child) vmar vmar')
      (fun fault vmar' => Refused vmar fault vmar' ∧ ¬ vmar.Vacant childRange) := by
  refine .get_bind (.ensure_bind (fun _ => insertEntry_total hw _) (fun hvalid _ h => ?_))
  exact ⟨.of_eq hw _ h, fun hvacant => hvalid hvacant.1⟩

/-- The first pages of the free runs of `size` bytes. -/
def gaps (vmar : Vmar) (size : Nat) : Set Nat :=
  fits vmar.pageFree 0 vmar.pageCount (size / pageSize)

lemma SameEntries.gaps (h : vmar.SameEntries vmar') {size : Nat} : vmar'.gaps size = vmar.gaps size := by
  rw [Vmar.gaps, Vmar.gaps, h.pageFree, h.pageCount]

/-- The range is the one of `size` bytes that starts at the page. -/
def Starts (vmar : Vmar) (page size : Nat) (range : VmRange) : Prop :=
  range.start = vmar.pageAddr page ∧ range.stop = range.start + size

section

variable (hw : vmar.WellFormed)
include hw

/-- A gap ends inside the region. -/
lemma WellFormed.gap_le {size : Nat} (hsize : size % pageSize = 0)
    (h : page ∈ vmar.gaps size) : vmar.pageAddr page + size ≤ vmar.range.stop := by
  have hle := h.2.1
  have hcount := hw.pageCount_eq
  simp only [pageAddr, pageSize, VmRange.len] at hle hcount hsize ⊢
  have := vmar.range.start_lt_stop
  omega

/-- A gap may be taken. -/
lemma WellFormed.vacant_of_gap {size : Nat} (hsize : size % pageSize = 0)
    (h : page ∈ vmar.gaps size) (hs : vmar.Starts page size range) : vmar.Vacant range := by
  obtain ⟨hstart, hstop⟩ := hs
  have hle := hw.gap_le hsize h
  have halign := hw.start_aligned
  refine ⟨validateChildRange_iff.2
    ⟨isPageAligned_iff.2 ?_, containsRange_iff.2 ?_⟩, fun q hq => h.2.2 q ?_ ?_⟩
  · simp only [hstop, hstart, pageAddr, pageSize] at halign hsize ⊢
    omega
  · simp only [hstop, hstart, pageAddr] at hle ⊢
    omega
  all_goals
    simp only [contains_iff, hstop, hstart, pageAddr, pageSize] at hq hsize ⊢
    omega

/-- The call takes the first gap, and fails only if there is none. -/
lemma allocateChildAny_spec (size child : Nat) : Action.Spec (· = vmar) (allocateChildAny size child)
      (fun chosen vmar' => Inserted (.region chosen child) vmar vmar' ∧
        ∃ page, IsLeast (vmar.gaps size) page ∧ vmar.Starts page size chosen)
      (fun _ vmar' => Unchanged vmar vmar' ∧
        (size ≠ 0 ∧ size % pageSize = 0 → vmar.range.stop < usizeBound → vmar.gaps size = ∅)) := by
  refine .ensure_bind (fun hsize => ?_) (fun hsize _ h => ⟨.of_eq hw h, fun h => absurd h hsize⟩)
  have hneeded : 0 < size / pageSize := Nat.div_pos
    (Nat.le_of_dvd (Nat.pos_of_ne_zero hsize.1) (Nat.dvd_of_mod_eq_zero hsize.2)) (by decide)
  refine .bind (Q := fun count v => count = vmar.pageCount ∧ v = vmar)
    (.gets fun v h => ⟨h ▸ rfl, h⟩) fun count => ?_
  refine .bind (Q := fun overall v => count = vmar.pageCount ∧ v.WellFormed ∧ vmar.SameEntries v ∧
    overall.Summarises (cells vmar.pageFree 0 vmar.pageCount)) ?_ fun overall => ?_
  · rintro v ⟨rfl, rfl⟩
    have hspec := queryPages_spec hw hw.pageCount_pos le_rfl
    exact hspec.conseq (fun _ => id) (fun _ v' h => ⟨rfl, h.2.1, h.2.2, h.1⟩) (fun _ _ h => h.elim)
      v rfl
  refine .ensure_bind (fun _ => ?_) (fun hshort v ⟨_, hw', hsame, hsum⟩ =>
    ⟨hsame.unchanged hw', fun _ _ => hsum.fits_eq_empty (Nat.lt_of_not_le hshort)⟩)
  refine .bind (Q := fun found v => v.WellFormed ∧ vmar.SameEntries v ∧
    FirstOf (vmar.gaps size) found) ?_ fun found => ?_
  · rintro v ⟨rfl, hw', hsame, -⟩
    have htracks := hw'.tracks
    rw [hsame.pageFree, hsame.pageCount] at htracks
    obtain ⟨hfirst, htracks⟩ := findFirstFit_spec hneeded (vmar.pageCount + 1) htracks
      (show vmar.pageCount - 0 < _ from Nat.lt_succ_self _) le_rfl
    rw [← hsame.pageFree] at htracks
    exact ⟨hw'.withTree (hsame.pageCount ▸ htracks), ⟨hsame.range, hsame.pageCount, hsame.entries⟩, hfirst⟩
  refine .orFail_bind (fun startPage hfound => ?_) (fun hfound v ⟨hw', hsame, hfirst⟩ =>
    ⟨hsame.unchanged hw', fun _ _ => by subst hfound; exact hfirst⟩)
  subst hfound
  rintro v ⟨hw', hsame, hleast⟩
  have hkept := hsame.unchanged hw'
  have hgap : startPage ∈ v.gaps size := hsame.gaps.symm ▸ hleast.1
  have hend := hw'.gap_le hsize.2 hgap
  -- neither the sum nor the range nor the insertion can fail for a gap
  refine (show Action.Spec (· = v) _ _ _ from .get_bind ?_) v rfl
  refine .orFail_bind (fun stop hstop => ?_) fun hstop _ h => ⟨h ▸ hkept, fun _ hword => ?_⟩
  swap
  · have hlt : v.range.start + startPage * pageSize + size < usizeBound :=
      lt_of_le_of_lt hend (hsame.range ▸ hword)
    rw [checkedAdd, if_pos hlt] at hstop
    cases hstop
  have hsum := checkedAdd_eq_some hstop
  refine .orFail_bind (fun candidate hnew => ?_) fun hnew _ h => ⟨h ▸ hkept, fun _ _ => ?_⟩
  swap
  · rw [VmRange.new, dif_pos (hsum.symm ▸ Nat.lt_add_of_pos_right (Nat.pos_of_ne_zero hsize.1))] at hnew
    cases hnew
  have hs : v.Starts startPage size candidate := by
    unfold VmRange.new at hnew
    split at hnew <;> cases hnew
    exact ⟨rfl, hsum⟩
  refine .bind (Q := fun _ v' => Inserted (.region candidate child) vmar v') ?_
    fun _ => .pure fun _ h => ⟨h, startPage, hleast, ?_⟩
  · exact (allocateChild_spec hw' candidate child).conseq (fun _ => id) (fun _ _ h => hkept.inserted h)
      (fun _ _ h => ⟨hkept.unchanged h.1.2, absurd (hw'.vacant_of_gap hsize.2 hgap hs) h.2⟩)
  · simpa only [Starts, pageAddr, hsame.range] using hs

lemma mapVmo_total (heap : VmoHeap) (mapped : VmRange) (vmo : Vmo)
    (vmoOffset : Nat) (flags : VmFlags) (purpose : RegionPurpose) :
    Action.Spec (· = vmar) (mapVmo heap mapped vmo vmoOffset flags purpose)
      (fun _ vmar' => vmoOffset % vmo.pageSize = 0 ∧
        Inserted (.mapping ⟨mapped, flags, purpose, vmo, vmoOffset⟩) vmar vmar') (Refused vmar) := by
  refine .ensure_bind (fun haligned => ?_) (fun _ _ h => .of_eq hw _ h)
  refine .ensure_bind (fun _ => ?_) (fun _ _ h => .of_eq hw _ h)
  exact (insertEntry_total hw _).conseq (fun _ => id) (fun _ _ h => ⟨haligned.2, h⟩) (fun _ _ => And.left)

lemma mapGuard_total (guarded : VmRange) :
    Action.Spec (· = vmar) (mapGuard guarded) (fun _ vmar' => Inserted (.guard guarded) vmar vmar')
      (Refused vmar) := by
  refine .ensure_bind (fun _ => ?_) (fun _ _ h => .of_eq hw _ h)
  refine .orFail_bind (fun _ _ => ?_) (fun _ _ h => .of_eq hw _ h)
  refine .ensure_bind (fun _ => ?_) (fun _ _ h => .of_eq hw _ h)
  exact (insertEntry_total hw _).conseq (fun _ => id) (fun _ _ => id) (fun _ _ => And.left)

end

lemma Spans.pageSpanForRange_eq (h : vmar.Spans range start stop) :
    vmar.pageSpanForRange range = some (start, stop) := by
  have hlt := h.lt
  have hle := h.le
  simp only [pageSpanForRange, h.start_eq, h.stop_eq, pageAddr, pageSize]
  rw [if_neg (by omega), if_pos (by omega)]
  congr 2 <;> omega

/-- `find_entry` answers the entry that covers the page. -/
lemma WellFormed.findEntry_iff (hw : vmar.WellFormed) : vmar.findEntry page = some (key, entry) ↔
    vmar.entries[key]? = some entry ∧ entry.range.contains (vmar.pageAddr page) = true := by
  unfold findEntry
  cases hfloor : floorEntry? vmar.entries page with
  | none =>
    refine iff_of_false nofun fun ⟨hentry, hin⟩ => ?_
    obtain ⟨stop, -, hs⟩ := hw.spans_entry hentry
    have := floorEntry?_eq_none hfloor hentry
    have := (hs.contains_iff page).1 hin
    omega
  | some found =>
    obtain ⟨key', entry'⟩ := found
    obtain ⟨hentry', hle, hmax⟩ := floorEntry?_eq_some hfloor
    obtain ⟨stop', -, hs'⟩ := hw.spans_entry hentry'
    simp only [hs'.pageSpanForRange_eq]
    constructor
    · intro h
      split at h
      · cases h
        exact ⟨hentry', (hs'.contains_iff page).2 ‹_›⟩
      · cases h
    · rintro ⟨hentry, hin⟩
      -- the entry found starts within the one that covers the page
      obtain ⟨stop, -, hs⟩ := hw.spans_entry hentry
      have hpage := (hs.contains_iff page).1 hin
      have hkey := hmax key entry hentry hpage.1
      obtain rfl := hw.key_eq_of_contains hentry hentry' ((hs.contains_iff key').2 ⟨hkey, by omega⟩)
        ((hs'.contains_iff key').2 ⟨le_rfl, hs'.lt⟩)
      cases hentry'.symm.trans hentry
      rw [if_pos ((hs'.contains_iff page).1 hin)]

/-- The mapping `protect` finds is the entry stored under the start page of the range. -/
lemma WellFormed.entry_of_exactMapping (hw : vmar.WellFormed) {target : VmRange}
    {startPage endPage : Nat} {mapping : VmarMapping}
    (hspan : vmar.pageSpan target = some (startPage, endPage))
    (h : vmar.exactMapping startPage target = some mapping) :
    vmar.entries[startPage]? = some (.mapping mapping) ∧ mapping.range = target := by
  unfold exactMapping at h
  split at h
  · rename_i key m hfind
    split at h
    · rename_i hrange
      cases h
      obtain ⟨hstored, -⟩ := hw.findEntry_iff.1 hfind
      obtain ⟨stop, hown, -⟩ := hw.spans_entry hstored
      rw [show (VmarEntry.mapping mapping).range = target from hrange, hspan] at hown
      cases hown
      exact ⟨hstored, hrange⟩
    · cases h
  · cases h

/-- The mapping stored over exactly this range now has other flags. -/
def Reprotected (target : VmRange) (flags : VmFlags) (vmar vmar' : Vmar) : Prop :=
  ∃ (key : Nat) (mapping : VmarMapping), vmar.entries[key]? = some (.mapping mapping) ∧
    mapping.range = target ∧ EditedAt vmar vmar' key (some (.mapping { mapping with flags := flags }))

lemma protect_spec (hw : vmar.WellFormed) (heap : VmoHeap) (target : VmRange) (flags : VmFlags) :
    Action.Spec (· = vmar) (protect heap target flags)
      (fun _ vmar' => Reprotected target flags vmar vmar') (fun _ vmar' => Unchanged vmar vmar') := by
  refine .ensure_bind (fun _ => ?_) (fun _ _ h => .of_eq hw h)
  refine .get_bind (.orFail_bind (fun span hspan => ?_) (fun _ _ h => .of_eq hw h))
  obtain ⟨startPage, endPage⟩ := span
  refine .orFail_bind (fun mapping hmapping => ?_) (fun _ _ h => .of_eq hw h)
  refine .ensure_bind (fun _ => ?_) (fun _ _ h => .of_eq hw h)
  obtain ⟨hstored, hexact⟩ := hw.entry_of_exactMapping hspan hmapping
  refine .modify fun v hv => ?_
  subst hv
  refine ⟨startPage, mapping, hstored, hexact, hw.withRanges fun key => ?_, rfl, fun key => ?_⟩
  · rw [getElem?_insert]
    split
    · rename_i hkey
      subst hkey
      rw [hstored]
      rfl
    · rfl
  · simp only [getElem?_insert, eq_comm]

/-- The entry that started at the address is gone. -/
def Removed (start : Nat) (entry : VmarEntry) (vmar vmar' : Vmar) : Prop :=
  entry.range.start = start ∧ ∃ key, vmar.entries[key]? = some entry ∧ EditedAt vmar vmar' key none

lemma unmap_total (hw : vmar.WellFormed) (start : Nat) :
    Action.Spec (· = vmar) (unmap start) (fun entry vmar' => Removed start entry vmar vmar')
      (Refused vmar) := by
  refine .get_bind (.orFail_bind (fun page _ => ?_) (fun _ _ h => .of_eq hw _ h))
  refine .orFail_bind (fun entry hentry => ?_) (fun _ _ h => .of_eq hw _ h)
  refine .bind (Q := fun _ v => v = { vmar with entries := vmar.entries.erase page })
    (.modify fun v h => h ▸ rfl) fun _ => ?_
  split
  · -- the entry does not start here: it goes back where it was
    refine .bind (Q := fun _ v => Unchanged vmar v) (.modify fun v hv => ?_)
      fun _ => .fail fun _ h => ⟨nofun, h⟩
    subst hv
    have hback : ∀ key : Nat, ((vmar.entries.erase page).insert page entry)[key]?
        = vmar.entries[key]? := by
      intro key
      simp only [getElem?_insert, getElem?_erase]
      split
      · rename_i hkey
        subst hkey
        rw [hentry]
      · rfl
    exact ⟨hw.withRanges fun key => by rw [hback], rfl, hback⟩
  · rename_i hstart
    obtain ⟨stop, hspan, hs⟩ := hw.spans_entry hentry
    obtain ⟨hok, hwell⟩ := hw.release hentry hs
    rintro v rfl
    simp only [hspan, bind, andThen, orFail, ret, updatePages, hok]
    refine ⟨not_not.1 hstart, page, hentry, hwell, rfl, fun key => ?_⟩
    simp only [getElem?_erase, eq_comm]

/-! ## Runs -/

/-- The mutating calls on one region. A call that consults a VMO carries the VMO heap it finds;
the heap is free to change between calls. -/
inductive Op where
  | allocateChild (range : VmRange) (child : Nat)
  | allocateChildAny (size child : Nat)
  | mapVmo (heap : VmoHeap) (range : VmRange) (vmo : Vmo) (vmoOffset : Nat) (flags : VmFlags)
      (purpose : RegionPurpose)
  | mapGuard (range : VmRange)
  | protect (heap : VmoHeap) (range : VmRange) (flags : VmFlags)
  | unmap (start : Nat)

/-- The region after the call, successful or not. -/
def Op.step (vmar : Vmar) : Op → Vmar
  | .allocateChild range child => (Vmar.allocateChild range child).exec vmar
  | .allocateChildAny size child => (Vmar.allocateChildAny size child).exec vmar
  | .mapVmo heap range vmo vmoOffset flags purpose =>
    (Vmar.mapVmo heap range vmo vmoOffset flags purpose).exec vmar
  | .mapGuard range => (Vmar.mapGuard range).exec vmar
  | .protect heap range flags => (Vmar.protect heap range flags).exec vmar
  | .unmap start => (Vmar.unmap start).exec vmar

/-- The region after a sequence of calls. -/
def run (vmar : Vmar) (ops : List Op) : Vmar := runOps Op.step vmar ops

lemma Op.step_over (op : Op) (h : Over range vmar) : Over range (op.step vmar) := by
  cases op with
  | allocateChild range child =>
    exact (Edited.keeps (fun _ hw => allocateChild_spec hw range child) (fun _ _ _ h => h.edited)
      fun _ _ _ h => h.1.2).exec h
  | allocateChildAny size child =>
    exact (Edited.keeps (fun _ hw => allocateChildAny_spec hw size child) (fun _ _ _ h => h.1.edited)
      fun _ _ _ h => h.1).exec h
  | mapVmo heap range vmo vmoOffset flags purpose =>
    exact (Edited.keeps (fun _ hw => mapVmo_total hw heap range vmo vmoOffset flags purpose)
      (fun _ _ _ h => h.2.edited) fun _ _ _ h => h.2).exec h
  | mapGuard range =>
    exact (Edited.keeps (fun _ hw => mapGuard_total hw range) (fun _ _ _ h => h.edited)
      fun _ _ _ h => h.2).exec h
  | protect heap range flags =>
    exact (Edited.keeps (fun _ hw => protect_spec hw heap range flags)
      (fun _ _ _ ⟨_, _, _, _, hedit⟩ => ⟨_, hedit⟩) fun _ _ _ => id).exec h
  | unmap start =>
    exact (Edited.keeps (fun _ hw => unmap_total hw start) (fun _ _ _ ⟨_, _, _, hedit⟩ => ⟨_, hedit⟩)
      fun _ _ _ h => h.2).exec h

lemma run_over (h : Over range vmar) (ops : List Op) : Over range (vmar.run ops) :=
  run_invariant_all (fun _ op h => op.step_over h) h ops

/-- After any sequence of calls on a fresh page-aligned region, failing calls included: every
entry is page-aligned and inside the region, is stored under its own start page and shares no
address with another entry; a page is free in the tree exactly when no entry covers it; and the
tree's answer for any span of pages is the summary of the complement of the entries. -/
theorem run_entries_tree_agree (range : VmRange) (haligned : range.isPageAligned = true) (ops : List Op) :
    (∀ (key : Nat) (entry : VmarEntry), ((new range).run ops).entries[key]? = some entry →
      entry.range.isPageAligned = true ∧ range.containsRange entry.range = true ∧
        key = (entry.range.start - range.start) / pageSize) ∧
    (∀ (key key' : Nat) (entry entry' : VmarEntry), ((new range).run ops).entries[key]? = some entry →
      ((new range).run ops).entries[key']? = some entry' → key ≠ key' →
      ∀ addr, ¬ (entry.range.contains addr = true ∧ entry'.range.contains addr = true)) ∧
    (∀ page, page < range.len / pageSize →
      ∃ node, (((new range).run ops).tree.query page (page + 1)).1 = .ok node ∧ (node.fullyFree = true ↔
          ∀ (key : Nat) (entry : VmarEntry), ((new range).run ops).entries[key]? = some entry →
            entry.range.contains (range.start + page * pageSize) = false)) ∧
    (∀ start stop, start < stop → stop ≤ range.len / pageSize →
      ∃ node, (((new range).run ops).tree.query start stop).1 = .ok node ∧
        node.Summarises (cells ((new range).run ops).pageFree start stop)) := by
  have hpos := pages_pos haligned
  obtain ⟨hw, hrange⟩ := run_over (new_over (isPageAligned_iff.1 haligned).1 hpos) ops
  generalize (new range).run ops = vmar at *
  subst hrange
  have hquery : ∀ start stop, start < stop → stop ≤ vmar.range.len / pageSize →
      ∃ node, (vmar.tree.query start stop).1 = .ok node ∧
        node.Summarises (cells vmar.pageFree start stop) := by
    intro start stop hlt hle
    obtain ⟨node, tree, hquery, hsum, -⟩ := hw.tracks.query hlt (hw.pageCount_eq ▸ hle)
    exact ⟨node, by rw [hquery], hsum⟩
  refine ⟨?_, ?_, ?_, hquery⟩
  · intro key entry hentry
    obtain ⟨halign, hin⟩ := validateChildRange_iff.1 (hw.inside key entry hentry)
    refine ⟨halign, hin, ?_⟩
    rw [hw.keyed key entry hentry]
    simp only [pageAddr, pageSize]
    omega
  · rintro key key' entry entry' hentry hentry' hne addr ⟨hin, hin'⟩
    have hapart := hw.apart key key' entry entry' hentry hentry' hne
    rw [contains_iff] at hin hin'
    omega
  · intro page hpage
    obtain ⟨node, hnode, hsum⟩ := hquery page (page + 1) (Nat.lt_succ_self _) hpage
    refine ⟨node, hnode, ?_⟩
    rw [VmarNode.Summarises.fullyFree_iff hsum]
    have hone : cells vmar.pageFree page (page + 1) = [vmar.pageFree page] := by
      simp [cells]
    rw [hone, List.forall_mem_singleton, pageFree_iff]
    rfl

/-- Four pages at the bottom of the mapped user segment. -/
def fourPages : VmRange := ⟨0x100000000000, 0x100000004000, by decide⟩

/-- Two allocations, a refused guard and an unmap that frees the first page again. -/
def fourPagesHistory : List Op :=
  [.allocateChildAny 0x1000 7, .mapGuard ⟨0x100000000000, 0x100000001000, by decide⟩,
    .allocateChildAny 0x2000 8, .unmap 0x100000000000]

theorem run_entries_tree_agree_fourPages : fourPages.isPageAligned = true ∧
      ∀ start stop, start < stop → stop ≤ fourPages.len / pageSize →
        ∃ node, (((new fourPages).run fourPagesHistory).tree.query start stop).1 = .ok node ∧
          node.Summarises (cells ((new fourPages).run fourPagesHistory).pageFree start stop) :=
  ⟨by decide, (run_entries_tree_agree fourPages (by decide) fourPagesHistory).2.2.2⟩

/-- First fit: the call succeeds exactly when some run of free pages is long enough, and then takes
the lowest one. -/
structure FirstFitLaw (vmar : Vmar) (size child : Nat) : Prop where
  succeeds : (∃ chosen, (allocateChildAny size child).outcome vmar = .ok chosen) ↔
    (vmar.gaps size).Nonempty
  lowest : ∀ chosen, (allocateChildAny size child).outcome vmar = .ok chosen →
    ∃ page, IsLeast (vmar.gaps size) page ∧ vmar.Starts page size chosen

/-- After any sequence of calls on a region that has a page and starts on a page boundary. -/
theorem firstFitLaw_of_aligned_start (range : VmRange) (hstart : range.start % pageSize = 0)
    (hpages : 0 < range.len / pageSize) (hword : range.stop < usizeBound) (ops : List Op)
    (size child : Nat) (hsize : 0 < size) (hmultiple : size % pageSize = 0) :
    ((new range).run ops).FirstFitLaw size child := by
  obtain ⟨hw, hrange⟩ := run_over (new_over hstart hpages) ops
  generalize (new range).run ops = vmar at *
  subst hrange
  have hspec := allocateChildAny_spec hw size child vmar rfl
  rcases hres : allocateChildAny size child vmar with ⟨fault | chosen, vmar'⟩ <;> rw [hres] at hspec
  · have hout : (allocateChildAny size child).outcome vmar = .error fault := congrArg Prod.fst hres
    refine ⟨?_, fun _ h => nomatch hout.symm.trans h⟩
    rw [hspec.2 ⟨hsize.ne', hmultiple⟩ hword, hout]
    exact iff_of_false (fun ⟨_, h⟩ => nomatch h) Set.not_nonempty_empty
  · have hout : (allocateChildAny size child).outcome vmar = .ok chosen := congrArg Prod.fst hres
    obtain ⟨-, page, hleast, hstarts⟩ := hspec
    refine ⟨iff_of_true ⟨chosen, hout⟩ ⟨page, hleast.1⟩, fun other h => ?_⟩
    cases hout.symm.trans h
    exact ⟨page, hleast, hstarts⟩

theorem firstFitLaw_fourPages : ((new fourPages).run fourPagesHistory).FirstFitLaw 0x1000 9 :=
  firstFitLaw_of_aligned_start fourPages (by decide) (by decide) (by decide) fourPagesHistory 0x1000 9
    (by decide) (by decide)

end Vmar

end Akarin.Memory
