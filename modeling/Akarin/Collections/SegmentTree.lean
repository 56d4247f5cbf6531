/-
# Akarin.Collections.SegmentTree -- the dynamic segment tree of `library/collections`

The model follows `tree/segment.rs`: nodes are allocated on demand, a covered node keeps a lazy
tag and drops its children, and every descent first pushes the tag one level down. A node's
`Option<Box<Node>>` child is the constructor `absent`.

The recursion of the source halves the span `[l, r)` and stops at spans it covers, so it is given
the span's length as fuel; `updateRec_describes` and `queryRec_describes` show that this is
always enough.

What the tree is for is stated over a *summary law* (`SummaryLaw`): a relation between values of
`T` and rows of cells that `merge` carries along concatenation and that `apply` establishes for a
uniform row. Under such a law `update` repaints the described row (`update_describes`) and `query`
answers with a summary of the exact sub-row asked for (`query_describes`), lazy tags and pruning
notwithstanding.
-/
import Mathlib.Data.Set.Card

namespace Akarin.Collections

open List

universe u v

/-- Why a range is refused. -/
inductive SegmentTreeError where
  | indexOutOfBounds
  | invalidRange
  deriving DecidableEq

/-- `trait SegmentState`; `default` comes from `Inhabited`. -/
class SegmentState (T : Type u) extends Inhabited T where
  merge : T → T → T
  /-- `self.apply(lazy_value, len)`, returning the new `self`. -/
  apply : T → T → Nat → T

/-- `Option<Box<Node<T>>>`. -/
inductive Node (T : Type u) where
  | absent
  | mk (val : T) (lazy : Option T) (left right : Node T)

namespace Node

variable {T : Type u}

def new (val : T) : Node T := .mk val none .absent .absent

/-- The stored value; an absent child counts as `T::default()`. -/
def val [Inhabited T] : Node T → T
  | .absent => default
  | .mk v _ _ _ => v

/-- Allocate the child when it is missing. -/
def getOrNew [Inhabited T] : Node T → Node T
  | .absent => new default
  | n => n

variable [SegmentState T]

/-- What `update_rec` does to a covered node and `push_down` to each child: apply the value, tag
it, and drop everything below. -/
def cover (node : Node T) (v : T) (len : Nat) : Node T :=
  .mk (SegmentState.apply node.val v len) (some v) .absent .absent

def pushDown (l r : Nat) : Node T → Node T
  | .mk val (some v) left right =>
    let mid := l + (r - l) / 2
    .mk val none (left.getOrNew.cover v (mid - l)) (right.getOrNew.cover v (r - mid))
  | node => node

def pushUp : Node T → Node T
  | .mk _ lz left right => .mk (SegmentState.merge left.val right.val) lz left right
  | .absent => .absent

/-- Recurse into the children of a node whose tag has been pushed down. -/
def mapChildren (f g : Node T → Node T) : Node T → Node T
  | .mk val lz left right => .mk val lz (f left) (g right)
  | .absent => .absent

def updateRec : Nat → Node T → Nat → Nat → Nat → Nat → T → Node T
  | 0, node, _, _, _, _, _ => node
  | fuel + 1, node, l, r, ql, qr, v =>
    if ql ≤ l ∧ r ≤ qr then node.cover v (r - l)
    else
      let mid := l + (r - l) / 2
      pushUp <| (node.pushDown l r).mapChildren
        (fun left => if ql < mid then updateRec fuel left.getOrNew l mid ql qr v else left)
        (fun right => if mid < qr then updateRec fuel right.getOrNew mid r ql qr v else right)

/-- Query a child; a missing child answers `T::default()` and stays missing. -/
def queryChild (rec : Node T → T × Node T) : Node T → T × Node T
  | .absent => (default, .absent)
  | node => rec node

/-- `query_rec` returns the answer and the node, whose tags it may have pushed down. -/
def queryRec : Nat → Node T → Nat → Nat → Nat → Nat → T × Node T
  | 0, node, _, _, _, _ => (node.val, node)
  | fuel + 1, node, l, r, ql, qr =>
    if ql ≤ l ∧ r ≤ qr then (node.val, node)
    else
      let mid := l + (r - l) / 2
      match node.pushDown l r with
      | .absent => (default, .absent)
      | .mk val lz left right =>
        let resLeft := left.queryChild fun node => queryRec fuel node l mid ql qr
        let resRight := right.queryChild fun node => queryRec fuel node mid r ql qr
        if ql < mid then
          if mid < qr then
            (SegmentState.merge resLeft.1 resRight.1, .mk val lz resLeft.2 resRight.2)
          else (resLeft.1, .mk val lz resLeft.2 right)
        else (resRight.1, .mk val lz left resRight.2)

end Node

/-- A lazy tree over `domainStart .. domainEnd`. -/
structure SegmentTree (T : Type u) where
  root : Node T
  domainStart : Nat
  domainEnd : Nat

namespace SegmentTree

variable {T : Type u}

def new (domainStart domainEnd : Nat) : SegmentTree T := ⟨.absent, domainStart, domainEnd⟩

/-- The check at the head of `update` and `query`. -/
def rangeOk (tree : SegmentTree T) (start stop : Nat) : Bool :=
  start < stop && tree.domainStart ≤ start && stop ≤ tree.domainEnd

lemma rangeOk_iff {tree : SegmentTree T} {start stop : Nat} : tree.rangeOk start stop = true ↔
    start < stop ∧ tree.domainStart ≤ start ∧ stop ≤ tree.domainEnd := by
  simp [rangeOk, and_assoc]

variable [SegmentState T]

/-- `SegmentTree::update`: the result and the tree afterwards. -/
def update (tree : SegmentTree T) (start stop : Nat) (v : T) :
    Except SegmentTreeError Unit × SegmentTree T :=
  if tree.rangeOk start stop then
    (.ok (), { tree with
      root := tree.root.getOrNew.updateRec (tree.domainEnd - tree.domainStart)
        tree.domainStart tree.domainEnd start stop v })
  else (.error .invalidRange, tree)

/-- `SegmentTree::query`: the answer and the tree afterwards. -/
def query (tree : SegmentTree T) (start stop : Nat) : Except SegmentTreeError T × SegmentTree T :=
  if tree.rangeOk start stop then
    match tree.root with
    | .absent => (.ok default, tree)
    | root =>
      let res := root.queryRec (tree.domainEnd - tree.domainStart)
        tree.domainStart tree.domainEnd start stop
      (.ok res.1, { tree with root := res.2 })
  else (.error .invalidRange, tree)

end SegmentTree

/-! ## Rows of cells -/

/-- The row of cells `f l, …, f (r - 1)`. -/
def cells {C : Type v} (f : Nat → C) (l r : Nat) : List C := (List.range' l (r - l)).map f

variable {C : Type v} {l r : Nat}

@[simp] lemma length_cells (f : Nat → C) (l r : Nat) : (cells f l r).length = r - l := by
  simp [cells]

variable {f : Nat → C} {c : C} {i : Nat}

lemma mem_cells : c ∈ cells f l r ↔ ∃ i, l ≤ i ∧ i < r ∧ f i = c := by
  simp only [cells, mem_map, mem_range'_1]
  constructor
  · rintro ⟨i, ⟨hl, hr⟩, rfl⟩
    exact ⟨i, hl, by omega, rfl⟩
  · rintro ⟨i, hl, hr, rfl⟩
    exact ⟨i, ⟨hl, by omega⟩, rfl⟩

lemma getElem?_cells : (cells f l r)[i]? = some c ↔ l + i < r ∧ f (l + i) = c := by
  by_cases hi : i < r - l
  · rw [cells, getElem?_map, getElem?_range' hi, Option.map_some, Option.some_inj, Nat.one_mul]
    exact (and_iff_right (by omega)).symm
  · rw [getElem?_eq_none_iff.2 (by rw [length_cells]; omega)]
    exact iff_of_false nofun fun h => absurd h.1 (by omega)

lemma getElem?_cells_reverse : (cells f l r).reverse[i]? = some c ↔ l + i < r ∧ f (r - 1 - i) = c := by
  by_cases hi : l + i < r
  · rw [getElem?_reverse (by rw [length_cells]; omega), length_cells, getElem?_cells,
      show l + (r - l - 1 - i) = r - 1 - i by omega]
    exact and_congr_left fun _ => iff_of_true (by omega) hi
  · rw [getElem?_eq_none_iff.2 (by rw [length_reverse, length_cells]; omega)]
    exact iff_of_false nofun fun h => absurd h.1 hi

lemma cells_append (f : Nat → C) {m : Nat} (hlm : l ≤ m) (hmr : m ≤ r) :
    cells f l m ++ cells f m r = cells f l r := by
  have hm : m = l + (m - l) := by omega
  have hlen : r - l = (m - l) + (r - m) := by omega
  simp only [cells]
  rw [← map_append, hlen, ← range'_append_1, ← hm]

lemma cells_congr {g : Nat → C} (h : ∀ i, l ≤ i → i < r → f i = g i) : cells f l r = cells g l r := by
  refine map_congr_left fun i hi => ?_
  rw [mem_range'_1] at hi
  exact h i hi.1 (by omega)

lemma cells_const (h : ∀ i, l ≤ i → i < r → f i = c) : cells f l r = List.replicate (r - l) c := by
  refine eq_replicate_iff.2 ⟨length_cells f l r, fun b hb => ?_⟩
  obtain ⟨i, hl, hr, rfl⟩ := mem_cells.1 hb
  exact h i hl hr

/-- Paint the cells of `[ql, qr)` with `c`. -/
def repaint {C : Type v} (f : Nat → C) (ql qr : Nat) (c : C) : Nat → C :=
  fun i => if ql ≤ i ∧ i < qr then c else f i

/-! ## Summary laws -/

/-- How values of a segment state summarise rows of cells. `Summarises t xs` says that `t` is
the summary of the row `xs`; `Paints v c` that applying `v` turns a row into `c`'s only. -/
structure SummaryLaw (T : Type u) (C : Type v) [SegmentState T] where
  Summarises : T → List C → Prop
  Paints : T → C → Prop
  merge : ∀ {a b : T} {xs ys : List C}, Summarises a xs → Summarises b ys →
    Summarises (SegmentState.merge a b) (xs ++ ys)
  apply : ∀ {v : T} {c : C} (t : T) (len : Nat), Paints v c →
    Summarises (SegmentState.apply t v len) (List.replicate len c)

section Law

variable {T : Type u} {C : Type v} [SegmentState T] (law : SummaryLaw T C)

/-- The node describes the cells of `[l, r)`: its value is their summary, and below it there is
either a tag (then the cells are uniform) or two children describing the halves. -/
def Node.Describes : Node T → Nat → Nat → (Nat → C) → Prop
  | .absent, _, _, _ => False
  | .mk val lz left right, l, r, f =>
    law.Summarises val (cells f l r) ∧
      match lz with
      | some v => ∃ c, law.Paints v c ∧ ∀ i, l ≤ i → i < r → f i = c
      | none => 2 ≤ r - l → left.Describes l (l + (r - l) / 2) f ∧ right.Describes (l + (r - l) / 2) r f

variable {law} {l r ql qr : Nat} {f g : Nat → C} {v : T} {c : C} {node : Node T}

lemma Node.Describes.summary (h : node.Describes law l r f) : law.Summarises node.val (cells f l r) := by
  cases node with
  | absent => exact h.elim
  | mk val lz left right => exact h.1

/-- Only the cells of the node's own span matter. -/
lemma Node.Describes.congr (h : node.Describes law l r f)
    (hfg : ∀ i, l ≤ i → i < r → f i = g i) : node.Describes law l r g := by
  induction node generalizing l r with
  | absent => exact h
  | mk val lz left right ihl ihr =>
    obtain ⟨hval, hbelow⟩ := h
    refine ⟨cells_congr hfg ▸ hval, ?_⟩
    cases lz with
    | some v =>
      obtain ⟨c, hc, huni⟩ := hbelow
      exact ⟨c, hc, fun i hl hr => (hfg i hl hr).symm.trans (huni i hl hr)⟩
    | none =>
      intro hlen
      obtain ⟨hleft, hright⟩ := hbelow hlen
      exact ⟨ihl hleft fun i hl hr => hfg i hl (by omega), ihr hright fun i hl hr => hfg i (by omega) hr⟩

lemma Node.cover_describes (node : Node T) (hv : law.Paints v c)
    (hf : ∀ i, l ≤ i → i < r → f i = c) : (node.cover v (r - l)).Describes law l r f := by
  refine ⟨?_, c, hv, hf⟩
  rw [cells_const hf]
  exact law.apply _ _ hv

section

variable (h : node.Describes law l r f)
include h

/-- After `push_down` both children are there and describe their halves. -/
lemma Node.pushDown_describes (hlen : 2 ≤ r - l) :
    ∃ val left right, node.pushDown l r = .mk val none left right ∧ law.Summarises val (cells f l r) ∧
      left.Describes law l (l + (r - l) / 2) f ∧ right.Describes law (l + (r - l) / 2) r f := by
  cases node with
  | absent => exact h.elim
  | mk val lz left right =>
    obtain ⟨hval, hbelow⟩ := h
    cases lz with
    | some v =>
      obtain ⟨c, hc, huni⟩ := hbelow
      exact ⟨val, _, _, rfl, hval, cover_describes _ hc fun i hl hr => huni i hl (by omega),
        cover_describes _ hc fun i hl hr => huni i (by omega) hr⟩
    | none => exact ⟨val, left, right, rfl, hval, hbelow hlen⟩

lemma Node.Describes.queryChild_eq (rec : Node T → T × Node T) : node.queryChild rec = rec node := by
  cases node with
  | absent => exact h.elim
  | mk val lz left right => rfl

lemma Node.Describes.getOrNew_eq : node.getOrNew = node := by
  cases node with
  | absent => exact h.elim
  | mk val lz left right => rfl

end

variable {val : T} {left right : Node T} {m : Nat}

lemma Node.Describes.of_halves (hm : m = l + (r - l) / 2) (hval : law.Summarises val (cells f l r))
    (hleft : left.Describes law l m f) (hright : right.Describes law m r f) :
    (Node.mk val none left right).Describes law l r f := by
  subst hm
  exact ⟨hval, fun _ => ⟨hleft, hright⟩⟩

/-- Two children that describe the halves make a parent that describes the whole. -/
lemma Node.pushUp_describes (hm : m = l + (r - l) / 2) (hlr : l < r)
    (hleft : left.Describes law l m f) (hright : right.Describes law m r f) :
    (Node.pushUp (.mk val none left right)).Describes law l r f := by
  refine .of_halves hm ?_ hleft hright
  rw [← cells_append f (by omega : l ≤ m) (by omega)]
  exact law.merge hleft.summary hright.summary

/-! ## Update and query -/

lemma Node.updateRec_describes (fuel : Nat) (hfuel : r - l ≤ fuel) (hlr : l < r) (hql : ql < r)
    (hqr : l < qr) (h : node.Describes law l r f) (hv : law.Paints v c) :
    (node.updateRec fuel l r ql qr v).Describes law l r (repaint f ql qr c) := by
  -- induction on the fuel; each half is strictly shorter than the span, which is at least two
  -- cells long wherever it is not covered
  induction fuel generalizing node l r with
  | zero => omega
  | succ fuel ih =>
    by_cases hcov : ql ≤ l ∧ r ≤ qr
    · rw [updateRec, if_pos hcov]
      refine cover_describes node hv fun i hl hr => ?_
      simp only [repaint, if_pos (show ql ≤ i ∧ i < qr by omega)]
    · obtain ⟨val, left, right, hpush, -, hleft, hright⟩ :=
        pushDown_describes h (by omega : 2 ≤ r - l)
      simp only [updateRec, if_neg hcov, hpush, mapChildren, hleft.getOrNew_eq, hright.getOrNew_eq]
      refine pushUp_describes rfl hlr ?_ ?_
      · split
        · exact ih (by omega) (by omega) (by omega) hqr hleft
        · refine hleft.congr fun i _ hr => ?_
          rw [repaint, if_neg (by omega)]
      · split
        · exact ih (by omega) (by omega) hql (by omega) hright
        · refine hright.congr fun i hl _ => ?_
          rw [repaint, if_neg (by omega)]

lemma Node.queryRec_describes (fuel : Nat) (hfuel : r - l ≤ fuel) (hlr : l < r) (hql : ql < r)
    (hqr : l < qr) (hq : ql < qr) (h : node.Describes law l r f) :
    law.Summarises (node.queryRec fuel l r ql qr).1 (cells f (max l ql) (min r qr)) ∧
      (node.queryRec fuel l r ql qr).2.Describes law l r f := by
  induction fuel generalizing node l r with
  | zero => omega
  | succ fuel ih =>
    by_cases hcov : ql ≤ l ∧ r ≤ qr
    · rw [queryRec, if_pos hcov, Nat.max_eq_left hcov.1, Nat.min_eq_left hcov.2]
      exact ⟨h.summary, h⟩
    · obtain ⟨val, left, right, hpush, hval, hleft, hright⟩ :=
        pushDown_describes h (by omega : 2 ≤ r - l)
      simp only [queryRec, if_neg hcov, hpush, hleft.queryChild_eq, hright.queryChild_eq]
      obtain ⟨mid, hmid⟩ : ∃ mid, mid = l + (r - l) / 2 := ⟨_, rfl⟩
      rw [← hmid] at hleft hright ⊢
      by_cases hlo : ql < mid
      · obtain ⟨hsumL, hdescL⟩ := ih (by omega) (by omega) hlo hqr hleft
        by_cases hhi : mid < qr
        · obtain ⟨hsumR, hdescR⟩ := ih (by omega) (by omega) hql hhi hright
          rw [Nat.min_eq_left (by omega : mid ≤ qr)] at hsumL
          rw [Nat.max_eq_left (by omega : ql ≤ mid)] at hsumR
          simp only [if_pos hlo, if_pos hhi]
          refine ⟨?_, .of_halves hmid hval hdescL hdescR⟩
          rw [← cells_append f (by omega : max l ql ≤ mid) (by omega : mid ≤ min r qr)]
          exact law.merge hsumL hsumR
        · simp only [if_pos hlo, if_neg hhi]
          rw [show min mid qr = min r qr by omega] at hsumL
          exact ⟨hsumL, .of_halves hmid hval hdescL hright⟩
      · obtain ⟨hsumR, hdescR⟩ := ih (by omega) (by omega) hql (by omega) hright
        simp only [if_neg hlo]
        rw [show max mid ql = max l ql by omega] at hsumR
        exact ⟨hsumR, .of_halves hmid hval hleft hdescR⟩

/-! ## The tree -/

/-- The tree describes the cells of its domain. -/
def SegmentTree.Describes (law : SummaryLaw T C) (tree : SegmentTree T) (f : Nat → C) : Prop :=
  tree.root.Describes law tree.domainStart tree.domainEnd f

variable {tree : SegmentTree T} {start stop : Nat}

lemma SegmentTree.update_domain (tree : SegmentTree T) (start stop : Nat) (v : T) :
    (tree.update start stop v).2.domainStart = tree.domainStart ∧
      (tree.update start stop v).2.domainEnd = tree.domainEnd := by
  unfold update
  split <;> exact ⟨rfl, rfl⟩

/-- Painting the whole domain settles the tree, whatever it held before. -/
lemma SegmentTree.update_all_describes (tree : SegmentTree T) (hv : law.Paints v c)
    (hdom : tree.domainStart < tree.domainEnd) :
    (tree.update tree.domainStart tree.domainEnd v).1 = .ok () ∧
      (tree.update tree.domainStart tree.domainEnd v).2.Describes law fun _ => c := by
  have hok : tree.rangeOk tree.domainStart tree.domainEnd = true :=
    rangeOk_iff.2 ⟨hdom, Nat.le_refl _, Nat.le_refl _⟩
  obtain ⟨n, hn⟩ : ∃ n, tree.domainEnd - tree.domainStart = n + 1 :=
    Nat.exists_eq_succ_of_ne_zero (by omega)
  have hroot : tree.root.getOrNew.updateRec (n + 1) tree.domainStart tree.domainEnd
      tree.domainStart tree.domainEnd v
      = tree.root.getOrNew.cover v (tree.domainEnd - tree.domainStart) :=
    if_pos ⟨Nat.le_refl _, Nat.le_refl _⟩
  simp only [update, hok, if_true, Describes, true_and]
  rw [hn, hroot]
  exact Node.cover_describes _ hv fun _ _ _ => rfl

lemma SegmentTree.update_describes (h : tree.Describes law f) (hv : law.Paints v c)
    (hlt : start < stop) (hlo : tree.domainStart ≤ start) (hhi : stop ≤ tree.domainEnd) :
    (tree.update start stop v).1 = .ok () ∧
      (tree.update start stop v).2.Describes law (repaint f start stop c) := by
  have hok : tree.rangeOk start stop = true := rangeOk_iff.2 ⟨hlt, hlo, hhi⟩
  simp only [update, hok, if_true, Describes, true_and]
  rw [Node.Describes.getOrNew_eq h]
  exact Node.updateRec_describes _ (Nat.le_refl _) (by omega) (by omega) (by omega) h hv

lemma SegmentTree.query_describes (h : tree.Describes law f)
    (hlt : start < stop) (hlo : tree.domainStart ≤ start) (hhi : stop ≤ tree.domainEnd) :
    ∃ t tree', tree.query start stop = (.ok t, tree') ∧ law.Summarises t (cells f start stop) ∧
      tree'.Describes law f ∧ tree'.domainStart = tree.domainStart ∧
      tree'.domainEnd = tree.domainEnd := by
  have hok : tree.rangeOk start stop = true := rangeOk_iff.2 ⟨hlt, hlo, hhi⟩
  have hrec := @Node.queryRec_describes _ _ _ law _ _ start stop _ _
    (tree.domainEnd - tree.domainStart) (Nat.le_refl _) (by omega) (by omega) (by omega) hlt h
  rw [Nat.max_eq_right hlo, Nat.min_eq_right hhi] at hrec
  simp only [query, hok, if_true]
  split
  · rename_i hroot
    rw [Describes, hroot] at h
    exact h.elim
  · exact ⟨_, _, rfl, hrec.1, hrec.2, rfl, rfl⟩

end Law

end Akarin.Collections
