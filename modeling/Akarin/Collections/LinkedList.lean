/-
# Akarin.Collections.LinkedList -- the intrusive doubly linked list

The links live in the elements, the list itself is a head, a tail and a count. So `detach` works on
the neighbours that the element's link names, and on the list it is handed, without asking whether
the element is linked in that list: it is the caller who has to know.

`Represents` says that the pointers spell out a list of elements. Each operation is specified against
it, `detach` only for an element of the list it is handed.
-/
import Mathlib.Data.Set.Card

namespace Akarin.Collections

open List Function Option

/-- `DoubleLink`; the null pointer is `none`. -/
structure DoubleLink (κ : Type) where
  prev : Option κ
  next : Option κ

/-- `LinkedList<T, DoubleLink>`. -/
structure LinkedList (κ : Type) where
  head : Option κ
  tail : Option κ
  count : Nat

variable {κ : Type}

def DoubleLink.new : DoubleLink κ := ⟨none, none⟩

def LinkedList.new : LinkedList κ := ⟨none, none, 0⟩

section Operations

variable [DecidableEq κ]

/-- `set_prev` of the link of `x`. -/
def setPrev (links : κ → DoubleLink κ) (x : κ) (prev : Option κ) : κ → DoubleLink κ :=
  update links x { links x with prev := prev }

/-- `set_next` of the link of `x`. -/
def setNext (links : κ → DoubleLink κ) (x : κ) (next : Option κ) : κ → DoubleLink κ :=
  update links x { links x with next := next }

namespace LinkedList

variable (links : κ → DoubleLink κ) (list : LinkedList κ)

def pushBack (x : κ) : (κ → DoubleLink κ) × LinkedList κ :=
  let links := setNext (setPrev links x list.tail) x none
  match list.tail with
  | some t => (setNext links t (some x), { list with tail := some x, count := list.count + 1 })
  | none => (links, { head := some x, tail := some x, count := list.count + 1 })

/-- `pop_front`. The link of the popped element keeps what it held. -/
def popFront : Option κ × (κ → DoubleLink κ) × LinkedList κ :=
  match list.head with
  | none => (none, links, list)
  | some x =>
    match (links x).next with
    | some n => (some x, setPrev links n none, { list with head := some n, count := list.count - 1 })
    | none => (some x, links, { head := none, tail := none, count := list.count - 1 })

/-- `detach` of the link of `x`, handed `list`. -/
def detach (x : κ) : (κ → DoubleLink κ) × LinkedList κ :=
  match (links x).prev with
  | none => (popFront links list).2
  | some p =>
    let linked := setNext links p (links x).next
    match (links x).next with
    | some n => (setPrev linked n (some p), { list with count := list.count - 1 })
    | none => (linked, { list with tail := some p, count := list.count - 1 })

end LinkedList

end Operations

/-- The elements met from `start` on along `next`. -/
def LinkedList.follow (links : κ → DoubleLink κ) : Nat → Option κ → List κ
  | 0, _ => []
  | _ + 1, none => []
  | n + 1, some x => x :: follow links n (links x).next

/-- The elements met from the head on. -/
def LinkedList.toList (links : κ → DoubleLink κ) (list : LinkedList κ) : List κ :=
  follow links list.count list.head

/-! ## Chains -/

/-- The links of `xs` name each other in turn; the first one's `prev` is `before` and the last one's
`next` is `after`. -/
def Chain (links : κ → DoubleLink κ) (before : Option κ) : List κ → Option κ → Prop
  | [], _ => True
  | x :: xs, after =>
    (links x).prev = before ∧ (links x).next = xs.head?.or after ∧ Chain links (some x) xs after

variable {links links' : κ → DoubleLink κ} {before after : Option κ} {xs ys : List κ} {x : κ}

lemma Chain.congr (h : Chain links before xs after) (hsame : ∀ y ∈ xs, links' y = links y) :
    Chain links' before xs after := by
  induction xs generalizing before with
  | nil => trivial
  | cons x xs ih =>
    obtain ⟨hprev, hnext, hrest⟩ := h
    have hx := hsame x mem_cons_self
    exact ⟨hx ▸ hprev, hx ▸ hnext, ih hrest fun y hy => hsame y (mem_cons_of_mem x hy)⟩

lemma chain_append : Chain links before (xs ++ ys) after ↔
    Chain links before xs (ys.head?.or after) ∧ Chain links (xs.getLast?.or before) ys after := by
  induction xs generalizing before with
  | nil => simp [Chain]
  | cons x xs ih =>
    have hlast : (x :: xs).getLast?.or before = xs.getLast?.or (some x) := by
      cases xs with
      | nil => rfl
      | cons y ys => rw [getLast?_cons_cons, getLast?_cons]; rfl
    simp only [cons_append, Chain, ih, hlast, head?_append, Option.or_assoc, and_assoc]

lemma Chain.follow_eq (h : Chain links before xs none) {start : Option κ} (hstart : start = xs.head?) :
    LinkedList.follow links xs.length start = xs := by
  induction xs generalizing before start with
  | nil => rfl
  | cons x xs ih =>
    obtain ⟨-, hnext, hrest⟩ := h
    subst hstart
    rw [or_none] at hnext
    simp only [length_cons, head?_cons, LinkedList.follow, ih hrest hnext]

section

variable [DecidableEq κ]

lemma Chain.setPrev_head (h : Chain links before (x :: xs) after) (hx : x ∉ xs)
    (prev : Option κ) : Chain (setPrev links x prev) prev (x :: xs) after := by
  obtain ⟨-, hnext, hrest⟩ := h
  refine ⟨by simp [setPrev], by simpa [setPrev] using hnext, hrest.congr fun y hy => ?_⟩
  exact update_of_ne (ne_of_mem_of_not_mem hy hx) _ _

lemma Chain.setNext_last (h : Chain links before (xs ++ [x]) after) (hx : x ∉ xs)
    (next : Option κ) : Chain (setNext links x next) before (xs ++ [x]) next := by
  obtain ⟨hinit, hprev, -, -⟩ := chain_append.1 h
  refine chain_append.2 ⟨hinit.congr fun y hy => ?_, ?_, ?_, trivial⟩
  · exact update_of_ne (ne_of_mem_of_not_mem hy hx) _ _
  · simpa [setNext] using hprev
  · simp [setNext]

end

/-! ## What the operations do to the list of elements -/

namespace LinkedList

variable {list : LinkedList κ}

/-- The pointers spell out `xs`. -/
structure Represents (links : κ → DoubleLink κ) (list : LinkedList κ) (xs : List κ) : Prop where
  chain : Chain links none xs none
  head : list.head = xs.head?
  tail : list.tail = xs.getLast?
  count : list.count = xs.length
  nodup : xs.Nodup

lemma Represents.new : Represents links (LinkedList.new : LinkedList κ) [] :=
  ⟨trivial, rfl, rfl, rfl, nodup_nil⟩

section

variable (h : Represents links list xs)
include h

lemma Represents.toList : list.toList links = xs := by
  rw [LinkedList.toList, h.count]
  exact h.chain.follow_eq h.head

lemma Represents.congr (hsame : ∀ y ∈ xs, links' y = links y) : Represents links' list xs :=
  { h with chain := h.chain.congr hsame }

end

variable [DecidableEq κ]

lemma Represents.pushBack (h : Represents links list xs) (hx : x ∉ xs) :
    Represents (pushBack links list x).1 (pushBack links list x).2 (xs ++ [x]) := by
  have hown : Chain (setNext (setPrev links x list.tail) x none) none xs none := by
    refine h.chain.congr fun y hy => ?_
    have hne := ne_of_mem_of_not_mem hy hx
    rw [setNext, update_of_ne hne, setPrev, update_of_ne hne]
  have hnodup : (xs ++ [x]).Nodup := by
    refine nodup_append.2 ⟨h.nodup, nodup_singleton x, fun y hy z hz heq => hx ?_⟩
    rw [mem_singleton] at hz
    rwa [← hz, ← heq]
  have hlink : setNext (setPrev links x list.tail) x none x = ⟨xs.getLast?, none⟩ := by
    simp [setNext, setPrev, h.tail]
  rcases xs.eq_nil_or_concat with rfl | ⟨init, t, rfl⟩
  · have htail : list.tail = none := h.tail
    simp only [pushBack, htail]
    refine ⟨⟨?_, ?_, trivial⟩, rfl, rfl, ?_, hnodup⟩
    · simp [setNext, setPrev]
    · simp [setNext]
    · simp [h.count]
  · rw [concat_eq_append] at *
    have htail : list.tail = some t := by simpa using h.tail
    have ht : t ∉ init := fun hmem =>
      (nodup_append.1 h.nodup).2.2 t hmem t (mem_singleton_self t) rfl
    have htx : x ≠ t := by rintro rfl; simp at hx
    simp only [pushBack, htail] at hown hlink ⊢
    refine ⟨chain_append.2 ⟨hown.setNext_last ht (some x), ?_, ?_, trivial⟩, ?_, ?_, ?_, hnodup⟩
    · rw [setNext, update_of_ne htx, hlink]
      simp
    · rw [setNext, update_of_ne htx, hlink]
      simp
    · simp [h.head]
    · simp
    · simp [h.count]

lemma Represents.popFront (h : Represents links list (x :: xs)) : (popFront links list).1 = some x ∧
      Represents (popFront links list).2.1 (popFront links list).2.2 xs := by
  have hhead : list.head = some x := h.head
  obtain ⟨-, hnext, hrest⟩ := h.chain
  have hnodup := (nodup_cons.1 h.nodup).2
  cases xs with
  | nil =>
    simp only [head?_nil, or_none] at hnext
    simp only [popFront, hhead, hnext, true_and]
    exact ⟨trivial, rfl, rfl, by simp [h.count], nodup_nil⟩
  | cons y ys =>
    simp only [head?_cons, some_or] at hnext
    simp only [popFront, hhead, hnext, true_and]
    refine ⟨hrest.setPrev_head (nodup_cons.1 hnodup).1 none, rfl, ?_, ?_, hnodup⟩
    · rw [h.tail, getLast?_cons_cons]
    · simp [h.count]

lemma Represents.popFront_nil (h : Represents links list []) :
    LinkedList.popFront links list = (none, links, list) := by
  have hhead : list.head = none := h.head
  simp only [LinkedList.popFront, hhead]

/-- Only links of the list's own elements are written. -/
lemma Represents.popFront_other (h : Represents links list (x :: xs)) {y : κ} (hy : y ∉ xs) :
    (LinkedList.popFront links list).2.1 y = links y := by
  have hhead : list.head = some x := h.head
  obtain ⟨-, hnext, -⟩ := h.chain
  cases xs with
  | nil =>
    simp only [head?_nil, or_none] at hnext
    simp only [LinkedList.popFront, hhead, hnext]
  | cons z zs =>
    simp only [head?_cons, some_or] at hnext
    simp only [LinkedList.popFront, hhead, hnext]
    have hyz : y ≠ z := by
      rintro rfl
      exact hy mem_cons_self
    exact update_of_ne hyz _ _

lemma Represents.pushBack_other (h : Represents links list xs) {y : κ} (hy : y ∉ xs) (hyx : y ≠ x) :
    (LinkedList.pushBack links list x).1 y = links y := by
  have hown : setNext (setPrev links x list.tail) x none y = links y := by
    rw [setNext, update_of_ne hyx, setPrev, update_of_ne hyx]
  unfold LinkedList.pushBack
  split
  · rename_i t htail
    have hmem : t ∈ xs := mem_of_getLast? (h.tail.symm.trans htail)
    exact (update_of_ne (ne_of_mem_of_not_mem hmem hy).symm _ _).trans hown
  · exact hown

/-- Detaching an element from the list it is linked in. -/
lemma Represents.detach (h : Represents links list (xs ++ x :: ys)) :
    Represents (detach links list x).1 (detach links list x).2 (xs ++ ys) := by
  have hnodup : (xs ++ ys).Nodup := h.nodup.sublist (by simp)
  obtain ⟨hinit, hprev, hnext, hrest⟩ := chain_append.1 h.chain
  rw [or_none] at hprev hnext
  rcases xs.eq_nil_or_concat with rfl | ⟨init, p, rfl⟩
  · have hprev : (links x).prev = none := hprev
    simp only [detach, hprev]
    exact h.popFront.2
  · rw [concat_eq_append] at *
    have hprev : (links x).prev = some p := by simpa using hprev
    have hp : p ∉ init := fun hmem =>
      (nodup_append.1 (nodup_append.1 hnodup).1).2.2 p hmem p (mem_singleton_self p) rfl
    have hinit : Chain (setNext links p (links x).next) none (init ++ [p]) ys.head? := by
      rw [hnext]
      exact hinit.setNext_last hp ys.head?
    cases ys with
    | nil =>
      simp only [head?_nil] at hnext
      simp only [detach, hprev, hnext] at hinit ⊢
      rw [append_nil] at *
      refine ⟨hinit, ?_, ?_, ?_, hnodup⟩
      · rw [h.head]; simp
      · simp
      · simp [h.count]
    | cons n rest =>
      simp only [head?_cons] at hnext
      simp only [detach, hprev, hnext] at hinit ⊢
      have hn : n ∉ init ++ [p] := fun hmem =>
        (nodup_append.1 hnodup).2.2 n hmem n mem_cons_self rfl
      have hpn : ∀ y ∈ n :: rest, y ≠ p := fun y hy heq =>
        (nodup_append.1 hnodup).2.2 p (by simp) y hy heq.symm
      have hnrest : n ∉ rest := (nodup_cons.1 (nodup_append.1 hnodup).2.1).1
      refine ⟨chain_append.2 ⟨?_, ?_⟩, ?_, ?_, ?_, hnodup⟩
      · refine hinit.congr fun y hy => ?_
        exact update_of_ne (ne_of_mem_of_not_mem hy hn) _ _
      · have hrest : Chain (setNext links p (some n)) (some x) (n :: rest) none :=
          hrest.congr fun y hy => update_of_ne (hpn y hy) _ _
        have := hrest.setPrev_head hnrest (some p)
        simpa using this
      · rw [h.head]; simp
      · rw [h.tail]; simp [getLast?_append, getLast?_cons]
      · simp [h.count]

lemma Represents.detach_other (h : Represents links list (xs ++ x :: ys)) {y : κ} (hy : y ∉ xs)
    (hy' : y ∉ ys) : (LinkedList.detach links list x).1 y = links y := by
  obtain ⟨-, hprev, hnext, -⟩ := chain_append.1 h.chain
  rw [or_none] at hprev hnext
  unfold LinkedList.detach
  split
  · rename_i hnone
    have hnil : xs = [] := getLast?_eq_none_iff.1 (hprev.symm.trans hnone)
    subst hnil
    exact h.popFront_other hy'
  · rename_i p hsome
    have hp : p ∈ xs := mem_of_getLast? (hprev.symm.trans hsome)
    have hlinked : setNext links p (links x).next y = links y :=
      update_of_ne (ne_of_mem_of_not_mem hp hy).symm _ _
    dsimp only
    split
    · rename_i n hn
      have hmem : n ∈ ys := mem_of_head? (hnext.symm.trans hn)
      exact (update_of_ne (ne_of_mem_of_not_mem hmem hy').symm _ _).trans hlinked
    · exact hlinked

end LinkedList

end Akarin.Collections
