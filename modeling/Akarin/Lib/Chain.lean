/-
# Akarin.Lib.Chain -- lists threaded through memory

A word of memory at an element of the list holds the address of the next one; zero is the end. `Chain`
says which list the words spell out. It depends on the words at the elements only (`Chain.congr`), so an
element is taken from the front without a look at the memory, and put there by writing one word.
-/
import Mathlib.Data.Set.Card

namespace Akarin.Lib

/-- The words from `head` on spell out the list. -/
def Chain (memory : Nat → Nat) : Nat → List Nat → Prop
  | head, [] => head = 0
  | head, x :: xs => head = x ∧ x ≠ 0 ∧ Chain memory (memory x) xs

namespace Chain

variable {memory memory' : Nat → Nat} {head x : Nat} {xs ys : List Nat}

/-- The words at the elements are all that counts. -/
lemma congr (h : Chain memory head xs) (hsame : ∀ y ∈ xs, memory' y = memory y) :
    Chain memory' head xs := by
  induction xs generalizing head with
  | nil => exact h
  | cons y ys ih =>
    obtain ⟨rfl, hne, hrest⟩ := h
    refine ⟨rfl, hne, ?_⟩
    rw [hsame head (List.mem_cons_self ..)]
    exact ih hrest fun z hz => hsame z (List.mem_cons_of_mem _ hz)

/-- A word that is not at an element does not matter. -/
lemma update (h : Chain memory head xs) (hx : x ∉ xs) (value : Nat) :
    Chain (Function.update memory x value) head xs :=
  h.congr fun y hy => Function.update_of_ne (fun heq => hx (by rw [← heq]; exact hy)) ..

lemma eq_nil_of_zero (h : Chain memory 0 xs) : xs = [] := by
  cases xs with
  | nil => rfl
  | cons y ys =>
    obtain ⟨rfl, hne, _⟩ := h
    exact absurd rfl hne

variable (h : Chain memory head xs)
include h

lemma ne_zero_of_mem (hx : x ∈ xs) : head ≠ 0 := by
  rintro rfl
  rw [h.eq_nil_of_zero] at hx
  cases hx

/-- A head that is not zero is the first element. -/
lemma exists_cons (hne : head ≠ 0) : ∃ ys, xs = head :: ys ∧ Chain memory (memory head) ys := by
  cases xs with
  | nil => exact absurd h hne
  | cons y ys =>
    obtain ⟨rfl, _, hrest⟩ := h
    exact ⟨ys, rfl, hrest⟩

/-- An element that is not on the list is put in front of it by writing its word. -/
lemma push (hx : x ∉ xs) (hne : x ≠ 0) : Chain (Function.update memory x head) x (x :: xs) := by
  refine ⟨rfl, hne, ?_⟩
  rw [Function.update_self]
  exact h.update hx head

/-- A head and a memory spell out one list at most. -/
lemma unique (h' : Chain memory head ys) : xs = ys := by
  induction xs generalizing head ys with
  | nil =>
    obtain rfl : head = 0 := h
    exact h'.eq_nil_of_zero.symm
  | cons x xs ih =>
    obtain ⟨rfl, hne, hrest⟩ := h
    obtain ⟨zs, rfl, hzs⟩ := h'.exists_cons hne
    rw [ih hrest hzs]

end Chain

end Akarin.Lib
