/-
# Akarin.Lib.FreeRuns -- runs of `true` in a Boolean list

A row of cells is a `List Bool`, `true` meaning "free". Three numbers summarise a row: the
length of its leading run, of its trailing run and of its longest run. The point of the module is
that the three are a homomorphism for concatenation (`leading_append`, `trailing_append`,
`longest_append`), which is what lets a tree of partial summaries answer for the whole row.

`fits` is the declarative reading: the places where a number of consecutive cells is free. The last
section finds the first of them from the summaries of two halves.
-/
import Mathlib.Data.Set.Card

namespace Akarin.Lib.FreeRuns

open List

/-! ## Leading, trailing and longest run -/

/-- The number of free cells at the front of the row. -/
def leading : List Bool → Nat
  | [] => 0
  | false :: _ => 0
  | true :: xs => leading xs + 1

/-- The number of free cells at the back of the row. -/
def trailing (xs : List Bool) : Nat := leading xs.reverse

/-- The length of the longest block of consecutive free cells. -/
def longest : List Bool → Nat
  | [] => 0
  | x :: xs => max (leading (x :: xs)) (longest xs)

variable (n : Nat) (xs ys : List Bool)

lemma leading_le_length : leading xs ≤ xs.length := by
  induction xs with
  | nil => simp [leading]
  | cons x xs ih => cases x <;> simp [leading, ih]

lemma longest_le_length : longest xs ≤ xs.length := by
  induction xs with
  | nil => simp [longest]
  | cons x xs ih =>
    have hlead := leading_le_length (x :: xs)
    simp only [longest, length_cons] at *
    omega

lemma leading_eq_length_iff : leading xs = xs.length ↔ ∀ x ∈ xs, x = true := by
  induction xs with
  | nil => simp [leading]
  | cons x xs ih => cases x <;> simp [leading, ih]

lemma leading_le_longest : leading xs ≤ longest xs := by
  cases xs with
  | nil => simp [leading]
  | cons x xs => exact le_max_left _ _

/-- The longest run fills the row exactly when every cell is free. -/
lemma longest_eq_length_iff : longest xs = xs.length ↔ ∀ x ∈ xs, x = true := by
  constructor
  · intro h
    cases xs with
    | nil => simp
    | cons x xs =>
      -- the tail alone is one cell too short, so the maximum is the leading run
      have htail := longest_le_length xs
      have hlead : leading (x :: xs) = (x :: xs).length := by
        simp only [longest, length_cons] at h ⊢
        have := leading_le_length (x :: xs)
        simp only [length_cons] at this
        omega
      exact (leading_eq_length_iff _).1 hlead
  · intro h
    have hlead := (leading_eq_length_iff xs).2 h
    have h1 := leading_le_longest xs
    have h2 := longest_le_length xs
    omega

/-! ## Uniform rows -/

lemma leading_replicate_true : leading (replicate n true) = n := by
  have h := (leading_eq_length_iff (replicate n true)).2 (fun x hx => eq_of_mem_replicate hx)
  simpa using h

lemma leading_replicate_false : leading (replicate n false) = 0 := by
  cases n <;> simp [replicate, leading]

lemma trailing_replicate (b : Bool) : trailing (replicate n b) = leading (replicate n b) := by
  simp [trailing]

lemma longest_replicate_true : longest (replicate n true) = n := by
  have h := (longest_eq_length_iff (replicate n true)).2 (fun x hx => eq_of_mem_replicate hx)
  simpa using h

lemma longest_replicate_false : longest (replicate n false) = 0 := by
  induction n with
  | zero => simp [longest]
  | succ n ih => simp [replicate_succ, longest, leading, ih]

/-! ## Concatenation -/

lemma leading_append :
    leading (xs ++ ys) = if leading xs = xs.length then xs.length + leading ys else leading xs := by
  induction xs with
  | nil => simp [leading]
  | cons x xs ih =>
    cases x with
    | false => simp [leading]
    | true =>
      simp only [cons_append, leading, ih, length_cons, Nat.add_right_cancel_iff]
      split <;> omega

lemma trailing_append : trailing (xs ++ ys) =
      if trailing ys = ys.length then ys.length + trailing xs else trailing ys := by
  have h := leading_append ys.reverse xs.reverse
  rw [← reverse_append, length_reverse] at h
  exact h

lemma trailing_cons (x : Bool) (xs : List Bool) : trailing (x :: xs) =
      if trailing xs = xs.length then xs.length + (if x then 1 else 0) else trailing xs := by
  have h := trailing_append [x] xs
  cases x <;> simpa [trailing, leading] using h

lemma trailing_eq_length_iff : trailing xs = xs.length ↔ ∀ x ∈ xs, x = true := by
  have h := leading_eq_length_iff xs.reverse
  simpa [trailing] using h

/-- A longest run of a concatenation lies in one half or straddles the seam. -/
lemma longest_append :
    longest (xs ++ ys) = max (max (longest xs) (longest ys)) (trailing xs + leading ys) := by
  induction xs with
  | nil =>
    have := leading_le_longest ys
    simp [longest, trailing, leading]
    omega
  | cons x xs ih =>
    have hfull : trailing xs = xs.length ↔ leading xs = xs.length := by
      rw [trailing_eq_length_iff, leading_eq_length_iff]
    have hle := leading_le_length xs
    have hlon := leading_le_longest xs
    simp only [cons_append, longest, ih, trailing_cons]
    cases x with
    | false =>
      simp only [leading]
      split <;> simp_all
    | true =>
      simp only [leading, leading_append]
      by_cases h : leading xs = xs.length
      · simp only [h, hfull.2 h, if_true]
        omega
      · have h' : trailing xs ≠ xs.length := fun hc => h (hfull.1 hc)
        simp only [h, h', if_false]
        omega

/-! ## The declarative reading -/

lemma le_leading_iff {xs : List Bool} {k : Nat} : k ≤ leading xs ↔ ∀ i < k, xs[i]? = some true := by
  induction xs generalizing k with
  | nil => exact ⟨fun h i hi => absurd (lt_of_lt_of_le hi h) (Nat.not_lt_zero i),
      fun h => Nat.le_of_not_lt fun hk => by simpa using h 0 hk⟩
  | cons x xs ih =>
    cases k with
    | zero => simp
    | succ k =>
      rw [Nat.forall_lt_succ_left]
      cases x <;> simp [leading, ih]

lemma le_longest {xs : List Bool} {k : Nat} (start : Nat)
    (h : ∀ i < k, xs[start + i]? = some true) : k ≤ longest xs := by
  induction xs generalizing start with
  | nil => exact Nat.le_of_not_lt fun hk => by simpa using h 0 (Nat.zero_lt_of_lt hk)
  | cons x xs ih =>
    cases start with
    | zero => exact (le_leading_iff.2 (by simpa using h)).trans (le_max_left _ _)
    | succ start =>
      refine (ih start fun i hi => ?_).trans (le_max_right _ _)
      simpa [Nat.add_right_comm] using h i hi

/-! ## First fit -/

/-- The first cells of the runs of `n` free cells between `start` and `stop`. -/
def fits (free : Nat → Bool) (start stop n : Nat) : Set Nat :=
  {p | start ≤ p ∧ p + n ≤ stop ∧ ∀ q, p ≤ q → q < p + n → free q = true}

/-- The answer is the least member of the set, or there is none. -/
def FirstOf (S : Set Nat) : Option Nat → Prop
  | none => S = ∅
  | some p => IsLeast S p

section Halves

variable {free : Nat → Bool} {start mid stop n : Nat}

/-- The first fit in the left half is the first fit. -/
lemma isLeast_fits_left {p : Nat} (hle : mid ≤ stop) (h : IsLeast (fits free start mid n) p) :
    IsLeast (fits free start stop n) p := by
  obtain ⟨⟨hlo, hhi, hfree⟩, hleast⟩ := h
  refine ⟨⟨hlo, by omega, hfree⟩, fun q hq => ?_⟩
  by_contra hlt
  exact hlt (hleast ⟨hq.1, by omega, hq.2.2⟩)

variable {before after : Nat} (hempty : fits free start mid n = ∅)
  (hbefore : ∀ k, k ≤ before ↔ k ≤ mid - start ∧ ∀ q, mid - k ≤ q → q < mid → free q = true)
  (hafter : ∀ k, k ≤ after ↔ k ≤ stop - mid ∧ ∀ q, mid ≤ q → q < mid + k → free q = true)
include hempty hbefore

/-- A fit that starts in the left half runs over its end, from within its trailing run. -/
lemma mid_sub_le_of_fits {p : Nat} (h : p ∈ fits free start stop n) (hp : p < mid) :
    mid < p + n ∧ mid - p ≤ before := by
  obtain ⟨hlo, hhi, hfree⟩ := h
  have hover : mid < p + n := by
    by_contra hin
    have hmem : p ∈ fits free start mid n := ⟨hlo, by omega, hfree⟩
    rw [hempty] at hmem
    exact hmem
  exact ⟨hover, (hbefore _).2 ⟨by omega, fun q hq hlt => hfree q (by omega) (by omega)⟩⟩

include hafter

/-- Without a fit in the left half, the run over the middle is the first fit if it is long enough. -/
lemma isLeast_fits_mid (hmid : start ≤ mid) (hstop : mid ≤ stop) (hn : n ≤ before + after) :
    IsLeast (fits free start stop n) (mid - before) := by
  obtain ⟨hlen, hfree⟩ := (hbefore before).1 le_rfl
  obtain ⟨hlen', hfree'⟩ := (hafter after).1 le_rfl
  refine ⟨⟨by omega, by omega, fun q hlo hhi => ?_⟩, fun p hp => ?_⟩
  · rcases lt_or_ge q mid with hq | hq
    · exact hfree q hlo hq
    · exact hfree' q hq (by omega)
  · by_contra hlt
    have := mid_sub_le_of_fits hempty hbefore hp (by omega)
    omega

/-- Without a fit in the left half or over the middle, the fits are those of the right half. -/
lemma fits_right (hmid : start ≤ mid) (hn : before + after < n) :
    fits free start stop n = fits free mid stop n := by
  ext p
  refine ⟨fun hp => ⟨?_, hp.2⟩, fun hp => ⟨hmid.trans hp.1, hp.2⟩⟩
  by_contra hlt
  obtain ⟨hover, hle⟩ := mid_sub_le_of_fits hempty hbefore hp (by omega)
  have hright : p + n - mid ≤ after := by
    refine (hafter _).2 ⟨?_, fun q hq hlt => hp.2.2 q (by omega) (by omega)⟩
    have := hp.2.1
    omega
  omega

end Halves

end Akarin.Lib.FreeRuns
