/-
# Akarin.Memory.VmoIndex -- the coordinate index over a VMO's extents

`VmoRangeIndex` compresses the end points of a list of extents into a strictly increasing row of
coordinates and records one owner per gap between neighbours; `owner_at` finds the gap by binary
search. It is a cache: its only specification is the list it was rebuilt from.

`ownerAt_rebuild` is that specification. It makes no assumption on the extents beyond
`start ≤ end`; where several of them contain an offset, the last one in the list owns it.
-/
import Mathlib.Data.Set.Card

namespace Akarin.Memory

open List Option

/-- One row of the slice passed to `rebuild`: `(owner, start, end)`. -/
abbrev Snapshot := Nat × Nat × Nat

/-- The owner of each span between coordinates. -/
structure VmoRangeIndex where
  coords : List Nat
  owners : List (Option Nat)

namespace VmoRangeIndex

def empty : VmoRangeIndex := ⟨[], []⟩

section

variable (coords : List Nat) (value : Nat)

/-- How many coordinates lie below `value`. -/
def rank : Nat := (coords.takeWhile (· < value)).length

/-- `slice::binary_search` on a strictly increasing slice: the position of `value`, or the
position at which it would be inserted. -/
def binarySearch : Except Nat Nat :=
  if coords[rank coords value]? = some value then .ok (rank coords value)
  else .error (rank coords value)

def coordIndex : Option Nat :=
  match binarySearch coords value with
  | .ok i => some i
  | .error _ => none

end

/-- The body of the second loop of `rebuild`: hand the leaves of one extent to its owner. -/
def paintOwner (coords : List Nat) (owners : List (Option Nat)) (extent : Snapshot) : List (Option Nat) :=
  match coordIndex coords extent.2.1, coordIndex coords extent.2.2 with
  | some first, some last =>
    owners.mapIdx fun leaf owner => if first ≤ leaf ∧ leaf < last then some extent.1 else owner
  | _, _ => owners

/-- `sort_unstable` and `dedup` over all end points. -/
def coordsOf (extents : List Snapshot) : List Nat :=
  ((extents.flatMap fun extent => [extent.2.1, extent.2.2]).insertionSort (· ≤ ·)).dedup

def rebuild (extents : List Snapshot) : VmoRangeIndex :=
  let coords := coordsOf extents
  if coords.length < 2 then ⟨coords, []⟩
  else ⟨coords, extents.foldl (paintOwner coords) (List.replicate (coords.length - 1) none)⟩

/-- The `match` on the search result in `owner_at`. -/
def leafOf (coords : List Nat) (offset : Nat) : Option Nat :=
  match binarySearch coords offset with
  | .ok i => if i + 1 < coords.length then some i else none
  | .error 0 => none
  | .error (i + 1) => if coords.length ≤ i + 1 then none else some i

def ownerAt (index : VmoRangeIndex) (offset : Nat) : Option Nat :=
  if index.coords.length < 2 then none
  else
    match leafOf index.coords offset with
    | none => none
    | some leaf =>
      match index.coords[leaf]?, index.coords[leaf + 1]? with
      | some lo, some hi => if lo ≤ offset ∧ offset < hi then index.owners[leaf]?.join else none
      | _, _ => none

/-! ## Binary search on strictly increasing coordinates -/

section Search

variable {coords : List Nat}

variable {i value c offset j leaf : Nat}

lemma lt_rank_iff (hs : coords.Pairwise (· < ·)) (hc : coords[i]? = some c) :
    i < rank coords value ↔ c < value := by
  unfold rank
  induction coords generalizing i with
  | nil => simp at hc
  | cons x xs ih =>
    rw [pairwise_cons] at hs
    have hxc : x ≤ c := by
      cases i with
      | zero => exact le_of_eq (by simpa using hc)
      | succ i => exact le_of_lt (hs.1 c (mem_of_getElem? (by simpa using hc)))
    by_cases hx : x < value
    · cases i with
      | zero =>
        have hcx : x = c := by simpa using hc
        subst hcx
        simp [hx]
      | succ i =>
        have hi : xs[i]? = some c := by simpa using hc
        simpa [takeWhile_cons, hx] using ih hs.2 hi
    · have hcv : ¬ c < value := by omega
      simp [hx, hcv]

/-- Positions and values of a strictly increasing list are ordered alike. -/
lemma getElem?_lt_iff (hs : coords.Pairwise (· < ·)) {d : Nat} (hc : coords[i]? = some c)
    (hd : coords[j]? = some d) : i < j ↔ c < d := by
  obtain ⟨hil, rfl⟩ := List.getElem?_eq_some_iff.1 hc
  obtain ⟨hjl, rfl⟩ := List.getElem?_eq_some_iff.1 hd
  rw [pairwise_iff_getElem] at hs
  constructor
  · exact hs i j hil hjl
  · intro hlt
    rcases lt_trichotomy i j with h | h | h
    · exact h
    · subst h
      omega
    · have := hs j i hjl hil h
      omega

lemma exists_getElem? (hc : coords[j]? = some c) (hij : i ≤ j) : ∃ d, coords[i]? = some d := by
  have hj := (List.getElem?_eq_some_iff.1 hc).1
  exact ⟨_, getElem?_eq_getElem (show i < coords.length by omega)⟩

section

variable (hs : coords.Pairwise (· < ·))
include hs

lemma rank_eq_of_getElem? (hi : coords[i]? = some value) : rank coords value = i := by
  have hge : ¬ i < rank coords value := by rw [lt_rank_iff hs hi]; omega
  rcases lt_or_eq_of_le (Nat.le_of_not_lt hge) with hlt | heq
  · -- the coordinate at the rank is below `value`, so the rank would be larger
    obtain ⟨d, hd⟩ := exists_getElem? hi (le_of_lt hlt)
    have hdv : d < value := (getElem?_lt_iff hs hd hi).1 hlt
    have := (lt_rank_iff hs hd).2 hdv
    omega
  · exact heq

lemma coordIndex_of_mem (hv : value ∈ coords) :
    ∃ i, coordIndex coords value = some i ∧ coords[i]? = some value := by
  obtain ⟨i, hi⟩ := getElem?_of_mem hv
  refine ⟨i, ?_, hi⟩
  simp only [coordIndex, binarySearch, rank_eq_of_getElem? hs hi, hi, if_true]

/-- The offset lies in the gap between coordinate `leaf` and the next one. -/
def InLeaf (coords : List Nat) (leaf offset : Nat) : Prop :=
  ∃ lo hi, coords[leaf]? = some lo ∧ coords[leaf + 1]? = some hi ∧ lo ≤ offset ∧ offset < hi

lemma leafOf_of_inLeaf (h : InLeaf coords leaf offset) : leafOf coords offset = some leaf := by
  obtain ⟨lo, hi, hlo, hhi, hle, hlt⟩ := h
  have hnext : leaf + 1 < coords.length := (List.getElem?_eq_some_iff.1 hhi).1
  have hr : ¬ leaf + 1 < rank coords offset := by rw [lt_rank_iff hs hhi]; omega
  rcases lt_or_eq_of_le hle with hlt' | heq
  · -- strictly inside the gap: the search fails just above `leaf`
    have hrank : rank coords offset = leaf + 1 := by
      have := (lt_rank_iff hs hlo).2 hlt'
      omega
    have hne : ¬ coords[leaf + 1]? = some offset := by
      rw [hhi]
      intro hc
      injection hc
      omega
    simp only [leafOf, binarySearch, hrank, if_neg hne]
    rw [if_neg (by omega)]
  · subst heq
    simp only [leafOf, binarySearch, rank_eq_of_getElem? hs hlo, hlo, if_true, if_pos hnext]

lemma inLeaf_of_leafOf (h : leafOf coords offset = some leaf) : InLeaf coords leaf offset := by
  unfold leafOf binarySearch at h
  by_cases hfound : coords[rank coords offset]? = some offset
  · simp only [if_pos hfound] at h
    split at h
    · rename_i hnext
      cases h
      have hhi := getElem?_eq_getElem hnext
      refine ⟨offset, _, hfound, hhi, le_rfl, ?_⟩
      exact (getElem?_lt_iff hs hfound hhi).1 (Nat.lt_succ_self _)
    · cases h
  · simp only [if_neg hfound] at h
    split at h
    · rename_i hok
      cases hok
    · cases h
    · rename_i i hi
      split at h
      · cases h
      · rename_i hlen
        cases h
        injection hi with hi
        have hhi := getElem?_eq_getElem (show leaf + 1 < coords.length by omega)
        obtain ⟨lo, hlo⟩ := exists_getElem? hhi (Nat.le_succ leaf)
        have hbelow : lo < offset := (lt_rank_iff hs hlo).1 (by omega)
        have habove : leaf + 1 < rank coords offset ↔ coords[leaf + 1] < offset :=
          lt_rank_iff hs hhi
        have hne : coords[leaf + 1] ≠ offset := by
          intro heq
          rw [hi, hhi, heq] at hfound
          exact hfound rfl
        exact ⟨lo, _, hlo, hhi, le_of_lt hbelow, by omega⟩

/-- Between two coordinates with the offset in between there is a gap that holds it. -/
lemma exists_inLeaf {first last : Nat}
    (hfirst : first ∈ coords) (hlast : last ∈ coords) (hle : first ≤ offset)
    (hlt : offset < last) : ∃ leaf, InLeaf coords leaf offset := by
  obtain ⟨i, hi⟩ := getElem?_of_mem hfirst
  obtain ⟨j, hj⟩ := getElem?_of_mem hlast
  have hr : ¬ j < rank coords offset := by rw [lt_rank_iff hs hj]; omega
  by_cases hfound : coords[rank coords offset]? = some offset
  · have hne : rank coords offset ≠ j := by
      intro heq
      rw [heq, hj] at hfound
      injection hfound
      omega
    obtain ⟨d, hd⟩ := exists_getElem? hj (show rank coords offset + 1 ≤ j by omega)
    exact ⟨_, offset, d, hfound, hd, le_rfl, (getElem?_lt_iff hs hfound hd).1 (Nat.lt_succ_self _)⟩
  · have hfo : first < offset := by
      rcases lt_or_eq_of_le hle with h | h
      · exact h
      · subst h
        exact absurd (rank_eq_of_getElem? hs hi ▸ hi) hfound
    have hpos : i < rank coords offset := (lt_rank_iff hs hi).2 hfo
    obtain ⟨k, hk⟩ : ∃ k, rank coords offset = k + 1 := ⟨rank coords offset - 1, by omega⟩
    obtain ⟨d, hd⟩ := exists_getElem? hj (show k + 1 ≤ j by omega)
    obtain ⟨c, hc⟩ := exists_getElem? hd (Nat.le_succ k)
    have hcl : c < offset := (lt_rank_iff hs hc).1 (by omega)
    have hdl : k + 1 < rank coords offset ↔ d < offset := lt_rank_iff hs hd
    have hne : d ≠ offset := by
      intro heq
      rw [hk, hd, heq] at hfound
      exact hfound rfl
    exact ⟨k, c, d, hc, hd, le_of_lt hcl, by omega⟩

end

end Search

/-! ## Rebuilding -/

/-- The owner the extents themselves assign to an offset: the last one that contains it. -/
def lastOwner (extents : List Snapshot) (offset : Nat) : Option Nat :=
  extents.foldl
    (fun acc extent => if extent.2.1 ≤ offset ∧ offset < extent.2.2 then some extent.1 else acc)
    none

lemma coordsOf_pairwise (extents : List Snapshot) : (coordsOf extents).Pairwise (· < ·) := by
  have hsorted := (pairwise_insertionSort (· ≤ ·)
    (extents.flatMap fun extent => [extent.2.1, extent.2.2])).sublist (dedup_sublist _)
  have hnodup := nodup_dedup
    ((extents.flatMap fun extent => [extent.2.1, extent.2.2]).insertionSort (· ≤ ·))
  exact (hsorted.and hnodup).imp fun h => lt_of_le_of_ne h.1 h.2

variable {offset leaf : Nat} {extents : List Snapshot} {owners : List (Option Nat)}

lemma mem_coordsOf {c : Nat} :
    c ∈ coordsOf extents ↔ ∃ extent ∈ extents, c = extent.2.1 ∨ c = extent.2.2 := by
  simp [coordsOf, mem_insertionSort]

variable {coords : List Nat} {owner : Option Nat}

/-- Painting one extent changes exactly the leaves whose offsets it contains. -/
lemma paintOwner_getElem? (hs : coords.Pairwise (· < ·)) {extent : Snapshot}
    (hstart : extent.2.1 ∈ coords) (hend : extent.2.2 ∈ coords) (hleaf : InLeaf coords leaf offset)
    (howner : owners[leaf]? = some owner) : (paintOwner coords owners extent)[leaf]? =
      some (if extent.2.1 ≤ offset ∧ offset < extent.2.2 then some extent.1 else owner) := by
  obtain ⟨lo, hi, hlo, hhi, hle, hlt⟩ := hleaf
  obtain ⟨first, hfirst, hfirst'⟩ := coordIndex_of_mem hs hstart
  obtain ⟨last, hlast, hlast'⟩ := coordIndex_of_mem hs hend
  have h1 := getElem?_lt_iff hs hlo hfirst'
  have h2 := getElem?_lt_iff hs hfirst' hhi
  have h3 := getElem?_lt_iff hs hlo hlast'
  have h4 := getElem?_lt_iff hs hlast' hhi
  have hiff : (first ≤ leaf ∧ leaf < last) ↔ (extent.2.1 ≤ offset ∧ offset < extent.2.2) := by
    omega
  simp only [paintOwner, hfirst, hlast, getElem?_mapIdx, howner, map_some, hiff]

/-- The fold over the extents computes `lastOwner` leaf by leaf. -/
lemma foldl_paintOwner_getElem? (hs : coords.Pairwise (· < ·)) (hleaf : InLeaf coords leaf offset)
    (extents : List Snapshot) (hmem : ∀ extent ∈ extents, extent.2.1 ∈ coords ∧ extent.2.2 ∈ coords)
    (howner : owners[leaf]? = some owner) :
    (extents.foldl (paintOwner coords) owners)[leaf]? = some (extents.foldl
      (fun acc extent => if extent.2.1 ≤ offset ∧ offset < extent.2.2 then some extent.1 else acc)
      owner) := by
  induction extents generalizing owners owner with
  | nil => simpa using howner
  | cons extent extents ih =>
    have hext := hmem extent (by simp)
    simp only [foldl_cons]
    exact ih (fun e he => hmem e (by simp [he])) (paintOwner_getElem? hs hext.1 hext.2 hleaf howner)

lemma lastOwner_eq_none (h : ∀ extent ∈ extents, ¬ (extent.2.1 ≤ offset ∧ offset < extent.2.2)) :
    lastOwner extents offset = none := by
  unfold lastOwner
  suffices hfold : ∀ acc, extents.foldl (fun acc extent =>
      if extent.2.1 ≤ offset ∧ offset < extent.2.2 then some extent.1 else acc) acc = acc from
    hfold none
  induction extents with
  | nil => intro acc; rfl
  | cons extent extents ih =>
    intro acc
    rw [foldl_cons, if_neg (h extent (by simp))]
    exact ih (fun e he => h e (by simp [he])) acc

/-- A rebuilt index answers exactly what the extents say. -/
lemma ownerAt_rebuild (extents : List Snapshot) (offset : Nat) :
    (rebuild extents).ownerAt offset = lastOwner extents offset := by
  have hs := coordsOf_pairwise extents
  by_cases hleaf : ∃ leaf, InLeaf (coordsOf extents) leaf offset
  · obtain ⟨leaf, hleaf⟩ := hleaf
    have hfind := leafOf_of_inLeaf hs hleaf
    obtain ⟨lo, hi, hlo, hhi, hle, hlt⟩ := id hleaf
    have hlen : leaf + 1 < (coordsOf extents).length := (List.getElem?_eq_some_iff.1 hhi).1
    have hshort : ¬ (coordsOf extents).length < 2 := by omega
    have hblank : (replicate ((coordsOf extents).length - 1) (none : Option Nat))[leaf]?
        = some none := by
      rw [getElem?_replicate, if_pos (by omega)]
    have hpaint := foldl_paintOwner_getElem? hs hleaf extents
      (fun e he => ⟨mem_coordsOf.2 ⟨e, he, .inl rfl⟩, mem_coordsOf.2 ⟨e, he, .inr rfl⟩⟩) hblank
    simp only [ownerAt, rebuild, if_neg hshort, hfind, hlo, hhi, hpaint, lastOwner,
      if_pos (And.intro hle hlt), join_some]
  · -- no gap holds the offset, so no extent contains it
    have hnone : lastOwner extents offset = none := by
      refine lastOwner_eq_none fun extent hmem hin => hleaf ?_
      exact exists_inLeaf hs (mem_coordsOf.2 ⟨extent, hmem, .inl rfl⟩)
        (mem_coordsOf.2 ⟨extent, hmem, .inr rfl⟩) hin.1 hin.2
    have hfind : leafOf (coordsOf extents) offset = none := by
      rw [eq_none_iff_forall_not_mem]
      intro leaf hmem
      exact hleaf ⟨leaf, inLeaf_of_leafOf hs hmem⟩
    rw [hnone]
    have hcoords : (rebuild extents).coords = coordsOf extents := by
      simp only [rebuild]
      split <;> rfl
    simp only [ownerAt, hcoords, hfind, ite_self]

end VmoRangeIndex

end Akarin.Memory
