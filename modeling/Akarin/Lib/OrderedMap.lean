/-
# Akarin.Lib.OrderedMap -- lookups in an ordered map, and the predecessor query

The point lookups of `Std.TreeMap` in terms of equality of keys. The query
`range(..=key).next_back()`, the entry with the greatest key not above a bound, is defined on the
sorted entry list, together with its specification `floorEntry?_eq_some`.
-/
import Mathlib.Data.Set.Card

namespace Akarin.Lib

open List
open Std (TreeMap)

universe u v

section Lookup

variable {α : Type u} {β : Type v} [Ord α] [Std.TransOrd α] [Std.LawfulEqOrd α] {map : TreeMap α β} {k a : α}
  {v : β}

lemma mem_toList_iff : (k, v) ∈ map.toList ↔ map[k]? = some v :=
  TreeMap.mem_toList_iff_getElem?_eq_some

variable [DecidableEq α]

lemma getElem?_insert : (map.insert k v)[a]? = if k = a then some v else map[a]? := by
  rw [TreeMap.getElem?_insert]
  simp

lemma getElem?_erase : (map.erase k)[a]? = if k = a then none else map[a]? := by
  rw [TreeMap.getElem?_erase]
  simp

/-- What is found after an insertion is what was inserted, or was there before. -/
lemma getElem?_insert_cases {w : β} (h : (map.insert k v)[a]? = some w) :
    k = a ∧ v = w ∨ k ≠ a ∧ map[a]? = some w := by
  rw [getElem?_insert] at h
  split at h
  · exact .inl ⟨‹_›, Option.some.inj h⟩
  · exact .inr ⟨‹_›, h⟩

lemma getElem?_erase_some (h : (map.erase k)[a]? = some v) : k ≠ a ∧ map[a]? = some v := by
  rw [getElem?_erase] at h
  split at h
  · cases h
  · exact ⟨‹_›, h⟩

lemma getElem?_insertIfNew (h : map[k]? = none) :
    (map.insertIfNew k v)[a]? = if k = a then some v else map[a]? := by
  have hnot : k ∉ map := by
    rw [TreeMap.mem_iff_isSome_getElem?, h]
    simp
  rw [TreeMap.getElem?_insertIfNew]
  simp [hnot]

end Lookup

variable {β : Type u}

/-- The entry with the greatest key not above `key`. -/
def floorEntry? (map : TreeMap Nat β) (key : Nat) : Option (Nat × β) :=
  (map.toList.filter (·.1 ≤ key)).getLast?

/-- The last element of an increasing list is above every element. -/
lemma le_of_getLast? {xs : List (Nat × β)} (hs : xs.Pairwise fun a b => a.1 < b.1)
    {x y : Nat × β} (hx : xs.getLast? = some x) (hy : y ∈ xs) : y.1 ≤ x.1 := by
  obtain ⟨ys, rfl⟩ := getLast?_eq_some_iff.1 hx
  rw [pairwise_append] at hs
  rcases mem_append.1 hy with hy | hy
  · exact Nat.le_of_lt (hs.2.2 y hy x (by simp))
  · exact Nat.le_of_eq (congrArg Prod.fst (mem_singleton.1 hy))

variable {map : TreeMap Nat β} {key k : Nat} {v : β}

lemma floorEntry?_eq_none (h : floorEntry? map key = none) (hk : map[k]? = some v) : key < k := by
  by_contra hle
  have hin : (k, v) ∈ map.toList.filter (·.1 ≤ key) :=
    mem_filter.2 ⟨mem_toList_iff.2 hk, by simpa using hle⟩
  rw [getLast?_eq_none_iff.1 h] at hin
  cases hin

lemma floorEntry?_eq_some (h : floorEntry? map key = some (k, v)) :
    map[k]? = some v ∧ k ≤ key ∧ ∀ k' v', map[k']? = some v' → k' ≤ key → k' ≤ k := by
  have hmem := mem_filter.1 (mem_of_getLast? h)
  refine ⟨mem_toList_iff.1 hmem.1, by simpa using hmem.2, ?_⟩
  intro k' v' hk' hle
  have hs : map.toList.Pairwise fun a b => a.1 < b.1 := by
    have hord := TreeMap.ordered_keys_toList (t := map)
    refine hord.imp ?_
    intro a b hab
    exact Nat.compare_eq_lt.1 hab
  have hin : (k', v') ∈ map.toList.filter (·.1 ≤ key) :=
    mem_filter.2 ⟨mem_toList_iff.2 hk', by simpa using hle⟩
  exact le_of_getLast? (hs.filter _) h hin

end Akarin.Lib
