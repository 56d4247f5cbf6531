/-
# Akarin.Lib.Table -- a map as a list of its entries

The order of the entries does not matter, so that one operation inserts and updates. As long as the keys
differ, what is counted over the entries changes with the entry that is put or removed.
-/
import Mathlib.Data.Set.Card

namespace Akarin.Lib

open List

variable {β : Type}

/-- Insert or replace. -/
def put (table : List (Nat × β)) (key : Nat) (value : β) : List (Nat × β) :=
  (key, value) :: table.filter (·.1 ≠ key)

def remove (table : List (Nat × β)) (key : Nat) : List (Nat × β) := table.filter (·.1 ≠ key)

section Table

variable {table : List (Nat × β)} {key : Nat} {value : β} {p : Nat × β → Bool}

lemma mem_remove {x : Nat × β} : x ∈ remove table key ↔ x ∈ table ∧ x.1 ≠ key := by
  simp [remove]

lemma mem_put {x : Nat × β} : x ∈ put table key value ↔ x = (key, value) ∨ x ∈ table ∧ x.1 ≠ key := by
  simp [put]

lemma mem_of_lookup (h : table.lookup key = some value) : (key, value) ∈ table := by
  induction table with
  | nil => cases h
  | cons x table ih =>
    rw [lookup_cons] at h
    split at h
    · rename_i heq
      rw [beq_iff_eq] at heq
      cases h
      exact mem_cons.2 (.inl (by rw [heq]))
    · exact mem_cons_of_mem _ (ih h)

lemma keys_remove (table : List (Nat × β)) (key : Nat) :
    (remove table key).map Prod.fst = (table.map Prod.fst).filter (· ≠ key) := by
  rw [remove, filter_map]
  rfl

/-- The entry that is removed is the only one of its key. -/
lemma countP_remove (hnodup : (table.map Prod.fst).Nodup) (h : table.lookup key = some value) :
    (remove table key).countP p + (if p (key, value) then 1 else 0) = table.countP p := by
  have hmem := mem_of_lookup h
  have hsplit : table.Perm ((key, value) :: remove table key) := by
    refine (perm_ext_iff_of_nodup hnodup.of_map ?_).2 fun x => ?_
    · exact nodup_cons.2 ⟨fun hin => (mem_remove.1 hin).2 rfl, hnodup.of_map.filter _⟩
    · rw [mem_cons, mem_remove]
      refine ⟨fun hx => ?_, ?_⟩
      · by_cases hkey : x.1 = key
        · exact .inl (inj_on_of_nodup_map hnodup hx hmem hkey)
        · exact .inr ⟨hx, hkey⟩
      · rintro (rfl | ⟨hx, _⟩)
        · exact hmem
        · exact hx
  rw [hsplit.countP_eq, countP_cons]

/-- An entry is replaced by another. -/
lemma countP_put {old : β} (value : β) (hnodup : (table.map Prod.fst).Nodup) (h : table.lookup key = some old) :
    (put table key value).countP p + (if p (key, old) then 1 else 0) =
      table.countP p + (if p (key, value) then 1 else 0) := by
  have hcount := countP_remove (p := p) hnodup h
  rw [remove] at hcount
  rw [put, countP_cons]
  omega

/-- An entry is new. -/
lemma put_of_not_mem (h : key ∉ table.map Prod.fst) : put table key value = (key, value) :: table := by
  rw [put, filter_eq_self.2]
  intro x hx
  simp only [decide_eq_true_eq]
  rintro rfl
  exact h (mem_map_of_mem hx)

end Table

end Akarin.Lib
