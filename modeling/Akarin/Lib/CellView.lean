/-
# Akarin.Lib.CellView -- an array scattered over a memory

A partial map `cell` places the offsets of a linear array at addresses of a memory. `Shows` says
that the memory holds a given array at the placed offsets, `Stored` what a write of consecutive
values through the placement does, and `Stored.shows` that such a write is an overwrite of the
array, provided no two offsets share an address.
-/
import Mathlib.Data.Set.Card

namespace Akarin.Lib

variable {Addr Value : Type} {cell : Nat → Option Addr} {mem mem' : Addr → Value}
  {view : Nat → Value}

/-- No two offsets share an address. -/
def CellInjective (cell : Nat → Option Addr) : Prop :=
  ∀ (o o' : Nat) (a : Addr), cell o = some a → cell o' = some a → o = o'

/-- At every placed offset the memory holds the array's value. -/
def Shows (cell : Nat → Option Addr) (mem : Addr → Value) (view : Nat → Value) : Prop :=
  ∀ o a, cell o = some a → mem a = view o

/-- The array with consecutive values replaced. -/
def overwrite (view : Nat → Value) (start : Nat) (values : List Value) : Nat → Value := fun o =>
  if start ≤ o then (values[o - start]?).getD (view o) else view o

/-- The memory after a write of consecutive values through the placement. -/
structure Stored (cell : Nat → Option Addr) (start : Nat) (values : List Value)
    (mem mem' : Addr → Value) : Prop where
  written : ∀ i v a, values[i]? = some v → cell (start + i) = some a → mem' a = v
  others : ∀ a, (∀ i < values.length, cell (start + i) ≠ some a) → mem' a = mem a

lemma Shows.of_agree (h : Shows cell mem view)
    (hagree : ∀ o a, cell o = some a → mem' a = mem a) : Shows cell mem' view := by
  intro o a ho
  rw [hagree o a ho]
  exact h o a ho

lemma Stored.nil (cell : Nat → Option Addr) (start : Nat) (mem : Addr → Value) :
    Stored cell start [] mem mem :=
  ⟨fun _ _ _ h => (nomatch h), fun _ _ => rfl⟩

/-- Writes of adjacent runs compose. -/
lemma Stored.append {mem'' : Addr → Value} {start n : Nat} {one two : List Value}
    (hinj : CellInjective cell) (hlen : one.length = n) (h₁ : Stored cell start one mem mem')
    (h₂ : Stored cell (start + n) two mem' mem'') : Stored cell start (one ++ two) mem mem'' := by
  subst hlen
  constructor
  · intro i v a hv ha
    by_cases hi : i < one.length
    · -- the second write stays away from the first run's cells
      rw [List.getElem?_append_left hi] at hv
      rw [h₂.others a, h₁.written i v a hv ha]
      intro j _ hj
      have := hinj _ _ a ha hj
      omega
    · rw [List.getElem?_append_right (by omega)] at hv
      refine h₂.written (i - one.length) v a hv ?_
      rw [← ha]
      congr 1
      omega
  · intro a hout
    rw [List.length_append] at hout
    rw [h₂.others a fun i hi => ?_, h₁.others a fun i hi => hout i (by omega)]
    have := hout (one.length + i) (by omega)
    rwa [← Nat.add_assoc] at this

/-- Seen through an injective placement, a write is an overwrite. -/
lemma Stored.shows {start : Nat} {values : List Value} (hinj : CellInjective cell)
    (hstored : Stored cell start values mem mem') (h : Shows cell mem view) :
    Shows cell mem' (overwrite view start values) := by
  intro o a ho
  unfold overwrite
  split
  · rename_i hle
    obtain ⟨i, rfl⟩ := Nat.exists_eq_add_of_le hle
    rw [Nat.add_sub_cancel_left]
    cases hv : values[i]? with
    | some v => exact hstored.written i v a hv ho
    | none =>
      have hlen := List.getElem?_eq_none_iff.1 hv
      rw [Option.getD_none, ← h _ a ho]
      refine hstored.others a fun j hj hcell => ?_
      have := hinj _ _ a ho hcell
      omega
  · rename_i hlt
    rw [← h o a ho]
    refine hstored.others a fun j _ hcell => ?_
    have := hinj _ _ a ho hcell
    omega

end Akarin.Lib
