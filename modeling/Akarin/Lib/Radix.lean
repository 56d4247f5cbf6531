/-
# Akarin.Lib.Radix -- radix trees of tables linked by addresses

A radix tree kept in memory is a set of tables of words, found one from the other: `next` tells which
words point to a further table, and a path of indices leads from the root to a table. Nothing in the
memory says that two paths lead to different tables; while they do (`Separate`), the words can be
spoken of by their paths (`wordAt`), and the two ways in which such a tree changes have a simple
meaning: overwriting a word that points nowhere (`wordAt_put`), and hanging a zeroed table into a
word (`Hangs.wordAt_link`).

`depth` bounds the paths that lead to tables. The words of the deepest tables are never followed,
whatever `next` makes of them.
-/
import Mathlib.Data.Set.Card

namespace Akarin.Lib

open List Option

/-- Tables of words, by address and index. -/
abbrev Tables (κ ι ω : Type) := κ → ι → ω

namespace Tables

variable {κ ι ω : Type} (next : ω → Option κ) (mem : Tables κ ι ω) (root : κ)

/-- The table a path leads to. -/
def tableAt (path : List ι) : Option κ := path.foldlM (fun table i => next (mem table i)) root

/-- The word an index selects in the table a path leads to. -/
def wordAt (path : List ι) (i : ι) : Option ω := (tableAt next mem root path).map (mem · i)

/-- No table is reached by two paths. -/
def Separate (depth : Nat) : Prop :=
  ∀ p q table, p.length ≤ depth → q.length ≤ depth → tableAt next mem root p = some table →
    tableAt next mem root q = some table → p = q

/-- Overwrite one word. -/
def put [DecidableEq κ] [DecidableEq ι] (table : κ) (i : ι) (w : ω) : Tables κ ι ω :=
  fun t j => if t = table ∧ j = i then w else mem t j

/-- Fill a table with one word. -/
def fill [DecidableEq κ] (table : κ) (w : ω) : Tables κ ι ω :=
  fun t j => if t = table then w else mem t j

variable {next mem root}
variable {p q : List ι} {i j : ι} {table fresh : κ} {w zero : ω} {depth : Nat}

@[simp] lemma tableAt_nil : tableAt next mem root [] = some root := rfl

lemma tableAt_concat (p : List ι) (i : ι) :
    tableAt next mem root (p ++ [i]) = (wordAt next mem root p i).bind next := by
  simp only [wordAt, tableAt, foldlM_append, foldlM_cons, foldlM_nil, bind_pure]
  cases foldlM (fun table i => next (mem table i)) root p <;> rfl

lemma wordAt_eq_some : wordAt next mem root p i = some w ↔
      ∃ table, tableAt next mem root p = some table ∧ mem table i = w := by
  simp [wordAt]

/-- What lies on the way to a table is a table. -/
lemma tableAt_of_prefix (h : p <+: q) (hq : tableAt next mem root q = some table) :
    ∃ t, tableAt next mem root p = some t := by
  obtain ⟨rest, rfl⟩ := h
  rw [tableAt, foldlM_append] at hq
  change (tableAt next mem root p >>= _) = _ at hq
  cases hp : tableAt next mem root p with
  | none =>
    rw [hp] at hq
    cases hq
  | some t => exact ⟨t, rfl⟩

/-- A root that points nowhere is the only table. -/
lemma tableAt_of_bare_root (hroot : ∀ i, next (mem root i) = none)
    (h : tableAt next mem root p = some table) : p = [] ∧ table = root := by
  cases p with
  | nil => exact ⟨rfl, (Option.some.inj h).symm⟩
  | cons i rest =>
    rw [tableAt, foldlM_cons, hroot] at h
    cases h

variable [DecidableEq κ] [DecidableEq ι]

/-! ## Overwriting a word -/

section

variable (hsep : Separate next mem root depth)
include hsep

section

variable (hp : tableAt next mem root p = some table)
include hp

/-- A word points to a table only for the paths that go through it. -/
lemma tableAt_put_of_not_prefix (hlen : p.length ≤ depth) (w : ω)
    (hq : q.length ≤ depth) (hout : ¬ p ++ [i] <+: q) :
    tableAt next (put mem table i w) root q = tableAt next mem root q := by
  induction q using reverseRecOn with
  | nil => rfl
  | append_singleton q j ih =>
    rw [length_append, length_singleton] at hq
    have hrest := ih (by omega) fun h => hout (h.trans (prefix_append q [j]))
    rw [tableAt_concat, tableAt_concat, wordAt, wordAt, hrest]
    cases htable : tableAt next mem root q with
    | none => rfl
    | some t =>
      have hword : put mem table i w t j = mem t j := by
        refine if_neg ?_
        rintro ⟨rfl, rfl⟩
        obtain rfl := hsep p q t hlen (by omega) hp htable
        exact hout (prefix_refl _)
      simp only [map_some, hword]

/-- Overwriting a word that points nowhere, by another such word, moves no table. -/
lemma tableAt_put (hlen : p.length ≤ depth)
    (hends : p.length < depth → next (mem table i) = none ∧ next w = none) (hq : q.length ≤ depth) :
    tableAt next (put mem table i w) root q = tableAt next mem root q := by
  by_cases hin : p ++ [i] <+: q
  · have hlt : p.length < depth := by
      have := hin.length_le
      rw [length_append, length_singleton] at this
      omega
    obtain ⟨hold, hnew⟩ := hends hlt
    have hsame : (fun t j => next (put mem table i w t j)) = fun t j => next (mem t j) := by
      funext t j
      unfold put
      split
      · rename_i heq
        rw [heq.1, heq.2, hold, hnew]
      · rfl
    rw [tableAt, tableAt, hsame]
  · exact tableAt_put_of_not_prefix hsep hp hlen w hq hin

lemma separate_put (hlen : p.length ≤ depth)
    (hends : p.length < depth → next (mem table i) = none ∧ next w = none) :
    Separate next (put mem table i w) root depth := by
  intro a b t ha hb hat hbt
  rw [tableAt_put hsep hp hlen hends ha] at hat
  rw [tableAt_put hsep hp hlen hends hb] at hbt
  exact hsep a b t ha hb hat hbt

/-- The words after the overwrite. -/
lemma wordAt_put (hlen : p.length ≤ depth)
    (hends : p.length < depth → next (mem table i) = none ∧ next w = none)
    (hq : q.length ≤ depth) (j : ι) : wordAt next (put mem table i w) root q j =
      if q = p ∧ j = i then some w else wordAt next mem root q j := by
  rw [wordAt, wordAt, tableAt_put hsep hp hlen hends hq]
  by_cases hhere : q = p ∧ j = i
  · obtain ⟨rfl, rfl⟩ := hhere
    simp [hp, put]
  · rw [if_neg hhere]
    cases htable : tableAt next mem root q with
    | none => rfl
    | some t =>
      refine congrArg some (if_neg ?_)
      rintro ⟨rfl, rfl⟩
      exact hhere ⟨hsep q p t hq hlen htable hp, rfl⟩

end

end

/-! ## Hanging in a table -/

/-- A table that no path leads to is filled with `zero`, and `w` links a word that points nowhere to
it. -/
structure Hangs (next : ω → Option κ) (mem : Tables κ ι ω) (root : κ) (depth : Nat) (p : List ι) (i : ι)
    (table fresh : κ) (zero w : ω) : Prop where
  separate : Separate next mem root depth
  here : tableAt next mem root p = some table
  short : p.length < depth
  unreached : ∀ q, q.length ≤ depth → tableAt next mem root q ≠ some fresh
  old_ends : next (mem table i) = none
  zero_ends : next zero = none
  new_leads : next w = some fresh

namespace Hangs

variable (h : Hangs next mem root depth p i table fresh zero w)
include h

/-- The words of a table, if the path leads where it should: the link, the words of the new table, and
the rest. -/
lemma wordAt_of_tableAt (hq : q.length ≤ depth)
    (htable : tableAt next (put (fill mem fresh zero) table i w) root q =
      if q = p ++ [i] then some fresh else tableAt next mem root q) (j : ι) :
    wordAt next (put (fill mem fresh zero) table i w) root q j =
      if q = p ++ [i] then some zero else if q = p ∧ j = i then some w else wordAt next mem root q j := by
  have hne : table ≠ fresh := fun heq => h.unreached p (Nat.le_of_lt h.short) (heq ▸ h.here)
  rw [wordAt, wordAt, htable]
  by_cases hthrough : q = p ++ [i]
  · simp [hthrough, put, fill, Ne.symm hne]
  · rw [if_neg hthrough, if_neg hthrough]
    by_cases hhere : q = p ∧ j = i
    · obtain ⟨rfl, rfl⟩ := hhere
      simp [h.here, put]
    · rw [if_neg hhere]
      cases hat : tableAt next mem root q with
      | none => rfl
      | some t =>
        have hother : t ≠ fresh := fun heq => h.unreached q hq (heq ▸ hat)
        have hword : put (fill mem fresh zero) table i w t j = mem t j := by
          rw [put, if_neg, fill, if_neg hother]
          rintro ⟨rfl, rfl⟩
          exact hhere ⟨h.separate q p t hq (Nat.le_of_lt h.short) hat h.here, rfl⟩
        simp only [map_some, hword]

/-- One more path leads to a table. -/
lemma tableAt_link (hq : q.length ≤ depth) : tableAt next (put (fill mem fresh zero) table i w) root q =
      if q = p ++ [i] then some fresh else tableAt next mem root q := by
  induction q using reverseRecOn with
  | nil => simp
  | append_singleton q j ih =>
    rw [length_append, length_singleton] at hq
    rw [tableAt_concat, tableAt_concat, h.wordAt_of_tableAt (by omega) (ih (by omega))]
    have hends : q ++ [j] = p ++ [i] ↔ q = p ∧ j = i := by simp
    by_cases hthrough : q = p ++ [i]
    · -- the new table is zeroed, and before there was nothing to go through
      have hlong : ¬ q ++ [j] = p ++ [i] := fun heq => by simp [(hends.1 heq).1] at hthrough
      have hbefore : wordAt next mem root q j = none := by
        rw [wordAt, hthrough, tableAt_concat, wordAt, h.here, map_some, bind_some, h.old_ends]
        rfl
      rw [if_pos hthrough, if_neg hlong, hbefore]
      exact h.zero_ends
    · rw [if_neg hthrough]
      by_cases hhere : q = p ∧ j = i
      · rw [if_pos hhere, if_pos (hends.2 hhere)]
        exact h.new_leads
      · rw [if_neg hhere, if_neg fun heq => hhere (hends.1 heq)]

lemma separate_link : Separate next (put (fill mem fresh zero) table i w) root depth := by
  intro a b t ha hb hta htb
  rw [h.tableAt_link ha] at hta
  rw [h.tableAt_link hb] at htb
  by_cases hpa : a = p ++ [i] <;> by_cases hpb : b = p ++ [i]
  · rw [hpa, hpb]
  · rw [if_pos hpa] at hta
    rw [if_neg hpb] at htb
    exact absurd (htb.trans hta.symm) (h.unreached b hb)
  · rw [if_neg hpa] at hta
    rw [if_pos hpb] at htb
    exact absurd (hta.trans htb.symm) (h.unreached a ha)
  · rw [if_neg hpa] at hta
    rw [if_neg hpb] at htb
    exact h.separate a b t ha hb hta htb

lemma wordAt_link (hq : q.length ≤ depth) (j : ι) :
    wordAt next (put (fill mem fresh zero) table i w) root q j =
      if q = p ++ [i] then some zero else if q = p ∧ j = i then some w else wordAt next mem root q j :=
  h.wordAt_of_tableAt hq (h.tableAt_link hq) j

end Hangs

end Tables

end Akarin.Lib
