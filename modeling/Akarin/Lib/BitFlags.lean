/-
# Akarin.Lib.BitFlags -- sets of flags in a machine word

The operations of a `bitflags!` type over a bit vector of any width, and inclusion as an order:
`Within a b` says that every flag of `a` is in `b`.
-/
import Mathlib.Data.Set.Card

namespace Akarin.Lib.BitFlags

open BitVec

variable {w : Nat} {a b c : BitVec w}

def contains (flags other : BitVec w) : Bool := flags &&& other == other

def remove (flags other : BitVec w) : BitVec w := flags &&& ~~~other

/-- Every flag of `a` is in `b`. -/
def Within (a b : BitVec w) : Prop := a &&& b = a
deriving Decidable

lemma contains_iff : contains b a = true ↔ Within a b := by
  rw [contains, beq_iff_eq, Within, BitVec.and_comm]

lemma Within.refl (a : BitVec w) : Within a a := and_self

lemma Within.trans (hab : Within a b) (hbc : Within b c) : Within a c := by
  unfold Within at *
  rw [← hab, BitVec.and_assoc, hbc]

lemma Within.or (ha : Within a c) (hb : Within b c) : Within (a ||| b) c := by
  unfold Within at *
  rw [BitVec.and_comm, BitVec.and_or_distrib_left, BitVec.and_comm c a, ha, BitVec.and_comm c b, hb]

lemma and_within_left (a b : BitVec w) : Within (a &&& b) a := by
  unfold Within
  rw [BitVec.and_comm (a &&& b) a, ← BitVec.and_assoc, BitVec.and_self]

lemma remove_within (a b : BitVec w) : Within (remove a b) a := and_within_left a (~~~b)

/-- A larger set contains what a smaller one contains. -/
lemma contains_of_within (h : Within a b) (hc : contains a c = true) : contains b c = true :=
  contains_iff.2 ((contains_iff.1 hc).trans h)

/-- What is removed is no longer contained. -/
lemma contains_remove_of_contains (a : BitVec w) (h : contains b c = true) (hc : c ≠ 0#w) :
    contains (remove a b) c = false := by
  have hnone : a &&& ~~~b &&& c = 0#w := by
    rw [← beq_iff_eq.1 h, BitVec.and_assoc, ← BitVec.and_assoc (~~~b), BitVec.and_comm (~~~b),
      BitVec.and_not_self]
    simp
  rw [contains, remove, hnone]
  exact beq_eq_false_iff_ne.2 (Ne.symm hc)

/-- A single flag is in the set when its bit is set. -/
lemma contains_twoPow {i : Nat} (a : BitVec w) (hi : i < w) : contains a (twoPow w i) = a.getLsbD i := by
  have hne : 0#w ≠ twoPow w i := fun heq => by
    simpa [hi] using congrArg (·.getLsbD i) heq
  rw [contains, and_twoPow]
  cases a.getLsbD i
  · exact beq_eq_false_iff_ne.2 hne
  · exact beq_self_eq_true _

/-- A single flag is in a union when it is in one of the two. -/
lemma contains_or_twoPow {i : Nat} (a b : BitVec w) (hi : i < w) : contains (a ||| b) (twoPow w i) =
      (contains a (twoPow w i) || contains b (twoPow w i)) := by
  rw [contains_twoPow _ hi, contains_twoPow _ hi, contains_twoPow _ hi, getLsbD_or]

/-- A single flag stays when it is not among those removed. -/
lemma contains_remove_twoPow {i : Nat} (a b : BitVec w) (hi : i < w) :
    contains (remove a b) (twoPow w i) = (contains a (twoPow w i) && !contains b (twoPow w i)) := by
  rw [contains_twoPow _ hi, contains_twoPow _ hi, contains_twoPow _ hi, remove]
  simp [hi]

end Akarin.Lib.BitFlags
