/-
# Akarin.Lib.Runs -- invariants of finite runs

A run is a list of operations applied one after the other by a step function. `Meets ok s ops`
says that every operation of the run satisfies the condition `ok` in the state it is applied to;
`run_invariant` is the induction every safety statement in this development goes through.
-/
import Mathlib.Data.Set.Card

namespace Akarin.Lib

universe u v

variable {S : Type u} {O : Type v} {step : S → O → S} {ok : S → O → Prop} {I : S → Prop}

/-- The state after a list of operations. -/
def runOps (step : S → O → S) (s : S) (ops : List O) : S := ops.foldl step s

/-- Each operation satisfies `ok` in the state it meets. -/
def Meets (step : S → O → S) (ok : S → O → Prop) : S → List O → Prop
  | _, [] => True
  | s, op :: ops => ok s op ∧ Meets step ok (step s op) ops

instance Meets.decidable (step : S → O → S) (ok : S → O → Prop) [∀ s op, Decidable (ok s op)] :
    ∀ s ops, Decidable (Meets step ok s ops)
  | _, [] => isTrue trivial
  | s, op :: ops => @instDecidableAnd _ _ _ (Meets.decidable step ok (step s op) ops)

@[simp] lemma runOps_nil (step : S → O → S) (s : S) : runOps step s [] = s := rfl

@[simp] lemma runOps_cons (step : S → O → S) (s : S) (op : O) (ops : List O) :
    runOps step s (op :: ops) = runOps step (step s op) ops := rfl

lemma runOps_append (step : S → O → S) (s : S) (ops ops' : List O) :
    runOps step s (ops ++ ops') = runOps step (runOps step s ops) ops' :=
  List.foldl_append

variable {s : S} {ops : List O}

lemma meets_append {ops' : List O} :
    Meets step ok s (ops ++ ops') ↔ Meets step ok s ops ∧ Meets step ok (runOps step s ops) ops' := by
  induction ops generalizing s with
  | nil => simp [Meets]
  | cons op ops ih => simp [Meets, ih, and_assoc]

/-- Two conditions met by a run are met together. -/
lemma Meets.and {ok' : S → O → Prop} (h : Meets step ok s ops)
    (h' : Meets step ok' s ops) : Meets step (fun s op => ok s op ∧ ok' s op) s ops := by
  induction ops generalizing s with
  | nil => trivial
  | cons op ops ih => exact ⟨⟨h.1, h'.1⟩, ih h.2 h'.2⟩

/-- A property that every conforming step preserves holds at the end of every conforming run. -/
lemma run_invariant (hstep : ∀ s op, I s → ok s op → I (step s op)) (hs : I s)
    (hops : Meets step ok s ops) : I (runOps step s ops) := by
  induction ops generalizing s with
  | nil => exact hs
  | cons op ops ih => exact ih (hstep s op hs hops.1) hops.2

/-- What every step does from a state with the property, every step of the run does. -/
lemma Meets.upgrade {good : S → O → Prop} (hstep : ∀ s op, I s → ok s op → good s op ∧ I (step s op))
    (hs : I s) (hops : Meets step ok s ops) : Meets step good s ops := by
  induction ops generalizing s with
  | nil => trivial
  | cons op ops ih =>
    obtain ⟨hgood, hnext⟩ := hstep s op hs hops.1
    exact ⟨hgood, ih hnext hops.2⟩

/-- The unconditional form. -/
lemma run_invariant_all (hstep : ∀ s op, I s → I (step s op)) (hs : I s)
    (ops : List O) : I (runOps step s ops) := by
  induction ops generalizing s with
  | nil => exact hs
  | cons op ops ih => exact ih (hstep s op hs)

end Akarin.Lib
