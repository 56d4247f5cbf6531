/-
# Akarin.Lib.Worklist -- breadth-first marking

A worklist loop pops the front of its queue, lets `expand` mark the unmarked successors of what it
popped, appends them to the queue and records the popped element at the front of `visited`. The
marks live in the state, so the loop terminates because marks are never taken back: `fuel` only has
to cover what is unmarked at the start.

`drain_spec` is the rule for such a loop: it visits, once each, exactly what is reachable from the
start through elements that were unmarked, and these are the elements it marks.
-/
import Mathlib.Data.Set.Card

namespace Akarin.Lib

open List
open Relation (ReflTransGen)

variable {σ α : Type}

/-- The loop; the result is the final state and the visited elements, last visited first. -/
def drain (expand : σ → α → σ × List α) : (fuel : Nat) → σ → (queue visited : List α) → σ × List α
  | _, s, [], visited => (s, visited)
  | 0, s, _ :: _, visited => (s, visited)
  | fuel + 1, s, a :: queue, visited =>
    drain expand fuel (expand s a).1 (queue ++ (expand s a).2) (a :: visited)

/-- What every expansion keeps, the loop keeps, with whatever fuel. -/
lemma drain_keeps {I : σ → Prop} {expand : σ → α → σ × List α}
    (hkeep : ∀ s a, I s → I (expand s a).1) {s : σ} (hs : I s) (fuel : Nat)
    (queue visited : List α) : I (drain expand fuel s queue visited).1 := by
  induction fuel generalizing s queue visited with
  | zero => cases queue <;> exact hs
  | succ fuel ih =>
    cases queue with
    | nil => exact hs
    | cons a queue => exact ih (hkeep s a hs) _ _

/-- Expanding `a` marks its unmarked successors, returns them, and changes no other mark. -/
structure Expands (edge : α → α → Prop) (unmarked : σ → α → Prop) (s : σ) (a : α)
    (result : σ × List α) : Prop where
  found : ∀ b ∈ result.2, edge a b ∧ unmarked s b
  nodup : result.2.Nodup
  marks : ∀ b, unmarked result.1 b ↔ unmarked s b ∧ b ∉ result.2
  closed : ∀ b, edge a b → ¬ unmarked result.1 b

section Spec

variable {edge : α → α → Prop} {unmarked : σ → α → Prop} {expand : σ → α → σ × List α}
  {I : σ → Prop} {s₀ : σ} {start : α}

/-- A step of the search: along an edge, to an element that was unmarked at the start. -/
def OpenEdge (edge : α → α → Prop) (unmarked : σ → α → Prop) (s₀ : σ) (a b : α) : Prop :=
  edge a b ∧ unmarked s₀ b

/-- The loop invariant, from the state `s₀` in which `start` is already marked. -/
structure Searching (edge : α → α → Prop) (unmarked : σ → α → Prop) (s₀ : σ) (start : α) (s : σ)
    (queue visited : List α) : Prop where
  nodup : (queue ++ visited).Nodup
  marks : ∀ b, unmarked s b ↔ unmarked s₀ b ∧ b ∉ queue ++ visited
  reached : ∀ b ∈ queue ++ visited, ReflTransGen (OpenEdge edge unmarked s₀) start b
  closed : ∀ a ∈ visited, ∀ b, edge a b → ¬ unmarked s b
  begun : start ∈ queue ++ visited

lemma Searching.init (hstart : ¬ unmarked s₀ start) : Searching edge unmarked s₀ start s₀ [start] [] where
  nodup := nodup_singleton start
  marks b := by
    constructor
    · refine fun hb => ⟨hb, fun hmem => hstart ?_⟩
      rw [append_nil, mem_singleton] at hmem
      exact hmem ▸ hb
    · exact And.left
  reached b hb := by
    rw [append_nil, mem_singleton] at hb
    exact hb ▸ .refl
  closed := nofun
  begun := mem_singleton_self start

/-- One iteration. -/
lemma Searching.step {s : σ} {a : α} {queue visited : List α}
    (h : Searching edge unmarked s₀ start s (a :: queue) visited)
    (hexp : Expands edge unmarked s a (expand s a)) :
    Searching edge unmarked s₀ start (expand s a).1 (queue ++ (expand s a).2) (a :: visited) := by
  -- the elements known so far are the old ones and the new ones
  have hknown : ∀ b, b ∈ (queue ++ (expand s a).2) ++ a :: visited ↔
      b ∈ (a :: queue) ++ visited ∨ b ∈ (expand s a).2 := by
    intro b
    simp only [mem_append, mem_cons]
    tauto
  have hnew : ∀ b ∈ (expand s a).2, unmarked s₀ b ∧ b ∉ (a :: queue) ++ visited :=
    fun b hb => (h.marks b).1 (hexp.found b hb).2
  refine ⟨?_, fun b => ?_, fun b hb => ?_, fun x hx b hxb => ?_, ?_⟩
  · have hperm : ((queue ++ (expand s a).2) ++ a :: visited).Perm
        (((a :: queue) ++ visited) ++ (expand s a).2) := by
      refine perm_middle.trans ?_
      rw [cons_append, cons_append, perm_cons, append_assoc, append_assoc]
      exact perm_append_comm.append_left queue
    refine hperm.nodup_iff.2 (nodup_append.2 ⟨h.nodup, hexp.nodup, ?_⟩)
    rintro x hx y hy rfl
    exact (hnew x hy).2 hx
  · rw [hexp.marks, h.marks, hknown]
    tauto
  · rcases (hknown b).1 hb with hold | hnewb
    · exact h.reached b hold
    · exact (h.reached a mem_cons_self).tail ⟨(hexp.found b hnewb).1, (hnew b hnewb).1⟩
  · rcases mem_cons.1 hx with rfl | hx
    · exact hexp.closed b hxb
    · exact fun hb => h.closed x hx b hxb ((hexp.marks b).1 hb).1
  · exact (hknown start).2 (.inl h.begun)

/-- What the loop has done when its queue is empty. -/
structure Drained (edge : α → α → Prop) (unmarked : σ → α → Prop) (s₀ : σ) (start : α)
    (result : σ × List α) : Prop where
  nodup : result.2.Nodup
  visited : ∀ b, b ∈ result.2 ↔ ReflTransGen (OpenEdge edge unmarked s₀) start b
  marks : ∀ b, unmarked result.1 b ↔ unmarked s₀ b ∧ b ∉ result.2

lemma Searching.drained {s : σ} {visited : List α} (h : Searching edge unmarked s₀ start s [] visited) :
    Drained edge unmarked s₀ start (s, visited) where
  nodup := h.nodup
  visited b := by
    refine ⟨h.reached b, fun hpath => ?_⟩
    -- the visited elements contain the start and are closed under open edges
    induction hpath with
    | refl => exact h.begun
    | tail _ hstep ih =>
      by_contra hnot
      exact h.closed _ ih _ hstep.1 ((h.marks _).2 ⟨hstep.2, hnot⟩)
  marks := h.marks

/-- The rule for the loop. `I` is whatever else the expansions keep, and `weight` bounds what is
unmarked. -/
lemma drain_spec {weight : σ → Nat} (hkeep : ∀ s a, I s → I (expand s a).1)
    (hexp : ∀ s a, I s → Expands edge unmarked s a (expand s a))
    (hweight : ∀ s a, I s → weight (expand s a).1 + (expand s a).2.length ≤ weight s)
    (hI : I s₀) (hstart : ¬ unmarked s₀ start) {fuel : Nat} (hfuel : weight s₀ + 1 ≤ fuel) :
    I (drain expand fuel s₀ [start] []).1 ∧
      Drained edge unmarked s₀ start (drain expand fuel s₀ [start] []) := by
  have main : ∀ fuel s queue visited, I s → Searching edge unmarked s₀ start s queue visited →
      weight s + queue.length ≤ fuel →
      I (drain expand fuel s queue visited).1 ∧
        Drained edge unmarked s₀ start (drain expand fuel s queue visited) := by
    intro fuel
    induction fuel with
    | zero =>
      intro s queue visited hs hsearch hle
      cases queue with
      | nil => exact ⟨hs, hsearch.drained⟩
      | cons a queue => exact absurd hle (by simp)
    | succ fuel ih =>
      intro s queue visited hs hsearch hle
      cases queue with
      | nil => exact ⟨hs, hsearch.drained⟩
      | cons a queue =>
        refine ih _ _ _ (hkeep s a hs) (hsearch.step (hexp s a hs)) ?_
        have := hweight s a hs
        rw [length_append]
        rw [length_cons] at hle
        omega
  exact main fuel s₀ [start] [] hI (.init hstart) hfuel

end Spec

end Akarin.Lib
