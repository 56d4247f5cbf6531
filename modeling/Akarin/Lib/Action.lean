/-
# Akarin.Lib.Action -- fallible stateful computations and their pre- and postconditions

An `Action σ ε α` runs on a state `σ` and returns either a value, an error of type `ε`, or a
panic. Unlike `StateT σ (Except ε)` the state survives a failure: an operation that gives up half
way leaves behind whatever it has already written, and that half-written state is precisely what a
verification of error paths has to look at.

`Spec P x Q E` is the corresponding triple: from a state satisfying `P`, a normal return satisfies
`Q` and a failure satisfies `E`. The rules (`Spec.bind`, `Spec.ensure`, `Spec.forEach`, …) follow
the shape of the program, so a proof about an operation reads like the operation.
-/
import Mathlib.Data.Set.Card

namespace Akarin.Lib

universe u

/-- How a computation can fail to return: with an error value, or by panicking. -/
inductive Fault (ε : Type u) where
  | error (e : ε)
  | panic
  deriving DecidableEq

def Action (σ ε α : Type u) : Type u := σ → Except (Fault ε) α × σ

namespace Action

variable {σ ε α β : Type u}

/-! ## Combinators -/

def ret (a : α) : Action σ ε α := fun s => (.ok a, s)

def andThen (x : Action σ ε α) (f : α → Action σ ε β) : Action σ ε β := fun s =>
  match x s with
  | (.ok a, t) => f a t
  | (.error e, t) => (.error e, t)

instance : Monad (Action σ ε) where
  pure := ret
  bind := andThen

/-- Return an error, leaving the state as it is. -/
def fail (e : ε) : Action σ ε α := fun s => (.error (.error e), s)

/-- A failed assertion, `unwrap` or `expect`. -/
def panic : Action σ ε α := fun s => (.error .panic, s)

/-- Read part of the state. -/
def gets (f : σ → α) : Action σ ε α := fun s => (.ok (f s), s)

def modify (f : σ → σ) : Action σ ε PUnit := fun s => (.ok ⟨⟩, f s)

/-- `if !p { return Err(e) }`. -/
def ensure (p : Prop) [Decidable p] (e : ε) : Action σ ε PUnit :=
  if p then ret ⟨⟩ else fail e

/-- `o.ok_or(e)?`. -/
def orFail (o : Option α) (e : ε) : Action σ ε α :=
  match o with
  | some a => ret a
  | none => fail e

/-- `o.expect(..)`. -/
def orPanic (o : Option α) : Action σ ε α :=
  match o with
  | some a => ret a
  | none => panic

/-- Run the body on each element in turn, stopping at the first failure. -/
def forEach : List β → (β → Action σ ε PUnit) → Action σ ε PUnit
  | [], _ => ret ⟨⟩
  | b :: bs, f => andThen (f b) fun _ => forEach bs f

/-- The state after the computation, whatever its outcome. -/
def exec (x : Action σ ε α) (s : σ) : σ := (x s).2

/-- The outcome. -/
def outcome (x : Action σ ε α) (s : σ) : Except (Fault ε) α := (x s).1

@[simp] lemma orFail_state (o : Option α) (e : ε) (s : σ) : (orFail o e s).2 = s := by
  cases o <;> rfl

/-- A final `return Ok(..)` does not touch the state. -/
lemma andThen_ret_state (x : Action σ ε α) (b : β) (s : σ) :
    (andThen x (fun _ => ret b) s).2 = (x s).2 := by
  unfold andThen
  rcases x s with ⟨_ | a, t⟩ <;> rfl

variable {s t : σ} {e : ε}

variable {x : Action σ ε α} {f : α → Action σ ε β} {a : α}

/-- A computation whose first part returns goes on with the second. -/
lemma bind_of_ok (h : x s = (.ok a, t)) : (x >>= f) s = f a t := by
  change andThen x f s = _
  rw [andThen, h]

/-- A computation whose first part fails stops there. -/
lemma bind_of_error {e : Fault ε} (h : x s = (.error e, t)) : (x >>= f) s = (.error e, t) := by
  change andThen x f s = _
  rw [andThen, h]

/-! ## Triples -/

/-- From a state satisfying `P`, a return value and final state satisfy `Q`, and a fault and final
state satisfy `E`. -/
def Spec (P : σ → Prop) (x : Action σ ε α) (Q : α → σ → Prop) (E : Fault ε → σ → Prop) : Prop :=
  ∀ s, P s →
    match x s with
    | (.ok a, t) => Q a t
    | (.error e, t) => E e t

/-- The computation preserves `I` on every outcome. -/
def Keeps (I : σ → Prop) (x : Action σ ε α) : Prop := Spec I x (fun _ => I) (fun _ => I)

variable {P P' I : σ → Prop} {Q Q' : α → σ → Prop} {E E' : Fault ε → σ → Prop}
variable {x : Action σ ε α} {f : α → Action σ ε β} {R : β → σ → Prop}

lemma Spec.pure (h : ∀ s, P s → Q a s) : Spec P (pure a : Action σ ε α) Q E :=
  fun s hs => h s hs

lemma Spec.fail (h : ∀ s, P s → E (.error e) s) : Spec P (fail e : Action σ ε α) Q E :=
  fun s hs => h s hs

lemma Spec.andThen (hx : Spec P x Q E) (hf : ∀ a, Spec (Q a) (f a) R E) : Spec P (andThen x f) R E := by
  intro s hs
  have h := hx s hs
  revert h
  unfold Action.andThen
  rcases x s with ⟨_ | a, t⟩
  · exact id
  · exact hf a t

lemma Spec.bind (hx : Spec P x Q E) (hf : ∀ a, Spec (Q a) (f a) R E) : Spec P (x >>= f) R E :=
  Spec.andThen hx hf

lemma Spec.conseq (h : Spec P x Q E) (hP : ∀ s, P' s → P s) (hQ : ∀ a s, Q a s → Q' a s)
    (hE : ∀ e s, E e s → E' e s) : Spec P' x Q' E' := by
  intro s hs
  have h := h s (hP s hs)
  revert h
  rcases x s with ⟨_ | a, t⟩
  · exact hE _ _
  · exact hQ _ _

lemma Spec.gets {g : σ → α} (h : ∀ s, P s → Q (g s) s) : Spec P (gets g : Action σ ε α) Q E :=
  fun s hs => h s hs

lemma Spec.modify {g : σ → σ} {Q : PUnit → σ → Prop} (h : ∀ s, P s → Q ⟨⟩ (g s)) :
    Spec P (modify g : Action σ ε PUnit) Q E :=
  fun s hs => h s hs

lemma Spec.exec {J : σ → Prop} (h : Spec P x (fun _ => J) (fun _ => J)) (hs : P s) : J (x.exec s) := by
  have h := h s hs
  revert h
  unfold Action.exec
  rcases x s with ⟨_ | a, t⟩ <;> exact id

/-- To keep `I`, look at each starting state separately. -/
lemma Keeps.of_start (h : ∀ s, I s → Spec (· = s) x (fun _ => I) (fun _ => I)) : Keeps I x :=
  fun s hs => h s hs s rfl

/-- Reading the whole state fixes it for the rest of the computation. -/
lemma Spec.get_bind {f : σ → Action σ ε α} (h : Spec (· = s) (f s) Q E) :
    Spec (· = s) (Action.gets id >>= f) Q E := by
  intro t ht
  subst ht
  exact h t rfl

lemma Spec.ensure_bind {p : Prop} [Decidable p] {k : Action σ ε α}
    (h : p → Spec P k Q E) (hE : ¬ p → ∀ s, P s → E (.error e) s) :
    Spec P (Action.ensure p e >>= fun _ => k) Q E := by
  unfold Action.ensure
  split
  · exact h ‹_›
  · exact hE ‹_›

lemma Spec.orFail_bind {o : Option β} {k : β → Action σ ε α}
    (h : ∀ b, o = some b → Spec P (k b) Q E) (hE : o = none → ∀ s, P s → E (.error e) s) :
    Spec P (Action.orFail o e >>= k) Q E := by
  cases o with
  | none => exact hE rfl
  | some b => exact h b rfl

lemma Keeps.exec (h : Keeps I x) (hs : I s) : I (x.exec s) := Spec.exec h hs

end Action

end Akarin.Lib
