/-
# Akarin.Lib.Checked -- computations that must not panic

What can panic in an `Action` besides a failed assertion: an addition that overflows, a shift by too
much, an index or a slice out of bounds. `Returns x s Q` says that from the state `s` the computation
does not panic and that what it returns satisfies `Q`; an error is a result like any other. There is one
rule for each operation, an equivalence, so that rewriting with the rules turns a program that has no loop
into the exact condition under which it does not panic.

A loop does not panic just if none of its rounds does from the state it is taken in. `Along`, `AlongWhile` and
`AlongEach` say of a condition that it holds wherever a loop begins a round.
-/
import Akarin.Lib.Action

namespace Akarin.Lib.Action

open List

variable {σ τ ε ε' α β : Type}

/-! ## Operations -/

/-- `result?`. -/
def ofExcept : Except ε α → Action σ ε α
  | .ok a => ret a
  | .error e => fail e

/-- `result.map_err(f)`. -/
def mapError (f : ε → ε') (x : Action σ ε α) : Action σ ε' α := fun s =>
  match x s with
  | (.ok a, t) => (.ok a, t)
  | (.error (.error e), t) => (.error (.error (f e)), t)
  | (.error .panic, t) => (.error .panic, t)

/-- `let _ = result`. -/
def ignore (x : Action σ ε α) : Action σ ε' Unit := fun s =>
  match x s with
  | (.ok _, t) | (.error (.error _), t) => (.ok (), t)
  | (.error .panic, t) => (.error .panic, t)

/-- The computation, on the part of the state that it is about. -/
def focus (get : σ → τ) (set : σ → τ → σ) (x : Action τ ε α) : Action σ ε α := fun s =>
  ((x (get s)).1, set s (x (get s)).2)

/-- `a + b` on integers of `bits` bits. -/
def add (bits a b : Nat) : Action σ ε Nat := if a + b < 2 ^ bits then ret (a + b) else panic

/-- `a << count` on integers of `bits` bits. -/
def shiftLeft (bits a count : Nat) : Action σ ε Nat :=
  if count < bits then ret (a <<< count % 2 ^ bits) else panic

/-- `xs[i]`. -/
def index (xs : List α) (i : Nat) : Action σ ε α := orPanic xs[i]?

/-- `&xs[start..]`. -/
def sliceFrom (xs : List α) (start : Nat) : Action σ ε (List α) :=
  if start ≤ xs.length then ret (xs.drop start) else panic

/-- `&xs[start..stop]`. -/
def slice (xs : List α) (start stop : Nat) : Action σ ε (List α) :=
  if start ≤ stop ∧ stop ≤ xs.length then ret ((xs.take stop).drop start) else panic

/-- `for _ in 0..n`, with the local variables in `x`. -/
def repeatTimes (body : τ → Action σ ε τ) : Nat → τ → Action σ ε τ
  | 0, x => ret x
  | n + 1, x => body x >>= repeatTimes body n

/-- `while more { body }`, where the body returns `none` to leave the loop; `fuel` bounds how often it
runs. -/
def whileLoop (more : τ → Bool) (body : τ → Action σ ε (Option τ)) : Nat → τ → Action σ ε Unit
  | 0, _ => ret ()
  | fuel + 1, x =>
    if more x then
      body x >>= fun next =>
        match next with
        | none => ret ()
        | some x' => whileLoop more body fuel x'
    else ret ()

/-! ## Rules -/

/-- From the state `s` the computation does not panic. -/
def Safe (x : Action σ ε α) (s : σ) : Prop := x.outcome s ≠ .error .panic

/-- From the state `s` the computation does not panic, and what it returns satisfies `Q`. -/
def Returns (x : Action σ ε α) (s : σ) (Q : α → σ → Prop) : Prop :=
  Spec (· = s) x Q fun fault _ => fault ≠ .panic

variable {s : σ} {Q : α → σ → Prop} {R : β → σ → Prop} {x : Action σ ε α}

lemma returns_iff : Returns x s Q ↔ match x s with
    | (.ok a, t) => Q a t
    | (.error fault, _) => fault ≠ .panic := by
  constructor
  · intro h
    exact h s rfl
  · rintro h t rfl
    exact h

lemma returns_iff_safe : Returns x s Q ↔ Safe x s ∧ ∀ a t, x s = (.ok a, t) → Q a t := by
  rw [returns_iff, Safe, outcome]
  rcases x s with ⟨fault | a, t⟩ <;> simp

/-- The computation only looks at the state, so that its outcome is all there is to say. -/
lemma returns_iff_outcome (h : Safe x s → Returns x s fun _ t => t = s) :
    Returns x s Q ↔ Safe x s ∧ ∀ a, x.outcome s = .ok a → Q a s := by
  rw [returns_iff_safe]
  refine and_congr_right fun hsafe => ?_
  have hstate := (returns_iff_safe.1 (h hsafe)).2
  constructor
  · intro hQ a ha
    have hsame := hstate a (x s).2 (Prod.ext ha rfl)
    exact hQ a s (Prod.ext ha hsame)
  · intro hQ a t hrun
    obtain rfl := hstate a t hrun
    exact hQ a (congrArg Prod.fst hrun)

lemma safe_iff_returns : Safe x s ↔ Returns x s fun _ _ => True := by
  simp [returns_iff_safe]

lemma returns_const {x : Action σ ε Unit} {p : Prop} :
    (Returns x s fun _ _ => p) ↔ Safe x s ∧ (x.outcome s = .ok () → p) := by
  rw [returns_iff_safe]
  refine and_congr_right fun _ => ⟨fun h hok => h () (x s).2 (Prod.ext hok rfl), fun h _ t hrun => ?_⟩
  exact h (congrArg Prod.fst hrun)

variable {f : α → Action σ ε β} {a : α} {more : τ → Bool}

@[simp] lemma returns_bind : Returns (x >>= f) s R ↔ Returns x s fun a t => Returns (f a) t R := by
  rw [returns_iff, returns_iff]
  rcases hrun : x s with ⟨fault | a, t⟩
  · rw [bind_of_error hrun]
  · rw [bind_of_ok hrun]
    exact returns_iff.symm

lemma Returns.mono {Q' : α → σ → Prop} (h : Returns x s Q) (hQ : ∀ a t, Q a t → Q' a t) : Returns x s Q' :=
  Spec.conseq h (fun _ ht => ht) hQ fun _ _ hfault => hfault

lemma Returns.bind (h : Returns x s Q) (hf : ∀ a t, Q a t → Returns (f a) t R) : Returns (x >>= f) s R :=
  returns_bind.2 (h.mono hf)

@[simp] lemma returns_ret : Returns (ret a : Action σ ε α) s Q ↔ Q a s := returns_iff

@[simp] lemma returns_pure : Returns (pure a : Action σ ε α) s Q ↔ Q a s := returns_iff

@[simp] lemma returns_gets (f : σ → α) : Returns (gets f : Action σ ε α) s Q ↔ Q (f s) s := returns_iff

@[simp] lemma returns_fail (e : ε) : Returns (fail e : Action σ ε α) s Q := returns_iff.2 nofun

@[simp] lemma returns_panic : ¬ Returns (panic : Action σ ε α) s Q := fun h => returns_iff.1 h rfl

@[simp] lemma returns_mapError (f : ε → ε') : Returns (mapError f x) s Q ↔ Returns x s Q := by
  rw [returns_iff, returns_iff, mapError]
  rcases x s with ⟨(e | _) | a, t⟩ <;> simp

@[simp] lemma returns_focus {y : Action τ ε α} {get : σ → τ} {set : σ → τ → σ} :
    Returns (focus get set y) s Q ↔ Returns y (get s) fun a t => Q a (set s t) := by
  rw [returns_iff, returns_iff, focus]
  rcases y (get s) with ⟨fault | a, t⟩ <;> rfl

lemma safe_ignore : Safe (ignore x : Action σ ε' Unit) s ↔ Safe x s := by
  rw [Safe, Safe, outcome, outcome, ignore]
  rcases x s with ⟨(e | _) | a, t⟩ <;> simp

@[simp] lemma returns_ofExcept (y : Except ε α) :
    Returns (ofExcept y : Action σ ε α) s Q ↔ ∀ a, y = .ok a → Q a s := by
  cases y <;> simp [ofExcept]

@[simp] lemma returns_orFail (o : Option α) (e : ε) :
    Returns (orFail o e : Action σ ε α) s Q ↔ ∀ a ∈ o, Q a s := by
  cases o <;> simp [orFail]

@[simp] lemma returns_ensure (p : Prop) [Decidable p] (e : ε) {Q : PUnit → σ → Prop} :
    Returns (ensure p e : Action σ ε PUnit) s Q ↔ (p → Q ⟨⟩ s) := by
  unfold ensure
  split <;> simp [*]

@[simp] lemma returns_orPanic (o : Option α) :
    Returns (orPanic o : Action σ ε α) s Q ↔ ∃ a ∈ o, Q a s := by
  cases o <;> simp [orPanic]

@[simp] lemma returns_add (bits a b : Nat) {Q : Nat → σ → Prop} :
    Returns (add bits a b : Action σ ε Nat) s Q ↔ a + b < 2 ^ bits ∧ Q (a + b) s := by
  unfold add
  split <;> simp [*]

@[simp] lemma returns_shiftLeft (bits a count : Nat) {Q : Nat → σ → Prop} :
    Returns (shiftLeft bits a count : Action σ ε Nat) s Q ↔
      count < bits ∧ Q (a <<< count % 2 ^ bits) s := by
  unfold shiftLeft
  split <;> simp [*]

@[simp] lemma returns_index (xs : List α) (i : Nat) :
    Returns (index xs i : Action σ ε α) s Q ↔ ∃ a ∈ xs[i]?, Q a s :=
  returns_orPanic _

@[simp] lemma returns_sliceFrom (xs : List α) (start : Nat) {Q : List α → σ → Prop} :
    Returns (sliceFrom xs start : Action σ ε (List α)) s Q ↔ start ≤ xs.length ∧ Q (xs.drop start) s := by
  unfold sliceFrom
  split <;> simp [*]

@[simp] lemma returns_slice (xs : List α) (start stop : Nat) {Q : List α → σ → Prop} :
    Returns (slice xs start stop : Action σ ε (List α)) s Q ↔
      (start ≤ stop ∧ stop ≤ xs.length) ∧ Q ((xs.take stop).drop start) s := by
  unfold slice
  split <;> simp [*]

/-! ## Loops -/

/-- `holds` is true wherever the loop begins a round. -/
def Along (body : τ → Action σ ε τ) (holds : τ → σ → Prop) : Nat → τ → σ → Prop
  | 0, _, _ => True
  | n + 1, x, s => holds x s ∧ ∀ x' s', body x s = (.ok x', s') → Along body holds n x' s'

lemma safe_repeatTimes {body : τ → Action σ ε τ} {holds : τ → σ → Prop}
    (hbody : ∀ x s, Safe (body x) s ↔ holds x s) (n : Nat) (x : τ) (s : σ) :
    Safe (repeatTimes body n x) s ↔ Along body holds n x s := by
  induction n generalizing x s with
  | zero => simp [repeatTimes, Along, safe_iff_returns]
  | succ n ih =>
    rw [safe_iff_returns, repeatTimes, returns_bind, returns_iff_safe, hbody]
    simp only [← safe_iff_returns, ih, Along]

/-- `holds` is true wherever the loop begins a round. -/
def AlongWhile (more : τ → Bool) (body : τ → Action σ ε (Option τ)) (holds : τ → σ → Prop) :
    Nat → τ → σ → Prop
  | 0, _, _ => True
  | fuel + 1, x, s => more x = true → holds x s ∧
      ∀ x' s', body x s = (.ok (some x'), s') → AlongWhile more body holds fuel x' s'

lemma safe_whileLoop {body : τ → Action σ ε (Option τ)} {holds : τ → σ → Prop}
    (hbody : ∀ x s, Safe (body x) s ↔ holds x s) (fuel : Nat) (x : τ) (s : σ) :
    Safe (whileLoop more body fuel x) s ↔ AlongWhile more body holds fuel x s := by
  induction fuel generalizing x s with
  | zero => simp [whileLoop, AlongWhile, safe_iff_returns]
  | succ fuel ih =>
    rw [whileLoop, AlongWhile]
    split
    · rw [safe_iff_returns, returns_bind, returns_iff_safe, hbody]
      simp only [*, Option.forall, forall_const, ← ih, safe_iff_returns]
      simp
    · simp [*, safe_iff_returns]

/-- `holds` is true wherever the loop begins a round. -/
def AlongEach (body : β → Action σ ε PUnit) (holds : β → Prop) : List β → σ → Prop
  | [], _ => True
  | b :: bs, s => holds b ∧ ∀ t, body b s = (.ok ⟨⟩, t) → AlongEach body holds bs t

/-- From a state with `I` a round does not panic just if the element allows it, and then it keeps `I`. -/
lemma safe_forEach {body : β → Action σ ε PUnit} {holds : β → Prop} {I : σ → Prop}
    (hbody : ∀ b s, I s → (Safe (body b) s ↔ holds b))
    (hkeeps : ∀ b s, I s → holds b → Returns (body b) s fun _ => I) (bs : List β) (hI : I s) :
    Safe (forEach bs body) s ↔ AlongEach body holds bs s := by
  induction bs generalizing s with
  | nil => simp [forEach, AlongEach, safe_iff_returns]
  | cons b bs ih =>
    show Safe (body b >>= fun _ => forEach bs body) s ↔ _
    rw [safe_iff_returns, returns_bind, returns_iff_safe, hbody b s hI, AlongEach]
    refine and_congr_right fun hb => ?_
    have hnext := (returns_iff_safe.1 (hkeeps b s hI hb)).2
    refine ⟨fun h t hrun => ?_, fun h _ t hrun => ?_⟩
    · exact (ih (hnext _ t hrun)).1 (safe_iff_returns.2 (h _ t hrun))
    · exact safe_iff_returns.1 ((ih (hnext _ t hrun)).2 (h t hrun))

variable {fuel : Nat} {body : τ → Action σ ε τ} {Q P : α → Prop}

/-- More fuel than steps changes nothing: `left` goes down with every step, and the loop ends at zero. -/
lemma whileLoop_fuel {body : τ → Action σ ε (Option τ)} (left : τ → Nat)
    (hleft : ∀ x x' s s', more x = true → body x s = (.ok (some x'), s') → left x' < left x)
    (hmore : ∀ x, left x = 0 → more x = false) {x : τ} (h : left x ≤ fuel) :
    whileLoop more body (fuel + 1) x = whileLoop more body fuel x := by
  induction fuel generalizing x with
  | zero => simp [whileLoop, hmore x (Nat.le_zero.1 h)]
  | succ fuel ih =>
    rw [whileLoop, whileLoop]
    split
    · rename_i hgoes
      funext s
      rcases hrun : body x s with ⟨fault | next, s'⟩
      · rw [bind_of_error hrun, bind_of_error hrun]
      · rw [bind_of_ok hrun, bind_of_ok hrun]
        cases next with
        | none => rfl
        | some x' =>
          have hless := hleft x x' s s' hgoes hrun
          exact congrFun (ih (by omega)) s'
    · rfl

/-! ## What is returned, if anything is -/

/-- Whatever the computation returns satisfies `Q`. -/
def Yields (x : Action σ ε α) (Q : α → Prop) : Prop := ∀ s a t, x s = (.ok a, t) → Q a

lemma yields_ret (h : Q a) : Yields (ret a : Action σ ε α) Q := by
  rintro s _ t heq
  cases heq
  exact h

lemma yields_fail (e : ε) (Q : α → Prop) : Yields (fail e : Action σ ε α) Q := by
  intro s a t heq
  cases heq

lemma Yields.bind {Q : β → Prop} (h : Yields x P)
    (hf : ∀ a, P a → Yields (f a) Q) : Yields (x >>= f) Q := by
  intro s b t heq
  rcases hrun : x s with ⟨fault | a, s'⟩
  · rw [bind_of_error hrun] at heq
    cases heq
  · rw [bind_of_ok hrun] at heq
    exact hf a (h s a s' hrun) s' b t heq

lemma Yields.after {Q : β → Prop} (hf : ∀ a, Yields (f a) Q) : Yields (x >>= f) Q :=
  Yields.bind (P := fun _ => True) (fun _ _ _ _ => trivial) fun a _ => hf a

lemma yields_repeatTimes {I : τ → Prop} (hbody : ∀ y, I y → Yields (body y) I)
    (n : Nat) {y : τ} (hI : I y) : Yields (repeatTimes body n y) I := by
  induction n generalizing y with
  | zero => exact yields_ret hI
  | succ n ih => exact (hbody y hI).bind fun y' hy' => ih hy'

end Akarin.Lib.Action
