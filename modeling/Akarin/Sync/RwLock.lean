/-
# Akarin.Sync.RwLock -- the spinning reader-writer lock

The lock word counts the readers above its lowest bit, and the lowest bit is the writer. A reader adds
itself first and takes itself back if it finds a writer; a writer exchanges a word that is zero. A guard
that is converted goes through its own `Drop` at the end of the conversion: `try_upgrade` exchanges
`READER` for `WRITER` and then drops the read guard, `downgrade` stores `READER` and then drops the write
guard. Each access to the word is an atomic step, and the steps of all calls interleave.

While no upgrade succeeds, no downgrade meets a reader that is about to take itself back, and the word is
not exhausted (`Undisturbed`), the word is what the guards and the readers on their way back add up to
(`Balanced`), and from this the lock excludes.
-/
import Akarin.Lib.Tasks

namespace Akarin.Sync

open List Bool
open Lib (runOps Meets run_invariant weigh weigh_set le_weigh weigh_eq_zero)

/-! ## Model -/

def READER : UInt64 := (1 : UInt64) <<< 1

def WRITER : UInt64 := 1

/-- `usize::MAX >> 2`. -/
def MAX_READERS : UInt64 := (0xFFFFFFFFFFFFFFFF : UInt64) >>> 2

/-- Where a call is, from the operation that asks for a guard to the end of the guard. `once` is the
`try_` form of an operation. -/
inductive RwStage where
  /-- `add_reader`: about to add a reader. -/
  | adding (once : Bool)
  /-- There are too many readers: about to take the reader back and to panic. -/
  | refusing
  /-- There is a writer: about to take the reader back. -/
  | undoing (once : Bool)
  /-- About to exchange 0 for `WRITER`. -/
  | locking (once : Bool)
  /-- Holds a read guard. -/
  | reader
  /-- Holds a write guard. -/
  | writer
  /-- Holds a read guard, and is about to exchange `READER` for `WRITER`. -/
  | upgrading (once : Bool)
  /-- The exchange has succeeded, and the read guard is about to be dropped. -/
  | upgraded
  /-- Holds a write guard, and is about to store `READER`. -/
  | downgrading
  /-- The store has been made, and the write guard is about to be dropped. -/
  | downgraded
  | returned
  | panicked
  deriving DecidableEq

namespace RwStage

def holdsWrite : RwStage → Bool
  | .writer | .upgraded | .downgrading => true
  | _ => false

def holdsRead : RwStage → Bool
  | .reader | .upgrading _ | .downgraded => true
  | _ => false

/-- Neither an operation nor a guard. -/
def isOver : RwStage → Bool
  | .returned | .panicked => true
  | _ => false

/-- A reader that has been added and is about to be taken back. -/
def isReturning : RwStage → Bool
  | .refusing | .undoing _ => true
  | _ => false

/-- About to subtract `READER` from the word. -/
def subtracts : RwStage → Bool
  | .refusing | .undoing _ | .upgraded => true
  | _ => false

end RwStage

/-- The lock word and its users. -/
structure RwLock where
  lock : UInt64
  tasks : List RwStage

/-- Calls on the lock, and their steps. -/
inductive RwOp where
  | read (once : Bool)
  | write (once : Bool)
  /-- The next atomic step of an operation. -/
  | step (task : Nat)
  | upgrade (task : Nat) (once : Bool)
  | downgrade (task : Nat)
  /-- The guard is dropped. -/
  | drop (task : Nat)

namespace RwLock

def new : RwLock := ⟨0, []⟩

/-- The word and the stage after the next atomic step of an operation. -/
def advance (lock : UInt64) : RwStage → UInt64 × RwStage
  | .adding once =>
    (lock + READER,
      if lock > MAX_READERS * READER then .refusing
      else if lock &&& WRITER ≠ 0 then .undoing once
      else .reader)
  | .refusing => (lock - READER, .panicked)
  | .undoing once => (lock - READER, if once then .returned else .adding once)
  | .locking once =>
    if lock = 0 then (WRITER, .writer) else (lock, if once then .returned else .locking once)
  | .upgrading once =>
    if lock = READER then (WRITER, .upgraded) else (lock, if once then .reader else .upgrading once)
  | .upgraded => (lock - READER, .writer)
  | .downgrading => (READER, .downgraded)
  | .downgraded => (lock &&& ~~~WRITER, .reader)
  | stage => (lock, stage)

/-- The word and the stage after the drop of a guard. -/
def dropGuard (lock : UInt64) : RwStage → UInt64 × RwStage
  | .reader => (lock - READER, .returned)
  | .writer => (lock &&& ~~~WRITER, .returned)
  | stage => (lock, stage)

def beginUpgrade (once : Bool) : RwStage → RwStage
  | .reader => .upgrading once
  | stage => stage

def beginDowngrade : RwStage → RwStage
  | .writer => .downgrading
  | stage => stage

section

variable (l : RwLock)

def update (task : Nat) (f : UInt64 → RwStage → UInt64 × RwStage) : RwLock :=
  match l.tasks[task]? with
  | none => l
  | some stage => ⟨(f l.lock stage).1, l.tasks.set task (f l.lock stage).2⟩

def step : RwOp → RwLock
  | .read once => { l with tasks := l.tasks ++ [.adding once] }
  | .write once => { l with tasks := l.tasks ++ [.locking once] }
  | .step task => l.update task advance
  | .upgrade task once => l.update task fun lock stage => (lock, beginUpgrade once stage)
  | .downgrade task => l.update task fun lock stage => (lock, beginDowngrade stage)
  | .drop task => l.update task dropGuard

def run (ops : List RwOp) : RwLock := runOps step l ops

/-! ## What the lock promises -/

/-- A write guard is the only guard. -/
def Exclusive : Prop :=
  ∀ (i j : Nat) (a b : RwStage), l.tasks[i]? = some a → l.tasks[j]? = some b → i ≠ j →
    a.holdsWrite = true → b.holdsWrite = false ∧ b.holdsRead = false

/-- The step does not subtract a reader from a word that is less. -/
def StaysAbove : RwOp → Prop
  | .step task => ∀ stage ∈ l.tasks[task]?, stage.subtracts → READER ≤ l.lock
  | .drop task => ∀ stage ∈ l.tasks[task]?, stage = .reader → READER ≤ l.lock
  | _ => True

/-- The word is zero when nothing is going on. -/
def ZeroAtRest : Prop := (∀ stage ∈ l.tasks, stage.isOver = true) → l.lock = 0
deriving Decidable

/-- No upgrade succeeds, no downgrade meets a reader that is about to take itself back, and there is
room in the word for one more reader. -/
def Allows : RwStage → Prop
  | .adding _ => l.lock.toNat + 2 < 2 ^ 64
  | .upgrading _ => l.lock ≠ READER
  | .downgrading => ∀ other ∈ l.tasks, other.isReturning = false
  | _ => True

end

instance (l : RwLock) (stage : RwStage) : Decidable (l.Allows stage) := by
  cases stage <;> unfold Allows <;> infer_instance

def Undisturbed (l : RwLock) : RwOp → Prop
  | .step task => ∀ stage ∈ l.tasks[task]?, l.Allows stage
  | _ => True

instance (l : RwLock) (op : RwOp) : Decidable (l.Undisturbed op) := by
  cases op <;> unfold Undisturbed <;> infer_instance

/-! ## The lock word -/

section Word

variable {lock : UInt64}

lemma toNat_READER : READER.toNat = 2 := by decide

lemma toNat_WRITER : WRITER.toNat = 1 := rfl

lemma toNat_add_READER (h : lock.toNat + 2 < 2 ^ 64) : (lock + READER).toNat = lock.toNat + 2 := by
  rw [UInt64.toNat_add, toNat_READER, Nat.mod_eq_of_lt h]

lemma READER_le : READER ≤ lock ↔ 2 ≤ lock.toNat := by
  rw [UInt64.le_iff_toNat_le, toNat_READER]

lemma toNat_sub_READER (lock : UInt64) (h : 2 ≤ lock.toNat) : (lock - READER).toNat = lock.toNat - 2 := by
  rw [UInt64.toNat_sub_of_le _ _ (READER_le.2 h), toNat_READER]

lemma and_WRITER_ne_zero : lock &&& WRITER ≠ 0 ↔ lock.toNat % 2 = 1 := by
  rw [Ne, ← UInt64.toNat_inj, UInt64.toNat_and]
  show ¬ (lock.toNat &&& 1) = 0 ↔ _
  rw [Nat.and_one_is_mod]
  omega

/-- Masking the writer out takes the lowest bit away and leaves the readers. -/
lemma toNat_and_not_WRITER (lock : UInt64) : (lock &&& ~~~WRITER).toNat = lock.toNat - lock.toNat % 2 := by
  have hlt := lock.toNat_lt
  have hmask : (~~~WRITER).toNat = 2 * (2 ^ 63 - 1) := by decide
  rw [UInt64.toNat_and, hmask]
  have hhalf : (lock.toNat &&& 2 * (2 ^ 63 - 1)) / 2 = lock.toNat / 2 := by
    rw [Nat.and_div_two, Nat.mul_div_cancel_left _ (by decide), Nat.and_two_pow_sub_one_eq_mod]
    omega
  have heven : (lock.toNat &&& 2 * (2 ^ 63 - 1)) % 2 = 0 := by
    have hmod := Nat.and_mod_two_pow (a := lock.toNat) (b := 2 * (2 ^ 63 - 1)) (n := 1)
    simpa using hmod
  omega

lemma eq_zero_iff : lock = 0 ↔ lock.toNat = 0 := by
  rw [← UInt64.toNat_inj]
  rfl

end Word

/-! ## The balance -/

def writers (l : RwLock) : Nat := weigh (fun stage => stage.holdsWrite.toNat) l.tasks

def readers (l : RwLock) : Nat := weigh (fun stage => stage.holdsRead.toNat) l.tasks

/-- Readers that are about to take themselves back. -/
def returning (l : RwLock) : Nat := weigh (fun stage => stage.isReturning.toNat) l.tasks

/-- The word is what the guards and the returning readers add up to, and a writer is alone. -/
structure Balanced (l : RwLock) : Prop where
  word : l.lock.toNat = 2 * (l.readers + l.returning) + l.writers
  one_writer : l.writers ≤ 1
  alone : l.writers = 0 ∨ l.readers = 0
  not_upgraded : .upgraded ∉ l.tasks

lemma new_balanced : new.Balanced := by
  refine ⟨rfl, Nat.zero_le _, .inl rfl, ?_⟩
  simp [new]

variable {l : RwLock} {task : Nat} {stage new : RwStage} {lock : UInt64}

/-- What the counts say of one task. -/
lemma counts_set (hstage : l.tasks[task]? = some stage) (lock : UInt64) (new : RwStage) :
    writers ⟨lock, l.tasks.set task new⟩ + stage.holdsWrite.toNat = l.writers + new.holdsWrite.toNat ∧
      readers ⟨lock, l.tasks.set task new⟩ + stage.holdsRead.toNat = l.readers + new.holdsRead.toNat ∧
      returning ⟨lock, l.tasks.set task new⟩ + stage.isReturning.toNat =
        l.returning + new.isReturning.toNat :=
  ⟨weigh_set _ hstage new, weigh_set _ hstage new, weigh_set _ hstage new⟩

/-- A task goes to its next stage, and the word and the counts still fit. -/
lemma Balanced.set (h : l.Balanced) (hstage : l.tasks[task]? = some stage) (hnew : new ≠ .upgraded)
    (hword : ∀ W R T, W + stage.holdsWrite.toNat = l.writers + new.holdsWrite.toNat →
      R + stage.holdsRead.toNat = l.readers + new.holdsRead.toNat →
      T + stage.isReturning.toNat = l.returning + new.isReturning.toNat →
      lock.toNat = 2 * (R + T) + W ∧ W ≤ 1 ∧ (W = 0 ∨ R = 0)) :
    Balanced ⟨lock, l.tasks.set task new⟩ := by
  obtain ⟨hW, hR, hT⟩ := counts_set hstage lock new
  obtain ⟨hword, hone, halone⟩ := hword _ _ _ hW hR hT
  refine ⟨hword, hone, halone, fun hmem => ?_⟩
  rcases mem_or_eq_of_mem_set hmem with hold | heq
  · exact h.not_upgraded hold
  · exact hnew heq.symm

/-- A task goes to a stage that counts the same. -/
lemma Balanced.keep (h : l.Balanced) (hstage : l.tasks[task]? = some stage)
    (hnew : new ≠ .upgraded) (hW : new.holdsWrite = stage.holdsWrite)
    (hR : new.holdsRead = stage.holdsRead) (hT : new.isReturning = stage.isReturning) :
    Balanced ⟨l.lock, l.tasks.set task new⟩ := by
  have ⟨hword, hone, halone, _⟩ := h
  apply h.set hstage hnew
  rw [hW, hR, hT]
  intro W R T hW hR hT
  omega

/-- A task is counted for what it holds. -/
lemma counts_le (hstage : l.tasks[task]? = some stage) :
    stage.holdsWrite.toNat ≤ l.writers ∧ stage.holdsRead.toNat ≤ l.readers ∧
      stage.isReturning.toNat ≤ l.returning := by
  have hmem := mem_of_getElem? hstage
  exact ⟨le_weigh (fun stage : RwStage => stage.holdsWrite.toNat) hmem,
    le_weigh (fun stage : RwStage => stage.holdsRead.toNat) hmem,
    le_weigh (fun stage : RwStage => stage.isReturning.toNat) hmem⟩

section

variable (h : l.Balanced)
include h

/-- A reader, or one that was added in vain, is taken out of the word. -/
lemma Balanced.takeBack (hstage : l.tasks[task]? = some stage)
    (hin : stage.holdsRead.toNat + stage.isReturning.toNat = 1) (hwrite : stage.holdsWrite = false)
    (hnew : new.holdsWrite = false ∧ new.holdsRead = false ∧ new.isReturning = false)
    (hne : new ≠ .upgraded) : Balanced ⟨l.lock - READER, l.tasks.set task new⟩ := by
  have ⟨hword, hone, halone, _⟩ := h
  obtain ⟨-, hR, hT⟩ := counts_le hstage
  have hsub := toNat_sub_READER l.lock (by omega)
  apply h.set hstage hne
  rw [hnew.1, hnew.2.1, hnew.2.2, hwrite]
  intro W R T (hW : W + 0 = l.writers + 0) (hR : R + _ = l.readers + 0) (hT : T + _ = l.returning + 0)
  omega

/-- A reader is added; it stays one if there is no writer. -/
lemma Balanced.addReader {once : Bool} (hstage : l.tasks[task]? = some (.adding once))
    (hok : l.Allows (.adding once)) :
    Balanced ⟨l.lock + READER, l.tasks.set task (advance l.lock (.adding once)).2⟩ := by
  have ⟨hword, hone, halone, _⟩ := h
  have hadd := toNat_add_READER hok
  -- it is counted before it is decided whether it stays
  have hvain : ∀ next : RwStage, next = .refusing ∨ next = .undoing once →
      Balanced ⟨l.lock + READER, l.tasks.set task next⟩ := by
    rintro next (rfl | rfl) <;>
    · apply h.set hstage (by simp)
      intro W R T (hW : W + 0 = l.writers + 0) (hR : R + 0 = l.readers + 0) (hT : T + 0 = l.returning + 1)
      omega
  simp only [RwLock.advance]
  split
  · exact hvain _ (.inl rfl)
  · by_cases hwriter : l.lock &&& WRITER ≠ 0
    · rw [if_pos hwriter]
      exact hvain _ (.inr rfl)
    · -- the word is even, so that there is no writer
      have heven : ¬ l.lock.toNat % 2 = 1 := fun h => hwriter (and_WRITER_ne_zero.2 h)
      rw [if_neg hwriter]
      apply h.set hstage (by simp)
      intro W R T (hW : W + 0 = l.writers + 0) (hR : R + 0 = l.readers + 1) (hT : T + 0 = l.returning + 0)
      omega

lemma Balanced.advance (hstage : l.tasks[task]? = some stage) (hok : l.Allows stage) :
    Balanced ⟨(advance l.lock stage).1, l.tasks.set task (advance l.lock stage).2⟩ := by
  have ⟨hword, hone, halone, _⟩ := h
  obtain ⟨hW, hR, hT⟩ := counts_le hstage
  cases stage with
  | adding once => exact h.addReader hstage hok
  | refusing => exact h.takeBack hstage rfl rfl ⟨rfl, rfl, rfl⟩ (by simp [RwLock.advance])
  | undoing once =>
    cases once with
    | true | false => exact h.takeBack hstage rfl rfl ⟨rfl, rfl, rfl⟩ (by simp [RwLock.advance])
  | locking once =>
    simp only [RwLock.advance]
    split
    · -- nobody holds the lock and nobody is on the way back
      rename_i hzero
      have hnat := eq_zero_iff.1 hzero
      have hwriter := toNat_WRITER
      apply h.set hstage (by simp)
      intro W R T (hW : W + 0 = l.writers + 1) (hR : R + 0 = l.readers + 0) (hT : T + 0 = l.returning + 0)
      show WRITER.toNat = _ ∧ _
      omega
    · cases once with
      | true | false => exact h.keep hstage (by simp) rfl rfl rfl
  | upgrading once =>
    simp only [RwLock.advance]
    rw [if_neg hok]
    cases once with
    | true | false => exact h.keep hstage (by simp) rfl rfl rfl
  | upgraded => exact absurd (mem_of_getElem? hstage) h.not_upgraded
  | downgrading =>
    -- nobody is on the way back: the word is the writer alone
    have hback : l.returning = 0 := weigh_eq_zero fun other hother => by simp [hok other hother]
    have hwriter : 1 ≤ l.writers := hW
    have hreader := toNat_READER
    apply h.set hstage (by simp [RwLock.advance])
    intro W R T (hW : W + 1 = l.writers + 0) (hR : R + 0 = l.readers + 1) (hT : T + 0 = l.returning + 0)
    show READER.toNat = _ ∧ _
    omega
  | downgraded =>
    -- the writer's bit is not set any more, and the drop of the write guard changes nothing
    have hreader : 1 ≤ l.readers := hR
    have hmask := toNat_and_not_WRITER l.lock
    apply h.set hstage (by simp [RwLock.advance])
    intro W R T (hW : W + 0 = l.writers + 0) (hR : R + 1 = l.readers + 1) (hT : T + 0 = l.returning + 0)
    show (l.lock &&& ~~~WRITER).toNat = _ ∧ _
    omega
  | reader | writer | returned | panicked => exact h.keep hstage (by simp [RwLock.advance]) rfl rfl rfl

lemma Balanced.dropGuard (hstage : l.tasks[task]? = some stage) :
    Balanced ⟨(dropGuard l.lock stage).1, l.tasks.set task (dropGuard l.lock stage).2⟩ := by
  have ⟨hword, hone, halone, _⟩ := h
  obtain ⟨hW, hR, hT⟩ := counts_le hstage
  cases stage with
  | reader => exact h.takeBack hstage rfl rfl ⟨rfl, rfl, rfl⟩ (by simp [RwLock.dropGuard])
  | writer =>
    have hwriter : 1 ≤ l.writers := hW
    have hmask := toNat_and_not_WRITER l.lock
    apply h.set hstage (by simp [RwLock.dropGuard])
    intro W R T (hW : W + 1 = l.writers + 0) (hR : R + 0 = l.readers + 0) (hT : T + 0 = l.returning + 0)
    show (l.lock &&& ~~~WRITER).toNat = _ ∧ _
    omega
  | upgraded => exact absurd (mem_of_getElem? hstage) h.not_upgraded
  | _ => exact h.keep hstage (by simp [RwLock.dropGuard]) rfl rfl rfl

lemma Balanced.enter (hnew : new.holdsWrite = false ∧ new.holdsRead = false ∧
    new.isReturning = false) (hne : new ≠ .upgraded) : Balanced ⟨l.lock, l.tasks ++ [new]⟩ := by
  refine ⟨?_, ?_, ?_, fun hmem => ?_⟩
  · simpa [readers, returning, writers, hnew] using h.word
  · simpa [writers, hnew] using h.one_writer
  · simpa [writers, readers, hnew] using h.alone
  · rcases mem_append.1 hmem with hold | heq
    · exact h.not_upgraded hold
    · exact hne (mem_singleton.1 heq).symm

lemma Balanced.update {f : UInt64 → RwStage → UInt64 × RwStage}
    (hf : ∀ stage, l.tasks[task]? = some stage →
      Balanced ⟨(f l.lock stage).1, l.tasks.set task (f l.lock stage).2⟩) :
    (l.update task f).Balanced := by
  unfold RwLock.update
  split
  · exact h
  · exact hf _ ‹_›

end

lemma step_balanced (op : RwOp) (h : l.Balanced) (hok : l.Undisturbed op) : (l.step op).Balanced := by
  cases op with
  | read | write => exact h.enter ⟨rfl, rfl, rfl⟩ (by simp)
  | step task => exact h.update fun stage hstage => h.advance hstage (hok stage hstage)
  | upgrade task once =>
    show (l.update task fun lock stage => (lock, beginUpgrade once stage)).Balanced
    refine h.update fun stage hstage => ?_
    cases stage with
    | upgraded => exact absurd (mem_of_getElem? hstage) h.not_upgraded
    | _ => exact h.keep hstage (by simp [beginUpgrade]) rfl rfl rfl
  | downgrade task =>
    show (l.update task fun lock stage => (lock, beginDowngrade stage)).Balanced
    refine h.update fun stage hstage => ?_
    cases stage with
    | upgraded => exact absurd (mem_of_getElem? hstage) h.not_upgraded
    | _ => exact h.keep hstage (by simp [beginDowngrade]) rfl rfl rfl
  | drop task => exact h.update fun stage hstage => h.dropGuard hstage

/-! ## The promises -/

lemma Balanced.exclusive (h : l.Balanced) : l.Exclusive := by
  intro i j a b ha hb hij hwrite
  -- take the writer away: nothing is left that holds the lock
  obtain ⟨hW, hR, _⟩ := counts_set ha l.lock .returned
  have hb' : (l.tasks.set i .returned)[j]? = some b := by
    rw [getElem?_set_ne hij]
    exact hb
  obtain ⟨hW', hR', _⟩ := counts_le (l := ⟨l.lock, l.tasks.set i .returned⟩) hb'
  have hread : a.holdsRead = false := by cases a <;> first | rfl | cases hwrite
  rw [hwrite] at hW
  rw [hread] at hR
  have hone := h.one_writer
  have halone := h.alone
  simp only [RwStage.holdsWrite, RwStage.holdsRead, toNat_true, toNat_false] at hW hR
  constructor
  · cases hbw : b.holdsWrite with
    | false => rfl
    | true =>
      rw [hbw, toNat_true] at hW'
      omega
  · cases hbr : b.holdsRead with
    | false => rfl
    | true =>
      rw [hbr, toNat_true] at hR'
      omega

lemma Balanced.zeroAtRest (h : l.Balanced) : l.ZeroAtRest := by
  intro hover
  have hnone : ∀ stage ∈ l.tasks, stage.holdsWrite = false ∧ stage.holdsRead = false ∧
      stage.isReturning = false := by
    intro stage hmem
    have hdone := hover stage hmem
    cases stage <;> first | exact ⟨rfl, rfl, rfl⟩ | cases hdone
  have hW : l.writers = 0 := weigh_eq_zero fun stage hmem => by simp [(hnone stage hmem).1]
  have hR : l.readers = 0 := weigh_eq_zero fun stage hmem => by simp [(hnone stage hmem).2.1]
  have hT : l.returning = 0 := weigh_eq_zero fun stage hmem => by simp [(hnone stage hmem).2.2]
  have hword := h.word
  exact eq_zero_iff.2 (by omega)

lemma Balanced.staysAbove (h : l.Balanced) (op : RwOp) : l.StaysAbove op := by
  have hword := h.word
  cases op with
  | step task =>
    intro stage hstage hsub
    obtain ⟨_, _, hT⟩ := counts_le hstage
    rw [READER_le]
    cases stage with
    | refusing | undoing => have hback : 1 ≤ l.returning := hT; omega
    | upgraded => exact absurd (mem_of_getElem? hstage) h.not_upgraded
    | _ => cases hsub
  | drop task =>
    intro stage hstage hreader
    subst hreader
    obtain ⟨_, hR, _⟩ := counts_le hstage
    have hreader : 1 ≤ l.readers := hR
    rw [READER_le]
    omega
  | _ => trivial

lemma run_balanced (ops : List RwOp) (hops : Meets step Undisturbed .new ops) :
    (RwLock.new.run ops).Balanced :=
  run_invariant (fun _ op h hok => step_balanced op h hok) new_balanced hops

/-- The lock excludes, its word does not wrap and it is zero at rest, in every run in which no upgrade
succeeds and no downgrade meets a returning reader. -/
theorem exclusion_of_undisturbed (ops : List RwOp) (hops : Meets step Undisturbed RwLock.new ops) :
    (RwLock.new.run ops).Exclusive ∧ Meets step StaysAbove RwLock.new ops ∧
      (RwLock.new.run ops).ZeroAtRest :=
  ⟨(run_balanced ops hops).exclusive,
    hops.upgrade (fun _ op h hok => ⟨h.staysAbove op, step_balanced op h hok⟩) new_balanced,
    (run_balanced ops hops).zeroAtRest⟩

/-- A reader finds a writer and takes itself back, the writer downgrades, a second reader joins, an
upgrade fails, and both guards are dropped. -/
def sharedTurn : List RwOp :=
  [.write false, .step 0, .read true, .step 1, .step 1, .downgrade 0, .step 0, .step 0,
    .read false, .step 2, .upgrade 2 true, .step 2, .drop 0, .drop 2]

theorem exclusion_sharedTurn : (RwLock.new.run sharedTurn).lock = 0 ∧
      (RwLock.new.run sharedTurn).Exclusive ∧ Meets step StaysAbove RwLock.new sharedTurn ∧
        (RwLock.new.run sharedTurn).ZeroAtRest :=
  ⟨by decide +kernel, exclusion_of_undisturbed sharedTurn (by decide +kernel)⟩

/-- A lone reader upgrades and drops its write guard. -/
def upgradeAlone : List RwOp := [.read false, .step 0, .upgrade 0 true, .step 0, .step 0, .drop 0]

/-- A writer downgrades while a reader is about to take itself back, and another writer comes. -/
def downgradeOverReader : List RwOp :=
  [.write false, .step 0, .read true, .step 1, .downgrade 0, .step 0, .step 0, .step 1,
    .write false, .step 2]

/-- The upgrade takes the reader away from a word that is the writer alone, so that the word wraps and
never is zero again; the store of the downgrade forgets the returning reader, so that a writer gets in
beside the read guard. -/
theorem exclusion_fails :
    ¬ Meets step StaysAbove RwLock.new upgradeAlone ∧ ¬ (RwLock.new.run upgradeAlone).ZeroAtRest ∧
      ¬ (RwLock.new.run downgradeOverReader).Exclusive := by
  refine ⟨fun h => ?_, by decide +kernel, fun h => ?_⟩
  · have hstep := h.2.2.2.2.1 .upgraded (by decide +kernel) rfl
    exact absurd hstep (by decide +kernel)
  · have hpair := h 2 0 .writer .reader (by decide +kernel) (by decide +kernel) (by decide) rfl
    cases hpair.2

end RwLock

end Akarin.Sync
