/-
# Akarin.Ipc.Fifo -- per-port order under concurrent receivers

For each id the messages that have entered an inbox should be, in this order: those returned, those
pending, the one some task holds on its way into the pending map, those still in the inbox
(`InLine`). Two moments break the line. A task that takes a message of another id out of the inbox
holds it while the inbox goes on: a second task waiting for that id overtakes it, and never looks
into the pending map again. And a task that looks into the pending map while a message of its id is
held finds nothing, and waits in the inbox behind it. `Orderly` excludes these two moments, and
`run_inLine` shows that nothing else can go wrong; `waiting_receiver_overtakes` runs into the first.
-/
import Akarin.Ipc.Receive

namespace Akarin.Ipc

open List Mailbox Lib

/-! ## The line -/

/-- The messages under the id `i`. -/
def under (i : Nat) (l : List QueuedMessage) : List QueuedMessage := l.filter (·.portId = i)

@[simp] lemma under_nil (i : Nat) : under i [] = [] := rfl

@[simp] lemma under_append (i : Nat) (l l' : List QueuedMessage) :
    under i (l ++ l') = under i l ++ under i l' := filter_append ..

@[simp] lemma under_cons (i : Nat) (q : QueuedMessage) (l : List QueuedMessage) :
    under i (q :: l) = if q.portId = i then q :: under i l else under i l := by
  simp [under, filter_cons]

/-- The message under the id `i` that a task of the inbox holds. -/
def RecvPc.held (b i : Nat) : RecvPc → List QueuedMessage
  | .pushPending inbox _ _ queued => if inbox = b ∧ queued.portId = i then [queued] else []
  | _ => []

/-- The task has looked into the pending map for the id `i` and goes through the inbox. -/
def RecvPc.Past (b i : Nat) : RecvPc → Prop
  | .popInbox inbox _ id => inbox = b ∧ id = i
  | .pushPending inbox _ id _ => inbox = b ∧ id = i
  | _ => False

instance (b i : Nat) (pc : RecvPc) : Decidable (pc.Past b i) := by
  cases pc <;> unfold RecvPc.Past <;> infer_instance

/-- What the tasks hold, in the order of the tasks. -/
def held (tasks : List RecvPc) (b i : Nat) : List QueuedMessage := tasks.flatMap (·.held b i)

/-- What receives have returned under the id `i`. -/
def Mailbox.returnedFor (box : Mailbox) (i : Nat) : List QueuedMessage :=
  under i (box.returned.map Prod.snd)

/-- The mailbox `b` and its tasks. -/
structure InLine (tasks : List RecvPc) (b : Nat) (box : Mailbox) : Prop where
  /-- Messages under an id are returned in the order in which they entered, each once; those not yet
  returned are pending, held or in the inbox. -/
  order : ∀ i, under i box.entered =
    box.returnedFor i ++ (box.pendingFor i ++ (held tasks b i ++ under i box.queue))
  /-- Nobody goes through the inbox for an id while a message of it is pending or held. -/
  past : ∀ i, ∀ pc ∈ tasks, pc.Past b i → box.pendingFor i = [] ∧ held tasks b i = []
  /-- At most one task holds a message of an id. -/
  single : ∀ i, (held tasks b i).length ≤ 1
  keyed : ∀ i, ∀ q ∈ box.pendingFor i, q.portId = i

/-! ## Steps -/

lemma Mailbox.pendingFor_new (i : Nat) : Mailbox.new.pendingFor i = [] := by
  simp [pendingFor, new]

variable {tasks : List RecvPc} {b task : Nat} {pc pc' : RecvPc} {box box' : Mailbox}

lemma Mailbox.Fed.pendingFor {ok : Nat → Nat → Prop}
    (h : box.Fed ok box') : box'.pendingFor = box.pendingFor := by
  induction h with
  | same | close => rfl
  | push _ _ ih => exact ih

lemma InLine.fed {ok : Nat → Nat → Prop}
    (h : InLine tasks b box) (hfed : box.Fed ok box') : InLine tasks b box' := by
  refine ⟨fun i => ?_, fun i => ?_, h.single, fun i => ?_⟩
  · induction hfed with
    | same | close => exact h.order i
    | @push box' id through message _ _ ih =>
      show under i (box'.entered ++ [⟨id, message, through⟩]) = box'.returnedFor i ++
        (box'.pendingFor i ++ (held tasks b i ++ under i (box'.queue ++ [⟨id, message, through⟩])))
      simp only [under_append, ih, append_assoc]
  · rw [hfed.pendingFor]
    exact h.past i
  · rw [hfed.pendingFor]
    exact h.keyed i

/-- What the tasks hold, around the task that moves. -/
lemma held_set (hpc : tasks[task]? = some pc)
    (b i : Nat) : ∃ l r, held tasks b i = l ++ (pc.held b i ++ r) ∧
      ∀ pc', held (tasks.set task pc') b i = l ++ (pc'.held b i ++ r) := by
  obtain ⟨before, after, heq, hset⟩ := set_split hpc
  refine ⟨held before b i, held after b i, ?_, fun pc' => ?_⟩
  · rw [heq]
    simp [held]
  · rw [hset]
    simp [held]

lemma held_set_eq (hpc : tasks[task]? = some pc) {i : Nat} (h : pc'.held b i = pc.held b i) :
    held (tasks.set task pc') b i = held tasks b i := by
  obtain ⟨l, r, hold, hnew⟩ := held_set hpc b i
  rw [hnew, hold, h]

/-- A step of a task, by what is held after it and by what it does to the mailbox. -/
lemma InLine.change (h : InLine tasks b box) {kept : Nat → List QueuedMessage}
    (hheld : ∀ i, held (tasks.set task pc') b i = kept i) (hentered : box'.entered = box.entered)
    (horder : ∀ i, box.returnedFor i ++ (box.pendingFor i ++ (held tasks b i ++ under i box.queue)) =
      box'.returnedFor i ++ (box'.pendingFor i ++ (kept i ++ under i box'.queue)))
    (hpast : ∀ i, ∀ t ∈ tasks, t.Past b i → box.pendingFor i = [] → held tasks b i = [] →
      box'.pendingFor i = [] ∧ kept i = [])
    (hown : ∀ i, pc'.Past b i → box'.pendingFor i = [] ∧ kept i = [])
    (hsingle : ∀ i, (kept i).length ≤ 1) (hkeyed : ∀ i, ∀ q ∈ box'.pendingFor i, q.portId = i) :
    InLine (tasks.set task pc') b box' := by
  obtain rfl : held (tasks.set task pc') b = kept := funext hheld
  refine ⟨fun i => ?_, fun i t ht htpast => ?_, hsingle, hkeyed⟩
  · rw [hentered, h.order i]
    exact horder i
  · rcases mem_or_eq_of_mem_set ht with hmem | rfl
    · obtain ⟨hnone, hfree⟩ := h.past i t hmem htpast
      exact hpast i t hmem htpast hnone hfree
    · exact hown i htpast

/-- A step that does nothing to the mailbox: the task holds what it held, and does not pass its look
into the pending map. -/
lemma InLine.keep (h : InLine tasks b box) (hpc : tasks[task]? = some pc)
    (hheld : ∀ i, pc'.held b i = pc.held b i) (hpast : ∀ i, pc'.Past b i → pc.Past b i) :
    InLine (tasks.set task pc') b box :=
  h.change (fun i => held_set_eq hpc (hheld i)) rfl (fun _ => rfl) (fun _ _ _ _ => .intro)
    (fun i hi => h.past i pc (mem_of_getElem? hpc) (hpast i hi)) h.single h.keyed

/-- A look into the pending map that finds nothing is made while no task holds a message of the id,
and a message of another id is taken out of the inbox while no task holds one of that id or goes
through the inbox for it. -/
def Orderly (s : IpcState) (tasks : List RecvPc) : RecvPc → Prop
  | .popPending inbox _ id => (s.mailbox inbox).pendingFor id = [] → held tasks inbox id = []
  | .popInbox inbox _ id => ∀ q ∈ (s.mailbox inbox).queue.head?, q.portId ≠ id →
      held tasks inbox q.portId = [] ∧ ∀ pc ∈ tasks, ¬ pc.Past inbox q.portId
  | _ => True

instance (s : IpcState) (tasks : List RecvPc) (pc : RecvPc) : Decidable (Orderly s tasks pc) := by
  cases pc <;> unfold Orderly <;> infer_instance

section Moves

variable {tasks : List RecvPc} {task : Nat} {b port id : Nat} {box : Mailbox}
  {queued : QueuedMessage} {rest : List QueuedMessage}

section

variable (h : InLine tasks b box)
include h

section

variable (hpc : tasks[task]? = some (.popPending b port id))
include hpc

lemma InLine.miss (hpending : box.pendingFor id = []) (hok : held tasks b id = []) :
    InLine (tasks.set task (.popInbox b port id)) b (box.popPending id).2 := by
  have hsame : (box.popPending id).2.pendingFor = box.pendingFor := by
    funext i
    rw [box.pendingFor_popPending]
    split
    · rename_i hi
      rw [hi, hpending, tail_nil]
    · rfl
  refine h.change (fun i => held_set_eq hpc rfl) (by rw [box.popPending_rest id]) (fun i => ?_)
    (fun i _ _ _ hnone hfree => ⟨hsame ▸ hnone, hfree⟩) ?_ h.single (hsame ▸ h.keyed)
  · rw [hsame, box.popPending_rest id]
    rfl
  · rintro i ⟨-, rfl⟩
    exact ⟨hsame ▸ hpending, hok⟩

lemma InLine.hit (hpending : box.pendingFor id = queued :: rest) :
    InLine (tasks.set task (.returned (.ok queued.message))) b
      ((box.popPending id).2.handOut port queued) := by
  have hkey : queued.portId = id := h.keyed id queued (hpending ▸ mem_cons_self)
  have hpop : ∀ i, ((box.popPending id).2.handOut port queued).pendingFor i =
      if i = id then rest else box.pendingFor i := by
    intro i
    rw [pendingFor_handOut, box.pendingFor_popPending]
    split
    · rename_i hi
      rw [hi, hpending, tail_cons]
    · rfl
  refine h.change (fun i => held_set_eq hpc rfl) (by rw [box.popPending_rest id]; rfl) (fun i => ?_)
    (fun i _ _ _ hnone hfree => ⟨?_, hfree⟩) (fun _ => False.elim) h.single fun i q hq => ?_
  · rw [hpop, box.popPending_rest id]
    by_cases hi : i = id
    · subst hi
      simp [returnedFor, handOut, hkey, hpending]
    · simp [returnedFor, handOut, hkey, hi, Ne.symm hi]
  · rw [hpop]
    split
    · -- a task past its look has seen the pending map empty
      rename_i hi
      rw [hi, hpending] at hnone
      cases hnone
    · exact hnone
  · rw [hpop] at hq
    split at hq
    · rename_i hi
      exact h.keyed i q (by rw [hi, hpending]; exact mem_cons_of_mem _ hq)
    · exact h.keyed i q hq

end

section

variable (hpc : tasks[task]? = some (.popInbox b port id))
include hpc

lemma InLine.take (hqueue : box.queue = queued :: rest)
    (hid : queued.portId = id) : InLine (tasks.set task (.returned (.ok queued.message))) b
      ({ box with queue := rest }.handOut port queued) := by
  refine h.change (fun i => held_set_eq hpc rfl) rfl (fun i => ?_) (fun _ _ _ _ => .intro)
    (fun _ => False.elim) h.single h.keyed
  show _ = under i ((box.returned ++ [(port, queued)]).map Prod.snd) ++
    (box.pendingFor i ++ (held tasks b i ++ under i rest))
  by_cases hi : id = i
  · -- the task is past its look: nothing of the id is pending or held
    subst hi
    obtain ⟨hpending, hfree⟩ := h.past id _ (mem_of_getElem? hpc) ⟨rfl, rfl⟩
    simp [hpending, hfree, hqueue, hid, returnedFor]
  · simp [hi, hqueue, hid, returnedFor]

lemma InLine.foreign (hqueue : box.queue = queued :: rest)
    (hfree : held tasks b queued.portId = []) (hpast : ∀ pc ∈ tasks, ¬ pc.Past b queued.portId) :
    InLine (tasks.set task (.pushPending b port id queued)) b { box with queue := rest } := by
  have hheld : ∀ i, held (tasks.set task (.pushPending b port id queued)) b i =
      if queued.portId = i then [queued] else held tasks b i := by
    intro i
    obtain ⟨l, r, hold, hnew⟩ := held_set hpc b i
    rw [hnew]
    by_cases hi : queued.portId = i
    · subst hi
      rw [hold] at hfree
      simp only [RecvPc.held, nil_append, append_eq_nil_iff] at hfree
      simp [RecvPc.held, hfree.1, hfree.2]
    · rw [hold]
      simp [RecvPc.held, hi]
  have hother : ∀ i, ∀ t ∈ tasks, t.Past b i → box.pendingFor i = [] → held tasks b i = [] →
      box.pendingFor i = [] ∧ (if queued.portId = i then [queued] else held tasks b i) = [] := by
    intro i t ht htpast hnone hfree
    rw [if_neg (by rintro rfl; exact hpast t ht htpast)]
    exact ⟨hnone, hfree⟩
  have hmem := mem_of_getElem? hpc
  refine h.change hheld rfl (fun i => ?_) hother (fun i hi => ?_) (fun i => ?_) h.keyed
  · show _ = box.returnedFor i ++ (box.pendingFor i ++ (_ ++ under i rest))
    by_cases hi : queued.portId = i
    · subst hi
      simp [hfree, hqueue]
    · simp [hi, hqueue]
  · obtain ⟨hnone, hfree⟩ := h.past i _ hmem hi
    exact hother i _ hmem hi hnone hfree
  · split
    · exact le_refl 1
    · exact h.single i

end

lemma InLine.stash (hpc : tasks[task]? = some (.pushPending b port id queued)) :
    InLine (tasks.set task (.popInbox b port id)) b (box.pushPending queued) := by
  have hmem := mem_of_getElem? hpc
  -- the task holds the only message of the id
  have hsplit : held tasks b queued.portId = [queued] ∧
      held (tasks.set task (.popInbox b port id)) b queued.portId = [] := by
    obtain ⟨l, r, hold, hnew⟩ := held_set hpc b queued.portId
    have hsingle := h.single queued.portId
    rw [hold] at hsingle
    simp only [RecvPc.held, and_self, if_true, length_append, length_cons, length_nil] at hsingle
    have hl : l = [] := eq_nil_of_length_eq_zero (by omega)
    have hr : r = [] := eq_nil_of_length_eq_zero (by omega)
    rw [hold, hnew, hl, hr]
    simp [RecvPc.held]
  obtain ⟨hown, hgone⟩ := hsplit
  have hheld : ∀ i, held (tasks.set task (.popInbox b port id)) b i =
      if queued.portId = i then [] else held tasks b i := by
    intro i
    split
    · rename_i hi
      exact hi ▸ hgone
    · rename_i hi
      exact held_set_eq hpc (by simp [RecvPc.held, hi])
  -- so nobody, the task included, goes through the inbox for it
  have hother : ∀ i, ∀ t ∈ tasks, t.Past b i → box.pendingFor i = [] → held tasks b i = [] →
      (box.pushPending queued).pendingFor i = [] ∧
        (if queued.portId = i then [] else held tasks b i) = [] := by
    intro i t ht htpast hnone hfree
    have hi : queued.portId ≠ i := by
      rintro rfl
      rw [hown] at hfree
      cases hfree
    rw [if_neg hi, box.pendingFor_pushPending, if_neg (Ne.symm hi)]
    exact ⟨hnone, hfree⟩
  refine h.change hheld rfl (fun i => ?_) hother (fun i hi => ?_) (fun i => ?_) fun i q hq => ?_
  · show _ = box.returnedFor i ++ (_ ++ (_ ++ under i box.queue))
    rw [box.pendingFor_pushPending]
    by_cases hi : queued.portId = i
    · subst hi
      simp [hown]
    · simp [hi, Ne.symm hi]
  · obtain ⟨hnone, hfree⟩ := h.past i _ hmem hi
    exact hother i _ hmem hi hnone hfree
  · split
    · exact Nat.zero_le 1
    · exact h.single i
  · rw [box.pendingFor_pushPending] at hq
    split at hq
    · rename_i hi
      rcases mem_append.1 hq with hold | hnew
      · exact h.keyed i q hold
      · rw [mem_singleton.1 hnew]
        exact hi.symm
    · exact h.keyed i q hq

end

end Moves

/-- A step of a task, seen from the mailbox `b`. -/
lemma InLine.moves {s s' : IpcState}
    (h : InLine tasks b (s.mailbox b)) (hpc : tasks[task]? = some pc) (hok : Orderly s tasks pc)
    (hmoves : pc.Moves s s' pc') : InLine (tasks.set task pc') b (s'.mailbox b) := by
  cases hmoves with
  | rest => exact h.keep hpc (fun _ => rfl) fun _ => id
  | gone | quit => exact h.keep hpc (fun _ => rfl) fun _ => False.elim
  | @miss inbox port id hbox hpending =>
    by_cases hinbox : inbox = b
    · subst hinbox
      rw [s.mailbox_onMailbox_self hbox]
      exact h.miss hpc hpending (hok hpending)
    · rw [s.mailbox_onMailbox_ne hinbox]
      exact h.keep hpc (fun _ => rfl) fun _ hpast => absurd hpast.1 hinbox
  | @hit inbox port id queued rest hbox hpending =>
    by_cases hinbox : inbox = b
    · subst hinbox
      rw [s.mailbox_onMailbox_self hbox]
      exact h.hit hpc hpending
    · rw [s.mailbox_onMailbox_ne hinbox]
      exact h.keep hpc (fun _ => rfl) fun _ => False.elim
  | @take inbox port id queued rest hbox hqueue hid =>
    by_cases hinbox : inbox = b
    · subst hinbox
      rw [s.mailbox_onMailbox_self hbox]
      exact h.take hpc hqueue hid
    · rw [s.mailbox_onMailbox_ne hinbox]
      exact h.keep hpc (fun _ => rfl) fun _ => False.elim
  | @foreign inbox port id queued rest hbox hqueue hid =>
    by_cases hinbox : inbox = b
    · subst hinbox
      rw [s.mailbox_onMailbox_self hbox]
      obtain ⟨hfree, hpast⟩ := hok queued (by rw [hqueue]; rfl) hid
      exact h.foreign hpc hqueue hfree hpast
    · rw [s.mailbox_onMailbox_ne hinbox]
      refine h.keep hpc (fun i => ?_) fun _ hpast => hpast
      exact if_neg fun hheld => hinbox hheld.1
  | @stash inbox port id queued =>
    by_cases hinbox : inbox = b
    · subst hinbox
      by_cases hbox : inbox < s.mailboxes.length
      · rw [s.mailbox_onMailbox_self hbox]
        exact h.stash hpc
      · -- a message that is held has entered the inbox, so the inbox is there
        have horder := h.order queued.portId
        rw [s.mailbox_eq_new (Nat.le_of_not_lt hbox), pendingFor_new] at horder
        obtain ⟨l, r, hold, -⟩ := held_set hpc inbox queued.portId
        rw [hold] at horder
        simp [RecvPc.held, Mailbox.new, returnedFor] at horder
    · rw [s.mailbox_onMailbox_ne hinbox]
      refine h.keep hpc (fun i => ?_) fun _ hpast => hpast
      exact (if_neg fun hheld => hinbox hheld.1).symm

/-! ## Runs -/

/-- The steps of tasks are orderly. -/
def OrderlyEvent (pool : Pool IpcState RecvPc) : Event RecvCall PortEvent → Prop
  | .step task => ∀ pc ∈ pool.tasks[task]?, Orderly pool.shared pool.tasks pc
  | _ => True

instance (pool : Pool IpcState RecvPc) (event : Event RecvCall PortEvent) :
    Decidable (OrderlyEvent pool event) := by
  rcases event <;> unfold OrderlyEvent <;> infer_instance

/-- Every mailbox is in line. -/
def AllInLine (pool : Pool IpcState RecvPc) : Prop :=
  ∀ b, InLine pool.tasks b (pool.shared.mailbox b)

lemma AllInLine.step {pool : Pool IpcState RecvPc} (h : AllInLine pool)
    {event : Event RecvCall PortEvent} (hok : OrderlyEvent pool event) :
    AllInLine (pool.step receives event) := by
  refine Pool.step_keeps h (fun call pc _ henter b => ?_) (fun task pc hevent hpc b => ?_)
    fun change _ b => ?_
  · -- a receive begins before its look into the pending map, and holds nothing
    obtain ⟨id, -, rfl⟩ := Option.map_eq_some_iff.1 henter
    have hheld : ∀ i, held (pool.tasks ++ [.popPending call.inbox call.port id]) b i =
        held pool.tasks b i := by
      intro i
      simp [held, RecvPc.held]
    refine ⟨fun i => ?_, fun i t ht hpast => ?_, fun i => ?_, (h b).keyed⟩
    · rw [hheld]
      exact (h b).order i
    · rw [hheld]
      rcases mem_append.1 ht with hold | hnew
      · exact (h b).past i t hold hpast
      · rw [mem_singleton.1 hnew] at hpast
        exact hpast.elim
    · rw [hheld]
      exact (h b).single i
  · subst hevent
    exact (h b).moves hpc (hok pc hpc) (pc.move_moves pool.shared)
  · exact (h b).fed (pool.shared.act_fed change b)

/-- In every run whose steps are orderly, in every inbox and for every id: the messages returned are
the first of those that entered, in the order in which they entered; each of the others is in one
place; and no task goes through the inbox for the id while a message of it is pending. -/
theorem run_inLine (events : List (Event RecvCall PortEvent))
    (hok : Meets (Pool.step receives) OrderlyEvent (.idle .new) events) :
    AllInLine (runOps (Pool.step receives) (.idle .new) events) := by
  refine run_invariant (fun _ _ h hok => h.step hok) (fun b => ?_) hok
  show InLine [] b .new
  refine ⟨fun i => ?_, fun i pc hpc => ?_, fun i => Nat.zero_le 1, fun i q hq => ?_⟩
  · rw [pendingFor_new]
    rfl
  · cases hpc
  · rw [pendingFor_new] at hq
    cases hq

/-- A message with one word. -/
def Message.word (n : Nat) : Message := { Message.new ⟨0, 0, 0⟩ with inlineData := [n] }

/-- One process with two unicast ports. -/
def twoUnicastPorts : List (Event RecvCall PortEvent) :=
  [.environment .process, .environment (.create .unicast), .environment (.create .unicast),
    .environment (.bind 0 ⟨0, 0⟩), .environment (.bind 1 ⟨0, 0⟩)]

/-- Two messages for the second port and one for the first; a receive on the first port sets the
other two aside, in order, for two receives on the second port. -/
def setAside : List (Event RecvCall PortEvent) :=
  twoUnicastPorts ++ [.environment (.send 1 (.word 1) .new), .environment (.send 1 (.word 2) .new),
      .environment (.send 0 (.word 3) .new), .start ⟨0, 0⟩, .step 0, .step 0, .step 0, .step 0,
      .step 0, .step 0, .start ⟨0, 1⟩, .start ⟨0, 1⟩, .step 1, .step 2]

theorem run_inLine_setAside :
    ((runOps (Pool.step receives) (.idle .new) setAside).shared.mailbox 0).returned.map
        (fun entry => (entry.1, entry.2.message.inlineData)) = [(0, [3]), (1, [1]), (1, [2])] ∧
      AllInLine (runOps (Pool.step receives) (.idle .new) setAside) :=
  ⟨by decide +kernel, run_inLine setAside (by decide +kernel)⟩

/-- A task waits on each of two ports, and three messages arrive for the second. The first task takes
the first of them out of the inbox; the second task returns the second message before the first is
pending. The third message is taken out and set aside by the first task as well: then a task that
has begun to wait on the second port waits in an empty inbox, with two messages for it pending. -/
theorem waiting_receiver_overtakes :
    let pool := runOps (Pool.step receives) (.idle .new) (twoUnicastPorts ++
      [.start ⟨0, 0⟩, .step 0, .start ⟨0, 1⟩, .step 1, .start ⟨0, 1⟩, .step 2,
        .environment (.send 1 (.word 1) .new), .environment (.send 1 (.word 2) .new),
        .environment (.send 1 (.word 3) .new), .step 0, .step 1, .step 0, .step 0, .step 0])
    let box := pool.shared.mailbox 0
    box.returned.map (fun entry => (entry.1, entry.2.message.inlineData)) = [(1, [2])] ∧
      box.entered.map (·.message.inlineData) = [[1], [2], [3]] ∧ box.queue = [] ∧
      RecvPc.popInbox 0 1 2 ∈ pool.tasks ∧
      (box.pendingFor 2).map (·.message.inlineData) = [[1], [3]] := by
  decide +kernel

end Akarin.Ipc
