/-
# Akarin.Ipc.PortIdentity -- a receive on a port returns what was sent through that port

Inboxes and pending maps know ports by their numeric ids only. In an inbox an id is used by the
messages queued under it, pending under it or held by a task, and by the receives that look for it.
As long as nothing of another port uses the id when a message enters an inbox and when a receive
begins (`Unshared`), every id in an inbox belongs to one port, and receives return messages of their
own port (`run_identity`). The two allocators both start at 1, so the first unicast port and the
first broadcast port share an id (`families_share_ids`), and an id is given out again while messages
of the port that had it are still queued.
-/
import Akarin.Ipc.Receive

namespace Akarin.Ipc

open List Lib

/-! ## Whose an id is -/

/-- Every message in the mailbox under the id `i` was sent through `u`. -/
def Mailbox.Only (box : Mailbox) (i u : Nat) : Prop :=
  (∀ q ∈ box.queue, q.portId = i → q.through = u) ∧ ∀ q ∈ box.pendingFor i, q.through = u
deriving Decidable

/-- If the task uses the id `i` in `inbox`, it does so for `u`: it receives on `u`, and a message it
holds was sent through `u`. -/
def RecvPc.Only (b i u : Nat) : RecvPc → Prop
  | .popPending inbox port id => inbox = b → id = i → port = u
  | .popInbox inbox port id => inbox = b → id = i → port = u
  | .pushPending inbox port id queued =>
    (inbox = b → id = i → port = u) ∧ (inbox = b → queued.portId = i → queued.through = u)
  | .returned _ => True

instance (b i u : Nat) (pc : RecvPc) : Decidable (pc.Only b i u) := by
  rcases pc <;> unfold RecvPc.Only <;> infer_instance

/-- Whatever uses the id `i` in the inbox `b` does so for the port `u`. -/
def Only (pool : Pool IpcState RecvPc) (b i u : Nat) : Prop :=
  (pool.shared.mailbox b).Only i u ∧ ∀ pc ∈ pool.tasks, pc.Only b i u

instance (pool : Pool IpcState RecvPc) (b i u : Nat) : Decidable (Only pool b i u) :=
  inferInstanceAs (Decidable (_ ∧ _))

/-- In every inbox every id is used for one port, and what was returned from the inbox was sent
through the port it was asked of. -/
structure Owned (pool : Pool IpcState RecvPc) : Prop where
  owner : ∀ b i, ∃ u, Only pool b i u
  returned : ∀ b, ∀ entry ∈ (pool.shared.mailbox b).returned, entry.2.through = entry.1

/-! ## What steps do -/

variable {ok : Nat → Nat → Prop} {box box' : Mailbox} {i u : Nat}

lemma Mailbox.Only.fed (h : box.Only i u) (hfed : box.Fed ok box')
    (hok : ∀ through, ok i through → through = u) : box'.Only i u := by
  induction hfed with
  | same | close => exact h
  | @push box' id through message _ hsent ih =>
    refine ⟨fun q hq hid => ?_, ih.2⟩
    rcases mem_append.1 hq with hold | hnew
    · exact ih.1 q hold hid
    · rw [mem_singleton.1 hnew] at hid ⊢
      obtain rfl : id = i := hid
      exact hok through hsent

lemma Mailbox.Fed.returned (h : box.Fed ok box') : box'.returned = box.returned := by
  induction h with
  | same | close => rfl
  | push _ _ ih => exact ih

lemma Mailbox.Only.popPending (h : box.Only i u) (id : Nat) : (box.popPending id).2.Only i u := by
  refine ⟨fun q hq => ?_, fun q hq => ?_⟩
  · rw [box.popPending_rest id] at hq
    exact h.1 q hq
  · rw [box.pendingFor_popPending] at hq
    split at hq
    · exact h.2 q (mem_of_mem_tail hq)
    · exact h.2 q hq

section Step

variable {pool : Pool IpcState RecvPc} {task : Nat} {pc : RecvPc} {b i u : Nat}

variable {pc' : RecvPc} {s' : IpcState}

/-- One task has moved and one mailbox has changed. -/
lemma Only.replace (h : Only pool b i u) {inbox : Nat} {f : Mailbox → Mailbox}
    (hbox : inbox = b → (pool.shared.mailbox b).Only i u → (f (pool.shared.mailbox b)).Only i u)
    (hpc : pc'.Only b i u) : Only ⟨pool.shared.onMailbox inbox f, pool.tasks.set task pc'⟩ b i u := by
  refine ⟨?_, forall_set (fun _ _ hpc => hpc) hpc h.2⟩
  rcases pool.shared.mailbox_onMailbox inbox b f with heq | ⟨hinbox, -, heq⟩
  · exact heq ▸ h.1
  · exact heq ▸ hbox hinbox h.1

/-- A step of a task moves what uses an id about, and brings nothing new. -/
lemma Only.moves (h : Only pool b i u) (hpc : pool.tasks[task]? = some pc)
    (hmoves : pc.Moves pool.shared s' pc') : Only ⟨s', pool.tasks.set task pc'⟩ b i u := by
  have hown : pc.Only b i u := h.2 pc (mem_of_getElem? hpc)
  cases hmoves with
  | rest => exact ⟨h.1, forall_set (fun _ _ hpc => hpc) hown h.2⟩
  | gone | quit => exact ⟨h.1, forall_set (fun _ _ hpc => hpc) trivial h.2⟩
  | @miss inbox port id => exact h.replace (fun _ honly => honly.popPending id) hown
  | @hit inbox port id => exact h.replace (fun _ honly => honly.popPending id) trivial
  | take hbox hqueue hid =>
    refine h.replace (fun hinbox honly => ?_) trivial
    subst hinbox
    exact ⟨fun q hq => honly.1 q (hqueue ▸ mem_cons_of_mem _ hq), honly.2⟩
  | @foreign inbox port id queued rest hbox hqueue hid =>
    refine h.replace (fun hinbox honly => ?_) ⟨hown, fun hinbox hid => ?_⟩
    · subst hinbox
      exact ⟨fun q hq => honly.1 q (hqueue ▸ mem_cons_of_mem _ hq), honly.2⟩
    · -- the message that is held now was in the inbox
      subst hinbox
      exact h.1.1 queued (hqueue ▸ mem_cons_self) hid
  | @stash inbox port id queued =>
    refine h.replace (fun hinbox honly => ⟨honly.1, fun q hq => ?_⟩) hown.1
    rw [Mailbox.pendingFor_pushPending] at hq
    split at hq
    · rename_i hid
      rcases mem_append.1 hq with hold | hnew
      · exact honly.2 q hold
      · -- the message that is pending now was held
        rw [mem_singleton.1 hnew]
        exact hown.2 hinbox hid.symm
    · exact honly.2 q hq

/-- A step returns a message that was queued under the id its task looks for. -/
lemma Owned.returned_moves (h : Owned pool) (hpc : pool.tasks[task]? = some pc)
    (hmoves : pc.Moves pool.shared s' pc') (entry : Nat × QueuedMessage)
    (hentry : entry ∈ (s'.mailbox b).returned) : entry.2.through = entry.1 := by
  have honly : ∀ i, ∃ u, (pool.shared.mailbox b).Only i u ∧ pc.Only b i u := by
    intro i
    obtain ⟨u, hshared, htasks⟩ := h.owner b i
    exact ⟨u, hshared, htasks pc (mem_of_getElem? hpc)⟩
  -- the mailboxes of `s'` are those of the pool, but for one, which has returned `l` more
  have hone : ∀ {inbox : Nat} {f : Mailbox → Mailbox} {l : List (Nat × QueuedMessage)},
      entry ∈ ((pool.shared.onMailbox inbox f).mailbox b).returned →
      (∀ box, (f box).returned = box.returned ++ l) →
      (∀ e ∈ l, inbox = b → e.2.through = e.1) → entry.2.through = entry.1 := by
    intro inbox f l hget hf hnew
    rcases pool.shared.mailbox_onMailbox inbox b f with heq | ⟨hinbox, -, heq⟩
    · exact h.returned b entry (heq ▸ hget)
    · rw [heq, hf] at hget
      rcases mem_append.1 hget with hold | hlast
      · exact h.returned b entry hold
      · exact hnew entry hlast hinbox
  cases hmoves with
  | rest | gone | quit => exact h.returned b entry hentry
  | @miss inbox port id hbox hpending =>
    refine hone (l := []) hentry (fun box => ?_) nofun
    rw [box.popPending_rest id, append_nil]
  | @hit inbox port id queued rest hbox hpending =>
    refine hone (l := [(port, queued)]) hentry (fun box => ?_) fun e he hinbox => ?_
    · rw [box.popPending_rest id]
      rfl
    · subst hinbox
      obtain ⟨u, hshared, hpc⟩ := honly id
      rw [mem_singleton.1 he]
      have hsent : queued.through = u := hshared.2 queued (hpending ▸ mem_cons_self)
      have hasked : port = u := hpc rfl rfl
      exact hsent.trans hasked.symm
  | @take inbox port id queued rest hbox hqueue hid =>
    refine hone (l := [(port, queued)]) hentry (fun _ => rfl) fun e he hinbox => ?_
    subst hinbox
    obtain ⟨u, hshared, hpc⟩ := honly id
    rw [mem_singleton.1 he]
    have hsent : queued.through = u := hshared.1 queued (hqueue ▸ mem_cons_self) hid
    have hasked : port = u := hpc rfl rfl
    exact hsent.trans hasked.symm
  | foreign | stash =>
    exact hone (l := []) hentry (fun _ => (append_nil _).symm) nofun

end Step

/-! ## Runs -/

/-- When a receive begins, and when a message enters an inbox, the id of the port is not used for
another port in that inbox. -/
def Unshared (pool : Pool IpcState RecvPc) : Event RecvCall PortEvent → Prop
  | .start call =>
    ∀ id ∈ (pool.shared.port? call.port).bind Port.id?, Only pool call.inbox id call.port
  | .environment (.send uid _ _) =>
    ∀ port ∈ pool.shared.port? uid, ∀ id ∈ port.id?, ∀ b ∈ port.channels, Only pool b id uid
  | _ => True

instance (pool : Pool IpcState RecvPc) (event : Event RecvCall PortEvent) :
    Decidable (Unshared pool event) := by
  unfold Unshared; split <;> infer_instance

lemma Owned.step {pool : Pool IpcState RecvPc} (h : Owned pool)
    {event : Event RecvCall PortEvent} (hunshared : Unshared pool event) :
    Owned (pool.step receives event) := by
  refine Pool.step_keeps h (fun call pc hevent henter => ?_) (fun task pc _ hpc => ?_)
    fun change hevent => ?_
  · -- a receive begins: its id is now used for its port
    subst hevent
    obtain ⟨id, hid, rfl⟩ := Option.map_eq_some_iff.1 henter
    refine ⟨fun b i => ?_, h.returned⟩
    by_cases hnew : call.inbox = b ∧ id = i
    · obtain ⟨rfl, rfl⟩ := hnew
      obtain ⟨hshared, htasks⟩ := hunshared id hid
      refine ⟨call.port, hshared, fun pc hpc => ?_⟩
      rcases mem_append.1 hpc with hold | hlast
      · exact htasks pc hold
      · rw [mem_singleton.1 hlast]
        exact fun _ _ => rfl
    · obtain ⟨u, hshared, htasks⟩ := h.owner b i
      refine ⟨u, hshared, fun pc hpc => ?_⟩
      rcases mem_append.1 hpc with hold | hlast
      · exact htasks pc hold
      · rw [mem_singleton.1 hlast]
        exact fun hb hi => absurd ⟨hb, hi⟩ hnew
  · have hmoves := pc.move_moves pool.shared
    refine ⟨fun b i => ?_, fun b => h.returned_moves hpc hmoves⟩
    obtain ⟨u, hu⟩ := h.owner b i
    exact ⟨u, hu.moves hpc hmoves⟩
  · subst hevent
    refine ⟨fun b i => ?_, fun b entry hentry => ?_⟩
    · -- who the id belongs to: the port that sends, if it sends under it into the inbox
      have howner : ∃ u, Only pool b i u ∧ ∀ through, pool.shared.Sends change b i through →
          through = u := by
        by_cases hsends : ∃ uid, pool.shared.Sends change b i uid
        · obtain ⟨uid, message, r, port, rfl, hport, hid, hb⟩ := hsends
          refine ⟨uid, hunshared port hport i hid b hb, ?_⟩
          rintro through ⟨_, _, _, heq, -⟩
          exact (PortEvent.send.inj heq).1.symm
        · obtain ⟨u, hu⟩ := h.owner b i
          exact ⟨u, hu, fun through hthrough => absurd ⟨through, hthrough⟩ hsends⟩
      obtain ⟨u, hu, hsends⟩ := howner
      exact ⟨u, hu.1.fed (pool.shared.act_fed change b) hsends, hu.2⟩
    · replace hentry : entry ∈ ((pool.shared.act change).mailbox b).returned := hentry
      rw [(pool.shared.act_fed change b).returned] at hentry
      exact h.returned b entry hentry

/-- In every run in which an id is used for one port at a time in an inbox, what a receive on a
port returns was sent through that port. -/
theorem run_identity (events : List (Event RecvCall PortEvent))
    (hunshared : Meets (Pool.step receives) Unshared (.idle .new) events) (b : Nat) :
    ∀ entry ∈ ((runOps (Pool.step receives) (.idle .new) events).shared.mailbox b).returned,
      entry.2.through = entry.1 := by
  have hstart : Owned (.idle .new) := by
    refine ⟨fun b i => ⟨0, ⟨fun q hq => ?_, fun q hq => ?_⟩, fun pc hpc => ?_⟩, fun b entry he => ?_⟩
    · cases hq
    · simp [Pool.idle, IpcState.mailbox, IpcState.new, Mailbox.pendingFor, Mailbox.new] at hq
    · cases hpc
    · cases he
  exact (run_invariant (fun _ _ h hok => h.step hok) hstart hunshared).returned b

/-- A message without payload. -/
def Message.empty : Message := .new ⟨0, 0, 0⟩

/-- Two unicast ports of one process, a message through each, and a receive on each, the second
port's first. -/
def twoPorts : List (Event RecvCall PortEvent) :=
  [.environment .process, .environment (.create .unicast), .environment (.create .unicast),
    .environment (.bind 0 ⟨0, 0⟩), .environment (.bind 1 ⟨0, 0⟩),
    .environment (.send 0 .empty .new), .environment (.send 1 .empty .new),
    .start ⟨0, 1⟩, .start ⟨0, 0⟩, .step 0, .step 0, .step 0, .step 0, .step 1]

theorem run_identity_twoPorts :
    ((runOps (Pool.step receives) (.idle .new) twoPorts).shared.mailbox 0).returned.map
        (fun entry => (entry.1, entry.2.through)) = [(1, 1), (0, 0)] ∧
      ∀ entry ∈ ((runOps (Pool.step receives) (.idle .new) twoPorts).shared.mailbox 0).returned,
        entry.2.through = entry.1 :=
  ⟨by decide +kernel, run_identity twoPorts (by decide +kernel) 0⟩

/-- A process makes a unicast port and a broadcast port: both get the id 1. It subscribes to the
broadcast port, a message is sent through that, and a receive on the unicast port returns it. -/
theorem families_share_ids : ∃ entry ∈ ((runOps (Pool.step receives) (.idle .new)
        [.environment .process, .environment (.create .unicast), .environment (.create .broadcast),
          .environment (.subscribe 1 ⟨0, 0⟩), .environment (.send 1 .empty .new), .start ⟨0, 0⟩,
          .step 0, .step 0]).shared.mailbox 0).returned, entry.1 = 0 ∧ entry.2.through = 1 := by
  decide +kernel

end Akarin.Ipc
