/-
# Akarin.Ipc.Descriptor -- handle tables and message descriptors

A process names handles by slots of its handle table. A descriptor in user memory names the slots of
the handles a message is to carry: attachments, a buffer, a reply port. Building the message acquires
a reference to each of them and remembers the slots (`into_message`); the slots are closed afterwards
(`commit`). A received message is written back by installing its handles in free slots
(`write_message`).

Copies from user memory are given with the descriptor: a list that was read, or a fault. Which copies
to user memory succeed is an argument.
-/
import Akarin.Ipc.Authorization

namespace Akarin.Ipc

open List hiding getElem?_insert
open Lib Objects Option
open Std (TreeMap)

/-! ## Handle tables -/

abbrev HandleTable := TreeMap Nat Handle

namespace HandleTable

/-- The first slot that is not in use. -/
def firstFree (table : HandleTable) : Nat :=
  ((List.range (table.keys.length + 1)).find? (· ∉ table.keys)).getD 0

/-- `install_handle_auto`. -/
def install (table : HandleTable) (handle : Handle) : Nat × HandleTable :=
  (firstFree table, table.insert (firstFree table) handle)

/-- `install_handle_auto` on a list of handles. -/
def installAll (table : HandleTable) : List Handle → HandleTable
  | [] => table
  | handle :: rest => installAll (install table handle).2 rest

/-- `acquire_handle`. -/
def acquire (table : HandleTable) (r : Registry) (slot : Nat) : Except (Fault ObjectError) Handle :=
  match table[slot]? with
  | none => .error (.error .objectNotFound)
  | some handle => handle.acquireRef r

/-- `close_handle` on a list of slots, up to the first that is not in use. -/
def closeAll : List Nat → HandleTable → Except (Fault ObjectError) Unit × HandleTable
  | [], table => (.ok (), table)
  | slot :: rest, table =>
    match table[slot]? with
    | none => (.error (.error .objectNotFound), table)
    | some _ => closeAll rest (table.erase slot)

variable (table : HandleTable)

/-- A table has more slots than are in use. -/
lemma firstFree_free : table[firstFree table]? = none := by
  have hexists : ((List.range (table.keys.length + 1)).find? (· ∉ table.keys)).isSome = true := by
    rw [find?_isSome]
    by_contra hall
    push Not at hall
    have hsub : List.range (table.keys.length + 1) ⊆ table.keys := by
      intro slot hslot
      simpa using hall slot hslot
    have hle := (nodup_range.subperm hsub).length_le
    rw [length_range] at hle
    omega
  obtain ⟨slot, hslot⟩ := isSome_iff_exists.1 hexists
  have hfree : firstFree table = slot := by
    rw [firstFree, hslot]
    rfl
  have hnot : slot ∉ table.keys := by simpa using find?_some hslot
  rw [hfree]
  refine not_isSome_iff_eq_none.1 fun hsome => hnot ?_
  exact TreeMap.mem_keys.2 (TreeMap.mem_iff_isSome_getElem?.2 hsome)

/-- Every slot in use keeps its handle. -/
def Extends (table table' : HandleTable) : Prop :=
  ∀ slot : Nat, table[slot]?.isSome = true → table'[slot]? = table[slot]?

lemma Extends.refl : Extends table table := fun _ _ => rfl

lemma extends_install (handle : Handle) : Extends table (install table handle).2 := by
  intro slot hslot
  show (table.insert (firstFree table) handle)[slot]? = _
  rw [getElem?_insert, if_neg]
  rintro rfl
  rw [firstFree_free] at hslot
  cases hslot

lemma Extends.trans {a b c : HandleTable} (hab : Extends a b) (hbc : Extends b c) : Extends a c := by
  intro slot hslot
  have hb := hab slot hslot
  rw [hbc slot (hb ▸ hslot), hb]

lemma extends_installAll (handles : List Handle) : Extends table (installAll table handles) := by
  induction handles generalizing table with
  | nil => exact .refl table
  | cons handle rest ih => exact (extends_install table handle).trans (ih _)

lemma installAll_append (handles handles' : List Handle) :
    installAll table (handles ++ handles') = installAll (installAll table handles) handles' := by
  induction handles generalizing table with
  | nil => rfl
  | cons handle rest ih => exact ih _

variable {table : HandleTable} {slots : List Nat}

/-- Installing a handle changes the table. -/
lemma installAll_ne {handles : List Handle} (h : handles ≠ []) :
    ∃ slot : Nat, (installAll table handles)[slot]? ≠ table[slot]? := by
  cases handles with
  | nil => exact absurd rfl h
  | cons handle rest =>
    have hnew : (install table handle).2[firstFree table]? = some handle := by
      show (table.insert (firstFree table) handle)[firstFree table]? = _
      rw [getElem?_insert, if_pos rfl]
    refine ⟨firstFree table, ?_⟩
    rw [firstFree_free, installAll, extends_installAll _ rest _ (by rw [hnew]; rfl), hnew]
    exact some_ne_none handle

/-- The handle in a slot, as a reference to it has it. -/
def entry (table : HandleTable) (slot : Nat) : Option Handle :=
  (table[slot]?).map fun handle => { handle with object := handle.object.intoShared }

lemma entry_of_acquire {r : Registry} {slot : Nat} {handle : Handle}
    (h : table.acquire r slot = .ok handle) : entry table slot = some handle := by
  unfold acquire at h
  split at h
  · cases h
  · rename_i held hheld
    rw [entry, hheld, Handle.acquireRef_eq_ok h]
    rfl

/-- What is not in use stays so. -/
lemma closeAll_none {slot : Nat} (h : table[slot]? = none) : (closeAll slots table).2[slot]? = none := by
  fun_induction closeAll slots table with
  | case1 | case2 => exact h
  | case3 _ _ _ _ _ ih =>
    refine ih ?_
    rw [getElem?_erase]
    split
    · rfl
    · exact h

/-- Slots can all be closed exactly if they are in use and none is named twice. -/
lemma closeAll_ok_iff : (closeAll slots table).1 = .ok () ↔
      slots.Nodup ∧ ∀ slot ∈ slots, table[slot]?.isSome = true := by
  induction slots generalizing table with
  | nil => simp [closeAll]
  | cons first rest ih =>
    simp only [closeAll, nodup_cons, forall_mem_cons]
    split
    · rename_i hnone
      simp [hnone]
    · rename_i handle hsome
      rw [ih]
      simp only [hsome, isSome_some, true_and]
      constructor
      · rintro ⟨hnodup, hrest⟩
        refine ⟨⟨fun hmem => ?_, hnodup⟩, fun slot hslot => ?_⟩
        · have hfirst := hrest first hmem
          rw [getElem?_erase, if_pos rfl] at hfirst
          cases hfirst
        · have hslot' := hrest slot hslot
          rw [getElem?_erase] at hslot'
          split at hslot'
          · cases hslot'
          · exact hslot'
      · rintro ⟨⟨hfirst, hnodup⟩, hrest⟩
        refine ⟨hnodup, fun slot hslot => ?_⟩
        rw [getElem?_erase, if_neg]
        · exact hrest slot hslot
        · rintro rfl
          exact hfirst hslot

/-- The first slot is closed in any case. -/
lemma closeAll_head {first : Nat} {rest : List Nat} (h : table[first]?.isSome = true) :
    (closeAll (first :: rest) table).2[first]? = none := by
  obtain ⟨handle, hfirst⟩ := isSome_iff_exists.1 h
  simp only [closeAll, hfirst]
  refine closeAll_none ?_
  rw [getElem?_erase, if_pos rfl]

lemma closeAll_closed (h : (closeAll slots table).1 = .ok ()) :
    ∀ slot ∈ slots, (closeAll slots table).2[slot]? = none := by
  induction slots generalizing table with
  | nil => simp
  | cons first rest ih =>
    have hpresent := (closeAll_ok_iff.1 h).2
    obtain ⟨handle, hfirst⟩ := isSome_iff_exists.1 (hpresent first mem_cons_self)
    intro slot hslot
    rcases mem_cons.1 hslot with rfl | hrest
    · exact closeAll_head (hpresent slot mem_cons_self)
    · simp only [closeAll, hfirst] at h ⊢
      exact ih h slot hrest

end HandleTable

/-! ## Descriptors -/

/-- `INVALID_HANDLE_SLOT`. -/
def invalidHandleSlot : Nat := 2 ^ 32 - 1

/-- A descriptor, with what its pointers lead to; `none` is a fault. -/
structure PortUserMessage where
  header : MessageHeader
  inlineWords : Option (List Nat)
  handleSlots : Option (List Nat)
  bufferSlot : Nat
  replyPortSlot : Nat

/-- The slots to be closed when the message has been sent. -/
structure PortCapabilityTransfer where
  attachmentSlots : List Nat
  bufferSlot : Option Nat
  replyPortSlot : Option Nat

/-- `commit`. -/
def PortCapabilityTransfer.commit (transfer : PortCapabilityTransfer) (table : HandleTable) :
    Except (Fault ObjectError) Unit × HandleTable :=
  table.closeAll (transfer.attachmentSlots ++ transfer.bufferSlot.toList ++ transfer.replyPortSlot.toList)

/-- Which copies to user memory succeed: of the words, of the slots, of the descriptor. -/
structure CopyOut where
  words : Bool
  slots : Bool
  descriptor : Bool

namespace PortUserMessage

/-- A slot operand, unless it is the invalid slot. -/
def slotOperand (slot : Nat) : Option Nat := if slot = invalidHandleSlot then none else some slot

/-- The slots the descriptor names. -/
def named (desc : PortUserMessage) : List Nat :=
  desc.handleSlots.getD [] ++ (slotOperand desc.bufferSlot).toList ++
    (slotOperand desc.replyPortSlot).toList

/-- References to the handles in a list of slots. -/
def acquireAll (table : HandleTable) (r : Registry) : List Nat → Except (Fault ObjectError) (List Handle)
  | [] => .ok []
  | slot :: rest =>
    match table.acquire r slot with
    | .error e => .error e
    | .ok handle =>
      match acquireAll table r rest with
      | .error e => .error e
      | .ok handles => .ok (handle :: handles)

/-- A reference to the handle in a slot operand. -/
def acquireOption (table : HandleTable) (r : Registry) :
    Option Nat → Except (Fault ObjectError) (Option Handle)
  | none => .ok none
  | some slot =>
    match table.acquire r slot with
    | .error e => .error e
    | .ok handle => .ok (some handle)

/-- `into_message`. -/
def intoMessage (desc : PortUserMessage) (table : HandleTable) (r : Registry) :
    Except Refusal (Message × PortCapabilityTransfer) :=
  match desc.inlineWords with
  | none => .error (.ipc .fault)
  | some words =>
    match desc.handleSlots with
    | none => .error (.ipc .fault)
    | some slots =>
      match acquireAll table r slots with
      | .error e => .error (.object e)
      | .ok attachments =>
        match acquireOption table r (slotOperand desc.bufferSlot) with
        | .error e => .error (.object e)
        | .ok buffer =>
          match acquireOption table r (slotOperand desc.replyPortSlot) with
          | .error e => .error (.object e)
          | .ok replyPort =>
            .ok (⟨desc.header, words, attachments, buffer, replyPort⟩,
              ⟨slots, slotOperand desc.bufferSlot, slotOperand desc.replyPortSlot⟩)

variable {table : HandleTable} {r : Registry}

lemma acquireAll_eq_ok {slots : List Nat}
    {handles : List Handle} (h : acquireAll table r slots = .ok handles) :
    handles.map some = slots.map table.entry := by
  revert h
  fun_induction acquireAll table r slots generalizing handles with
  | case1 =>
    rintro ⟨⟩
    rfl
  | case4 slot rest handle hhandle tail htail ih =>
    rintro ⟨⟩
    rw [map_cons, map_cons, ih htail, HandleTable.entry_of_acquire hhandle]
  | _ => exact nofun

lemma acquireOption_eq_ok {slot : Option Nat}
    {handle : Option Handle} (h : acquireOption table r slot = .ok handle) :
    handle.toList.map some = slot.toList.map table.entry ∧ handle.isSome = slot.isSome := by
  cases slot with
  | none =>
    obtain rfl := Except.ok.inj h
    exact ⟨rfl, rfl⟩
  | some slot =>
    simp only [acquireOption] at h
    split at h
    · cases h
    rename_i found hfound
    obtain rfl := Except.ok.inj h
    exact ⟨by simp [HandleTable.entry_of_acquire hfound], rfl⟩

variable {desc : PortUserMessage} {message : Message}

/-- The message carries the handles the descriptor names, in order, and the transfer is about the
named slots. -/
lemma intoMessage_eq_ok {transfer : PortCapabilityTransfer}
    (h : desc.intoMessage table r = .ok (message, transfer)) :
    message.handles.map some = desc.named.map table.entry ∧
      message.replyPort.isSome = (slotOperand desc.replyPortSlot).isSome ∧
      ∀ t, transfer.commit t = t.closeAll desc.named := by
  revert h
  fun_cases intoMessage desc table r with
  | case6 _ _ slots hslots attachments hattachments buffer hbuffer replyPort hreply =>
    intro h
    obtain ⟨rfl, rfl⟩ := Prod.mk.inj (Except.ok.inj h)
    obtain ⟨hbuffer, -⟩ := acquireOption_eq_ok hbuffer
    obtain ⟨hreply, hsome⟩ := acquireOption_eq_ok hreply
    refine ⟨?_, hsome, fun t => ?_⟩
    · simp only [Message.handles, named, hslots, getD_some, map_append,
        acquireAll_eq_ok hattachments, hbuffer, hreply]
    · simp only [PortCapabilityTransfer.commit, named, hslots, getD_some]
  | _ => rintro ⟨⟩

section

variable (desc : PortUserMessage)

/-- `write_message`: its answer, and the table with the handles of the message installed. -/
def writeMessage (table : HandleTable) (message : Message)
    (copy : CopyOut) : Except IpcError Unit × HandleTable :=
  if (desc.inlineWords.getD []).length < message.inlineData.length ∨
      (desc.handleSlots.getD []).length < message.attachments.length then
    (.error .bufferTooSmall, table)
  else if message.inlineData ≠ [] ∧ !copy.words then (.error .fault, table)
  else
    let table := table.installAll message.attachments
    if message.attachments ≠ [] ∧ !copy.slots then (.error .fault, table)
    else
      let table := table.installAll (message.buffer.toList ++ message.replyPort.toList)
      if !copy.descriptor then (.error .fault, table) else (.ok (), table)

/-- The message fits into the buffers, and its words can be copied. -/
def Fits (message : Message) (copy : CopyOut) : Prop :=
  message.inlineData.length ≤ (desc.inlineWords.getD []).length ∧
    message.attachments.length ≤ (desc.handleSlots.getD []).length ∧
    (message.inlineData = [] ∨ copy.words = true)
deriving Decidable

/-- And so can the slots of its attachments and the descriptor. -/
def Writable (message : Message) (copy : CopyOut) : Prop :=
  desc.Fits message copy ∧ (message.attachments = [] ∨ copy.slots = true) ∧ copy.descriptor = true
deriving Decidable

lemma extends_writeMessage (table : HandleTable) (message : Message)
    (copy : CopyOut) : table.Extends (desc.writeMessage table message copy).2 := by
  have hattachments := table.extends_installAll message.attachments
  fun_cases writeMessage desc table message copy with
  | case1 | case2 => exact .refl table
  | case3 => exact hattachments
  | _ => exact hattachments.trans (HandleTable.extends_installAll _ _)

lemma writeMessage_ok_iff (table : HandleTable) (message : Message) (copy : CopyOut) :
    (desc.writeMessage table message copy).1 = .ok () ↔ desc.Writable message copy := by
  unfold writeMessage Writable Fits
  split
  · rename_i hsmall
    simp only [reduceCtorEq, false_iff]
    omega
  split
  · rename_i hwords
    simp_all
  simp only
  split
  · simp_all
  split
  · simp_all
  · grind

end

/-- What a write of a message that fits installs. -/
lemma writeMessage_installs {copy : CopyOut} (hfits : desc.Fits message copy)
    (table : HandleTable) : (desc.writeMessage table message copy).2 =
      table.installAll (if message.attachments ≠ [] ∧ copy.slots = false then message.attachments
        else message.handles) := by
  obtain ⟨hwords, hslots, hcopy⟩ := hfits
  unfold writeMessage
  rw [if_neg (by omega), if_neg (by rintro ⟨hne, hfault⟩; simp_all)]
  simp only [Bool.not_eq_true']
  split
  · rfl
  · have hall : table.installAll message.handles = (table.installAll message.attachments).installAll
        (message.buffer.toList ++ message.replyPort.toList) := by
      rw [Message.handles, append_assoc, HandleTable.installAll_append]
    rw [hall]
    split <;> rfl

/-- A write that fails leaves the table alone exactly if it fails before it installs a handle. -/
lemma writeMessage_unchanged_iff (desc : PortUserMessage) (table : HandleTable)
    (message : Message) (copy : CopyOut) :
    (∀ slot : Nat, (desc.writeMessage table message copy).2[slot]? = table[slot]?) ↔
      (desc.Fits message copy → message.handles = []) := by
  by_cases hfits : desc.Fits message copy
  · rw [writeMessage_installs hfits]
    constructor
    · intro hsame _
      by_contra hne
      have hinstalled : (if message.attachments ≠ [] ∧ copy.slots = false then message.attachments
          else message.handles) ≠ [] := by
        split
        · rename_i h
          exact h.1
        · exact hne
      obtain ⟨slot, hslot⟩ := @HandleTable.installAll_ne table _ hinstalled
      exact hslot (hsame slot)
    · intro hnone slot
      have hhandles := hnone hfits
      have hattachments : message.attachments = [] := by
        rw [Message.handles, append_assoc] at hhandles
        exact (append_eq_nil_iff.1 hhandles).1
      rw [if_neg (by simp [hattachments]), hhandles]
      rfl
  · have hsame : (desc.writeMessage table message copy).2 = table := by
      unfold writeMessage
      unfold Fits at hfits
      split
      · rfl
      split
      · rfl
      · exfalso
        simp_all
    rw [hsame]
    simp [hfits]

end PortUserMessage

end Akarin.Ipc
