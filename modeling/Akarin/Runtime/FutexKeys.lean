/-
# Akarin.Runtime.FutexKeys -- the key of a futex word

`addr_to_key` names the word at a user address by a VMO and an offset, so that all who share the memory
use one queue. A shared view stores nothing: what it shows is a window of its parent, which may be a
view again, and `page_at` follows the windows to the end (`storage`). The key steps over one view only
(`named`), so two keys agree about a byte exactly if neither address shows a view of a view, or both show
views of one view (`keys_identify_storage_iff`).
-/
import Akarin.Memory.Vmar
import Akarin.Memory.VmoRuns
import Akarin.Runtime.Futex

namespace Akarin.Runtime

open Option
open Lib (runOps)
open Memory

/-! ## Model -/

section

variable (space : VmarTree) (userAddr : Nat)

/-- The mapped VMO and the offset in it, as `addr_to_key` looks them up. -/
def mappedAt : Option (Vmo × Nat) := do
  let mapping ← space.mappingAt 0 userAddr
  let vmoOffset ← mapping.vmoOffsetForAddr userAddr
  return (mapping.vmo, vmoOffset)

/-- The second part of `addr_to_key`. -/
def normalize : Vmo × Nat → Option FutexKey
  | (.child _ _ .sharedView parentOffset parent, vmoOffset) =>
    (checkedAdd parentOffset vmoOffset).map (FutexKey.mk parent.id)
  | (vmo, vmoOffset) => some ⟨vmo.id, vmoOffset⟩

/-- `addr_to_key`, for a process with this address space. -/
def addrToKey : Except FutexError FutexKey :=
  match (mappedAt space userAddr).bind normalize with
  | some key => .ok key
  | none => .error .fault

/-! ## Storage -/

/-- The VMO that stores a byte and the offset there, past every shared view in between. -/
def storage : Vmo → Nat → Option (Vmo × Nat)
  | .child _ _ .sharedView parentOffset parent, offset =>
    (checkedAdd parentOffset offset).bind (storage parent)
  | vmo, offset => some (vmo, offset)

/-- Page lookup ends at the storage. -/
lemma pageAt_storage {heap : VmoHeap} {page : VmoPageMetadata} {vmo : Vmo} {offset : Nat}
    (hpage : vmo.pageAt heap offset = some page) :
    ∃ base place, storage vmo offset = some (base, place) ∧ base.pageAt heap place = some page := by
  induction vmo generalizing offset with
  | root => exact ⟨_, _, rfl, hpage⟩
  | child id backing kind parentOffset parent ih =>
    cases kind with
    | privateCow => exact ⟨_, _, rfl, hpage⟩
    | sharedView =>
      simp only [Vmo.pageAt, reduceCtorEq, false_and, if_false, ite_none_right_eq_some,
        bind_eq_some_iff] at hpage
      obtain ⟨-, next, hnext, hpage⟩ := hpage
      obtain ⟨base, place, hbase, hshown⟩ := ih hpage
      exact ⟨base, place, bind_eq_some_iff.2 ⟨next, hnext, hbase⟩, hshown⟩

/-- The byte that a user address resolves to: the id of the VMO and the offset in it. -/
def byteAt : Option (Nat × Nat) :=
  (mappedAt space userAddr).bind fun mapped =>
    (storage mapped.1 mapped.2).map fun stored => (stored.1.id, stored.2)

/-! ## Keys -/

/-- The VMO stores nothing of its own. -/
def isSharedView (vmo : Vmo) : Bool := vmo.childKind = some .sharedView

/-- A shared view of a shared view. -/
def nested : Vmo → Bool
  | .child _ _ .sharedView _ parent => isSharedView parent
  | _ => false

end

/-- The VMO and the offset that the key names: one view is stepped over. -/
def named : Vmo → Nat → Option (Vmo × Nat)
  | .child _ _ .sharedView parentOffset parent, offset => (checkedAdd parentOffset offset).map (parent, ·)
  | vmo, offset => some (vmo, offset)

/-- Neither is a view of a view, or both are views of one view. -/
def NamedAlike (vmo vmo' : Vmo) : Prop :=
  nested vmo = nested vmo' ∧ (nested vmo = true → vmo.parent = vmo'.parent)
deriving Decidable

section

variable {vmo base base' : Vmo} {offset offset' place place' : Nat}

lemma normalize_eq_named (vmo : Vmo) (offset : Nat) :
    normalize (vmo, offset) = (named vmo offset).map fun stands => ⟨stands.1.id, stands.2⟩ := by
  cases vmo with
  | root => rfl
  | child id backing kind parentOffset parent => cases kind with
    | privateCow => rfl
    | sharedView => simp only [normalize, named, map_map, Function.comp_def]

lemma storage_eq_named (vmo : Vmo) (offset : Nat) :
    storage vmo offset = (named vmo offset).bind fun stands => storage stands.1 stands.2 := by
  cases vmo with
  | root => rfl
  | child id backing kind parentOffset parent => cases kind with
    | privateCow => rfl
    | sharedView => simp only [storage, named, bind_map, Function.comp_def]

/-- What is named is the storage unless the mapped VMO is a view of a view, and its parent then. -/
lemma named_spec (hnamed : named vmo offset = some (base, place)) :
    isSharedView base = nested vmo ∧ (nested vmo = true → vmo.parent = some base) ∧
      (base = vmo ∨ base ∈ vmo.parent) := by
  cases vmo with
  | root =>
    cases hnamed
    exact ⟨rfl, nofun, .inl rfl⟩
  | child id backing kind parentOffset parent => cases kind with
    | privateCow =>
      cases hnamed
      exact ⟨rfl, nofun, .inl rfl⟩
    | sharedView =>
      obtain ⟨_, -, heq⟩ := map_eq_some_iff.1 hnamed
      cases heq
      exact ⟨rfl, fun _ => rfl, .inr rfl⟩

lemma storage_of_not_view (hvmo : isSharedView vmo = false) (offset : Nat) :
    storage vmo offset = some (vmo, offset) := by
  cases vmo with
  | root => rfl
  | child id backing kind => cases kind with
    | privateCow => rfl
    | sharedView => cases hvmo

/-- One VMO shows different bytes at different offsets. -/
lemma storage_inj (h : storage vmo offset = some (base, place))
    (h' : storage vmo offset' = some (base', place)) : offset = offset' := by
  induction vmo generalizing offset offset' with
  | root =>
    cases h
    cases h'
    rfl
  | child id backing kind parentOffset parent ih => cases kind with
    | privateCow =>
      cases h
      cases h'
      rfl
    | sharedView =>
      obtain ⟨next, hnext, h⟩ := bind_eq_some_iff.1 h
      obtain ⟨next', hnext', h'⟩ := bind_eq_some_iff.1 h'
      have hsame := ih h h'
      rw [checkedAdd_eq_some hnext, checkedAdd_eq_some hnext'] at hsame
      exact Nat.add_left_cancel hsame

end

/-- An address that resolves to a byte has a key, and the byte is where the named VMO stores it. -/
lemma addrToKey_of_byteAt {space : VmarTree} {userAddr : Nat} {mapped : Vmo × Nat} {byte : Nat × Nat}
    (hmapped : mappedAt space userAddr = some mapped) (hbyte : byteAt space userAddr = some byte) :
    ∃ base place stored, named mapped.1 mapped.2 = some (base, place) ∧ storage base place = some stored ∧
      byte = (stored.1.id, stored.2) ∧ addrToKey space userAddr = .ok ⟨base.id, place⟩ := by
  rw [byteAt, hmapped, bind_some, storage_eq_named] at hbyte
  obtain ⟨stored, hstored, rfl⟩ := map_eq_some_iff.1 hbyte
  obtain ⟨⟨base, place⟩, hnamed, hstored⟩ := bind_eq_some_iff.1 hstored
  have hkey := normalize_eq_named mapped.1 mapped.2
  rw [hnamed] at hkey
  exact ⟨base, place, stored, hnamed, hstored, rfl, by simp only [addrToKey, hmapped, bind_some, hkey, map_some]⟩

/-- Two mapped addresses, of one process or of two, have keys that are equal exactly if the addresses resolve
to the same byte of the same VMO: this holds exactly if the addresses resolve to different bytes or show VMOs
that are named alike. The VMOs are those of any run. -/
theorem keys_identify_storage_iff (allocator : FrameAllocator) (memory : Nat → Byte) (ops : List VmoSystem.Op)
    {space other : VmarTree} {userAddr otherAddr : Nat} {mapped mapped' : Vmo × Nat} {byte byte' : Nat × Nat}
    (hmapped : mappedAt space userAddr = some mapped) (hmapped' : mappedAt other otherAddr = some mapped')
    (hin : mapped.1 ∈ (runOps VmoSystem.step (.empty allocator memory) ops).vmos)
    (hin' : mapped'.1 ∈ (runOps VmoSystem.step (.empty allocator memory) ops).vmos)
    (hbyte : byteAt space userAddr = some byte) (hbyte' : byteAt other otherAddr = some byte') :
    (∃ key key', addrToKey space userAddr = .ok key ∧ addrToKey other otherAddr = .ok key' ∧
      (key = key' ↔ byte = byte')) ↔ (byte = byte' → NamedAlike mapped.1 mapped'.1) := by
  have hsys := VmoSystem.run_identified allocator memory ops
  obtain ⟨base, place, stored, hnamed, hstored, rfl, hkey⟩ := addrToKey_of_byteAt hmapped hbyte
  obtain ⟨base', place', stored', hnamed', hstored', rfl, hkey'⟩ := addrToKey_of_byteAt hmapped' hbyte'
  obtain ⟨hview, hparent, hbase⟩ := named_spec hnamed
  obtain ⟨hview', hparent', hbase'⟩ := named_spec hnamed'
  -- what is named is a VMO of the run, so its id stands for it alone
  have hid : base.id = base'.id → base = base' := hsys.id_inj
    (hbase.elim (· ▸ hin) (hsys.parents _ hin base)) (hbase'.elim (· ▸ hin') (hsys.parents _ hin' base'))
  have hkeys : (⟨base.id, place⟩ : FutexKey) = ⟨base'.id, place'⟩ ↔ base = base' ∧ place = place' := by
    rw [FutexKey.mk.injEq]
    exact and_congr_left fun _ => ⟨hid, congrArg Vmo.id⟩
  constructor
  · rintro ⟨key, key', hfound, hfound', hiff⟩ hsame
    cases hkey.symm.trans hfound
    cases hkey'.symm.trans hfound'
    obtain ⟨rfl, -⟩ := hkeys.1 (hiff.2 hsame)
    have hnested := hview.symm.trans hview'
    exact ⟨hnested, fun h => (hparent h).trans (hparent' (hnested ▸ h)).symm⟩
  · intro halike
    refine ⟨_, _, hkey, hkey', hkeys.trans ⟨?_, fun hsame => ?_⟩⟩
    · rintro ⟨rfl, rfl⟩
      cases hstored.symm.trans hstored'
      rfl
    · obtain ⟨hnested, hparents⟩ := halike hsame
      cases hcase : nested mapped.1 with
      | false =>
        cases (storage_of_not_view (hview.trans hcase) place).symm.trans hstored
        cases (storage_of_not_view (hview'.trans (hnested.symm.trans hcase)) place').symm.trans hstored'
        exact ⟨hid (Prod.ext_iff.1 hsame).1, (Prod.ext_iff.1 hsame).2⟩
      | true =>
        have hone := (hparent hcase).symm.trans ((hparents hcase).trans (hparent' (hnested ▸ hcase)))
        cases hone
        obtain ⟨_, stop⟩ := stored
        obtain ⟨_, stop'⟩ := stored'
        obtain rfl : stop = stop' := (Prod.ext_iff.1 hsame).2
        exact ⟨rfl, storage_inj hstored hstored'⟩

/-- A VMO of one page, a view of it, and a view of the view. -/
def viewedOps : List VmoSystem.Op :=
  [.new 0x1000 0x1000 (.read ||| .map), .createChild 0 0 0x1000, .createChild 1 0 0x1000]

def viewed : VmoSystem :=
  runOps VmoSystem.step (.empty ⟨0x1000, page_pos, fun _ => none, 0⟩ fun _ => 0) viewedOps

/-- An address space of one page that shows one of the VMOs, or nothing. -/
def showing (position : Nat) : VmarTree :=
  let range : VmRange := ⟨0x400000, 0x401000, by decide⟩
  let vmar := (viewed.vmos[position]?).elim (.new range) fun vmo =>
    (Vmar.mapVmo viewed.heap range vmo 0 (.read ||| .user) .user).exec (.new range)
  ⟨fun _ => vmar, 1⟩

/-- The VMO and the view of it: one word with one key. -/
theorem keys_identify_storage_view :
    ∃ key key', addrToKey (showing 0) 0x400010 = .ok key ∧ addrToKey (showing 1) 0x400010 = .ok key' ∧
      (key = key' ↔ ((0, 0x10) : Nat × Nat) = (0, 0x10)) :=
  (keys_identify_storage_iff ⟨0x1000, page_pos, fun _ => none, 0⟩ (fun _ => 0) viewedOps
    (by decide +kernel : _ = some (.root 0 0x1000 .paged, 0x10))
    (by decide +kernel : _ = some (.child 1 .paged .sharedView 0 (.root 0 0x1000 .paged), 0x10))
    (by decide +kernel) (by decide +kernel) (by decide +kernel) (by decide +kernel)).2 (by decide)

/-- The view of the view shows the same byte under another key. -/
theorem keys_fail : byteAt (showing 0) 0x400010 = some (0, 0x10) ∧
    byteAt (showing 2) 0x400010 = some (0, 0x10) ∧
    addrToKey (showing 0) 0x400010 = .ok ⟨0, 0x10⟩ ∧ addrToKey (showing 2) 0x400010 = .ok ⟨1, 0x10⟩ :=
  ⟨by decide +kernel, by decide +kernel, by decide +kernel, by decide +kernel⟩

end Akarin.Runtime
