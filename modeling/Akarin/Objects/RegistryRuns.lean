/-
# Akarin.Objects.RegistryRuns -- the registry over whole runs

`Change` lists what a step of the world can do to the registry (`step_change`), and the invariants of
runs are read off it. The map and the queue of indices are exact in every run on registered objects.
The tree of children maps stays linked, and removals take out exact subtrees, as long as no handle of
an object that is already destroyed unlinks an entry of an object that has come into its place
(`run_integrity`, `stale_drop_unlinks_successor`).
-/
import Akarin.Objects.Links

namespace Akarin.Objects

open Lib Registry Bool

namespace Registry

/-! ## The operations that remove, by case -/

/-- The checks of `Registry::remove` let the handle through to `remove_internal`. -/
def Reaches (handle : Handle) (isKernel : Bool) (r : Registry) : Prop :=
  handle.capabilities.contains .admin = true ∧ (handle.object.upgrade r).isSome = true ∧
    (isKernel = true ∨ (r.objects handle.uid).isSticky = false)
deriving Decidable

lemma remove_cases (handle : Handle) (isKernel : Bool) (r : Registry) :
    (¬ Reaches handle isKernel r ∧ ∃ e, remove handle isKernel r = (.error e, r)) ∨
      (Reaches handle isKernel r ∧ remove handle isKernel r = removeInternal handle.uid r) := by
  fun_cases remove handle isKernel r with
  | case1 hadmin =>
    refine .inl ⟨fun h => ?_, _, rfl⟩
    rw [h.1] at hadmin
    cases hadmin
  | case2 hadmin hnone =>
    refine .inl ⟨fun h => ?_, _, rfl⟩
    have hsome := h.2.1
    rw [hnone] at hsome
    cases hsome
  | case3 hadmin uid huid hsticky =>
    obtain rfl : uid = handle.uid := ObjectRef.upgrade_eq_some huid
    refine .inl ⟨fun h => ?_, _, rfl⟩
    obtain ⟨hkernel, hsticky⟩ := and_eq_true_iff.1 hsticky
    rcases h.2.2 with hk | hs
    · rw [hk] at hkernel
      cases hkernel
    · exact eq_false_iff.1 hs hsticky
  | case4 hadmin uid huid hsticky =>
    obtain rfl : uid = handle.uid := ObjectRef.upgrade_eq_some huid
    refine .inr ⟨⟨by simpa using hadmin, by rw [huid]; rfl, ?_⟩, rfl⟩
    cases isKernel with
    | true => exact .inl rfl
    | false => exact .inr (by simpa using hsticky)

variable {r : Registry} {self childId target : Nat} {name : String}

variable {handle : Handle}

/-- Dropping a handle that is not an administrator's of a registered object removes nothing. -/
lemma dropHandle_idle (h : ¬ (handle.capabilities.contains .admin = true ∧ handle.registered = true)) :
    (dropHandle handle r).2 = r ∨ (dropHandle handle r).2 = r.free handle.uid := by
  have hcond : (handle.capabilities.contains .admin && handle.registered &&
      handle.objectId.isSome) = false := by
    rw [← and_eq_true_iff, not_eq_true] at h
    rw [h, Bool.false_and]
  unfold dropHandle
  rw [hcond]
  cases hobject : handle.object with
  | shared uid => exact .inl rfl
  | owned uid =>
    refine .inr ?_
    rw [Handle.uid, hobject]
    rfl

/-- Dropping an administrator's handle of a registered object is `Registry::remove`. -/
lemma dropHandle_admin (hok : HandleOk r handle)
    (hadmin : handle.capabilities.contains .admin = true) (hreg : handle.registered = true) :
    (dropHandle handle r).2 = (remove handle true r).2 := by
  have hid : handle.objectId.isSome = true := by
    rw [Handle.objectId, hok.id, Object.index, ← hok.registered, hreg]
    rfl
  unfold dropHandle
  simp only [hadmin, hreg, hid, Bool.and_self, if_true]
  cases hobject : handle.object with
  | shared uid =>
    -- however the removal ends, the registry is the one it leaves
    dsimp only
    split <;>
    · rename_i heq
      rw [heq]
  | owned uid =>
    have howned := hok.owned uid hobject
    rw [hreg] at howned
    cases howned

/-- A child is found under its name, or nothing happens; then its entry goes, and it is removed. -/
def ChildRemoved (r : Registry) (self : Nat) (name : String)
    (result : Except (Fault ObjectError) Nat × Registry) : Prop :=
  (∃ e, result = (.error e, r)) ∨
    ∃ target, target < r.nextUid ∧ (r.objects target).registered = true ∧ r.Active target ∧
      (r.objects self).children[name]? = some (r.objects target).id ∧
      result = (.ok (r.objects target).id,
        (removeInternal target (r.setChildren self ((r.objects self).children.erase name))).2)

section

variable (h : Integral r)
include h

/-- What an entry of an active object leads to. -/
lemma Integral.child (hself : self < r.nextUid) (hactive : r.Active self)
    (hentry : (r.objects self).children[name]? = some childId) : (r.objects self).registered = true ∧
      ∃ target, r.map[childId]? = some target ∧ target < r.nextUid ∧
        (r.objects target).registered = true ∧ r.Active target ∧ (r.objects target).id = childId := by
  obtain ⟨target, hmap, hparent, -⟩ := h.entries self hself hactive name childId hentry
  obtain ⟨hlt, hreg, hact, hid⟩ := h.filed.map childId target hmap
  exact ⟨(h.pedigree.parent target hlt self hparent).2.1, target, hmap, hlt, hreg, hact, hid⟩

/-- The removal of the child a name leads to, after its entry is gone, succeeds. -/
lemma Integral.andThen_removed
    (name : String) (hlt : target < r.nextUid) (hreg : (r.objects target).registered = true)
    (hactive : r.Active target) : Action.andThen (removeInternal target) (fun _ => .ret childId)
      (r.setChildren self ((r.objects self).children.erase name)) = (.ok childId,
        (removeInternal target (r.setChildren self ((r.objects self).children.erase name))).2) := by
  have ht := @Trims.erase r self name
  have hok := ((h.trims ht).removal (ht.nextUid ▸ hlt) ((ht.registered target).trans hreg)
    ((ht.active target).2 hactive)).1
  refine Prod.ext ?_ (Action.andThen_ret_state _ _ _)
  unfold Action.andThen
  rw [show removeInternal target _ = (.ok (), _) from Prod.ext hok rfl]
  rfl

lemma Integral.writeRemoveChild_removed
    (hself : self < r.nextUid) (hactive : r.Active self) (name : String) (isKernel : Bool) :
    ChildRemoved r self name (writeRemoveChild self name isKernel r) := by
  fun_cases writeRemoveChild self name isKernel r with
  | case6 _ childId hentry _ child hchild =>
    obtain ⟨-, target, hmap, hlt, htreg, htactive, rfl⟩ := h.child hself hactive hentry
    obtain rfl := Option.mem_unique hchild hmap
    exact .inr ⟨child, hlt, htreg, htactive, hentry, h.andThen_removed name hlt htreg htactive⟩
  | _ => exact .inl ⟨_, rfl⟩

/-- The entry is erased before anything is checked, but on an active object every check passes. -/
lemma Integral.adminRemoveChild_removed
    (hself : self < r.nextUid) (hactive : r.Active self) (name : String) (isKernel : Bool) :
    ChildRemoved r self name (adminRemoveChild self name isKernel r) := by
  have ht := @Trims.erase r self name
  unfold adminRemoveChild
  split
  · exact .inl ⟨_, rfl⟩
  split
  · exact .inl ⟨_, rfl⟩
  rename_i childId hentry
  obtain ⟨hreg, target, hmap, hlt, htreg, htactive, rfl⟩ := h.child hself hactive hentry
  dsimp only
  rw [ht.registered, hreg, ht.map, hmap]
  exact .inr ⟨target, hlt, htreg, htactive, hentry, h.andThen_removed name hlt htreg htactive⟩

end

/-- `add_child` on an active object refuses, or attaches the child; it never rolls back. -/
lemma addChild_active (hself : self < r.nextUid)
    (hactive : r.Active self) (name : String) (maskedCaps : Capability) :
    (∃ e, addChild self name maskedCaps r = (.error e, r)) ∨
      ((r.objects self).registered = true ∧ (r.objects self).children[name]? = none ∧
        addChild self name maskedCaps r = (.ok (r.attachChild self name maskedCaps).handle,
          (r.attachChild self name maskedCaps).registry)) := by
  unfold addChild
  split
  · exact .inl ⟨_, rfl⟩
  split
  · exact .inl ⟨_, rfl⟩
  rename_i hfree
  have hname : (r.objects self).children[name]? = none := by simpa using hfree
  split
  · exact .inl ⟨_, rfl⟩
  rename_i hreg
  refine .inr ⟨by simpa using hreg, hname, ?_⟩
  have hentry : (r.attachChild self name maskedCaps).entry = (r.attachChild self name maskedCaps).id := by
    simp [attachChild, insertInternal, build, setObject, ne_of_lt hself, hname]
  have hstatus : ((r.attachChild self name maskedCaps).registry.objects self).status = .active :=
    (attachChild_status hself hself).trans hactive
  simp only [hentry, hstatus, ne_eq, not_true_eq_false, if_false]

/-! ## What a step can do to the registry -/

/-- The unlinking of `uid` would take away an entry. -/
def UnlinksEntry (r : Registry) (uid : Nat) : Prop :=
  ∃ parent ∈ (r.objects uid).parent.bind (r.map[·]?),
    (r.objects parent).children[(r.objects uid).name]? = some (r.objects uid).id
deriving Decidable

lemma unlink_eq_self {uid : Nat} (h : ¬ UnlinksEntry r uid) : r.unlink uid = r := by
  unfold unlink
  dsimp only
  split
  · rfl
  · rename_i parent hparent
    rw [if_neg]
    exact fun hentry => h ⟨parent, hparent, hentry⟩

/-- The changes of the registry; `stale` says whether the last one may happen. -/
inductive Change (stale : Prop) (r : Registry) : Registry → Prop
  | same {r' : Registry} (ht : Trims r r') (hback : Trims r' r) : Change stale r r'
  | anonymous (maskedCaps : Capability) : Change stale r (Handle.newAnonymous maskedCaps r).2
  | attach {self : Nat} {name : String} {maskedCaps : Capability} (hself : self < r.nextUid)
      (hreg : (r.objects self).registered = true) (hactive : r.Active self)
      (hname : (r.objects self).children[name]? = none) :
      Change stale r (r.attachChild self name maskedCaps).registry
  | remove {target : Nat} (hlt : target < r.nextUid)
      (hreg : (r.objects target).registered = true) (hactive : r.Active target) :
      Change stale r (removeInternal target r).2
  | removeChild {self target : Nat} {name : String} (hlt : target < r.nextUid)
      (hreg : (r.objects target).registered = true) (hactive : r.Active target)
      (hentry : (r.objects self).children[name]? = some (r.objects target).id) :
      Change stale r (removeInternal target (r.setChildren self ((r.objects self).children.erase name))).2
  | unlinkStale {uid : Nat} (h : stale) : Change stale r (r.unlink uid)

namespace Change

variable {stale : Prop} {r r' : Registry}

lemma refl (r : Registry) : Change stale r r := .same (.refl r) (.refl r)

/-- A setter of metadata. -/
lemma setObject (uid : Nat) {object : Object} (hidentity : object.identity = (r.objects uid).identity)
    (hstatus : object.status = (r.objects uid).status)
    (hchildren : object.children = (r.objects uid).children) :
    Change stale r (r.setObject uid object) := by
  have ht : Trims r (r.setObject uid object) :=
    .setObject uid hidentity hstatus fun name childId h => hchildren ▸ h
  refine .same ht (ht.symm fun u => ?_)
  simp only [Registry.setObject]
  split
  · rename_i h
    rw [hchildren, h]
  · rfl

lemma free (uid : Nat) : Change stale r (r.free uid) :=
  .same ⟨rfl, rfl, rfl, rfl, fun _ => rfl, fun _ => rfl, fun _ _ _ => id⟩
    ⟨rfl, rfl, rfl, rfl, fun _ => rfl, fun _ => rfl, fun _ _ _ => id⟩

lemma integral (h : Change stale r r') (hr : Integral r) : Integral r' := by
  cases h with
  | same ht hback => exact hr.trims ht
  | anonymous maskedCaps => exact hr.newAnonymous maskedCaps
  | attach hself hreg hactive hname => exact hr.attachChild hself hreg hname
  | remove hlt hreg hactive => exact (hr.removal hlt hreg hactive).2.1
  | @removeChild self target name hlt hreg hactive hentry =>
    have ht := @Trims.erase r self name
    exact ((hr.trims ht).removal (ht.nextUid ▸ hlt) ((ht.registered target).trans hreg)
      ((ht.active target).2 hactive)).2.1
  | unlinkStale h => exact hr.trims (.unlink r _)

end Change

/-- The removal of a child whose entry was taken away first. -/
lemma Integral.removal_child (h : Integral r) (hlinked : Linked r) (hlt : target < r.nextUid)
    (hreg : (r.objects target).registered = true) (hactive : r.Active target)
    (hentry : (r.objects self).children[name]? = some (r.objects target).id) :
    let r' := (removeInternal target (r.setChildren self ((r.objects self).children.erase name))).2
    Linked r' ∧ RemovesExactly r r' target := by
  intro r'
  have ht := @Trims.erase r self name
  have hself := h.filed.active target hlt hreg hactive
  obtain ⟨hl, hexact⟩ := ((h.trims ht).removal (ht.nextUid ▸ hlt) ((ht.registered target).trans hreg)
    ((ht.active target).2 hactive)).2.2 ((hlinked.but target).erase h hself hentry)
  refine ⟨hl, fun i u => ?_⟩
  have hiff := hexact i u
  rw [ht.map, ht.below] at hiff
  exact hiff

lemma Change.linked {r' : Registry} (h : Change False r r') (hr : Integral r)
    (hlinked : Linked r) : Linked r' := by
  cases h with
  | same ht hback => exact hlinked.trims ht hback
  | anonymous maskedCaps => exact hlinked.newAnonymous hr maskedCaps
  | attach hself hreg hactive hname => exact hlinked.attachChild hr hself hreg hactive hname
  | remove hlt hreg hactive =>
    exact ((hr.removal hlt hreg hactive).2.2 (hlinked.but _)).1
  | removeChild hlt hreg hactive hentry =>
    exact (hr.removal_child hlinked hlt hreg hactive hentry).1
  | unlinkStale h => exact h.elim

lemma ChildRemoved.change {stale : Prop}
    {result : Except (Fault ObjectError) Nat × Registry} (h : ChildRemoved r self name result) :
    Change stale r result.2 := by
  rcases h with ⟨e, rfl⟩ | ⟨target, hlt, hreg, hactive, hentry, rfl⟩
  · exact .refl r
  · exact .removeChild hlt hreg hactive hentry

end Registry

namespace World

/-- The slot of a removal through a handle, and whether the kernel asks for it. -/
def Op.removal : Op → Option (Nat × Bool)
  | .remove slot isKernel => some (slot, isKernel)
  | .drop slot => some (slot, true)
  | _ => none

/-- The slot whose handle is given to `Registry::remove`. -/
def Op.removeSlot : Op → Option Nat
  | .remove slot _ => some slot
  | _ => none

/-- A handle given to `Registry::remove` is one of a registered object. -/
def OnRegistered (w : World) (op : Op) : Prop :=
  ∀ slot ∈ op.removeSlot, ∀ handle ∈ w.handle? slot, handle.registered = true
deriving Decidable

/-- No removal, through a handle of an object that is destroyed already, finds an entry to unlink. -/
def NoStaleUnlink (w : World) (op : Op) : Prop :=
  ∀ removal ∈ op.removal, ∀ handle ∈ w.handle? removal.1, handle.registered = true →
    Reaches handle removal.2 w.registry → ¬ w.registry.Active handle.uid →
    ¬ UnlinksEntry w.registry handle.uid
deriving Decidable

variable {stale : Prop} {w : World} {r : Registry} {ops : List Op}

/-- An operation on the handle in a slot changes the registry in a listed way if it does for every
handle that can be there. -/
lemma withHandle_change (h : w.Coherent) (slot : Nat) {f : Handle → World}
    (hf : ∀ handle, w.handle? slot = some handle → HandleOk w.registry handle →
      Change stale w.registry (f handle).registry) :
    Change stale w.registry (w.withHandle slot f).registry :=
  withHandle_rule (P := fun w' => Change stale w.registry w'.registry) (.refl _)
    fun handle hslot => hf handle hslot (h.handleOk hslot)

/-- `Registry::remove` through a handle of a registered object. -/
lemma remove_change (h : Integral r) {handle : Handle} (hok : HandleOk r handle)
    (hreg : handle.registered = true) (isKernel : Bool)
    (hstale : Reaches handle isKernel r → ¬ r.Active handle.uid → UnlinksEntry r handle.uid → stale) :
    Change stale r (remove handle isKernel r).2 := by
  rcases remove_cases handle isKernel r with ⟨-, e, heq⟩ | ⟨hreach, heq⟩
  · rw [heq]
    exact .refl r
  · rw [heq]
    rcases removeInternal_cases handle.uid h.map_bound with ⟨hdead, hres⟩ | ⟨hactive, -⟩
    · rw [hres]
      by_cases hentry : UnlinksEntry r handle.uid
      · exact .unlinkStale (hstale hreach hdead hentry)
      · rw [unlink_eq_self hentry]
        exact .refl r
    · exact .remove hok.uid_lt (hok.registered ▸ hreg) hactive

/-- An operation through a handle whose object is active. -/
lemma withObject_change {α : Type} (handle : Handle) (required : Capability)
    (f : Nat → Action Registry ObjectError α)
    (hf : r.Active handle.uid → Change stale r (f handle.uid r).2) :
    Change stale r (handle.withObject required f r).2 := by
  rcases handle.withObject_cases required f r with ⟨e, heq⟩ | ⟨hactive, heq⟩
  · rw [heq]
    exact .refl r
  · rw [heq]
    exact hf hactive

lemma setMeta_change (w : World) (handle : Handle) {f : Object → Object}
    (hf : ∀ object, (f object).identity = object.identity ∧ (f object).status = object.status ∧
      (f object).children = object.children) : Change stale w.registry (w.setMeta handle f).registry := by
  apply withObject_change
  intro _
  exact .setObject _ (hf _).1 (hf _).2.1 (hf _).2.2

/-- Every step changes the registry in a listed way. -/
lemma step_change (hw : w.Coherent) (h : Integral w.registry) {op : Op}
    (hon : OnRegistered w op) : Change (¬ NoStaleUnlink w op) w.registry (w.step op).registry := by
  cases op with
  | addChild slot name maskedCaps =>
    apply withHandle_change hw
    intro handle _ hok
    rw [grant_registry]
    apply withObject_change
    intro hactive
    rcases addChild_active hok.uid_lt hactive name maskedCaps with
      ⟨e, heq⟩ | ⟨hreg, hname, heq⟩
    · rw [heq]
      exact .refl _
    · rw [heq]
      exact .attach hok.uid_lt hreg hactive hname
  | writeRemoveChild slot name isKernel =>
    apply withHandle_change hw
    intro handle _ hok
    apply withObject_change
    intro hactive
    exact (h.writeRemoveChild_removed hok.uid_lt hactive name isKernel).change
  | adminRemoveChild slot name isKernel =>
    apply withHandle_change hw
    intro handle _ hok
    apply withObject_change
    intro hactive
    exact (h.adminRemoveChild_removed hok.uid_lt hactive name isKernel).change
  | remove slot isKernel =>
    apply withHandle_change hw
    intro handle hslot hok
    have hreg := hon slot rfl handle hslot
    apply remove_change h hok hreg isKernel
    exact fun hreach hdead hentry hno =>
      hno (slot, isKernel) rfl handle hslot hreg hreach hdead hentry
  | drop slot =>
    apply withHandle_change hw
    intro handle hslot hok
    show Change _ w.registry (dropHandle handle w.registry).2
    by_cases hadmin : handle.capabilities.contains .admin = true ∧ handle.registered = true
    · rw [dropHandle_admin hok hadmin.1 hadmin.2]
      apply remove_change h hok hadmin.2
      exact fun hreach hdead hentry hno =>
        hno (slot, true) rfl handle hslot hadmin.2 hreach hdead hentry
    · rcases dropHandle_idle hadmin with heq | heq
      · rw [heq]
        exact .refl _
      · rw [heq]
        exact .free _
  | newAnonymous maskedCaps => exact .anonymous maskedCaps
  | setMaskedCaps | setPublicInterfaceCaps =>
    apply withHandle_change hw
    intro handle _ _
    exact setMeta_change w handle fun _ => ⟨rfl, rfl, rfl⟩
  | setLifecycleFlags slot flags =>
    apply withHandle_change hw
    intro handle _ _
    split
    · exact .refl _
    · exact .setObject _ rfl rfl rfl
  | release uid =>
    show Change _ w.registry (if _ then _ else w).registry
    split
    · exact .free uid
    · exact .refl _
  | _ =>
    rw [step_registry rfl]
    exact .refl _

lemma boot_integral : Integral boot.registry := by
  have hone : ∀ u < boot.registry.nextUid, u = 0 := fun u hu => Nat.lt_one_iff.1 hu
  refine ⟨⟨zero_lt_one, ?_, ?_, rfl, ?_⟩, ⟨?_, ?_, ?_, List.nodup_nil, ?_, ?_⟩, ?_⟩
  · intro c hc p hp
    rw [hone c hc] at hp
    cases hp
  · intro c hc _
    rw [hone c hc]
    exact ⟨rfl, fun _ => rfl⟩
  · intro c hc o ho
    rw [hone c hc] at ho
    cases ho
  · intro i u hi
    obtain ⟨rfl, rfl⟩ := boot_map hi
    exact ⟨zero_lt_one, rfl, rfl, rfl⟩
  · intro u hu _ _
    rw [hone u hu]
    rfl
  · exact nofun
  · exact nofun
  · intro i u hi
    obtain ⟨rfl, _⟩ := boot_map hi
    exact zero_lt_one
  · intro u hu _ name childId hchild
    rw [hone u hu] at hchild
    have hempty : (({} : Std.TreeMap String Nat))[name]? = some childId := hchild
    simp at hempty

lemma boot_linked : Linked boot.registry := by
  intro i u hi hroot
  exact absurd (Nat.lt_one_iff.1 (boot_integral.map_bound i u hi)) hroot

lemma run_integral (hon : Meets step OnRegistered boot ops) :
    Integral (runOps step boot ops).registry := by
  have hboth : (runOps step boot ops).Coherent ∧ Integral (runOps step boot ops).registry := by
    refine run_invariant (I := fun w => w.Coherent ∧ Integral w.registry) ?_
      ⟨boot_coherent, boot_integral⟩ hon
    rintro w op ⟨hw, h⟩ hop
    exact ⟨hw.step op, (step_change hw h hop).integral h⟩
  exact hboth.2

lemma run_linked (hon : Meets step OnRegistered boot ops)
    (hstale : Meets step NoStaleUnlink boot ops) : Linked (runOps step boot ops).registry := by
  have hall : (runOps step boot ops).Coherent ∧ Integral (runOps step boot ops).registry ∧
      Linked (runOps step boot ops).registry := by
    refine run_invariant (I := fun w => w.Coherent ∧ Integral w.registry ∧ Linked w.registry) ?_
      ⟨boot_coherent, boot_integral, boot_linked⟩ (hon.and hstale)
    rintro w op ⟨hw, h, hlinked⟩ ⟨hop, htidy⟩
    have hchange := step_change hw h hop
    rw [show (¬ NoStaleUnlink w op) = False from eq_false (not_not.2 htidy)] at hchange
    exact ⟨hw.step op, hchange.integral h, hchange.linked h hlinked⟩
  exact hall.2.2

/-! ## Integrity -/

/-- The removal of a child by its name: what succeeds takes out exactly the subtree of the child, and
what fails nothing. -/
def RemovesChild (r : Registry) (self : Nat) (name : String)
    (result : Except (Fault ObjectError) Nat × Registry) : Prop :=
  (∀ childId, result.1 = .ok childId →
    ∃ target, (r.objects self).children[name]? = some childId ∧ r.map[childId]? = some target ∧
      RemovesExactly r result.2 target) ∧
  ∀ e, result.1 = .error e → result.2.map = r.map

/-- Every way to remove an object through a handle removes exactly its subtree, or nothing. -/
structure RemovesSubtrees (w : World) : Prop where
  remove : ∀ slot handle isKernel, w.handle? slot = some handle → handle.registered = true →
    ((remove handle isKernel w.registry).1 = .ok () →
      RemovesExactly w.registry (remove handle isKernel w.registry).2 handle.uid) ∧
    ∀ e, (remove handle isKernel w.registry).1 = .error e →
      (remove handle isKernel w.registry).2.map = w.registry.map
  drop : ∀ slot handle, w.handle? slot = some handle →
    if handle.capabilities.contains .admin = true ∧ handle.registered = true ∧
        w.registry.Active handle.uid then
      RemovesExactly w.registry (dropHandle handle w.registry).2 handle.uid
    else (dropHandle handle w.registry).2.map = w.registry.map
  writeRemoveChild : ∀ slot handle name isKernel, w.handle? slot = some handle →
    RemovesChild w.registry handle.uid name (handle.withObject .write
      (fun self => writeRemoveChild self name isKernel) w.registry)
  adminRemoveChild : ∀ slot handle name isKernel, w.handle? slot = some handle →
    RemovesChild w.registry handle.uid name (handle.withObject .adminGrp
      (fun self => adminRemoveChild self name isKernel) w.registry)

section Removal

variable {r : Registry} {handle : Handle}

section

variable (h : Integral r)
include h

/-- `Registry::remove` on an object that is destroyed already leaves the map alone. -/
lemma remove_dead (isKernel : Bool) (hdead : ¬ r.Active handle.uid) :
    (∃ e, (remove handle isKernel r).1 = .error e) ∧ (remove handle isKernel r).2.map = r.map := by
  rcases remove_cases handle isKernel r with ⟨-, e, heq⟩ | ⟨-, heq⟩
  · rw [heq]
    exact ⟨⟨e, rfl⟩, rfl⟩
  · rw [heq]
    rcases removeInternal_cases handle.uid h.map_bound with ⟨-, hres⟩ | ⟨hactive, -⟩
    · rw [hres]
      exact ⟨⟨_, rfl⟩, (Trims.unlink r _).map⟩
    · exact absurd hactive hdead

lemma remove_exact (hlinked : Linked r) (hok : HandleOk r handle)
    (hreg : handle.registered = true) (isKernel : Bool) :
    ((remove handle isKernel r).1 = .ok () → RemovesExactly r (remove handle isKernel r).2 handle.uid) ∧
    ∀ e, (remove handle isKernel r).1 = .error e → (remove handle isKernel r).2.map = r.map := by
  by_cases hactive : r.Active handle.uid
  · obtain ⟨hres, -, hexact⟩ := h.removal hok.uid_lt (hok.registered ▸ hreg) hactive
    rcases remove_cases handle isKernel r with ⟨-, e, heq⟩ | ⟨-, heq⟩
    · rw [heq]
      exact ⟨nofun, fun _ _ => rfl⟩
    · rw [heq]
      refine ⟨fun _ => (hexact (hlinked.but _)).2, fun e herr => ?_⟩
      rw [hres] at herr
      cases herr
  · obtain ⟨⟨e, herr⟩, hmap⟩ := remove_dead h isKernel hactive
    refine ⟨fun hres => ?_, fun _ _ => hmap⟩
    rw [herr] at hres
    cases hres

lemma drop_exact (hlinked : Linked r) (hfreed : FreedSound r) (hok : HandleOk r handle) :
    if handle.capabilities.contains Capability.admin = true ∧ handle.registered = true ∧
        r.Active handle.uid then RemovesExactly r (dropHandle handle r).2 handle.uid
    else (dropHandle handle r).2.map = r.map := by
  split
  · rename_i hcond
    obtain ⟨hadmin, hreg, hactive⟩ := hcond
    have hobject := hok.registered ▸ hreg
    -- the object is in memory, so the removal goes through
    have hreaches : Reaches handle true r := by
      refine ⟨hadmin, ?_, .inl rfl⟩
      cases href : handle.object with
      | owned uid => rfl
      | shared uid =>
        obtain rfl : handle.uid = uid := by rw [Handle.uid, href]; rfl
        have hnot : r.freed handle.uid = false :=
          eq_false_iff.2 fun hf => (hfreed _ hf).2 hobject hactive
        simp [ObjectRef.upgrade, upgrade, hnot]
    rw [dropHandle_admin hok hadmin hreg]
    rcases remove_cases handle true r with ⟨hnot, -⟩ | ⟨-, heq⟩
    · exact absurd hreaches hnot
    · rw [heq]
      exact ((h.removal hok.uid_lt hobject hactive).2.2 (hlinked.but _)).2
  · rename_i hcond
    by_cases hadmin : handle.capabilities.contains Capability.admin = true ∧ handle.registered = true
    · rw [dropHandle_admin hok hadmin.1 hadmin.2]
      exact (remove_dead h true fun hactive => hcond ⟨hadmin.1, hadmin.2, hactive⟩).2
    · rcases dropHandle_idle hadmin with heq | heq <;> rw [heq]
      rfl

lemma withObject_removesChild (hlinked : Linked r) {name : String}
    (required : Capability) {f : Nat → Action Registry ObjectError Nat}
    (hf : r.Active handle.uid → ChildRemoved r handle.uid name (f handle.uid r)) :
    RemovesChild r handle.uid name (handle.withObject required f r) := by
  have hrefused : ∀ e, RemovesChild r handle.uid name (.error e, r) :=
    fun e => ⟨nofun, fun _ _ => rfl⟩
  rcases handle.withObject_cases required f r with ⟨e, heq⟩ | ⟨hactive, heq⟩
  · rw [heq]
    exact hrefused e
  · rw [heq]
    rcases hf hactive with ⟨e, heq⟩ | ⟨target, hlt, hreg, htactive, hentry, heq⟩
    · rw [heq]
      exact hrefused e
    · rw [heq]
      refine ⟨?_, nofun⟩
      rintro childId ⟨⟩
      exact ⟨target, hentry, h.filed.active target hlt hreg htactive,
        (h.removal_child hlinked hlt hreg htactive hentry).2⟩

end

end Removal

lemma Coherent.removesSubtrees (hw : w.Coherent) (h : Integral w.registry)
    (hlinked : Linked w.registry) : RemovesSubtrees w where
  remove slot handle isKernel hslot hreg :=
    remove_exact h hlinked (hw.handleOk hslot) hreg isKernel
  drop slot handle hslot := drop_exact h hlinked hw.freed (hw.handleOk hslot)
  writeRemoveChild slot handle name isKernel hslot := by
    apply withObject_removesChild h hlinked
    intro hactive
    have hok := hw.handleOk hslot
    exact h.writeRemoveChild_removed hok.uid_lt hactive name isKernel
  adminRemoveChild slot handle name isKernel hslot := by
    apply withObject_removesChild h hlinked
    intro hactive
    have hok := hw.handleOk hslot
    exact h.adminRemoveChild_removed hok.uid_lt hactive name isKernel

/-- The map holds exactly the active registered objects, each under its own index. -/
def MapExact (r : Registry) : Prop :=
  ∀ i u : Nat, r.map[i]? = some u ↔
    u < r.nextUid ∧ (r.objects u).registered = true ∧ (r.objects u).status = .active ∧ (r.objects u).id = i

/-- No index is queued for reuse while it is in use, or twice. -/
def QueueSound (r : Registry) : Prop :=
  (∀ i ∈ r.reclaimed, r.map[i]? = none) ∧ r.reclaimed.Nodup

/-- In every run on registered objects the map and the queue are exact. In every such run whose
steps unlink nothing through a handle of a destroyed object, the tree is linked and removals take out
exactly a subtree. -/
theorem run_integrity (ops : List Op) (hon : Meets step OnRegistered boot ops) :
    MapExact (runOps step boot ops).registry ∧ QueueSound (runOps step boot ops).registry ∧
      (Meets step NoStaleUnlink boot ops →
        Linked (runOps step boot ops).registry ∧ RemovesSubtrees (runOps step boot ops)) := by
  have h := run_integral hon
  refine ⟨fun i u => ⟨h.filed.map i u, ?_⟩, ⟨h.filed.queue, h.filed.nodup⟩, fun hstale => ?_⟩
  · rintro ⟨hlt, hreg, hactive, rfl⟩
    exact h.filed.active u hlt hreg hactive
  · have hlinked := run_linked hon hstale
    exact ⟨hlinked, (run_coherent ops).removesSubtrees h hlinked⟩

/-- A directory with two children, removed one by one and then as a whole; a new one in its place. -/
def directoryOps : List Op :=
  [.addChild 0 "dir" 0, .addChild 1 "a" 0, .addChild 1 "b" 0, .writeRemoveChild 1 "a" true,
    .addChild 1 "c" 0, .remove 1 true, .addChild 0 "dir" 0, .drop 2]

theorem run_integrity_directoryOps :
    Meets step OnRegistered boot directoryOps ∧ Meets step NoStaleUnlink boot directoryOps ∧
      Linked (runOps step boot directoryOps).registry ∧
      RemovesSubtrees (runOps step boot directoryOps) := by
  have hon : Meets step OnRegistered boot directoryOps := by decide
  have hstale : Meets step NoStaleUnlink boot directoryOps := by decide
  exact ⟨hon, hstale, (run_integrity directoryOps hon).2.2 hstale⟩

/-- A child `x` of a directory whose handle outlives both; then another directory gets the index of
the first one, and a child of it, also called `x`, the index of the first `x`. -/
def successorOps : List Op :=
  [.addChild 0 "p" 0, .addChild 1 "x" 0, .remove 1 true, .addChild 0 "d" 0, .addChild 0 "q" 0,
    .remove 3 true, .addChild 4 "x" 0, .drop 2]

/-- The drop of the stale handle unlinks the new `x`, which stays registered: its parent no longer
finds it, and the removal of its parent leaves it behind. -/
theorem stale_drop_unlinks_successor : Meets step OnRegistered boot successorOps ∧
      (runOps step boot successorOps).registry.map[2]? = some 5 ∧
      ((runOps step boot successorOps).registry.objects 5).parent = some 1 ∧
      (runOps step boot successorOps).registry.map[1]? = some 4 ∧
      ((runOps step boot successorOps).registry.objects 5).name = "x" ∧
      ((runOps step boot successorOps).registry.objects 4).children["x"]? = none ∧
      (runOps step boot (successorOps ++ [.remove 4 true])).registry.map[1]? = none ∧
      (runOps step boot (successorOps ++ [.remove 4 true])).registry.map[2]? = some 5 := by
  refine ⟨by decide, by decide, by decide, by decide, by decide, by decide, by decide, by decide⟩

end World

end Akarin.Objects
