/-
# Akarin.Objects.World -- the object system under arbitrary operations

A `World` is the registry together with every handle and permit anybody holds; an operation picks
one by its slot, and a handle it obtains takes a new slot. `boot` is the state after
`Registry::new` and `init_root`. An operation that is refused, or panics, leaves whatever it has
already done.

`upgrade_oneshot` runs a closure on a temporary handle and drops it; here it only hands the handle
out, so that the closure is whatever operations follow, up to the `drop` of that slot.

`Evolves` says what no operation does: change what an object is (its index, its parent, its name),
or revive one that was destroyed. From it follows `Coherent`: every handle carries the index of the
object it points at, and every permit the index of the object whose handle issued it.
-/
import Akarin.Lib.Runs
import Akarin.Objects.Handle

namespace Akarin.Objects

open List Lib

/-- The registry, handles and permits. -/
structure World where
  registry : Registry
  handles : List (Option Handle)
  permits : List (Option Permit)

namespace World

/-- Every call on a handle or permit. -/
inductive Op where
  | addChild (slot : Nat) (name : String) (maskedCaps : Capability)
  | writeRemoveChild (slot : Nat) (name : String) (isKernel : Bool)
  | adminRemoveChild (slot : Nat) (name : String) (isKernel : Bool)
  | remove (slot : Nat) (isKernel : Bool)
  | drop (slot : Nat)
  | forget (slot : Nat)
  | acquireRef (slot : Nat)
  | tryClone (slot : Nat)
  | deriveHandle (slot : Nat) (cap : Capability) (interfaceCaps : BitVec 32)
  | downgrade (slot : Nat) (caps : Capability) (interfaceCaps : BitVec 32)
  | locate (slot : Nat) (path : String)
  | locateRoot (path : String)
  | newAnonymous (maskedCaps : Capability)
  | issuePermit (slot : Nat) (cap : Capability) (oneshot : Bool) (interfaceCaps : BitVec 32)
  | upgrade (slot permit : Nat)
  | upgradeOneshot (slot permit : Nat)
  | setMaskedCaps (slot : Nat) (caps : Capability)
  | setPublicInterfaceCaps (slot : Nat) (caps : BitVec 32)
  | setLifecycleFlags (slot : Nat) (flags : LifecycleFlags)
  /-- The memory of a destroyed object is reclaimed. -/
  | release (uid : Nat)

section

variable (w : World)

/-- The handle in a slot. -/
def handle? (slot : Nat) : Option Handle := (w.handles[slot]?).join

def permit? (slot : Nat) : Option Permit := (w.permits[slot]?).join

/-- Take in the handle an operation has returned, if it has. -/
def grant : Except (Fault ObjectError) Handle → World
  | .ok handle => { w with handles := w.handles ++ [some handle] }
  | .error _ => w

/-- Overwrite a slot. -/
def setHandle (slot : Nat) (handle : Option Handle) : World :=
  { w with handles := w.handles.set slot handle }

/-- Run an operation on the handle in a slot. -/
def withHandle (slot : Nat) (f : Handle → World) : World :=
  match w.handle? slot with
  | none => w
  | some handle => f handle

/-- `write_with` of a setter. -/
def setMeta (handle : Handle) (f : Object → Object) : World :=
  { w with registry := (handle.withObject .write (fun uid r =>
      (.ok (), r.setObject uid (f (r.objects uid)))) w.registry).2 }

/-- The handle and the permit of two slots, where both are there. -/
def withPermit (slot permit : Nat) (f : Handle → Permit → World) : World :=
  w.withHandle slot fun handle =>
    match w.permit? permit with
    | none => w
    | some permit => f handle permit

/-- The world after an operation. -/
def step : Op → World
  | .addChild slot name maskedCaps => w.withHandle slot fun handle =>
    let result := handle.withObject Capability.write
      (fun self => Registry.addChild self name maskedCaps) w.registry
    { w with registry := result.2 }.grant result.1
  | .writeRemoveChild slot name isKernel => w.withHandle slot fun handle =>
    { w with registry := (handle.withObject Capability.write
      (fun self => Registry.writeRemoveChild self name isKernel) w.registry).2 }
  | .adminRemoveChild slot name isKernel => w.withHandle slot fun handle =>
    { w with registry := (handle.withObject Capability.adminGrp
      (fun self => Registry.adminRemoveChild self name isKernel) w.registry).2 }
  | .remove slot isKernel => w.withHandle slot fun handle =>
    { w with registry := (Registry.remove handle isKernel w.registry).2 }
  | .drop slot => w.withHandle slot fun handle =>
    { w with registry := (Registry.dropHandle handle w.registry).2 }.setHandle slot none
  | .forget slot => w.setHandle slot none
  | .acquireRef slot => w.withHandle slot fun handle => w.grant (handle.acquireRef w.registry)
  | .tryClone slot => w.withHandle slot fun handle => w.grant (handle.tryClone w.registry)
  | .deriveHandle slot cap interfaceCaps => w.withHandle slot fun handle =>
    w.grant (handle.deriveHandle cap interfaceCaps w.registry)
  | .downgrade slot caps interfaceCaps => w.withHandle slot fun handle =>
    w.setHandle slot (some (handle.downgrade caps interfaceCaps))
  | .locate slot path => w.withHandle slot fun handle => w.grant (handle.locate path w.registry)
  | .locateRoot path => w.grant (w.registry.locateAndThen none path)
  | .newAnonymous maskedCaps =>
    let result := Handle.newAnonymous maskedCaps w.registry
    { w with registry := result.2 }.grant (.ok result.1)
  | .issuePermit slot cap oneshot interfaceCaps => w.withHandle slot fun handle =>
    match handle.issuePermit cap oneshot interfaceCaps w.registry with
    | .error _ => w
    | .ok permit => { w with permits := w.permits ++ [some permit] }
  | .upgrade slot permit => w.withPermit slot permit fun handle p =>
    let w := { w with permits := w.permits.set permit none }
    match handle.upgrade p w.registry with
    | .error _ => w
    | .ok handle => w.setHandle slot (some handle)
  | .upgradeOneshot slot permit => w.withPermit slot permit fun handle p =>
    { w with permits := w.permits.set permit none }.grant (handle.upgradeOneshot p w.registry)
  | .setMaskedCaps slot caps => w.withHandle slot fun handle =>
    w.setMeta handle fun object => { object with maskedCaps := caps }
  | .setPublicInterfaceCaps slot caps => w.withHandle slot fun handle =>
    w.setMeta handle fun object => { object with publicInterfaceCaps := caps }
  | .setLifecycleFlags slot flags => w.withHandle slot fun handle =>
    match handle.object.upgrade w.registry with
    | none => w
    | some uid =>
      let object := { w.registry.objects uid with lifecycleFlags := flags }
      { w with registry := w.registry.setObject uid object }
  | .release uid =>
    if uid < w.registry.nextUid ∧ (w.registry.objects uid).registered = true ∧
        (w.registry.objects uid).status ≠ .active then
      { w with registry := w.registry.free uid }
    else w

end

/-- `Registry::new` and `init_root`. -/
def boot : World :=
  let result := Registry.initRoot .new
  (⟨result.2, [], []⟩ : World).grant result.1

lemma boot_map {i u : Nat} (h : boot.registry.map[i]? = some u) : i = 0 ∧ u = 0 := by
  have h : ((∅ : Std.TreeMap Nat Nat).insert 0 0)[i]? = some u := h
  rcases getElem?_insert_cases h with ⟨rfl, rfl⟩ | ⟨_, hnone⟩
  · exact ⟨rfl, rfl⟩
  · simp at hnone

/-! ## What an operation makes -/

/-- The operation makes the handle. -/
def Makes (w : World) (made : Handle) : Op → Prop
  | .addChild slot name maskedCaps => ∃ handle ∈ w.handle? slot, (handle.withObject .write
      (fun self => Registry.addChild self name maskedCaps) w.registry).1 = .ok made
  | .acquireRef slot => ∃ handle ∈ w.handle? slot, handle.acquireRef w.registry = .ok made
  | .tryClone slot => ∃ handle ∈ w.handle? slot, handle.tryClone w.registry = .ok made
  | .deriveHandle slot cap interfaceCaps => ∃ handle ∈ w.handle? slot,
      handle.deriveHandle cap interfaceCaps w.registry = .ok made
  | .downgrade slot caps interfaceCaps => ∃ handle ∈ w.handle? slot,
      made = handle.downgrade caps interfaceCaps
  | .locate slot path => ∃ handle ∈ w.handle? slot, handle.locate path w.registry = .ok made
  | .locateRoot path => w.registry.locateAndThen none path = .ok made
  | .newAnonymous maskedCaps => made = (Handle.newAnonymous maskedCaps w.registry).1
  | .upgrade slot permit => ∃ handle ∈ w.handle? slot, ∃ p ∈ w.permit? permit,
      handle.upgrade p w.registry = .ok made
  | .upgradeOneshot slot permit => ∃ handle ∈ w.handle? slot, ∃ p ∈ w.permit? permit,
      handle.upgradeOneshot p w.registry = .ok made
  | _ => False

/-- The operation issues the permit. -/
def Issues (w : World) (permit : Permit) : Op → Prop
  | .issuePermit slot cap oneshot interfaceCaps => ∃ handle ∈ w.handle? slot,
      handle.issuePermit cap oneshot interfaceCaps w.registry = .ok permit
  | _ => False

/-- The operation does not touch the registry. -/
def Op.isQuiet : Op → Bool
  | .forget _ | .acquireRef _ | .tryClone _ | .deriveHandle .. | .downgrade .. | .locate .. | .locateRoot _
  | .issuePermit .. | .upgrade .. | .upgradeOneshot .. => true
  | _ => false

section Step

variable {w : World} {slot : Nat} {made : Handle} {op : Op}

lemma withHandle_rule {P : World → Prop} {f : Handle → World} (hidle : P w)
    (hf : ∀ handle, w.handle? slot = some handle → P (f handle)) : P (w.withHandle slot f) := by
  unfold withHandle
  split
  · exact hidle
  · exact hf _ ‹_›

lemma grant_registry (w : World) (result : Except (Fault ObjectError) Handle) :
    (w.grant result).registry = w.registry := by
  cases result <;> rfl

lemma mem_grant {result : Except (Fault ObjectError) Handle}
    (h : some made ∈ (w.grant result).handles) : some made ∈ w.handles ∨ result = .ok made := by
  cases result with
  | error e => exact .inl h
  | ok handle =>
    refine (mem_append.1 h).imp_right fun hnew => ?_
    cases mem_singleton.1 hnew
    rfl

lemma made_withHandle {f : Handle → World} {P : Handle → Prop}
    (hf : ∀ handle, some made ∈ (f handle).handles → some made ∈ w.handles ∨ P handle) :
    some made ∈ (w.withHandle slot f).handles →
      some made ∈ w.handles ∨ ∃ handle ∈ w.handle? slot, P handle :=
  withHandle_rule (P := fun w' => some made ∈ w'.handles → _) .inl
    fun handle hslot h => (hf handle h).imp_right fun hp => ⟨handle, hslot, hp⟩

/-- Every handle after a step was there before, or the step has made it. -/
lemma mem_step_handles (h : some made ∈ (w.step op).handles) :
    some made ∈ w.handles ∨ w.Makes made op := by
  cases op with
  | addChild =>
    refine made_withHandle (fun _ h => ?_) h
    have hmade := mem_grant h
    exact hmade
  | acquireRef | tryClone | deriveHandle | locate => exact made_withHandle (fun _ => mem_grant) h
  | downgrade =>
    refine made_withHandle (fun handle h => ?_) h
    exact (mem_or_eq_of_mem_set h).imp_right Option.some.inj
  | locateRoot => exact mem_grant h
  | newAnonymous => exact (mem_grant h).imp_right fun hok => (Except.ok.inj hok).symm
  | upgrade slot permit =>
    refine made_withHandle (fun handle h => ?_) h
    split at h
    · exact .inl h
    dsimp only at h
    split at h
    · exact .inl h
    · refine (mem_or_eq_of_mem_set h).imp_right fun hnew => ⟨_, ‹_›, ?_⟩
      cases hnew
      assumption
  | upgradeOneshot slot permit =>
    refine made_withHandle (fun handle h => ?_) h
    split at h
    · exact .inl h
    · exact (mem_grant h).imp_right fun hres => ⟨_, ‹_›, hres⟩
  | drop =>
    refine .inl (withHandle_rule (P := fun w' => some made ∈ w'.handles → _) id (fun _ _ h => ?_) h)
    exact (mem_or_eq_of_mem_set h).resolve_right nofun
  | forget => exact .inl ((mem_or_eq_of_mem_set h).resolve_right nofun)
  | _ =>
    simp only [step, withHandle, setMeta] at h
    refine .inl ?_
    (repeat' split at h) <;> exact h

lemma mem_step_permits {permit : Permit} (h : some permit ∈ (w.step op).permits) :
    some permit ∈ w.permits ∨ w.Issues permit op := by
  have hset : ∀ slot : Nat, some permit ∈ w.permits.set slot none → some permit ∈ w.permits :=
    fun slot hmem => (mem_or_eq_of_mem_set hmem).resolve_right nofun
  have hgrant : ∀ {w' : World} {result : Except (Fault ObjectError) Handle},
      some permit ∈ (w'.grant result).permits → some permit ∈ w'.permits := by
    intro w' result hmem
    cases result <;> exact hmem
  cases op with
  | issuePermit =>
    simp only [step, withHandle] at h
    split at h
    · exact .inl h
    split at h
    · exact .inl h
    · refine (mem_append.1 h).imp_right fun hnew => ⟨_, ‹_›, ?_⟩
      cases mem_singleton.1 hnew
      assumption
  | _ =>
    simp only [step, withPermit, withHandle, setMeta] at h
    refine .inl ?_
    (repeat' split at h) <;> (try replace h := hgrant h) <;> first | exact h | exact hset _ h

lemma step_registry (hquiet : op.isQuiet = true) : (w.step op).registry = w.registry := by
  cases op with
  | addChild | writeRemoveChild | adminRemoveChild | remove | drop | newAnonymous | setMaskedCaps
  | setPublicInterfaceCaps | setLifecycleFlags | release => cases hquiet
  | _ =>
    simp only [step, withPermit, withHandle]
    (repeat' split) <;> first | rfl | exact grant_registry _ _

end Step

end World

/-! ## What no operation changes -/

/-- What an object is: everything about it that is fixed when it is built. -/
def Object.identity (object : Object) : Bool × Nat × Option Nat × String × Option Nat × List Nat :=
  (object.registered, object.id, object.parent, object.name, object.parentUid, object.lineage)

/-- Objects keep their identity, and destroyed objects stay destroyed. -/
structure Evolves (r r' : Registry) : Prop where
  nextUid : r.nextUid ≤ r'.nextUid
  identity : ∀ u < r.nextUid, (r'.objects u).identity = (r.objects u).identity
  destroyed : ∀ u < r.nextUid, (r.objects u).status ≠ .active → (r'.objects u).status ≠ .active

namespace Evolves

variable {r r₁ r₂ : Registry}

lemma refl (r : Registry) : Evolves r r := ⟨le_rfl, fun _ _ => rfl, fun _ _ => id⟩

lemma trans (h₁ : Evolves r r₁) (h₂ : Evolves r₁ r₂) : Evolves r r₂ where
  nextUid := le_trans h₁.nextUid h₂.nextUid
  identity u hu :=
    (h₂.identity u (lt_of_lt_of_le hu h₁.nextUid)).trans (h₁.identity u hu)
  destroyed u hu hs :=
    h₂.destroyed u (lt_of_lt_of_le hu h₁.nextUid) (h₁.destroyed u hu hs)

/-- Only the indices and the memory bookkeeping differ. -/
lemma of_objects (hnext : r₁.nextUid = r.nextUid) (hobjects : r₁.objects = r.objects) : Evolves r r₁ :=
  ⟨le_of_eq hnext.symm, fun u _ => by rw [hobjects], fun u _ => by rw [hobjects]; exact id⟩

/-- An update of one object that keeps its identity and does not revive it. -/
lemma setObject (uid : Nat) {object : Object} (hidentity : object.identity = (r.objects uid).identity)
    (hstatus : (r.objects uid).status ≠ .active → object.status ≠ .active) :
    Evolves r (r.setObject uid object) := by
  refine ⟨le_rfl, fun u _ => ?_, fun u _ => ?_⟩
  · show (if u = uid then object else r.objects u).identity = _
    split
    · rename_i h
      rw [hidentity, h]
    · rfl
  · show _ → (if u = uid then object else r.objects u).status ≠ _
    split
    · rename_i h
      rw [h]
      exact hstatus
    · exact id

lemma setChildren (uid : Nat) (children : Std.TreeMap String Nat) :
    Evolves r (r.setChildren uid children) :=
  setObject uid rfl id

lemma destroy (uid : Nat) : Evolves r (r.setStatus uid .destroying) :=
  setObject uid rfl nofun

lemma build (object : Object) : Evolves r (r.build object) := by
  have hold : ∀ u < r.nextUid, (r.build object).objects u = r.objects u := by
    intro u hu
    show (if u = r.nextUid then object else r.objects u) = _
    exact if_neg (ne_of_lt hu)
  exact ⟨Nat.le_succ _, fun u hu => by rw [hold u hu], fun u hu => by rw [hold u hu]; exact id⟩

end Evolves

/-- Moreover nothing new is registered or gets a name, and nothing leaves the memory. -/
structure Prunes (r r' : Registry) : Prop extends Evolves r r' where
  shrinks : ∀ i u : Nat, r'.map[i]? = some u → r.map[i]? = some u
  children : ∀ (u : Nat) (name : String),
    (r.objects u).children[name]? = none → (r'.objects u).children[name]? = none
  freed : r'.freed = r.freed

namespace Prunes

variable {r r₁ r₂ : Registry}

lemma refl (r : Registry) : Prunes r r := ⟨.refl r, fun _ _ => id, fun _ _ => id, rfl⟩

lemma trans (h₁ : Prunes r r₁) (h₂ : Prunes r₁ r₂) : Prunes r r₂ :=
  ⟨h₁.toEvolves.trans h₂.toEvolves, fun i u h => h₁.shrinks i u (h₂.shrinks i u h),
    fun u name h => h₂.children u name (h₁.children u name h), h₂.freed.trans h₁.freed⟩

variable (uid : Nat)

lemma setObject {object : Object} (hev : Evolves r (r.setObject uid object))
    (hchildren : ∀ name : String, (r.objects uid).children[name]? = none → object.children[name]? = none) :
    Prunes r (r.setObject uid object) := by
  refine ⟨hev, fun _ _ => id, fun u name h => ?_, rfl⟩
  show (if u = uid then object else r.objects u).children[name]? = none
  split
  · rename_i hu
    subst hu
    exact hchildren name h
  · exact h

lemma eraseChild (name : String) : Prunes r (r.setChildren uid ((r.objects uid).children.erase name)) :=
  setObject uid (.setChildren uid _) fun other h => by
    rw [getElem?_erase]
    split
    · rfl
    · exact h

lemma destroy : Prunes r (r.setStatus uid .destroying) :=
  setObject uid (.destroy uid) fun _ => id

lemma reclaim : Prunes r (r.reclaim uid) := by
  refine ⟨.of_objects rfl rfl, fun i u h => ?_, fun _ _ => id, rfl⟩
  have h : (r.map.erase (r.objects uid).id)[i]? = some u := h
  exact (getElem?_erase_some h).2

end Prunes

namespace Registry

variable (self : Nat) (name : String) (r : Registry)

lemma unlink_prunes (uid : Nat) : Prunes r (r.unlink uid) := by
  fun_cases unlink r uid with
  | case2 => exact .eraseChild _ _
  | _ => exact .refl _

lemma markChildren_prunes (ids : List Nat) (r : Registry) : Prunes r (markChildren ids r).1 := by
  fun_induction markChildren ids r with
  | case1 => exact .refl _
  | case2 _ _ _ _ ih | case3 _ _ _ _ _ _ ih => exact ih
  | case4 _ _ _ _ _ _ _ ih => exact (Prunes.destroy _).trans ih

lemma reclaimAll_prunes (uids : List Nat) (r : Registry) : Prunes r (uids.foldl reclaim r) := by
  induction uids generalizing r with
  | nil => exact .refl _
  | cons uid rest ih => exact (Prunes.reclaim uid).trans (ih (r.reclaim uid))

lemma drain_prunes (r : Registry) (fuel : Nat) (work out : List Nat) :
    Prunes r (drain visit fuel r work out).1 := by
  apply drain_keeps (I := Prunes r)
  · intro s a hs
    exact hs.trans (markChildren_prunes _ _)
  · exact .refl _

lemma removeInternal_prunes (uid : Nat) (r : Registry) : Prunes r (removeInternal uid r).2 := by
  unfold removeInternal
  dsimp only
  split
  · exact unlink_prunes r uid
  · refine (unlink_prunes r uid).trans ((Prunes.destroy uid).trans ?_)
    refine Prunes.trans ?_ (reclaimAll_prunes _ _)
    exact drain_prunes ..

lemma remove_prunes (handle : Handle) (isKernel : Bool) (r : Registry) :
    Prunes r (remove handle isKernel r).2 := by
  fun_cases remove handle isKernel r with
  | case4 => exact removeInternal_prunes _ _
  | _ => exact .refl _

/-- Dropping a handle prunes, and then frees what the handle owned. -/
lemma dropHandle_cases (handle : Handle) (r : Registry) :
    ∃ removed, Prunes r removed ∧ (dropHandle handle r).2 = match handle.object with
      | .shared _ => removed
      | .owned uid => removed.free uid := by
  have hremoved := remove_prunes handle true r
  unfold dropHandle
  extract_lets removed
  refine ⟨removed.2, ?_, by cases handle.object <;> rfl⟩
  unfold removed
  split
  · split <;>
    · rename_i heq
      rw [heq] at hremoved
      exact hremoved
  · exact .refl _

lemma writeRemoveChild_prunes (isKernel : Bool) (r : Registry) :
    Prunes r (writeRemoveChild self name isKernel r).2 := by
  fun_cases writeRemoveChild self name isKernel r with
  | case6 =>
    rw [Action.andThen_ret_state]
    exact (Prunes.eraseChild self _).trans (removeInternal_prunes _ _)
  | _ => exact .refl _

lemma adminRemoveChild_prunes (isKernel : Bool) (r : Registry) :
    Prunes r (adminRemoveChild self name isKernel r).2 := by
  fun_cases adminRemoveChild self name isKernel r with
  | case1 | case2 => exact .refl _
  | case3 | case4 => exact .eraseChild self _
  | case5 =>
    rw [Action.andThen_ret_state]
    exact (Prunes.eraseChild self _).trans (removeInternal_prunes _ _)

lemma allocate_evolves : Evolves r r.allocate.2 := by
  unfold allocate
  split
  · exact .of_objects rfl rfl
  · exact .of_objects rfl rfl

lemma attachChild_evolves (self : Nat) (name : String)
    (maskedCaps : Capability) : Evolves r (r.attachChild self name maskedCaps).registry := by
  have hbuild : Evolves r (r.allocate.2.build (r.newChild self r.allocate.1 name maskedCaps)) :=
    (allocate_evolves r).trans (.build _)
  have hinsert : Evolves r ((r.allocate.2.build
      (r.newChild self r.allocate.1 name maskedCaps)).insertInternal r.nextUid).2 :=
    hbuild.trans (.of_objects rfl rfl)
  exact hinsert.trans (.setChildren self _)

/-- `add_child` refuses, or attaches the child, returns the owner's handle and may still prune. -/
lemma addChild_cases (maskedCaps : Capability) (r : Registry) :
    (∃ e, addChild self name maskedCaps r = (.error e, r)) ∨ (r.objects self).registered = true ∧
    ((∃ e, (addChild self name maskedCaps r).1 = .error e ∧
      Prunes (r.attachChild self name maskedCaps).registry (addChild self name maskedCaps r).2) ∨
    addChild self name maskedCaps r = (.ok (r.attachChild self name maskedCaps).handle,
        (r.attachChild self name maskedCaps).registry)) := by
  have hrollback : ∀ child e, Prunes (r.attachChild self name maskedCaps).registry
      (rollback child (r.attachChild self name maskedCaps).handle e
        (r.attachChild self name maskedCaps).registry).2 := by
    intro child e
    refine (removeInternal_prunes child _).trans ?_
    obtain ⟨removed, hp, heq⟩ := dropHandle_cases (r.attachChild self name maskedCaps).handle
      (removeInternal child (r.attachChild self name maskedCaps).registry).2
    rw [attachChild_handle] at heq
    show Prunes _ (dropHandle (r.attachChild self name maskedCaps).handle
      (removeInternal child (r.attachChild self name maskedCaps).registry).2).2
    rw [attachChild_handle, heq]
    exact hp
  fun_cases addChild self name maskedCaps r with
  | case1 | case2 | case3 => exact .inl ⟨_, rfl⟩
  | case4 | case5 => exact .inr ⟨by simp_all, .inl ⟨_, rfl, hrollback _ _⟩⟩
  | case6 => exact .inr ⟨by simp_all, .inr rfl⟩

end Registry

end Akarin.Objects
