/-
# Akarin.Objects.Coherence -- handles and permits carry the right index

`Coherent` holds in every state of every run (`run_coherent`): the registry files objects under
their own index, a handle's token names the index of the object the handle points at (none for an
anonymous object), and a permit's token the index of the object whose handle issued it. Nothing
is said about who else has had that index.
-/
import Akarin.Objects.World

namespace Akarin.Objects

open Lib Registry Handle Option List

/-- The index a token for the object carries. -/
def Object.index (object : Object) : Option Nat :=
  if object.registered then some object.id else none

namespace Evolves

variable {r r' : Registry} (h : Evolves r r') {u : Nat} (hu : u < r.nextUid)
include h hu

lemma registered_eq : (r'.objects u).registered = (r.objects u).registered :=
  congrArg (·.1) (h.identity u hu)

lemma id_eq : (r'.objects u).id = (r.objects u).id :=
  congrArg (·.2.1) (h.identity u hu)

lemma index_eq : (r'.objects u).index = (r.objects u).index := by
  rw [Object.index, Object.index, h.registered_eq hu, h.id_eq hu]

end Evolves

/-- Objects are filed under their own index. -/
def MapSound (r : Registry) : Prop :=
  ∀ i u : Nat, r.map[i]? = some u → u < r.nextUid ∧ (r.objects u).registered = true ∧ (r.objects u).id = i

/-- What a handle says about its object is so. -/
structure HandleOk (r : Registry) (handle : Handle) : Prop where
  uid_lt : handle.uid < r.nextUid
  registered : handle.registered = (r.objects handle.uid).registered
  id : handle.token.id = (r.objects handle.uid).index
  /-- Only anonymous objects are owned by a handle. -/
  owned : ∀ u, handle.object = .owned u → handle.registered = false
  parentless : handle.registered = false → (r.objects handle.uid).parent = none

/-- Memory is gone only where there was an object, and an active registered object keeps its. -/
def FreedSound (r : Registry) : Prop :=
  ∀ u, r.freed u = true → u < r.nextUid ∧
    ((r.objects u).registered = true → (r.objects u).status ≠ .active)

/-- Only registered objects have children. -/
def ParentsRegistered (r : Registry) : Prop :=
  ∀ (u : Nat) (name : String), (r.objects u).children[name]? ≠ none →
    u < r.nextUid ∧ (r.objects u).registered = true

/-- A permit names the object that has issued it, and is not privileged. -/
structure PermitOk (r : Registry) (permit : Permit) : Prop where
  issuer_lt : permit.issuer < r.nextUid
  id : permit.token.id = (r.objects permit.issuer).index
  unprivileged : permit.token.capabilities.isPrivileged = false

section Evolution

variable {r r' : Registry}

lemma HandleOk.evolves {handle : Handle} (h : HandleOk r handle) (hev : Evolves r r') :
    HandleOk r' handle where
  uid_lt := lt_of_lt_of_le h.uid_lt hev.nextUid
  registered := h.registered.trans (hev.registered_eq h.uid_lt).symm
  id := h.id.trans (hev.index_eq h.uid_lt).symm
  owned := h.owned
  parentless hreg := (congrArg (·.2.2.1) (hev.identity _ h.uid_lt)).trans (h.parentless hreg)

/-- Freeing what is anonymous or destroyed. -/
lemma FreedSound.free (h : FreedSound r) {uid : Nat} (hlt : uid < r.nextUid)
    (huid : (r.objects uid).registered = true → (r.objects uid).status ≠ .active) :
    FreedSound (r.free uid) := by
  intro u hu
  rcases Bool.or_eq_true_iff.1 hu with hself | hold
  · obtain rfl := of_decide_eq_true hself
    exact ⟨hlt, huid⟩
  · exact h u hold

lemma FreedSound.evolves (h : FreedSound r) (hev : Evolves r r') (hfreed : r'.freed = r.freed) :
    FreedSound r' := by
  intro u hu
  rw [hfreed] at hu
  obtain ⟨hlt, hstatus⟩ := h u hu
  refine ⟨lt_of_lt_of_le hlt hev.nextUid, fun hreg => ?_⟩
  rw [hev.registered_eq hlt] at hreg
  exact hev.destroyed u hlt (hstatus hreg)

lemma PermitOk.evolves {permit : Permit} (h : PermitOk r permit) (hev : Evolves r r') :
    PermitOk r' permit where
  issuer_lt := lt_of_lt_of_le h.issuer_lt hev.nextUid
  id := h.id.trans (hev.index_eq h.issuer_lt).symm
  unprivileged := h.unprivileged

lemma ParentsRegistered.evolves (h : ParentsRegistered r) (hev : Evolves r r')
    (hchildren : ∀ (u : Nat) (name : String), (r'.objects u).children[name]? ≠ none →
      (r.objects u).children[name]? ≠ none ∨ u < r'.nextUid ∧ (r'.objects u).registered = true) :
    ParentsRegistered r' := by
  intro u name hname
  rcases hchildren u name hname with hold | hnew
  · obtain ⟨hu, hreg⟩ := h u name hold
    exact ⟨lt_of_lt_of_le hu hev.nextUid, (hev.registered_eq hu).trans hreg⟩
  · exact hnew

lemma ParentsRegistered.prunes (h : ParentsRegistered r) (hp : Prunes r r') : ParentsRegistered r' :=
  h.evolves hp.toEvolves fun u name hname => .inl fun hnone => hname (hp.children u name hnone)

lemma MapSound.prunes (h : MapSound r) (hp : Prunes r r') : MapSound r' := by
  intro i u hi
  obtain ⟨hu, hreg, hid⟩ := h i u (hp.shrinks i u hi)
  refine ⟨lt_of_lt_of_le hu hp.nextUid, ?_, ?_⟩
  · rw [hp.registered_eq hu, hreg]
  · rw [hp.id_eq hu, hid]

end Evolution

/-! ## Operations on one handle -/

section HandleOps

variable {r : Registry} {handle handle' : Handle}

/-- A handle to the same object under the same registry, with the same index. -/
lemma HandleOk.same (h : HandleOk r handle) (huid : handle'.uid = handle.uid)
    (hreg : handle'.registered = handle.registered) (hid : handle'.token.id = handle.token.id)
    (hobject : handle'.object = handle.object ∨ handle'.object = handle.object.intoShared) :
    HandleOk r handle' where
  uid_lt := huid ▸ h.uid_lt
  registered := by rw [hreg, huid, h.registered]
  id := by rw [hid, huid, h.id]
  owned u hu := by
    rcases hobject with hsame | hshared
    · rw [hreg]
      exact h.owned u (hsame.symm.trans hu)
    · rw [hshared] at hu
      cases hu
  parentless hanonymous := huid ▸ h.parentless (hreg ▸ hanonymous)

lemma HandleOk.acquireRef (h : HandleOk r handle) (hres : handle.acquireRef r = .ok handle') :
    HandleOk r handle' := by
  obtain rfl := acquireRef_eq_ok hres
  exact h.same rfl rfl rfl (.inr rfl)

variable {permit : Permit} {interfaceCaps : BitVec 32}

variable {cap : Capability}

lemma HandleOk.deriveHandle (h : HandleOk r handle)
    (hres : handle.deriveHandle cap interfaceCaps r = .ok handle') : HandleOk r handle' := by
  obtain rfl := deriveHandle_eq_ok hres
  exact h.same rfl rfl rfl (.inr rfl)

lemma Registry.locateAndThen_ok {curr : Option Handle} {path : String} (h : MapSound r)
    (hres : r.locateAndThen curr path = .ok handle') : HandleOk r handle' := by
  obtain ⟨_, token, finalId, final, -, -, htoken, hfinal, rfl⟩ := locateAndThen_eq_ok hres
  obtain ⟨hlt, hreg, hid⟩ := h finalId final hfinal
  refine ⟨hlt, rfl, ?_, nofun, fun hanonymous => nomatch hreg.symm.trans hanonymous⟩
  show token.id = (r.objects final).index
  rw [htoken, Object.index, hreg, hid]
  rfl

section

variable (h : HandleOk r handle)
include h

lemma HandleOk.upgrade (hres : handle.upgrade permit r = .ok handle') : HandleOk r handle' := by
  obtain rfl := upgrade_eq_ok hres
  exact h.same rfl rfl rfl (.inl rfl)

lemma HandleOk.upgradeOneshot
    (hres : handle.upgradeOneshot permit r = .ok handle') : HandleOk r handle' := by
  obtain rfl := upgradeOneshot_eq_ok hres
  exact h.same rfl rfl rfl (.inr rfl)

lemma HandleOk.issuePermit {oneshot : Bool}
    (hres : handle.issuePermit cap oneshot interfaceCaps r = .ok permit) : PermitOk r permit := by
  obtain ⟨hcap, rfl⟩ := issuePermit_eq_ok hres
  exact ⟨h.uid_lt, h.id, hcap⟩

end

lemma ObjectRef.upgrade_eq_some {ref : ObjectRef} {uid : Nat}
    (h : ref.upgrade r = some uid) : uid = ref.uid := by
  cases ref with
  | owned u => exact (some.inj h).symm
  | shared u =>
    simp only [ObjectRef.upgrade, Registry.upgrade] at h
    split at h
    · cases h
    · exact (some.inj h).symm

/-- An operation through a handle is refused, or runs on the handle's object, which is active. -/
lemma Handle.withObject_cases {α : Type} (handle : Handle) (required : Capability)
    (f : Nat → Action Registry ObjectError α) (r : Registry) :
    (∃ e, handle.withObject required f r = (.error e, r)) ∨ ((r.objects handle.uid).status = .active ∧
        handle.withObject required f r = f handle.uid r) := by
  unfold withObject
  split
  · exact .inl ⟨_, rfl⟩
  rename_i uid huid
  obtain rfl := ObjectRef.upgrade_eq_some huid
  split
  · exact .inl ⟨_, rfl⟩
  rename_i hverify
  refine .inr ⟨?_, rfl⟩
  unfold Object.verifyCapabilities at hverify
  split at hverify
  · cases hverify
  · rename_i hstatus
    exact not_not.1 hstatus

end HandleOps

/-! ## The invariant of the world -/

/-- The child `add_child` attaches is filed under its index, and its owner's handle says so. -/
lemma Registry.attachChild_ok {r : Registry} (h : MapSound r) {self : Nat}
    (hself : self < r.nextUid) (name : String) (maskedCaps : Capability) :
    MapSound (r.attachChild self name maskedCaps).registry ∧
      HandleOk (r.attachChild self name maskedCaps).registry
        (r.attachChild self name maskedCaps).handle := by
  have hev := attachChild_evolves r self name maskedCaps
  have hchild : (r.attachChild self name maskedCaps).registry.objects r.nextUid =
      r.newChild self r.allocate.1 name maskedCaps := by
    rw [attachChild_objects hself, if_neg (Nat.ne_of_gt hself), if_pos rfl]
  constructor
  · intro i u hi
    rw [attachChild_map] at hi
    rcases getElem?_insert_cases hi with ⟨hid, rfl⟩ | ⟨_, hi⟩
    · rw [hchild, attachChild_nextUid]
      exact ⟨Nat.lt_succ_self _, rfl, hid⟩
    · obtain ⟨hu, hreg, hid⟩ := h i u hi
      refine ⟨lt_of_lt_of_le hu hev.nextUid, ?_, ?_⟩
      · rw [hev.registered_eq hu, hreg]
      · rw [hev.id_eq hu, hid]
  · rw [attachChild_handle]
    refine ⟨?_, ?_, ?_, nofun, nofun⟩
    · show r.nextUid < _
      rw [attachChild_nextUid]
      exact Nat.lt_succ_self _
    · show true = ((r.attachChild self name maskedCaps).registry.objects r.nextUid).registered
      rw [hchild]
      rfl
    · show some r.allocate.1 = ((r.attachChild self name maskedCaps).registry.objects r.nextUid).index
      rw [hchild]
      rfl

namespace World

/-- Handles and permits carry the index of their object. -/
structure Coherent (w : World) : Prop where
  map : MapSound w.registry
  freed : FreedSound w.registry
  handles : ∀ handle, some handle ∈ w.handles → HandleOk w.registry handle
  permits : ∀ permit, some permit ∈ w.permits → PermitOk w.registry permit

variable {w : World} {slot : Nat}

lemma mem_of_handle? {handle : Handle} (h : w.handle? slot = some handle) : some handle ∈ w.handles :=
  mem_of_getElem? (join_eq_some_iff.1 h)

lemma mem_of_permit? {permit : Permit} (h : w.permit? slot = some permit) : some permit ∈ w.permits :=
  mem_of_getElem? (join_eq_some_iff.1 h)

section Step

variable {w : World}

/-- What a step does to the registry. -/
structure Grows (r r' : Registry) : Prop extends Evolves r r' where
  map : MapSound r'
  freed : FreedSound r'
  parents : ParentsRegistered r → ParentsRegistered r'

section

variable (h : w.Coherent)
include h

lemma Coherent.prunes {r : Registry} (hp : Prunes w.registry r) : Grows w.registry r :=
  ⟨hp.toEvolves, h.map.prunes hp, h.freed.evolves hp.toEvolves hp.freed, (·.prunes hp)⟩

lemma Coherent.grows_refl : Grows w.registry w.registry := h.prunes (.refl _)

/-- An operation through a handle that prunes. -/
lemma Coherent.withObject {α : Type} (handle : Handle) (required : Capability)
    {f : Nat → Action Registry ObjectError α} (hf : Prunes w.registry (f handle.uid w.registry).2) :
    Grows w.registry (handle.withObject required f w.registry).2 := by
  apply h.prunes
  rcases handle.withObject_cases required f w.registry with ⟨e, heq⟩ | ⟨-, heq⟩
  · rw [heq]
    exact .refl _
  · rw [heq]
    exact hf

/-- A setter of the object's metadata. -/
lemma Coherent.setMeta (handle : Handle) {f : Object → Object}
    (hf : ∀ object, (f object).identity = object.identity ∧ (f object).status = object.status ∧
      (f object).children = object.children) : Grows w.registry (w.setMeta handle f).registry := by
  apply h.withObject
  refine .setObject _ (.setObject _ (hf _).1 fun hs => ?_) fun name hname => ?_
  · rw [(hf _).2.1]
    exact hs
  · rw [(hf _).2.2]
    exact hname

variable {handle : Handle}

/-- `add_child` leaves the registry sound, and the handle it returns is one of the child. -/
lemma Coherent.addChild (hok : HandleOk w.registry handle) (name : String) (maskedCaps : Capability)
    {result : Except (Fault ObjectError) Handle × Registry}
    (hresult : result = handle.withObject Capability.write
      (fun self => addChild self name maskedCaps) w.registry) :
    Grows w.registry result.2 ∧ ∀ owner, result.1 = .ok owner → HandleOk result.2 owner := by
  subst hresult
  rcases handle.withObject_cases Capability.write
      (fun self => Registry.addChild self name maskedCaps) w.registry with ⟨e, heq⟩ | ⟨-, heq⟩
  · rw [heq]
    exact ⟨h.grows_refl, nofun⟩
  rw [heq]
  obtain ⟨hmap, howner⟩ := attachChild_ok h.map hok.uid_lt name maskedCaps
  have hev := attachChild_evolves w.registry handle.uid name maskedCaps
  have hfreed := h.freed.evolves hev (attachChild_freed _ _ _ _)
  rcases addChild_cases handle.uid name maskedCaps w.registry with
    ⟨e, hres⟩ | ⟨hreg, hattached⟩
  · rw [hres]
    exact ⟨h.grows_refl, nofun⟩
  have hparents : ParentsRegistered w.registry →
      ParentsRegistered (w.registry.attachChild handle.uid name maskedCaps).registry := by
    refine fun hp => hp.evolves hev fun u other hother => ?_
    by_cases hu : u = handle.uid
    · subst hu
      exact .inr ⟨lt_of_lt_of_le hok.uid_lt hev.nextUid, (hev.registered_eq hok.uid_lt).trans hreg⟩
    · rw [attachChild_objects hok.uid_lt, if_neg hu] at hother
      split at hother
      · exact absurd (Std.TreeMap.getElem?_emptyc) hother
      · exact .inl hother
  rcases hattached with ⟨e, hres, hp⟩ | hres
  · rw [hres]
    exact ⟨⟨hev.trans hp.toEvolves, hmap.prunes hp, hfreed.evolves hp.toEvolves hp.freed,
      fun hold => (hparents hold).prunes hp⟩, nofun⟩
  · rw [hres]
    refine ⟨⟨hev, hmap, hfreed, hparents⟩, ?_⟩
    rintro owner ⟨⟩
    exact howner

lemma Coherent.drop (hok : HandleOk w.registry handle) :
    Grows w.registry (dropHandle handle w.registry).2 := by
  obtain ⟨removed, hp, heq⟩ := dropHandle_cases handle w.registry
  have hgrows := h.prunes hp
  rw [heq]
  split
  · exact hgrows
  · rename_i uid hobject
    obtain rfl : uid = handle.uid := by rw [Handle.uid, hobject]; rfl
    refine ⟨hp.toEvolves.trans (.of_objects rfl rfl), hgrows.map, hgrows.freed.free ?_ fun hreg => ?_,
      hgrows.parents⟩
    · exact lt_of_lt_of_le hok.uid_lt hp.nextUid
    · -- what a handle owns is anonymous
      rw [hp.registered_eq hok.uid_lt, ← hok.registered, hok.owned _ hobject] at hreg
      cases hreg

lemma Coherent.newAnonymous (maskedCaps : Capability) :
    Grows w.registry (Handle.newAnonymous maskedCaps w.registry).2 ∧
      HandleOk (Handle.newAnonymous maskedCaps w.registry).2
        (Handle.newAnonymous maskedCaps w.registry).1 := by
  have hev : Evolves w.registry (Handle.newAnonymous maskedCaps w.registry).2 := .build _
  refine ⟨⟨hev, fun i u hi => ?_, h.freed.evolves hev rfl, fun hp => hp.evolves hev fun u name hname => ?_⟩, ?_⟩
  · obtain ⟨hu, hreg, hid⟩ := h.map i u hi
    refine ⟨Nat.lt_succ_of_lt hu, ?_, ?_⟩
    · rw [hev.registered_eq hu, hreg]
    · rw [hev.id_eq hu, hid]
  · replace hname : (if u = w.registry.nextUid then _ else w.registry.objects u).children[name]? ≠ none := hname
    split at hname
    · exact absurd (Std.TreeMap.getElem?_emptyc) hname
    · exact .inl hname
  · have hself : ((Handle.newAnonymous maskedCaps w.registry).2.objects
        w.registry.nextUid).registered = false := by
      simp [Handle.newAnonymous, build, setObject]
    refine ⟨Nat.lt_succ_self _, hself.symm, ?_, fun _ _ => rfl, fun _ => ?_⟩
    · show none = ((Handle.newAnonymous maskedCaps w.registry).2.objects w.registry.nextUid).index
      rw [Object.index, hself]
      rfl
    · simp [Handle.newAnonymous, build, setObject, Handle.uid, ObjectRef.uid]

lemma Coherent.handleOk {slot : Nat} (hslot : w.handle? slot = some handle) : HandleOk w.registry handle :=
  h.handles handle (mem_of_handle? hslot)

lemma Coherent.step_grows (op : Op) : Grows w.registry (w.step op).registry := by
  have hwith : ∀ {slot : Nat} {f : Handle → World},
      (∀ handle, HandleOk w.registry handle → Grows w.registry (f handle).registry) →
      Grows w.registry (w.withHandle slot f).registry := fun hf =>
    withHandle_rule (P := fun w' => Grows w.registry w'.registry) h.grows_refl
      fun handle hslot => hf handle (h.handleOk hslot)
  cases op with
  | addChild slot name maskedCaps =>
    refine hwith fun handle hok => ?_
    dsimp only
    rw [grant_registry]
    exact (h.addChild hok name maskedCaps rfl).1
  | writeRemoveChild =>
    exact hwith fun handle _ => h.withObject handle _ (writeRemoveChild_prunes _ _ _ _)
  | adminRemoveChild =>
    exact hwith fun handle _ => h.withObject handle _ (adminRemoveChild_prunes _ _ _ _)
  | remove => exact hwith fun _ _ => h.prunes (remove_prunes _ _ _)
  | drop => exact hwith fun _ hok => h.drop hok
  | newAnonymous maskedCaps => exact (h.newAnonymous maskedCaps).1
  | setMaskedCaps | setPublicInterfaceCaps => exact hwith fun handle _ => h.setMeta handle fun _ => ⟨rfl, rfl, rfl⟩
  | setLifecycleFlags =>
    refine hwith fun handle _ => ?_
    split
    · exact h.grows_refl
    · exact h.prunes (.setObject _ (.setObject _ rfl id) fun _ => id)
  | release uid =>
    show Grows w.registry (if _ then _ else w).registry
    split
    · rename_i hdead
      exact ⟨.of_objects rfl rfl, h.map, h.freed.free hdead.1 fun _ => hdead.2.2, id⟩
    · exact h.grows_refl
  | _ =>
    rw [step_registry rfl]
    exact h.grows_refl

lemma Coherent.step (op : Op) : (w.step op).Coherent := by
  have hgrows := h.step_grows op
  have hkeep : ∀ {handle : Handle}, HandleOk w.registry handle → HandleOk (w.step op).registry handle :=
    fun hok => hok.evolves hgrows.toEvolves
  refine ⟨hgrows.map, hgrows.freed, fun made hmem => ?_, fun permit hmem => ?_⟩
  · rcases mem_step_handles hmem with hold | hmade
    · exact hkeep (h.handles made hold)
    cases op with
    | addChild slot name maskedCaps =>
      obtain ⟨handle, hslot, hres⟩ := hmade
      have hnew := (h.addChild (h.handleOk hslot) name maskedCaps rfl).2 made hres
      simpa only [World.step, withHandle, mem_def.1 hslot, grant_registry] using hnew
    | newAnonymous maskedCaps =>
      cases hmade
      exact (h.newAnonymous maskedCaps).2
    | acquireRef =>
      obtain ⟨handle, hslot, hres⟩ := hmade
      exact hkeep ((h.handleOk hslot).acquireRef hres)
    | tryClone =>
      obtain ⟨handle, hslot, hres⟩ := hmade
      exact hkeep ((h.handleOk hslot).acquireRef (tryClone_eq_ok hres))
    | deriveHandle =>
      obtain ⟨handle, hslot, hres⟩ := hmade
      exact hkeep ((h.handleOk hslot).deriveHandle hres)
    | downgrade =>
      obtain ⟨handle, hslot, rfl⟩ := hmade
      exact hkeep ((h.handleOk hslot).same rfl rfl rfl (.inl rfl))
    | locate =>
      obtain ⟨handle, hslot, hres⟩ := hmade
      exact hkeep (locateAndThen_ok h.map (locate_eq_ok hres))
    | locateRoot => exact hkeep (locateAndThen_ok h.map hmade)
    | upgrade =>
      obtain ⟨handle, hslot, p, -, hres⟩ := hmade
      exact hkeep ((h.handleOk hslot).upgrade hres)
    | upgradeOneshot =>
      obtain ⟨handle, hslot, p, -, hres⟩ := hmade
      exact hkeep ((h.handleOk hslot).upgradeOneshot hres)
    | _ => cases hmade
  · rcases mem_step_permits hmem with hold | hissued
    · exact (h.permits permit hold).evolves hgrows.toEvolves
    · cases op with
      | issuePermit =>
        obtain ⟨handle, hslot, hres⟩ := hissued
        exact ((h.handleOk hslot).issuePermit hres).evolves hgrows.toEvolves
      | _ => cases hissued

end

end Step

lemma boot_coherent : boot.Coherent := by
  refine ⟨fun i u hi => ?_, nofun, fun handle hmem => ?_,
    nofun⟩
  · obtain ⟨rfl, rfl⟩ := boot_map hi
    exact ⟨zero_lt_one, rfl, rfl⟩
  · cases mem_singleton.1 hmem
    exact ⟨zero_lt_one, rfl, rfl, nofun, nofun⟩

/-- Every state of every run is coherent. -/
lemma run_coherent (ops : List Op) : (runOps step boot ops).Coherent :=
  run_invariant_all (fun _ op h => h.step op) boot_coherent ops

end World

end Akarin.Objects
