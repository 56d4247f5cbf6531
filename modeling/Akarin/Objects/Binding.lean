/-
# Akarin.Objects.Binding -- what ties a permit, or a temporary reference, to an object

A permit is meant for the object whose handle issued it, but what `upgrade` and `upgrade_oneshot`
compare are optional indices. `permit_bound_iff` says exactly when that is enough. All anonymous
objects have the index `None`, and the index of a destroyed object goes to the next one created
(`permit_of_another_object_accepted`).

A temporary reference is a handle with a copy of the token it was made from. Dropping a handle that
holds ADMIN destroys the object, so a temporary reference made from the owner's handle does
(`temporary_reference_kept_iff`, `dropping_reference_destroys`).
-/
import Akarin.Objects.Coherence

namespace Akarin.Objects

open Lib Registry

/-! ## Permits -/

namespace Handle

/-- The permit can be consumed on the handle, in one of the two ways. -/
def Accepts (handle : Handle) (permit : Permit) (r : Registry) : Prop :=
  (∃ raised, handle.upgrade permit r = .ok raised) ∨
    ∃ temporary, handle.upgradeOneshot permit r = .ok temporary

/-- `Token::new` would refuse the token a permit raises the handle's to. -/
def RaiseRefused (handle : Handle) (permit : Permit) : Prop :=
  handle.interfaceCaps ||| permit.token.interfaceCaps ≠ unrestricted ∧
    (handle.capabilities ||| permit.token.capabilities).isPrivileged = true

variable {handle : Handle} {permit : Permit} {r : Registry}

/-- Each of the two ways takes one kind of permit and makes the same checks. -/
lemma exists_consume_iff (kind : PermitKind) : (∃ token, handle.consume permit kind r = .ok token) ↔
      permit.kind = kind ∧ handle.isValid r = true ∧ permit.token.id = handle.objectId ∧
        ¬ handle.RaiseRefused permit := by
  constructor
  · rintro ⟨token, htoken⟩
    obtain ⟨hkind, hvalid, hid, hraised⟩ := consume_eq_ok htoken
    exact ⟨hkind, hvalid, hid, Token.exists_make_iff.1 ⟨token, hraised⟩⟩
  · rintro ⟨hkind, hvalid, hid, hraised⟩
    obtain ⟨token, htoken⟩ := Token.exists_make_iff.2 hraised
    refine ⟨token, ?_⟩
    rw [consume, if_neg (not_not.2 hkind), hvalid, if_neg (by decide), if_neg (not_not.2 hid)]
    exact htoken

lemma exists_upgrade_iff : (∃ raised, handle.upgrade permit r = .ok raised) ↔
      ∃ token, handle.consume permit .permanent r = .ok token := by
  unfold upgrade
  cases handle.consume permit .permanent r <;> simp

lemma exists_upgradeOneshot_iff : (∃ temporary, handle.upgradeOneshot permit r = .ok temporary) ↔
      ∃ token, handle.consume permit .oneShot r = .ok token := by
  unfold upgradeOneshot
  cases handle.consume permit .oneShot r <;> simp

lemma accepts_iff : handle.Accepts permit r ↔
      handle.isValid r = true ∧ permit.token.id = handle.objectId ∧ ¬ handle.RaiseRefused permit := by
  unfold Accepts
  rw [exists_upgrade_iff, exists_upgradeOneshot_iff, exists_consume_iff, exists_consume_iff]
  constructor
  · rintro (h | h) <;> exact h.2
  · intro h
    cases hkind : permit.kind with
    | oneShot => exact .inr ⟨rfl, h⟩
    | permanent => exact .inl ⟨rfl, h⟩

end Handle

namespace World

/-- A permit is consumed only on the object it was issued for exactly when nothing else that is
alive shows the same index. -/
theorem permit_bound_iff (ops : List Op) {slot permitSlot : Nat} {handle : Handle}
    {permit : Permit} (hhandle : (runOps step boot ops).handle? slot = some handle)
    (hpermit : (runOps step boot ops).permit? permitSlot = some permit) :
    (handle.Accepts permit (runOps step boot ops).registry → handle.uid = permit.issuer) ↔
      (handle.uid = permit.issuer ∨ handle.isValid (runOps step boot ops).registry = false ∨
        ((runOps step boot ops).registry.objects handle.uid).index ≠
          ((runOps step boot ops).registry.objects permit.issuer).index ∨
        handle.RaiseRefused permit) := by
  have hcoherent := run_coherent ops
  have hid := (hcoherent.handleOk hhandle).id
  have hpid := (hcoherent.permits permit (mem_of_permit? hpermit)).id
  rw [Handle.accepts_iff, Handle.objectId, hid, hpid]
  constructor
  · intro h
    by_contra hnot
    simp only [not_or, not_not] at hnot
    obtain ⟨hne, hvalid, hindex, hraised⟩ := hnot
    exact hne (h ⟨by simpa using hvalid, hindex.symm, hraised⟩)
  · rintro (h | h | h | h) ⟨hvalid, hindex, hraised⟩
    · exact h
    · rw [hvalid] at h
      cases h
    · exact absurd hindex.symm h
    · exact absurd h hraised

/-- Two anonymous objects; the handle of the first issues a permit to write, the second gets a
handle that may only read. -/
def anonymousOps : List Op :=
  [.newAnonymous 0, .newAnonymous 0, .issuePermit 1 .write false 0,
    .deriveHandle 2 .read 0]

/-- An object issues a permit and is removed; the next object gets its index. -/
def recycledOps : List Op :=
  [.addChild 0 "a" 0, .issuePermit 1 .write true 0, .remove 1 true, .addChild 0 "b" 0]

def readOnly : Handle := ⟨⟨none, .read, 0⟩, false, .shared 2⟩

def writePermit : Permit := ⟨⟨none, .write, 0⟩, .permanent, 1⟩

theorem permit_bound_iff_anonymousOps : (runOps step boot anonymousOps).handle? 3 = some readOnly ∧
      (runOps step boot anonymousOps).permit? 0 = some writePermit ∧
      ¬ (readOnly.Accepts writePermit (runOps step boot anonymousOps).registry →
        readOnly.uid = writePermit.issuer) := by
  have hhandle : (runOps step boot anonymousOps).handle? 3 = some readOnly := by decide
  have hpermit : (runOps step boot anonymousOps).permit? 0 = some writePermit := by decide
  refine ⟨hhandle, hpermit, ?_⟩
  rw [permit_bound_iff anonymousOps hhandle hpermit]
  unfold Handle.RaiseRefused
  decide

/-- The read-only handle of one anonymous object can write after it was raised with the permit of
another one, and a permit of a removed object is good for the object that has its index now. -/
theorem permit_of_another_object_accepted : (∃ handle permit raised,
      (runOps step boot anonymousOps).handle? 3 = some handle ∧
      (runOps step boot anonymousOps).permit? 0 = some permit ∧ handle.uid ≠ permit.issuer ∧
      handle.capabilities.contains Capability.write = false ∧
      handle.upgrade permit (runOps step boot anonymousOps).registry = .ok raised ∧
      raised.capabilities.contains Capability.write = true) ∧ ∃ handle permit temporary,
      (runOps step boot recycledOps).handle? 2 = some handle ∧
      (runOps step boot recycledOps).permit? 0 = some permit ∧ handle.uid ≠ permit.issuer ∧
      handle.upgradeOneshot permit (runOps step boot recycledOps).registry = .ok temporary := by
  refine ⟨⟨readOnly, writePermit, ⟨⟨none, .read ||| .write, 0⟩, false,
    .shared 2⟩, by decide, by decide, by decide, by decide, by decide, by decide⟩, ?_⟩
  exact ⟨⟨⟨some 1, .adminGrp, unrestricted⟩, true, .shared 2⟩, ⟨⟨some 1, .write, 0⟩, .oneShot, 1⟩,
    ⟨⟨some 1, .adminGrp, unrestricted⟩, true, .shared 2⟩,
    by decide, by decide, by decide, by decide⟩

end World

/-! ## Temporary references -/

/-- The three ways to make a secondary handle to the object of a handle. -/
inductive Temporary where
  | acquireRef
  | upgradeOneshot (permit : Permit)
  | locateSelf

/-- The secondary handle. -/
def Temporary.create (temporary : Temporary) (handle : Handle) (r : Registry) :
    Except (Fault ObjectError) Handle :=
  match temporary with
  | .acquireRef => handle.acquireRef r
  | .upgradeOneshot permit => handle.upgradeOneshot permit r
  | .locateSelf => handle.locate "self" r

/-- The object is active and registered, and everything below it is as it was. -/
structure Kept (r r' : Registry) (uid : Nat) : Prop where
  active : (r'.objects uid).status = .active
  filed : r'.map[(r.objects uid).id]? = some uid
  below : ∀ c, r.Below uid c → (r'.objects c).status = (r.objects c).status ∧
    r'.map[(r.objects c).id]? = r.map[(r.objects c).id]?

/-- A secondary handle to the same object, with ADMIN when the first one has it. -/
structure Refers (handle secondary : Handle) : Prop where
  object : secondary.object = .shared handle.uid
  registered : secondary.registered = true
  objectId : secondary.objectId = handle.objectId
  admin : secondary.capabilities.contains .admin = handle.capabilities.contains .admin

section Create

variable {r : Registry} {handle secondary : Handle}

lemma Refers.of_acquireRef (hreg : handle.registered = true)
    (hres : handle.acquireRef r = .ok secondary) : Refers handle secondary := by
  obtain rfl := Handle.acquireRef_eq_ok hres
  exact ⟨rfl, hreg, rfl, rfl⟩

lemma Refers.of_upgradeOneshot {permit : Permit} (hpermit : PermitOk r permit)
    (hreg : handle.registered = true) (hres : handle.upgradeOneshot permit r = .ok secondary) :
    Refers handle secondary := by
  obtain rfl := Handle.upgradeOneshot_eq_ok hres
  refine ⟨rfl, hreg, rfl, ?_⟩
  -- a permit never holds ADMIN itself
  have hnone := hpermit.unprivileged
  rw [Capability.isPrivileged, Bool.or_eq_false_iff] at hnone
  show (handle.capabilities ||| permit.token.capabilities).contains .admin = _
  rw [Capability.contains_or_admin, hnone.1, Bool.or_false]

lemma Refers.of_locateSelf (hhandle : HandleOk r handle)
    (hfiled : r.map[(r.objects handle.uid).id]? = some handle.uid)
    (hreg : (r.objects handle.uid).registered = true)
    (hres : handle.locate "self" r = .ok secondary) : Refers handle secondary := by
  have hid : handle.token.id = some (r.objects handle.uid).id := by
    rw [hhandle.id, Object.index, hreg]
    rfl
  have hrelative : isAbsolute "self" = false := by decide
  have hself : components "self" = ["self"] := by decide
  have hres := Handle.locate_eq_ok hres
  unfold locateAndThen startToken at hres
  simp only [hrelative] at hres
  split at hres
  · cases hres
  rename_i token htoken
  obtain rfl := Token.make_eq_ok htoken
  rw [hself] at hres
  simp only [walkAll, walk, if_true, Handle.objectId, hid, hfiled] at hres
  cases hres
  exact ⟨rfl, hreg, hid.symm, rfl⟩

/-- Dropping a secondary handle without ADMIN does nothing. -/
lemma Refers.dropHandle_idle (h : Refers handle secondary)
    (hadmin : handle.capabilities.contains .admin = false) : (dropHandle secondary r).2 = r := by
  rw [dropHandle, h.admin, hadmin, h.object]
  rfl

/-- Dropping a secondary handle with ADMIN removes the object, if it is still in memory. -/
lemma Refers.dropHandle_admin (h : Refers handle secondary)
    (hadmin : handle.capabilities.contains Capability.admin = true)
    (hid : handle.objectId.isSome = true) (hfreed : r.freed handle.uid = false) :
    (dropHandle secondary r).2 = (removeInternal handle.uid r).2 := by
  have hremove : remove secondary true r = removeInternal handle.uid r := by
    rw [Registry.remove, h.admin, hadmin, h.object]
    simp [ObjectRef.upgrade, upgrade, hfreed]
  rw [dropHandle, h.admin, hadmin, h.registered, h.objectId, hid, h.object, hremove]
  simp only [Bool.and_self, if_true]
  -- however the removal ends, the registry is the one it leaves
  split <;>
  · rename_i heq
    rw [heq]

end Create

/-- Whatever `remove_internal` returns, its object is not active afterwards. -/
lemma Registry.removeInternal_destroys {r : Registry} {uid : Nat} (huid : uid < r.nextUid) :
    ((removeInternal uid r).2.objects uid).status ≠ .active := by
  have hlt := lt_of_lt_of_le huid (unlink_prunes r uid).nextUid
  unfold removeInternal
  dsimp only
  split
  · rename_i hstatus
    exact hstatus
  · -- destroyed at the start of the search, and nothing revives it
    have hstart : (((r.unlink uid).setStatus uid .destroying).objects uid).status ≠ .active := by
      simp [setStatus, setObject]
    exact ((drain_prunes ..).trans (reclaimAll_prunes _ _)).destroyed uid hlt hstart

namespace World

lemma Coherent.refers {w : World} (h : w.Coherent) {handle secondary : Handle}
    (hhandle : HandleOk w.registry handle)
    (hfiled : w.registry.map[(w.registry.objects handle.uid).id]? = some handle.uid)
    {temporary : Temporary}
    (hpermit : ∀ permit, temporary = .upgradeOneshot permit → some permit ∈ w.permits)
    (hres : temporary.create handle w.registry = .ok secondary) : Refers handle secondary := by
  have hreg := (h.map _ _ hfiled).2.1
  have hregistered : handle.registered = true := hhandle.registered.trans hreg
  cases temporary with
  | acquireRef => exact .of_acquireRef hregistered hres
  | upgradeOneshot permit =>
    exact .of_upgradeOneshot (h.permits permit (hpermit permit rfl)) hregistered hres
  | locateSelf => exact .of_locateSelf hhandle hfiled hreg hres

/-- Creating a secondary handle to an active registered object and dropping it again leaves the
object and everything below it alone exactly when the handle it was made from has no ADMIN. -/
theorem temporary_reference_kept_iff (ops : List Op) {slot : Nat} {handle : Handle}
    (hhandle : (runOps step boot ops).handle? slot = some handle)
    (hactive : ((runOps step boot ops).registry.objects handle.uid).status = .active)
    (hfiled : (runOps step boot ops).registry.map[
      ((runOps step boot ops).registry.objects handle.uid).id]? = some handle.uid) (temporary : Temporary)
    (hpermit : ∀ permit, temporary = .upgradeOneshot permit →
      some permit ∈ (runOps step boot ops).permits) {secondary : Handle}
    (hcreate : temporary.create handle (runOps step boot ops).registry = .ok secondary) :
    Kept (runOps step boot ops).registry
        (Registry.dropHandle secondary (runOps step boot ops).registry).2 handle.uid ↔
      handle.capabilities.contains Capability.admin = false := by
  have hcoherent := run_coherent ops
  have hok := hcoherent.handleOk hhandle
  generalize runOps step boot ops = w at *
  have hrefers := hcoherent.refers hok hfiled hpermit hcreate
  constructor
  · intro hkept
    refine Bool.eq_false_iff.2 fun hadmin => ?_
    -- the object is in memory, so the drop finds it and destroys it
    have hreg := (hcoherent.map _ _ hfiled).2.1
    have hfreed : w.registry.freed handle.uid = false :=
      Bool.eq_false_iff.2 fun hf => (hcoherent.freed _ hf).2 hreg hactive
    have hid : handle.objectId.isSome = true := by
      rw [Handle.objectId, hok.id, Object.index, hreg]
      rfl
    have hstatus := hkept.active
    rw [hrefers.dropHandle_admin hadmin hid hfreed] at hstatus
    exact removeInternal_destroys hok.uid_lt hstatus
  · intro hadmin
    rw [hrefers.dropHandle_idle hadmin]
    exact ⟨hactive, hfiled, fun _ _ => ⟨rfl, rfl⟩⟩

/-- A service with one child. Its owner has issued a permit to read and given away a handle that
may only read. -/
def serviceOps : List Op :=
  [.addChild 0 "svc" 0, .addChild 1 "worker" 0, .issuePermit 1 .read true 0,
    .deriveHandle 1 .read 0]

def serviceOwner : Handle := ⟨⟨some 1, .adminGrp, unrestricted⟩, true, .shared 1⟩

def serviceReader : Handle := ⟨⟨some 1, .read, 0⟩, true, .shared 1⟩

def servicePermit : Permit := ⟨⟨some 1, .read, 0⟩, .oneShot, 1⟩

theorem temporary_reference_kept_iff_serviceReader :
    (runOps step boot serviceOps).handle? 3 = some serviceReader ∧ ∀ secondary,
        serviceReader.locate "self" (runOps step boot serviceOps).registry = .ok secondary →
        Kept (runOps step boot serviceOps).registry
          (Registry.dropHandle secondary (runOps step boot serviceOps).registry).2 serviceReader.uid := by
  have hhandle : (runOps step boot serviceOps).handle? 3 = some serviceReader := by decide
  refine ⟨hhandle, fun secondary hsecondary => ?_⟩
  exact (temporary_reference_kept_iff serviceOps hhandle (by decide) (by decide) .locateSelf
    nofun hsecondary).2 (by decide)

/-- Each kind of temporary reference made from the owner's handle takes the service with it when it
is dropped, and its child too. -/
theorem dropping_reference_destroys : (runOps step boot serviceOps).handle? 1 = some serviceOwner ∧
      (runOps step boot serviceOps).permit? 0 = some servicePermit ∧
      ∀ temporary ∈ [.acquireRef, .upgradeOneshot servicePermit, .locateSelf],
        ∃ secondary, Temporary.create temporary serviceOwner
            (runOps step boot serviceOps).registry = .ok secondary ∧
          ((Registry.dropHandle secondary (runOps step boot serviceOps).registry).2.objects
            1).status = .destroying ∧
          (Registry.dropHandle secondary (runOps step boot serviceOps).registry).2.map[2]? = none := by
  refine ⟨by decide, by decide, fun temporary hmem => ⟨serviceOwner, ?_⟩⟩
  simp only [List.mem_cons, List.not_mem_nil, or_false] at hmem
  rcases hmem with rfl | rfl | rfl
  · exact ⟨by decide, by decide, by decide⟩
  · exact ⟨by decide, by decide, by decide⟩
  · exact ⟨by decide, by decide, by decide⟩

end World

end Akarin.Objects
