/-
# Akarin.Objects.Registry -- objects, the registry and path traversal

Every object ever built has a number of its own, its uid, under which the memory keeps it; what the
source shares as `Arc<Object>` or `Weak<Object>` is a uid here. The registry maps recyclable
indices to uids. `freed` says that the memory of an object is gone, so that `Weak::upgrade` fails: a
destroyed object stays upgradable until the skip list reclaims the node that owned it, at a moment
the code does not control.

Two fields of `Object` are history only, no function reads them to decide anything: `parentUid` is
the object itself whose index is stored in `parent`, and `lineage` the chain of ancestors that were
active when the object was created. Payloads, and the intrusive link the source threads its two
work lists through, are left out.
-/
import Akarin.Lib.OrderedMap
import Akarin.Lib.Worklist
import Akarin.Objects.Capability

namespace Akarin.Objects

open Lib

/-- Whether an object is being destroyed. -/
inductive ObjectStatus where
  | active
  | destroying
  deriving DecidableEq

/-- `ObjectLifecycleFlags`, a word of which bit 0 is named. -/
abbrev LifecycleFlags := BitVec 32

namespace LifecycleFlags

def none : LifecycleFlags := 0#32
def sticky : LifecycleFlags := 1#32

/-- `from_bits`: refuses a word with an unnamed bit. -/
def fromBits (bits : BitVec 32) : Option LifecycleFlags :=
  if bits &&& ~~~sticky = 0 then some bits else .none

end LifecycleFlags

/-- A node of the tree. -/
structure Object where
  /-- `registry.is_some()`. -/
  registered : Bool
  id : Nat
  parent : Option Nat
  name : String
  status : ObjectStatus
  maskedCaps : Capability
  lifecycleFlags : BitVec 32
  publicInterfaceCaps : BitVec 32
  children : Std.TreeMap String Nat
  parentUid : Option Nat
  lineage : List Nat

namespace Object

def isSticky (object : Object) : Bool :=
  BitFlags.contains ((LifecycleFlags.fromBits object.lifecycleFlags).getD LifecycleFlags.none)
    LifecycleFlags.sticky

/-- `derive_token`. -/
def deriveToken (object : Object) (parentToken : Token) : Except (Fault ObjectError) Token :=
  if object.status ≠ .active then .error (.error .objectDestroyed)
  else if parentToken.id ≠ object.parent then .error (.error .invalidArgument)
  else if !parentToken.contains .read then .error (.error .insufficientCapabilities)
  else
    let finalCaps := parentToken.capabilities &&& ~~~object.maskedCaps
    let interfaceCaps :=
      if finalCaps.isPrivileged then unrestricted else object.publicInterfaceCaps
    let appendCaps :=
      if object.maskedCaps.isPrivileged && parentToken.capabilities.isPrivileged then
        Capability.clone ||| Capability.send
      else 0
    Token.make (some object.id) (parentToken.capabilities &&& ~~~object.maskedCaps ||| appendCaps)
      interfaceCaps

lemma deriveToken_eq_ok {object : Object} {parentToken token : Token}
    (h : object.deriveToken parentToken = .ok token) : parentToken.id = object.parent ∧
    token = ⟨some object.id, parentToken.capabilities &&& ~~~object.maskedCaps |||
        (if object.maskedCaps.isPrivileged && parentToken.capabilities.isPrivileged then
          .clone ||| .send else 0),
      if (parentToken.capabilities &&& ~~~object.maskedCaps).isPrivileged then unrestricted
        else object.publicInterfaceCaps⟩ := by
  revert h
  fun_cases deriveToken object parentToken with
  | case4 _ hparent => exact fun h => ⟨not_not.1 hparent, Token.make_eq_ok h⟩
  | _ => exact nofun

/-- `verify_capabilities`; the check that lets a handle's operation through. -/
def verifyCapabilities (object : Object) (token : Token) (required : Capability) :
    Except (Fault ObjectError) Unit :=
  if object.status ≠ .active then .error (.error .objectDestroyed)
  else if token.id.any (· ≠ object.id) then .error (.error .invalidArgument)
  else if !token.contains required then .error (.error .insufficientCapabilities)
  else .ok ()

end Object

/-! ## The registry and the memory its objects live in -/

/-- The index of objects, and the objects. -/
structure Registry where
  map : Std.TreeMap Nat Nat
  /-- `IndexAllocator::next`. -/
  next : Nat
  /-- `IndexAllocator::reclaimed`, front first. -/
  reclaimed : List Nat
  nextUid : Nat
  objects : Nat → Object
  freed : Nat → Bool

namespace Registry

/-- What stands at a uid that no object has yet. -/
def vacant : Object :=
  ⟨false, 0, none, "", .destroying, 0, 0, 0, {}, none, []⟩

/-- `Registry::new`. -/
def new : Registry := ⟨{}, 1, [], 0, fun _ => vacant, fun _ => false⟩

section

variable (r : Registry)

def setObject (uid : Nat) (object : Object) : Registry :=
  { r with objects := fun u => if u = uid then object else r.objects u }

def setStatus (uid : Nat) (status : ObjectStatus) : Registry :=
  r.setObject uid { r.objects uid with status := status }

def setChildren (uid : Nat) (children : Std.TreeMap String Nat) : Registry :=
  r.setObject uid { r.objects uid with children := children }

/-- Put a new object into memory; its uid is `nextUid`. -/
def build (object : Object) : Registry :=
  { r.setObject r.nextUid object with nextUid := r.nextUid + 1 }

/-- `Weak::upgrade`. -/
def upgrade (uid : Nat) : Option Nat := if r.freed uid then none else some uid

/-- The last owner of the object is gone. -/
def free (uid : Nat) : Registry :=
  { r with freed := fun u => u = uid || r.freed u }

/-- `IndexAllocator::allocate`. -/
def allocate : Nat × Registry :=
  match r.reclaimed with
  | index :: rest => (index, { r with reclaimed := rest })
  | [] => (r.next, { r with next := r.next + 1 })

end

variable (r : Registry)

@[simp] lemma allocate_map : r.allocate.2.map = r.map := by
  unfold allocate
  split <;> rfl

@[simp] lemma allocate_nextUid : r.allocate.2.nextUid = r.nextUid := by
  unfold allocate
  split <;> rfl

@[simp] lemma allocate_objects : r.allocate.2.objects = r.objects := by
  unfold allocate
  split <;> rfl

@[simp] lemma allocate_freed : r.allocate.2.freed = r.freed := by
  unfold allocate
  split <;> rfl

/-! ## The tree of registered objects -/

/-- `child` is registered and records the index of `parent` as its parent. -/
def ChildOf (r : Registry) (parent child : Nat) : Prop :=
  r.map[(r.objects child).id]? = some child ∧ (r.objects child).parent = some (r.objects parent).id

/-- `uid` itself, its children, their children and so on. -/
def Below (r : Registry) : Nat → Nat → Prop := Relation.ReflTransGen r.ChildOf

/-! ## Removal -/

/-- The conditional unlinking at the head of `remove_internal`. -/
def unlink (r : Registry) (uid : Nat) : Registry :=
  let object := r.objects uid
  match object.parent.bind (r.map[·]?) with
  | none => r
  | some parentUid =>
    if (r.objects parentUid).children[object.name]? = some object.id then
      r.setChildren parentUid ((r.objects parentUid).children.erase object.name)
    else r

/-- The body of the layer visit, over the child indices of one object: mark what is active. -/
def markChildren : List Nat → Registry → Registry × List Nat
  | [], r => (r, [])
  | childId :: rest, r =>
    match r.map[childId]? with
    | none => markChildren rest r
    | some child =>
      if (r.objects child).status ≠ .active then markChildren rest r
      else
        let result := markChildren rest (r.setStatus child .destroying)
        (result.1, child :: result.2)

/-- One iteration of the visit. -/
def visit (r : Registry) (uid : Nat) : Registry × List Nat :=
  markChildren ((r.objects uid).children.toList.map (·.2)) r

/-- `self.map.remove(&id); self.idx_allocator.reclaim(id)`. -/
def reclaim (r : Registry) (uid : Nat) : Registry :=
  { r with
    map := r.map.erase (r.objects uid).id
    reclaimed := r.reclaimed ++ [(r.objects uid).id] }

/-- `remove_internal`. The unlinking comes before the status is looked at. -/
def removeInternal (uid : Nat) : Action Registry ObjectError Unit := fun r =>
  let r := r.unlink uid
  if (r.objects uid).status ≠ .active then (.error (.error .objectDestroyed), r)
  else
    let result := drain visit (r.nextUid + 1) (r.setStatus uid .destroying) [uid] []
    (.ok (), result.2.foldl reclaim result.1)

end Registry

/-! ## Handles -/

/-- `ObjectRef`: a weak reference, or the owning reference of an anonymous object. -/
inductive ObjectRef where
  | shared (uid : Nat)
  | owned (uid : Nat)
  deriving DecidableEq

namespace ObjectRef

def uid : ObjectRef → Nat
  | .shared uid => uid
  | .owned uid => uid

/-- `into_shared`. -/
def intoShared (ref : ObjectRef) : ObjectRef := .shared ref.uid

/-- `ObjectRef::upgrade`. -/
def upgrade (r : Registry) : ObjectRef → Option Nat
  | .shared uid => r.upgrade uid
  | .owned uid => some uid

end ObjectRef

/-- A reference with its token. -/
structure Handle where
  token : Token
  /-- `registry.is_some()`. -/
  registered : Bool
  object : ObjectRef
  deriving DecidableEq

namespace Handle

def objectId (handle : Handle) : Option Nat := handle.token.id

def capabilities (handle : Handle) : Capability := handle.token.capabilities

def interfaceCaps (handle : Handle) : BitVec 32 := handle.token.interfaceCaps

/-- The object the handle points at. -/
def uid (handle : Handle) : Nat := handle.object.uid

/-- `is_valid`. -/
def isValid (handle : Handle) (r : Registry) : Bool :=
  (handle.object.upgrade r).any fun uid => (r.objects uid).status = .active

/-- `write_with`, `admin_with`: upgrade, verify, then run the closure on the object. The source
returns the closure's result inside its own; the two layers of errors are one here. -/
def withObject {α : Type} (handle : Handle) (required : Capability)
    (f : Nat → Action Registry ObjectError α) : Action Registry ObjectError α := fun r =>
  match handle.object.upgrade r with
  | none => (.error (.error .objectDestroyed), r)
  | some uid =>
    match (r.objects uid).verifyCapabilities handle.token required with
    | .error e => (.error e, r)
    | .ok () => f uid r

end Handle

namespace Registry

/-- `Registry::remove`. -/
def remove (handle : Handle) (isKernel : Bool) : Action Registry ObjectError Unit := fun r =>
  if !handle.capabilities.contains .admin then
    (.error (.error .insufficientCapabilities), r)
  else
    match handle.object.upgrade r with
    | none => (.error (.error .objectDestroyed), r)
    | some uid =>
      if !isKernel && (r.objects uid).isSticky then (.error (.error .invalidArgument), r)
      else removeInternal uid r

/-- `Drop for Handle`. An administrator's handle takes its object with it; dropping the owning
reference of an anonymous object frees it. -/
def dropHandle (handle : Handle) : Action Registry ObjectError Unit := fun r =>
  let removed : Except (Fault ObjectError) Unit × Registry :=
    if handle.capabilities.contains .admin && handle.registered && handle.objectId.isSome then
      match remove handle true r with
      | (.ok (), r) => (.ok (), r)
      | (.error (.error .objectDestroyed), r) => (.ok (), r)
      | (.error _, r) => (.error .panic, r)
    else (.ok (), r)
  match handle.object with
  | .shared _ => removed
  | .owned uid => (removed.1, removed.2.free uid)

/-- `insert_internal`; the owner's token is privileged and unrestricted. -/
def insertInternal (r : Registry) (uid : Nat) : Handle × Registry :=
  let id := (r.objects uid).id
  (⟨⟨some id, .adminGrp, unrestricted⟩, true, .shared uid⟩, { r with map := r.map.insert id uid })

/-- `init_root`. -/
def initRoot : Action Registry ObjectError Handle := fun r =>
  let root : Object :=
    ⟨true, 0, none, "", .active, .execute ||| .admin ||| .agent, LifecycleFlags.sticky, 0, {}, none, []⟩
  match root.deriveToken ⟨none, .trusted, unrestricted⟩ with
  | .error e => (.error e, r)
  | .ok token =>
    (.ok ⟨token, true, .shared r.nextUid⟩, { r.build root with map := r.map.insert 0 r.nextUid })

/-- The rollback of `add_child`: the child is torn down and its owner's handle dropped. -/
def rollback (child : Nat) (handle : Handle) (e : ObjectError) :
    Action Registry ObjectError Handle := fun r =>
  (.error (.error e), (dropHandle handle (removeInternal child r).2).2)

/-- The new child, the index stored under its name, and the owner's handle. -/
structure Attached where
  child : Nat
  id : Nat
  entry : Nat
  handle : Handle
  registry : Registry

/-- The object `add_child` builds. -/
def newChild (r : Registry) (self id : Nat) (name : String) (maskedCaps : Capability) : Object :=
  ⟨true, id, some (r.objects self).id, name, .active, maskedCaps, LifecycleFlags.none, 0, {}, some self,
    (self :: (r.objects self).lineage).filter fun u => (r.objects u).status = .active⟩

/-- The first two steps of `add_child`: build and register the child, then record it under its name;
`compare_insert` never replaces an entry. -/
def attachChild (r : Registry) (self : Nat) (name : String) (maskedCaps : Capability) : Attached :=
  let id := r.allocate.1
  let inserted := (r.allocate.2.build (r.newChild self id name maskedCaps)).insertInternal r.nextUid
  let children := (inserted.2.objects self).children
  ⟨r.nextUid, id, (children[name]?).getD id, inserted.1,
    inserted.2.setChildren self (children.insertIfNew name id)⟩

section

variable (r : Registry) (self : Nat) (name : String) (maskedCaps : Capability)

@[simp] lemma attachChild_nextUid :
    (r.attachChild self name maskedCaps).registry.nextUid = r.nextUid + 1 := by
  show r.allocate.2.nextUid + 1 = _
  rw [allocate_nextUid]

@[simp] lemma attachChild_reclaimed :
    (r.attachChild self name maskedCaps).registry.reclaimed = r.allocate.2.reclaimed := rfl

@[simp] lemma attachChild_next :
    (r.attachChild self name maskedCaps).registry.next = r.allocate.2.next := rfl

@[simp] lemma attachChild_freed : (r.attachChild self name maskedCaps).registry.freed = r.freed := by
  show r.allocate.2.freed = _
  rw [allocate_freed]

/-- The memory after the child was attached to an existing object. -/
lemma attachChild_objects {r : Registry} {self : Nat} (hself : self < r.nextUid) (name : String)
    (maskedCaps : Capability) (u : Nat) : (r.attachChild self name maskedCaps).registry.objects u =
      if u = self then { r.objects self with
          children := (r.objects self).children.insertIfNew name r.allocate.1 }
      else if u = r.nextUid then r.newChild self r.allocate.1 name maskedCaps
      else r.objects u := by
  simp [attachChild, setChildren, setObject, insertInternal, build, ne_of_lt hself]

lemma attachChild_map :
    (r.attachChild self name maskedCaps).registry.map = r.map.insert r.allocate.1 r.nextUid := by
  simp [attachChild, setChildren, setObject, insertInternal, build, newChild]

lemma attachChild_handle : (r.attachChild self name maskedCaps).handle =
      ⟨⟨some r.allocate.1, .adminGrp, unrestricted⟩, true, .shared r.nextUid⟩ := by
  simp [attachChild, setObject, insertInternal, build, newChild]

end

variable (self : Nat) (name : String)

/-- `WriteOperation::add_child` on the object `self`. -/
def addChild (maskedCaps : Capability) : Action Registry ObjectError Handle := fun r =>
  if name = "" || name = "self" then (.error (.error .dangerousName), r)
  else if ((r.objects self).children[name]?).isSome then (.error (.error .duplicateChildName), r)
  else if !(r.objects self).registered then (.error .panic, r)
  else
    let attached := r.attachChild self name maskedCaps
    if attached.entry ≠ attached.id then
      rollback attached.child attached.handle .duplicateChildName attached.registry
    else if (attached.registry.objects self).status ≠ .active then
      rollback attached.child attached.handle .objectDestroyed attached.registry
    else (.ok attached.handle, attached.registry)

/-- `WriteOperation::remove_child` on the object `self`. -/
def writeRemoveChild (isKernel : Bool) : Action Registry ObjectError Nat := fun r =>
  if !isKernel && (r.objects self).isSticky then (.error (.error .invalidArgument), r)
  else
    match (r.objects self).children[name]? with
    | none => (.error (.error .objectNotFound), r)
    | some childId =>
      if !(r.objects self).registered then (.error .panic, r)
      else
        match r.map[childId]? with
        | none => (.error (.error .objectNotFound), r)
        | some child =>
          if (r.objects child).maskedCaps.contains .write then
            (.error (.error .insufficientCapabilities), r)
          else
            Action.andThen (removeInternal child) (fun _ => .ret childId)
              (r.setChildren self ((r.objects self).children.erase name))

/-- `AdminOperation::remove_child` on the object `self`. The entry goes first, the sticky test is
the other way round, and the child's mask is not looked at. -/
def adminRemoveChild (isKernel : Bool) : Action Registry ObjectError Nat := fun r =>
  if isKernel && (r.objects self).isSticky then (.error (.error .invalidArgument), r)
  else
    match (r.objects self).children[name]? with
    | none => (.error (.error .objectNotFound), r)
    | some childId =>
      let r := r.setChildren self ((r.objects self).children.erase name)
      if !(r.objects self).registered then (.error .panic, r)
      else
        match r.map[childId]? with
        | none => (.error (.error .objectNotFound), r)
        | some child => Action.andThen (removeInternal child) (fun _ => .ret childId) r

end Registry

end Akarin.Objects
