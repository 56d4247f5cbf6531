/-
# Akarin.Objects.Interleaving -- `add_child`, `remove_child` and `remove_internal` as tasks

The three calls cut into the atomic steps they make on shared memory: the registry map, the index
allocator, the children map and the status word of an object. What a call keeps in local variables
is in its program counter. A schedule interleaves the steps of any number of calls on any objects
(`calls`); the environment reclaims the memory of objects.

`add_child` ends its rollback by dropping the handle of the child, which removes the child a second
time if its memory is still there.
-/
import Akarin.Lib.Tasks
import Akarin.Objects.Teardown

namespace Akarin.Objects

open Lib

/-- Where a `remove_internal` stands. -/
inductive RemovalPc where
  /-- `self.map.get(&parent_id)` -/
  | findParent (uid : Nat)
  /-- `children.get(&object.name)` and the comparison -/
  | checkEntry (uid parent : Nat)
  /-- `children.remove(&object.name)` -/
  | eraseEntry (uid parent : Nat)
  /-- the exchange of the target's status -/
  | markTarget (uid : Nat)
  /-- `queue.pop_front()` and `children.iter()` -/
  | traverse (queue visited : List Nat)
  /-- `self.map.get(child_id)` for the next of the indices of `current` -/
  | findChild (ids : List Nat) (current : Nat) (queue visited : List Nat)
  /-- the exchange of the status of a child -/
  | markChild (child : Nat) (ids : List Nat) (current : Nat) (queue visited : List Nat)
  /-- `visited.pop_front()` and `self.map.remove(&id)` -/
  | unfile (visited : List Nat)
  /-- `self.idx_allocator.reclaim(id)` -/
  | reclaim (id : Nat) (visited : List Nat)

/-- One step of `remove_internal`: on to the next program counter, or back to the caller. -/
def RemovalPc.move (r : Registry) : RemovalPc → Registry × (RemovalPc ⊕ Except (Fault ObjectError) Unit)
  | .findParent uid =>
    match (r.objects uid).parent.bind (r.map[·]?) with
    | none => (r, .inl (.markTarget uid))
    | some parent => (r, .inl (.checkEntry uid parent))
  | .checkEntry uid parent =>
    if (r.objects parent).children[(r.objects uid).name]? = some (r.objects uid).id then
      (r, .inl (.eraseEntry uid parent))
    else (r, .inl (.markTarget uid))
  | .eraseEntry uid parent =>
    (r.setChildren parent ((r.objects parent).children.erase (r.objects uid).name),
      .inl (.markTarget uid))
  | .markTarget uid =>
    if (r.objects uid).status ≠ .active then (r, .inr (.error (.error .objectDestroyed)))
    else (r.setStatus uid .destroying, .inl (.traverse [uid] []))
  | .traverse [] visited => (r, .inl (.unfile visited))
  | .traverse (current :: queue) visited =>
    (r, .inl (.findChild ((r.objects current).children.toList.map (·.2)) current queue visited))
  | .findChild [] current queue visited => (r, .inl (.traverse queue (current :: visited)))
  | .findChild (id :: ids) current queue visited =>
    match r.map[id]? with
    | none => (r, .inl (.findChild ids current queue visited))
    | some child => (r, .inl (.markChild child ids current queue visited))
  | .markChild child ids current queue visited =>
    if (r.objects child).status ≠ .active then (r, .inl (.findChild ids current queue visited))
    else
      (r.setStatus child .destroying, .inl (.findChild ids current (queue ++ [child]) visited))
  | .unfile [] => (r, .inr (.ok ()))
  | .unfile (uid :: visited) =>
    ({ r with map := r.map.erase (r.objects uid).id }, .inl (.reclaim (r.objects uid).id visited))
  | .reclaim id visited => ({ r with reclaimed := r.reclaimed ++ [id] }, .inl (.unfile visited))

/-- What a call returns. -/
inductive Answer where
  | handle (handle : Handle)
  | index (id : Nat)
  | unit

/-- What follows a `remove_internal`. -/
inductive After where
  /-- it was called as such -/
  | finish
  /-- the end of `remove_child` -/
  | child (id : Nat)
  /-- the rollback of `add_child`, whose handle of the child is still to be dropped -/
  | rollback (child : Nat) (e : ObjectError)
  /-- the drop of that handle -/
  | drop (e : ObjectError)

/-- Where a call stands. -/
inductive CallPc where
  /-- `self.children.get(&name).is_some()` -/
  | addLookup (self : Nat) (name : String) (maskedCaps : Capability)
  /-- `idx_allocator.allocate()` and the construction of the child -/
  | addAllocate (self : Nat) (name : String) (maskedCaps : Capability)
  /-- `self.map.insert(id, object)` -/
  | addRegister (self child : Nat)
  /-- `self.children.compare_insert(name, id, |_| false)` -/
  | addRecord (self child : Nat)
  /-- `self.status.load()` -/
  | addCheckParent (self child : Nat)
  /-- `self.is_sticky()` -/
  | removeCheck (self : Nat) (name : String) (isKernel : Bool)
  /-- `self.children.get(name)` -/
  | removeLookup (self : Nat) (name : String)
  /-- `map.get(&child_id)` -/
  | removeFind (self : Nat) (name : String) (id : Nat)
  /-- `masked_caps.load()` -/
  | removeMask (self : Nat) (name : String) (id child : Nat)
  /-- `self.children.remove(name)` -/
  | removeErase (self : Nat) (name : String) (id child : Nat)
  | removing (pc : RemovalPc) (after : After)
  /-- `handle.object.upgrade()` in the drop of the handle of a rolled back child -/
  | upgrade (child : Nat) (e : ObjectError)
  | returned (result : Except (Fault ObjectError) Answer)

/-- The caller goes on. -/
def After.resume (result : Except (Fault ObjectError) Unit) : After → CallPc
  | .finish => .returned (result.map fun _ => .unit)
  | .child id => .returned (result.map fun _ => .index id)
  | .rollback uid e => .upgrade uid e
  | .drop e =>
    match result with
    | .ok () => .returned (.error (.error e))
    | .error (.error .objectDestroyed) => .returned (.error (.error e))
    | .error _ => .returned (.error .panic)

/-- The step of `add_child` that records the child under its name. -/
def recordChild (r : Registry) (self child : Nat) : Registry × CallPc :=
  let name := (r.objects child).name
  let id := (r.objects child).id
  let children := (r.objects self).children
  (r.setChildren self (children.insertIfNew name id),
    if (children[name]?).getD id ≠ id then
      .removing (.findParent child) (.rollback child .duplicateChildName)
    else .addCheckParent self child)

/-- One atomic step of a call. -/
def CallPc.move (r : Registry) : CallPc → Registry × CallPc
  | .addLookup self name maskedCaps =>
    if ((r.objects self).children[name]?).isSome then
      (r, .returned (.error (.error .duplicateChildName)))
    else (r, .addAllocate self name maskedCaps)
  | .addAllocate self name maskedCaps =>
    if !(r.objects self).registered then (r, .returned (.error .panic))
    else
      (r.allocate.2.build (r.newChild self r.allocate.1 name maskedCaps),
        .addRegister self r.nextUid)
  | .addRegister self child => ((r.insertInternal child).2, .addRecord self child)
  | .addRecord self child => recordChild r self child
  | .addCheckParent self child =>
    if (r.objects self).status ≠ .active then
      (r, .removing (.findParent child) (.rollback child .objectDestroyed))
    else (r, .returned (.ok (.handle (r.insertInternal child).1)))
  | .removeCheck self name isKernel =>
    if !isKernel && (r.objects self).isSticky then
      (r, .returned (.error (.error .invalidArgument)))
    else (r, .removeLookup self name)
  | .removeLookup self name =>
    match (r.objects self).children[name]? with
    | none => (r, .returned (.error (.error .objectNotFound)))
    | some id => (r, .removeFind self name id)
  | .removeFind self name id =>
    if !(r.objects self).registered then (r, .returned (.error .panic))
    else
      match r.map[id]? with
      | none => (r, .returned (.error (.error .objectNotFound)))
      | some child => (r, .removeMask self name id child)
  | .removeMask self name id child =>
    if (r.objects child).maskedCaps.contains .write then
      (r, .returned (.error (.error .insufficientCapabilities)))
    else (r, .removeErase self name id child)
  | .removeErase self name id child =>
    match (r.objects self).children[name]? with
    | none => (r, .returned (.error (.error .objectNotFound)))
    | some _ =>
      (r.setChildren self ((r.objects self).children.erase name),
        .removing (.findParent child) (.child id))
  | .removing pc after =>
    match pc.move r with
    | (r, .inl pc) => (r, .removing pc after)
    | (r, .inr result) => (r, after.resume result)
  | .upgrade child e =>
    match r.upgrade child with
    | none => (r, .returned (.error (.error e)))
    | some uid => (r, .removing (.findParent uid) (.drop e))
  | .returned result => (r, .returned result)

/-- The calls of the interleavings. -/
inductive ObjectCall where
  | addChild (self : Nat) (name : String) (maskedCaps : Capability)
  | removeChild (self : Nat) (name : String) (isKernel : Bool)
  | removeInternal (uid : Nat)

/-- The object a call is made on. -/
def ObjectCall.on : ObjectCall → Nat
  | .addChild self _ _ => self
  | .removeChild self _ _ => self
  | .removeInternal uid => uid

/-- The first program counter; the test of the name needs no shared memory. -/
def ObjectCall.entry : ObjectCall → CallPc
  | .addChild self name maskedCaps =>
    if name = "" || name = "self" then .returned (.error (.error .dangerousName))
    else .addLookup self name maskedCaps
  | .removeChild self name isKernel => .removeCheck self name isKernel
  | .removeInternal uid => .removing (.findParent uid) .finish

/-- A call needs an object; the environment reclaims the memory of one. -/
def calls : Program Registry CallPc ObjectCall Nat where
  enter r call := if call.on < r.nextUid then some call.entry else none
  move := CallPc.move
  act r uid := r.free uid

end Akarin.Objects
