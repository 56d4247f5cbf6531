/-
# Akarin.Objects.Orphans -- no object is lost under interleaved creation and destruction

While calls are running, every registered active object is either recorded with its active parent or
some call is in charge of it (`CallPc.Minds`): the `add_child` that is about to record it or to look at
the parent's status, the `remove_internal` that is about to mark it, or a teardown that has its
parent in the queue or its index among those it still has to look at. `move_handsOn` says how one
atomic step hands this charge on. It does unless the step takes a name out of a children map under
which a different object has been recorded meanwhile (`ErasesOwn`, `late_removal_orphans_successor`).
-/
import Akarin.Objects.Interleaving

namespace Akarin.Objects

open List hiding getElem?_insert
open Lib Option World CallPc Pool

namespace Registry

/-- The children map of the parent `p` of `u` has the entry of `u`. -/
def Entered (r : Registry) (p u : Nat) : Prop :=
  (r.objects u).parentUid = some p ∧ (r.objects p).children[(r.objects u).name]? = some (r.objects u).id

/-- The object is recorded under its name in the children map of its active parent. -/
def Recorded (r : Registry) (u : Nat) : Prop := ∃ p, r.Active p ∧ r.Entered p u

/-- Every active object in the map is the root or is recorded with its active parent. -/
def NoOrphans (r : Registry) : Prop :=
  ∀ i u : Nat, r.map[i]? = some u → r.Active u → u = 0 ∨ r.Recorded u

/-- The map leads to existing objects, by their own indices. -/
structure Keyed (r : Registry) : Prop where
  bound : ∀ i u : Nat, r.map[i]? = some u → u < r.nextUid
  key : ∀ i u : Nat, r.map[i]? = some u → (r.objects u).id = i
  parent : ∀ i u : Nat, r.map[i]? = some u → ∀ p ∈ (r.objects u).parentUid, p < r.nextUid

/-- Taking the entry `name` out of the children map of `holder` does not take out the record of an
active object other than `target`. -/
def ErasesOnly (r : Registry) (holder : Nat) (name : String) (target : Nat) : Prop :=
  ∀ i ∈ (r.objects holder).children[name]?, ∀ u ∈ r.map[i]?, r.Active u →
    (r.objects u).parentUid = some holder → (r.objects u).name = name → u = target
deriving Decidable

/-- The entry of `u`, and everything it is made of, is still there. -/
structure Carries (r r' : Registry) (u : Nat) : Prop where
  id : (r'.objects u).id = (r.objects u).id
  entered : ∀ p, r.Entered p u → r'.Entered p u

end Registry

open Registry

/-! ## Who is in charge -/

/-- The parent of `u` is in the queue of a teardown, which will find the entry of `u` there. -/
def Queued (r : Registry) (u : Nat) (queue : List Nat) : Prop := ∃ p ∈ queue, r.Entered p u

/-- The teardown will mark `u`, or find it marked. -/
def RemovalPc.Minds (r : Registry) (u : Nat) : RemovalPc → Prop
  | .findParent uid => u = uid
  | .checkEntry uid _ => u = uid
  | .eraseEntry uid _ => u = uid
  | .markTarget uid => u = uid
  | .traverse queue _ => Queued r u queue
  | .findChild ids _ queue _ => (r.objects u).id ∈ ids ∨ Queued r u queue
  | .markChild child ids _ queue _ => u = child ∨ (r.objects u).id ∈ ids ∨ Queued r u queue
  | .unfile _ => False
  | .reclaim _ _ => False

/-- The call will record or destroy `u`. -/
def CallPc.Minds (r : Registry) (u : Nat) : CallPc → Prop
  | .addRecord _ child => u = child
  | .addCheckParent self child => u = child ∧ r.Entered self u
  | .removing pc _ => pc.Minds r u
  | _ => False

/-- The objects in the program counter of an `add_child` are what they are taken for. -/
def CallPc.Placed (r : Registry) : CallPc → Prop
  | .addLookup self _ _ => self < r.nextUid
  | .addAllocate self _ _ => self < r.nextUid
  | .addRegister self child =>
    self < r.nextUid ∧ child < r.nextUid ∧ (r.objects child).parentUid = some self
  | .addRecord self child =>
    self < r.nextUid ∧ child < r.nextUid ∧ (r.objects child).parentUid = some self
  | .addCheckParent self child =>
    self < r.nextUid ∧ child < r.nextUid ∧ (r.objects child).parentUid = some self
  | _ => True

/-- The steps that take a name out of a children map take out no other object's record. -/
def ErasesOwn (r : Registry) : CallPc → Prop
  | .removeErase self name _ child => r.ErasesOnly self name child
  | .removing (.eraseEntry uid parent) _ => r.ErasesOnly parent (r.objects uid).name uid
  | _ => True

instance (r : Registry) (pc : CallPc) : Decidable (ErasesOwn r pc) := by
  unfold ErasesOwn
  split <;> infer_instance

/-- The invariant of schedules. -/
structure Attended (pool : Pool Registry CallPc) : Prop where
  keyed : Keyed pool.shared
  placed : ∀ pc ∈ pool.tasks, pc.Placed pool.shared
  charge : ∀ i u : Nat, pool.shared.map[i]? = some u → pool.shared.Active u →
    u = 0 ∨ pool.shared.Recorded u ∨ ∃ pc ∈ pool.tasks, pc.Minds pool.shared u

/-! ## What the updates of the registry carry -/

variable {r r' : Registry} {pc : CallPc} {u i : Nat} {pool : Pool Registry CallPc}

lemma Registry.setObject_identity {uid : Nat} {object : Object}
    (h : object.identity = (r.objects uid).identity) (u : Nat) :
    ((r.setObject uid object).objects u).identity = (r.objects u).identity := by
  simp only [setObject]
  split
  · rename_i heq
    rw [h, heq]
  · rfl

namespace Registry.Carries

variable {r r' : Registry} {u : Nat}

lemma of_objects (h : r'.objects = r.objects) : Carries r r' u := by
  refine ⟨by rw [h], fun p hp => ?_⟩
  unfold Entered
  rw [h]
  exact hp

lemma refl (r : Registry) (u : Nat) : Carries r r u := of_objects rfl

/-- One object is overwritten by one of the same identity, whose children map still has the entry of
`u` if it had it. -/
lemma setObject {uid : Nat} {object : Object} (hidentity : object.identity = (r.objects uid).identity)
    (hentry : r.Entered uid u → object.children[(r.objects u).name]? = some (r.objects u).id) :
    Carries r (r.setObject uid object) u := by
  have hsame := setObject_identity hidentity u
  have hid := congrArg (·.2.1) hsame
  have hname := congrArg (·.2.2.2.1) hsame
  have hparent := congrArg (·.2.2.2.2.1) hsame
  refine ⟨hid, fun p hp => ⟨hparent.trans hp.1, ?_⟩⟩
  show ((r.setObject uid object).objects p).children[((r.setObject uid object).objects u).name]? =
    some ((r.setObject uid object).objects u).id
  rw [show ((r.setObject uid object).objects u).name = _ from hname,
    show ((r.setObject uid object).objects u).id = _ from hid]
  simp only [Registry.setObject]
  split
  · rename_i h
    subst h
    exact hentry hp
  · exact hp.2

lemma setStatus (uid : Nat) (status : ObjectStatus) : Carries r (r.setStatus uid status) u :=
  setObject rfl And.right

/-- Recording a name does not replace an entry. -/
lemma insertIfNew (uid : Nat) (name : String) (id : Nat) :
    Carries r (r.setChildren uid ((r.objects uid).children.insertIfNew name id)) u := by
  refine setObject rfl fun h => ?_
  show ((r.objects uid).children.insertIfNew name id)[(r.objects u).name]? = _
  cases hname : (r.objects uid).children[name]? with
  | none =>
    rw [getElem?_insertIfNew hname]
    split
    · rename_i heq
      rw [heq, h.2] at hname
      cases hname
    · exact h.2
  | some entry =>
    have hmem : name ∈ (r.objects uid).children := by
      rw [Std.TreeMap.mem_iff_isSome_getElem?, hname]
      rfl
    rw [Std.TreeMap.getElem?_insertIfNew]
    simp only [Std.LawfulEqCmp.compare_eq_iff_eq, hmem, not_true_eq_false, and_false, if_false]
    exact h.2

/-- Taking a name out leaves the entries of the other names. -/
lemma erase {uid : Nat} {name : String} (h : r.Entered uid u → (r.objects u).name ≠ name) :
    Carries r (r.setChildren uid ((r.objects uid).children.erase name)) u := by
  refine setObject rfl fun hentered => ?_
  show ((r.objects uid).children.erase name)[(r.objects u).name]? = _
  rw [getElem?_erase, if_neg (Ne.symm (h hentered))]
  exact hentered.2

/-- A new object does not touch the existing ones. -/
lemma build (object : Object) (hu : u < r.nextUid) (hp : ∀ p ∈ (r.objects u).parentUid, p < r.nextUid) :
    Carries r (r.build object) u := by
  have hold : ∀ w < r.nextUid, (r.build object).objects w = r.objects w := by
    intro w hw
    show (if w = r.nextUid then object else r.objects w) = _
    exact if_neg (ne_of_lt hw)
  refine ⟨by rw [hold u hu], fun p hentered => ?_⟩
  unfold Entered
  rw [hold u hu, hold p (hp p hentered.1)]
  exact hentered

end Registry.Carries

lemma Queued.carry {queue : List Nat} (hc : Carries r r' u)
    (h : Queued r u queue) : Queued r' u queue := by
  obtain ⟨p, hp, hentered⟩ := h
  exact ⟨p, hp, hc.entered p hentered⟩

lemma RemovalPc.Minds.carry {pc : RemovalPc} (hc : Carries r r' u) (h : pc.Minds r u) : pc.Minds r' u := by
  cases pc with
  | findParent | checkEntry | eraseEntry | markTarget | unfile | reclaim => exact h
  | traverse queue visited => exact Queued.carry hc h
  | findChild ids current queue visited =>
    refine Or.imp (fun hid => ?_) (Queued.carry hc) h
    rw [hc.id]
    exact hid
  | markChild child ids current queue visited =>
    refine Or.imp_right (Or.imp (fun hid => ?_) (Queued.carry hc)) h
    rw [hc.id]
    exact hid

lemma CallPc.Minds.carry (hc : Carries r r' u) (h : pc.Minds r u) : pc.Minds r' u := by
  unfold CallPc.Minds at h ⊢
  split at h
  · exact h
  · exact ⟨h.1, hc.entered _ h.2⟩
  · exact RemovalPc.Minds.carry hc h
  · exact h

/-! ## How a step hands its charge on -/

/-- After a step of one task, `u` is still recorded or minded by another task, or it is that task that
minds it now. `before` and `after` say that the task minds `u`. -/
structure HandsOn (r r' : Registry) (u : Nat) (before after : Prop) : Prop where
  recorded : r.Recorded u → r'.Recorded u ∨ after
  others : ∀ pc : CallPc, pc.Minds r u → pc.Minds r' u ∨ after
  own : before → r'.Recorded u ∨ after

namespace HandsOn

variable {r r' : Registry} {u : Nat} {before after : Prop}

/-- The step leaves the entry of `u` and the status of its parent alone. -/
lemma of_carries (hc : Carries r r' u) (hactive : ∀ p, r.Active p → r'.Active p)
    (hown : before → r'.Recorded u ∨ after) : HandsOn r r' u before after where
  recorded := fun ⟨p, hp, hentered⟩ => .inl ⟨p, hactive p hp, hc.entered p hentered⟩
  others _ h := .inl (h.carry hc)
  own := hown

/-- The step does not touch the objects. -/
lemma of_objects (h : r'.objects = r.objects) (hown : before → after) : HandsOn r r' u before after := by
  refine of_carries (.of_objects h) (fun p hp => ?_) fun hb => .inr (hown hb)
  unfold Active
  rw [h]
  exact hp

/-- Whatever is to be minded is minded by the task now. -/
lemma of_after (h : after) : HandsOn r r' u before after :=
  ⟨fun _ => .inr h, fun _ _ => .inr h, fun _ => .inr h⟩

/-- The step marks `uid`, and the task takes charge of what is entered there. -/
lemma mark {uid : Nat} (hentered : (r.setStatus uid .destroying).Entered uid u → after)
    (hown : before → after) : HandsOn r (r.setStatus uid .destroying) u before after where
  recorded := by
    rintro ⟨p, hp, hu⟩
    have hu' := (Carries.setStatus uid .destroying).entered p hu
    by_cases hpu : p = uid
    · subst hpu
      exact .inr (hentered hu')
    · exact .inl ⟨p, (active_setStatus_destroying r uid p).2 ⟨hp, hpu⟩, hu'⟩
  others _ h := .inl (h.carry (.setStatus uid .destroying))
  own hb := .inr (hown hb)

/-- The step takes a name out of a children map, and the task has charge of its target. -/
lemma erase {i holder target : Nat} {name : String} (hkeyed : Keyed r)
    (hfiled : r.map[i]? = some u) (hactive : r.Active u) (honly : r.ErasesOnly holder name target)
    (htarget : u = target → after) (hown : before → after) :
    HandsOn r (r.setChildren holder ((r.objects holder).children.erase name)) u before after := by
  by_cases hu : u = target
  · exact of_after (htarget hu)
  refine of_carries (.erase fun hentered hname => hu ?_) (fun p hp => ?_) fun hb => .inr (hown hb)
  · -- the name leads to `u` itself, so the entry taken out would be its record
    have hentry := hentered.2
    rw [hname, hkeyed.key i u hfiled] at hentry
    exact honly i hentry u hfiled hactive hentered.1 hname
  · exact (setChildren_active r holder _ p).2 hp

end HandsOn

/-- The charge of the task that has made a step of `remove_internal`. -/
def MindsNext (r : Registry) (u : Nat) : RemovalPc ⊕ Except (Fault ObjectError) Unit → Prop
  | .inl pc => pc.Minds r u
  | .inr _ => False

lemma RemovalPc.move_handsOn (hkeyed : Keyed r)
    (hfiled : r.map[i]? = some u) (hactive : r.Active u) (pc : RemovalPc)
    (hactive' : (pc.move r).1.Active u) (hok : ∀ uid parent, pc = .eraseEntry uid parent →
      r.ErasesOnly parent (r.objects uid).name uid) :
    HandsOn r (pc.move r).1 u (pc.Minds r u) (MindsNext (pc.move r).1 u (pc.move r).2) := by
  -- the index of `u` leads to `u`
  have hfound := hfiled
  rw [← hkeyed.key i u hfiled] at hfound
  revert hactive' hok
  fun_cases RemovalPc.move r pc with
  | case5 uid parent => exact fun _ hok => .erase hkeyed hfiled hactive (hok uid parent rfl) id id
  | case6 uid hstatus => exact fun _ _ => .of_objects rfl fun heq => hstatus (heq ▸ hactive)
  | case7 uid =>
    intro hactive' _
    refine .mark (fun hentered => ⟨uid, mem_singleton_self uid, hentered⟩) fun heq => ?_
    exact absurd heq ((active_setStatus_destroying r uid u).1 hactive').2
  | case8 => exact fun _ _ => .of_objects rfl fun ⟨p, hp, _⟩ => nomatch hp
  | case9 visited current queue =>
    refine fun _ _ => .of_objects rfl ?_
    rintro ⟨p, hp, hentered⟩
    rcases mem_cons.1 hp with rfl | hp
    · -- the traversal of the parent finds the entry
      exact .inl (mem_map.2 ⟨_, mem_toList_iff.2 hentered.2, rfl⟩)
    · exact .inr ⟨p, hp, hentered⟩
  | case10 => exact fun _ _ => .of_objects rfl fun h => h.resolve_left not_mem_nil
  | case11 _ _ _ id ids hnone =>
    refine fun _ _ => .of_objects rfl (Or.imp_left fun hid => ?_)
    rcases mem_cons.1 hid with rfl | hid
    · rw [hfound] at hnone
      cases hnone
    · exact hid
  | case12 _ _ _ id ids child hchild =>
    refine fun _ _ => .of_objects rfl ?_
    rintro (hid | hqueued)
    · rcases mem_cons.1 hid with rfl | hid
      · exact .inl (mem_unique hfound hchild)
      · exact .inr (.inl hid)
    · exact .inr (.inr hqueued)
  | case13 child _ _ _ _ hstatus =>
    exact fun _ _ => .of_objects rfl fun h => h.resolve_left fun heq => hstatus (heq ▸ hactive)
  | case14 child =>
    intro hactive' _
    have hne := ((active_setStatus_destroying r child u).1 hactive').2
    refine .mark (fun hentered => .inr ⟨child, by simp, hentered⟩) ?_
    rintro (heq | hid | ⟨p, hp, hentered⟩)
    · exact absurd heq hne
    · left
      rw [(Carries.setStatus child .destroying).id]
      exact hid
    · exact .inr ⟨p, mem_append_left _ hp, (Carries.setStatus child .destroying).entered p hentered⟩
  | _ => exact fun _ _ => .of_objects rfl id

/-! ## One step of a call -/

lemma RemovalPc.move_prunes (r : Registry) (pc : RemovalPc) : Prunes r (pc.move r).1 := by
  fun_cases RemovalPc.move r pc with
  | case5 uid parent => exact .eraseChild parent _
  | case7 uid | case14 uid => exact .destroy uid
  | case16 uid visited =>
    exact ⟨.of_objects rfl rfl, (Prunes.reclaim (r := r) uid).shrinks, fun _ _ h => h, rfl⟩
  | case17 => exact ⟨.of_objects rfl rfl, fun _ _ h => h, fun _ _ h => h, rfl⟩
  | _ => exact .refl r

lemma CallPc.move_evolves (r : Registry) (pc : CallPc) : Evolves r (pc.move r).1 := by
  fun_cases CallPc.move r pc with
  | case4 => exact (allocate_evolves r).trans (.build _)
  | case5 => exact .of_objects rfl rfl
  | case6 self | case19 self => exact .setChildren self _
  | case20 pc _ _ _ hmove | case21 pc _ _ _ hmove =>
    have hprunes := pc.move_prunes r
    rw [hmove] at hprunes
    exact hprunes.toEvolves
  | _ => exact .refl r

/-- Only the second step of `add_child` puts an object into the map. -/
lemma CallPc.move_map (h : (pc.move r).1.map[i]? = some u) :
    r.map[i]? = some u ∨ (∃ self, pc = .addRegister self u) ∧ i = (r.objects u).id := by
  revert h
  fun_cases CallPc.move r pc with
  | case4 =>
    rw [← allocate_map r]
    exact .inl
  | case5 self child =>
    intro h
    rcases getElem?_insert_cases h with ⟨hi, rfl⟩ | ⟨_, h⟩
    · exact .inr ⟨⟨self, rfl⟩, hi.symm⟩
    · exact .inl h
  | case20 pc _ _ _ hmove | case21 pc _ _ _ hmove =>
    have hprunes := pc.move_prunes r
    rw [hmove] at hprunes
    exact fun h => .inl (hprunes.shrinks i u h)
  | _ => exact .inl

lemma CallPc.Placed.evolves (h : Evolves r r') (hpc : pc.Placed r) : pc.Placed r' := by
  have hchild : ∀ self child : Nat, self < r.nextUid ∧ child < r.nextUid ∧
      (r.objects child).parentUid = some self → self < r'.nextUid ∧ child < r'.nextUid ∧
      (r'.objects child).parentUid = some self := by
    rintro self child ⟨hself, hlt, hparent⟩
    have hsame := congrArg (·.2.2.2.2.1) (h.identity child hlt)
    exact ⟨lt_of_lt_of_le hself h.nextUid, lt_of_lt_of_le hlt h.nextUid, Eq.trans hsame hparent⟩
  cases pc with
  | addLookup | addAllocate => exact lt_of_lt_of_le hpc h.nextUid
  | addRegister self child | addRecord self child | addCheckParent self child => exact hchild self child hpc
  | _ => trivial

lemma After.resume_placed (r : Registry) (result : Except (Fault ObjectError) Unit)
    (after : After) : (after.resume result).Placed r := by
  cases after with
  | drop e =>
    simp only [resume]
    split <;> trivial
  | _ => trivial

/-- The task that has moved is placed. -/
lemma CallPc.move_placed (h : pc.Placed r) : (pc.move r).2.Placed (pc.move r).1 := by
  revert h
  fun_cases CallPc.move r pc with
  | case2 | case5 => exact id
  | case4 self name maskedCaps =>
    intro h
    have hself : self < r.nextUid := h
    have hnext : (r.allocate.2.build (r.newChild self r.allocate.1 name maskedCaps)).nextUid =
        r.nextUid + 1 := congrArg (· + 1) (allocate_nextUid r)
    refine ⟨Nat.lt_of_lt_of_eq (by omega) hnext.symm, Nat.lt_of_lt_of_eq (by omega) hnext.symm, ?_⟩
    simp [build, setObject, newChild]
  | case6 self child =>
    intro h
    have hafter : (addRecord self child).Placed
        (r.setChildren self ((r.objects self).children.insertIfNew (r.objects child).name
          (r.objects child).id)) := CallPc.Placed.evolves (.setChildren self _) h
    simp only [recordChild]
    split
    · trivial
    · exact hafter
  | case21 => exact fun _ => After.resume_placed _ _ _
  | _ => exact fun _ => trivial

lemma CallPc.move_keyed (h : Keyed r) (hplaced : pc.Placed r) : Keyed (pc.move r).1 := by
  have hevolves := pc.move_evolves r
  -- what the map leads to, before or after, are existing objects with their parents
  have hfiled : ∀ i u : Nat, (pc.move r).1.map[i]? = some u →
      u < r.nextUid ∧ (r.objects u).id = i ∧ ∀ p ∈ (r.objects u).parentUid, p < r.nextUid := by
    intro i u hi
    rcases move_map hi with hi | ⟨⟨self, rfl⟩, rfl⟩
    · exact ⟨h.bound i u hi, h.key i u hi, h.parent i u hi⟩
    · obtain ⟨hself, hlt, hparent⟩ := hplaced
      refine ⟨hlt, rfl, fun p hp => ?_⟩
      obtain rfl := mem_unique hparent hp
      exact hself
  refine ⟨fun i u hi => ?_, fun i u hi => ?_, fun i u hi p hp => ?_⟩
  · exact lt_of_lt_of_le (hfiled i u hi).1 hevolves.nextUid
  · obtain ⟨hlt, hid, -⟩ := hfiled i u hi
    exact Eq.trans (congrArg (·.2.1) (hevolves.identity u hlt)) hid
  · obtain ⟨hlt, -, hparent⟩ := hfiled i u hi
    have hsame := congrArg (·.2.2.2.2.1) (hevolves.identity u hlt)
    exact lt_of_lt_of_le (hparent p (Eq.trans hsame.symm hp)) hevolves.nextUid

/-- After `compare_insert`, an entry with the index of the child is its own. -/
lemma Registry.entered_of_recorded {self child : Nat} (hparent : (r.objects child).parentUid = some self)
    (hentry : ((r.objects self).children[(r.objects child).name]?).getD (r.objects child).id =
      (r.objects child).id) :
    (r.setChildren self ((r.objects self).children.insertIfNew (r.objects child).name
      (r.objects child).id)).Entered self child := by
  cases hname : (r.objects self).children[(r.objects child).name]? with
  | some entry =>
    rw [hname] at hentry
    obtain rfl : entry = (r.objects child).id := hentry
    exact (Carries.insertIfNew self _ _).entered self ⟨hparent, hname⟩
  | none =>
    have hchild : ∀ children, ((r.setChildren self children).objects child).identity =
        (r.objects child).identity := fun children =>
      @setObject_identity r self { r.objects self with children := children } rfl child
    refine ⟨Eq.trans (congrArg (·.2.2.2.2.1) (hchild _)) hparent, ?_⟩
    rw [show ((r.setChildren self _).objects child).name = _ from
        congrArg (·.2.2.2.1) (hchild _),
      show ((r.setChildren self _).objects child).id = _ from congrArg (·.2.1) (hchild _)]
    simp only [setChildren, setObject, if_true]
    rw [getElem?_insertIfNew hname]
    exact if_pos rfl

/-- How an atomic step of a call hands its charge of a registered active object on. -/
lemma CallPc.move_handsOn (hkeyed : Keyed r)
    (hfiled : r.map[i]? = some u) (hactive : r.Active u) (hplaced : pc.Placed r)
    (hok : ErasesOwn r pc) (hactive' : (pc.move r).1.Active u) :
    HandsOn r (pc.move r).1 u (pc.Minds r u) ((pc.move r).2.Minds (pc.move r).1 u) := by
  revert hplaced hok hactive'
  fun_cases CallPc.move r pc with
  | case4 self name maskedCaps =>
    intro _ _ _
    have hbuilt := Carries.build (r := r.allocate.2) (u := u)
      (r.newChild self r.allocate.1 name maskedCaps)
      (by rw [allocate_nextUid]; exact hkeyed.bound i u hfiled)
      (by rw [allocate_objects, allocate_nextUid]; exact hkeyed.parent i u hfiled)
    have hsame : r.allocate.2.objects = r.objects := allocate_objects r
    refine .of_carries ⟨?_, fun p hp => hbuilt.entered p ?_⟩ (fun p hp => ?_) fun h => h.elim
    · rw [hbuilt.id, hsame]
    · unfold Entered
      rw [hsame]
      exact hp
    · simp only [Active, build, setObject, hsame]
      split
      · rfl
      · exact hp
  | case6 self child =>
    intro hplaced _ _
    simp only [recordChild]
    refine .of_carries (.insertIfNew self _ _) (fun p hp => ?_) fun hu => .inr ?_
    · exact (setChildren_active r self _ p).2 hp
    obtain rfl : u = child := hu
    split
    · rfl
    · rename_i hentry
      exact ⟨rfl, entered_of_recorded hplaced.2.2 (not_not.1 hentry)⟩
  | case7 => exact fun _ _ _ => .of_objects rfl And.left
  | case8 self _ hstatus =>
    exact fun _ _ _ => .of_carries (.refl r u) (fun _ hp => hp) fun hminds =>
      .inl ⟨self, not_not.1 hstatus, hminds.2⟩
  | case19 =>
    exact fun _ hok _ => .erase hkeyed hfiled hactive hok (fun h => h) fun h => h.elim
  | case20 pc _ _ _ hmove =>
    intro _ hok hactive'
    have hstep := pc.move_handsOn hkeyed hfiled hactive
    rw [hmove] at hstep
    exact hstep hactive' (by rintro uid parent rfl; exact hok)
  | case21 pc _ _ _ hmove =>
    intro _ hok hactive'
    have hstep := pc.move_handsOn hkeyed hfiled hactive
    rw [hmove] at hstep
    replace hstep := hstep hactive' (by rintro uid parent rfl; exact hok)
    exact ⟨fun h => .inl ((hstep.recorded h).resolve_right id),
      fun t h => .inl ((hstep.others t h).resolve_right id),
      fun h => .inl ((hstep.own h).resolve_right id)⟩
  | _ => exact fun _ _ _ => .of_objects rfl fun h => h.elim

/-! ## Schedules -/

/-- The charge is handed on by every step that takes out no other object's record. -/
lemma Attended.move (h : Attended pool) {task : Nat}
    (hpc : pool.tasks[task]? = some pc) (hok : ErasesOwn pool.shared pc) :
    Attended ⟨(pc.move pool.shared).1, pool.tasks.set task (pc.move pool.shared).2⟩ := by
  have hplaced := h.placed pc (mem_of_getElem? hpc)
  have hevolves := pc.move_evolves pool.shared
  refine ⟨move_keyed h.keyed hplaced,
    forall_set (fun t _ ht => ht.evolves hevolves) (move_placed hplaced) h.placed,
    fun i u hi hactive' => ?_⟩
  rcases move_map hi with hfiled | ⟨⟨self, rfl⟩, -⟩
  · have hactive : pool.shared.Active u := by
      by_contra hdead
      exact hevolves.destroyed u (h.keyed.bound i u hfiled) hdead hactive'
    have hstep := move_handsOn h.keyed hfiled hactive hplaced hok hactive'
    refine (h.charge i u hfiled hactive).imp_right fun hcharge => ?_
    -- either the task that has moved is in charge now, or what was true before still is
    by_cases hafter : (pc.move pool.shared).2.Minds (pc.move pool.shared).1 u
    · exact .inr ⟨_, mem_set_self hpc, hafter⟩
    rcases hcharge with hrecorded | hminded
    · exact .inl ((hstep.recorded hrecorded).resolve_right hafter)
    · by_cases hown : pc.Minds pool.shared u
      · exact .inl ((hstep.own hown).resolve_right hafter)
      · exact .inr (exists_set hpc (fun t ht => (hstep.others t ht).resolve_right hafter)
          (fun hm => absurd hm hown) hminded)
  · -- the object has just been registered, and is to be recorded next
    exact .inr (.inr ⟨_, mem_set_self hpc, rfl⟩)

lemma ObjectCall.entry_placed {call : ObjectCall} (h : call.on < r.nextUid) : call.entry.Placed r := by
  cases call with
  | addChild self name maskedCaps =>
    simp only [entry]
    split
    · trivial
    · exact h
  | removeChild | removeInternal => trivial

lemma Attended.step (h : Attended pool)
    {event : Event ObjectCall Nat} (hok : Pool.OnSteps ErasesOwn pool event) :
    Attended (pool.step calls event) := by
  refine step_keeps h (fun call pc _ hcall => ?_) (fun task pc hevent hpc => ?_)
    fun uid _ => ?_
  · simp only [calls] at hcall
    split at hcall
    · rename_i hon
      obtain rfl := some.inj hcall
      refine ⟨h.keyed, fun t ht => ?_, fun i u hi hactive => ?_⟩
      · rcases mem_append.1 ht with ht | ht
        · exact h.placed t ht
        · rw [mem_singleton.1 ht]
          exact ObjectCall.entry_placed hon
      · refine (h.charge i u hi hactive).imp_right (Or.imp_right ?_)
        rintro ⟨t, ht, hminds⟩
        exact ⟨t, mem_append_left _ ht, hminds⟩
    · cases hcall
  · subst hevent
    exact h.move hpc (hok pc hpc)
  · -- reclaiming memory changes neither the objects nor the map
    have hcarries : ∀ u, Carries pool.shared (pool.shared.free uid) u := fun u => .of_objects rfl
    exact ⟨⟨h.keyed.bound, h.keyed.key, h.keyed.parent⟩,
      fun t ht => (h.placed t ht).evolves (.of_objects rfl rfl), fun i u hi hactive =>
        (h.charge i u hi hactive).imp_right (Or.imp_right fun ⟨t, ht, hminds⟩ =>
          ⟨t, ht, hminds.carry (hcarries u)⟩)⟩

lemma run_attended (hkeyed : Keyed r) (hstart : NoOrphans r) {events : List (Event ObjectCall Nat)}
    (hok : Meets (step calls) (Pool.OnSteps ErasesOwn) (.idle r) events) :
    Attended (runOps (step calls) (.idle r) events) := by
  refine run_invariant (fun pool event h hok => h.step hok) ⟨hkeyed, ?_, ?_⟩ hok
  · exact nofun
  · exact fun i u hi hactive => (hstart i u hi hactive).imp_right .inl

/-- The call has returned. -/
def CallPc.Returned : CallPc → Prop
  | .returned _ => True
  | _ => False

instance (pc : CallPc) : Decidable pc.Returned := by
  unfold CallPc.Returned
  split <;> infer_instance

/-- Any schedule of any number of calls, on a registry without orphans, in which no step takes out
the record of an object its call is not about: when all calls have returned there are no orphans. -/
theorem run_noOrphans (r : Registry) (hkeyed : Keyed r) (hstart : NoOrphans r)
    (events : List (Event ObjectCall Nat))
    (hok : Meets (Pool.step calls) (Pool.OnSteps ErasesOwn) (.idle r) events)
    (hreturned : ∀ pc ∈ (runOps (Pool.step calls) (.idle r) events).tasks, pc.Returned) :
    NoOrphans (runOps (Pool.step calls) (.idle r) events).shared := by
  intro i u hi hactive
  refine ((run_attended hkeyed hstart hok).charge i u hi hactive).imp_right ?_
  rintro (hrecorded | ⟨pc, hpc, hminds⟩)
  · exact hrecorded
  · -- a call that has returned minds nothing
    have hdone := hreturned pc hpc
    unfold CallPc.Returned at hdone
    split at hdone
    · exact hminds.elim
    · exact hdone.elim

/-! ## The root alone, and two schedules on it -/

lemma boot_keyed : Keyed boot.registry where
  bound i u h := by
    obtain ⟨-, rfl⟩ := boot_map h
    decide
  key i u h := by
    obtain ⟨rfl, rfl⟩ := boot_map h
    rfl
  parent i u h p hp := by
    obtain ⟨-, rfl⟩ := boot_map h
    cases hp

lemma boot_noOrphans : NoOrphans boot.registry :=
  fun _ _ h _ => .inl (boot_map h).2

/-- `task` makes `n` steps in a row. -/
def steps (task n : Nat) : List (Event ObjectCall Nat) := List.replicate n (.step task)

/-- A child is added while a second `add_child` of the same name has passed its first test; the
second one rolls back, its handle is dropped, and the first child is removed. -/
def rollbackSchedule : List (Event ObjectCall Nat) :=
  [.start (.addChild 0 "x" 0), .start (.addChild 0 "x" 0)] ++ steps 0 2 ++ steps 1 2 ++ steps 0 3 ++
    steps 1 20 ++ [.start (.removeChild 0 "x" true)] ++ steps 2 14

theorem run_noOrphans_rollbackSchedule :
    (∀ pc ∈ (runOps (Pool.step calls) (.idle World.boot.registry) rollbackSchedule).tasks, pc.Returned) ∧
      NoOrphans (runOps (Pool.step calls) (.idle World.boot.registry) rollbackSchedule).shared := by
  have hreturned : ∀ pc ∈ (runOps (step calls) (.idle boot.registry)
      rollbackSchedule).tasks, pc.Returned := by decide +kernel
  exact ⟨hreturned, run_noOrphans boot.registry boot_keyed boot_noOrphans rollbackSchedule
    (by decide +kernel) hreturned⟩

/-- The first `remove_child` has looked the child up when a second one removes it and a new child of
that name is added; then it takes the name out. -/
def lateRemovalSchedule : List (Event ObjectCall Nat) :=
  [.start (.addChild 0 "x" 0)] ++ steps 0 5 ++ [.start (.removeChild 0 "x" true)] ++ steps 1 4 ++
    [.start (.removeChild 0 "x" true)] ++ steps 2 14 ++ [.start (.addChild 0 "x" 0)] ++ steps 3 5 ++
    steps 1 4

/-- All calls have returned, and the new child is registered and active, but its parent, the root,
does not have it. -/
theorem late_removal_orphans_successor : NoOrphans World.boot.registry ∧
      (∀ pc ∈ (runOps (Pool.step calls) (.idle World.boot.registry) lateRemovalSchedule).tasks,
        pc.Returned) ∧ ¬ NoOrphans (runOps (Pool.step calls) (.idle World.boot.registry)
        lateRemovalSchedule).shared := by
  refine ⟨boot_noOrphans, by decide +kernel, fun h => ?_⟩
  rcases h 1 2 (by decide +kernel) (by decide +kernel) with hroot | ⟨p, -, hparent, hentry⟩
  · cases hroot
  · have hp : p = 0 := by
      have : some p = some 0 := hparent.symm.trans (by decide +kernel)
      exact some.inj this
    subst hp
    have hnone : ((runOps (step calls) (.idle boot.registry)
        lateRemovalSchedule).shared.objects 0).children["x"]? = none := by decide +kernel
    have hname : ((runOps (step calls) (.idle boot.registry)
        lateRemovalSchedule).shared.objects 2).name = "x" := by decide +kernel
    rw [hname, hnone] at hentry
    cases hentry

end Akarin.Objects
