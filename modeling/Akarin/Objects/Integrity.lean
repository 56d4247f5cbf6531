/-
# Akarin.Objects.Integrity -- the tree of registered objects

`Integral` is what every operation keeps: the map holds the active registered objects under their own
indices, the queue of reclaimed indices is disjoint from it, and an entry of the children map of an
active object leads to a child that was created under that object and that name. It does not say that
every registered object can be found from its parent: that is `Linked`, and it is lost when a handle
of an object that is already destroyed runs the unlinking at the head of `remove_internal`.
-/
import Akarin.Objects.Teardown

namespace Akarin.Objects

open List hiding getElem?_insert
open Lib Option

namespace Registry

/-- What is fixed when an object is built. `parentUid` and `parent` name the same object, only the
root has none, and an ancestor that was active then has another index. -/
structure Pedigree (r : Registry) : Prop where
  booted : 0 < r.nextUid
  parent : ∀ c < r.nextUid, ∀ p, (r.objects c).parentUid = some p →
    p < r.nextUid ∧ (r.objects p).registered = true ∧ (r.objects c).parent = some (r.objects p).id
  root : ∀ c < r.nextUid, (r.objects c).parentUid = none →
    (r.objects c).parent = none ∧ ((r.objects c).registered = true → c = 0)
  origin : (r.objects 0).parentUid = none
  lineage : ∀ c < r.nextUid, ∀ o ∈ (r.objects c).lineage,
    o < r.nextUid ∧ (r.objects o).registered = true ∧ (r.objects o).id ≠ (r.objects c).id

/-- The map and the queue of reclaimed indices. -/
structure Filed (r : Registry) : Prop where
  map : ∀ i u : Nat, r.map[i]? = some u →
    u < r.nextUid ∧ (r.objects u).registered = true ∧ r.Active u ∧ (r.objects u).id = i
  active : ∀ u < r.nextUid, (r.objects u).registered = true → r.Active u →
    r.map[(r.objects u).id]? = some u
  queue : ∀ i ∈ r.reclaimed, r.map[i]? = none
  nodup : r.reclaimed.Nodup
  queue_lt : ∀ i ∈ r.reclaimed, i < r.next
  map_lt : ∀ i u : Nat, r.map[i]? = some u → i < r.next

/-- Entries of active objects lead to children created there. -/
def EntriesSound (r : Registry) : Prop :=
  ∀ u < r.nextUid, r.Active u → ∀ (name : String) (childId : Nat),
    (r.objects u).children[name]? = some childId →
      ∃ c, r.map[childId]? = some c ∧ (r.objects c).parentUid = some u ∧ (r.objects c).name = name

/-- The invariant of the tree. -/
structure Integral (r : Registry) : Prop where
  pedigree : Pedigree r
  filed : Filed r
  entries : EntriesSound r

variable {r r' : Registry}

/-- The object descends from objects of `r`. -/
def Descends (r r' : Registry) (c : Nat) : Prop :=
  (∀ p, (r'.objects c).parentUid = some p → p < r.nextUid ∧ (r.objects p).registered = true ∧
    (r'.objects c).parent = some (r.objects p).id) ∧
  ((r'.objects c).parentUid = none → (r'.objects c).parent = none ∧
    ((r'.objects c).registered = true → c = 0)) ∧
  ∀ o ∈ (r'.objects c).lineage, o < r.nextUid ∧ (r.objects o).registered = true ∧
    (r.objects o).id ≠ (r'.objects c).id

/-- Old objects stay what they are, and new ones descend from them. -/
lemma Pedigree.grow (h : Pedigree r) (hle : r.nextUid ≤ r'.nextUid)
    (hid : ∀ u < r.nextUid, (r'.objects u).identity = (r.objects u).identity)
    (hnew : ∀ c < r'.nextUid, c < r.nextUid ∨ Descends r r' c) : Pedigree r' := by
  simp only [Object.identity, Prod.mk.injEq] at hid
  have hall : ∀ c < r'.nextUid, Descends r r' c := by
    intro c hc
    rcases hnew c hc with hold | hnew
    · obtain ⟨hreg, hidx, hpar, -, huid, hlin⟩ := hid c hold
      rw [Descends, hreg, hidx, hpar, huid, hlin]
      exact ⟨h.parent c hold, h.root c hold, h.lineage c hold⟩
    · exact hnew
  refine ⟨h.booted.trans_le hle, fun c hc p hp => ?_, fun c hc => (hall c hc).2.1, ?_, fun c hc o ho => ?_⟩
  · obtain ⟨hlt, hreg, hpar⟩ := (hall c hc).1 p hp
    obtain ⟨hreg', hidx, -⟩ := hid p hlt
    rw [hreg', hidx]
    exact ⟨hlt.trans_le hle, hreg, hpar⟩
  · exact (hid 0 h.booted).2.2.2.2.1.trans h.origin
  · obtain ⟨hlt, hreg, hne⟩ := (hall c hc).2.2 o ho
    obtain ⟨hreg', hidx, -⟩ := hid o hlt
    rw [hreg', hidx]
    exact ⟨hlt.trans_le hle, hreg, hne⟩

lemma Pedigree.congr (h : Pedigree r) (hnext : r'.nextUid = r.nextUid)
    (hid : ∀ u, (r'.objects u).identity = (r.objects u).identity) : Pedigree r' :=
  h.grow hnext.ge (fun u _ => hid u) fun _ hc => .inl (hnext ▸ hc)

lemma Integral.map_bound (h : Integral r) (i u : Nat) (hi : r.map[i]? = some u) : u < r.nextUid :=
  (h.filed.map i u hi).1

/-! ## Operations that only take entries away -/

/-- Nothing but metadata differs, and children maps have at most lost entries. -/
structure Trims (r r' : Registry) : Prop where
  map : r'.map = r.map
  next : r'.next = r.next
  reclaimed : r'.reclaimed = r.reclaimed
  nextUid : r'.nextUid = r.nextUid
  identity : ∀ u, (r'.objects u).identity = (r.objects u).identity
  status : ∀ u, (r'.objects u).status = (r.objects u).status
  children : ∀ (u : Nat) (name : String) (childId : Nat),
    (r'.objects u).children[name]? = some childId → (r.objects u).children[name]? = some childId

namespace Trims

variable {r r₁ : Registry}

lemma refl (r : Registry) : Trims r r :=
  ⟨rfl, rfl, rfl, rfl, fun _ => rfl, fun _ => rfl, fun _ _ _ => id⟩

lemma symm (h : Trims r r₁)
    (hchildren : ∀ u, (r₁.objects u).children = (r.objects u).children) : Trims r₁ r where
  map := h.map.symm
  next := h.next.symm
  reclaimed := h.reclaimed.symm
  nextUid := h.nextUid.symm
  identity u := (h.identity u).symm
  status u := (h.status u).symm
  children u name childId hc := by rwa [hchildren u]

lemma setObject (uid : Nat) {object : Object} (hidentity : object.identity = (r.objects uid).identity)
    (hstatus : object.status = (r.objects uid).status)
    (hchildren : ∀ (name : String) (childId : Nat), object.children[name]? = some childId →
      (r.objects uid).children[name]? = some childId) : Trims r (r.setObject uid object) := by
  refine ⟨rfl, rfl, rfl, rfl, fun u => ?_, fun u => ?_, fun u name childId => ?_⟩ <;>
    simp only [Registry.setObject] <;> split
  · rename_i h
    rw [hidentity, h]
  · rfl
  · rename_i h
    rw [hstatus, h]
  · rfl
  · rename_i h
    rw [h]
    exact hchildren name childId
  · exact id

lemma erase (uid : Nat) (name : String) :
    Trims r (r.setChildren uid ((r.objects uid).children.erase name)) := by
  refine setObject uid rfl rfl fun other childId h => ?_
  exact (getElem?_erase_some h).2

lemma unlink (r : Registry) (uid : Nat) : Trims r (r.unlink uid) := by
  unfold Registry.unlink
  dsimp only
  split
  · exact refl r
  split
  · exact erase _ _
  · exact refl r

variable (h : Trims r r₁) (u : Nat)
include h

lemma active : r₁.Active u ↔ r.Active u := by rw [Active, Active, h.status u]

lemma registered : (r₁.objects u).registered = (r.objects u).registered :=
  congrArg (·.1) (h.identity u)

lemma id_eq : (r₁.objects u).id = (r.objects u).id :=
  congrArg (·.2.1) (h.identity u)

lemma parent : (r₁.objects u).parent = (r.objects u).parent :=
  congrArg (·.2.2.1) (h.identity u)

lemma name : (r₁.objects u).name = (r.objects u).name :=
  congrArg (·.2.2.2.1) (h.identity u)

lemma parentUid : (r₁.objects u).parentUid = (r.objects u).parentUid :=
  congrArg (·.2.2.2.2.1) (h.identity u)

end Trims

lemma Integral.trims (h : Integral r) (ht : Trims r r') : Integral r' := by
  refine ⟨h.pedigree.congr ht.nextUid ht.identity, ⟨?_, ?_, ?_, ?_, ?_, ?_⟩, ?_⟩
  · intro i u hi
    rw [ht.map] at hi
    rw [ht.nextUid, ht.registered, ht.active, ht.id_eq]
    exact h.filed.map i u hi
  · intro u hu hreg hactive
    rw [ht.nextUid] at hu
    rw [ht.registered] at hreg
    rw [ht.map, ht.id_eq]
    exact h.filed.active u hu hreg ((ht.active u).1 hactive)
  · rw [ht.reclaimed, ht.map]
    exact h.filed.queue
  · rw [ht.reclaimed]
    exact h.filed.nodup
  · rw [ht.reclaimed, ht.next]
    exact h.filed.queue_lt
  · rw [ht.map, ht.next]
    exact h.filed.map_lt
  · intro u hu hactive name childId hentry
    rw [ht.nextUid] at hu
    obtain ⟨c, hc, hparent, hname⟩ :=
      h.entries u hu ((ht.active u).1 hactive) name childId (ht.children u name childId hentry)
    refine ⟨c, ?_, ?_, ?_⟩
    · rw [ht.map, hc]
    · rw [ht.parentUid, hparent]
    · rw [ht.name, hname]

/-! ## Teardown -/

/-- No active object has an entry for `target`. -/
def Detached (r : Registry) (target : Nat) : Prop :=
  ∀ u < r.nextUid, r.Active u → ¬ r.Entry u target

lemma Integral.entry (h : Integral r) {u c : Nat} (hu : u < r.nextUid)
    (hactive : r.Active u) (hentry : r.Entry u c) :
    r.map[(r.objects c).id]? = some c ∧ (r.objects c).parentUid = some u ∧
      (r.objects u).children[(r.objects c).name]? = some (r.objects c).id := by
  obtain ⟨name, childId, hchild, hmap⟩ := hentry
  obtain ⟨c', hc', hparent, hname⟩ := h.entries u hu hactive name childId hchild
  obtain rfl := mem_unique hc' hmap
  obtain ⟨-, -, -, rfl⟩ := h.filed.map childId c' hmap
  rw [hname]
  exact ⟨hmap, hparent, hchild⟩

/-- The unlinking at the head of `remove_internal` detaches an active target. -/
lemma Integral.unlink_detached (h : Integral r) (target : Nat) : Detached (r.unlink target) target := by
  intro u hu hactive hentry
  have ht := Trims.unlink r target
  have hintegral := h.trims ht
  obtain ⟨hmap, hparentUid, hchild⟩ := hintegral.entry hu hactive hentry
  -- the parent the unlinking looks up is `u`, which is active and so under its own index
  obtain ⟨-, hreg, hparent⟩ := hintegral.pedigree.parent target (hintegral.map_bound _ _ hmap) u
    hparentUid
  have huMap := hintegral.filed.active u hu hreg hactive
  rw [ht.parent, ht.id_eq] at hparent
  rw [ht.id_eq, ht.map] at huMap
  rw [ht.name, ht.id_eq] at hchild
  have hbefore := ht.children u _ _ hchild
  have herased : r.unlink target =
      r.setChildren u ((r.objects u).children.erase (r.objects target).name) := by
    simp only [unlink, hparent, bind_some, huMap, hbefore, if_true]
  rw [herased] at hchild
  simp [setChildren, setObject] at hchild

section Fall

variable {r r' : Registry} {target : Nat} {gone : List Nat}

/-- What falls was registered under its own index. -/
lemma Integral.gone_filed (h : Integral r) (hself : r.map[(r.objects target).id]? = some target)
    (ht : Teardown r target gone r') {u : Nat} (hu : u ∈ gone) : r.map[(r.objects u).id]? = some u := by
  rcases ((ht.mem u).1 hu).cases_tail with rfl | ⟨a, -, ⟨name, childId, -, hmap⟩, -⟩
  · exact hself
  · obtain ⟨-, -, -, hid⟩ := h.filed.map childId u hmap
    rw [hid]
    exact hmap

lemma Teardown.map_iff (h : Integral r) (hself : r.map[(r.objects target).id]? = some target)
    (ht : Teardown r target gone r') (i u : Nat) :
    r'.map[i]? = some u ↔ r.map[i]? = some u ∧ u ∉ gone := by
  rw [ht.map i]
  constructor
  · intro hi
    split at hi
    · cases hi
    · rename_i hnot
      refine ⟨hi, fun hu => hnot ?_⟩
      obtain ⟨-, -, -, rfl⟩ := h.filed.map i u hi
      exact mem_map.2 ⟨u, hu, rfl⟩
  · rintro ⟨hi, hu⟩
    rw [if_neg, hi]
    intro hmem
    obtain ⟨x, hx, rfl⟩ := mem_map.1 hmem
    have hxu := (h.gone_filed hself ht hx).symm.trans hi
    exact hu (some.inj hxu ▸ hx)

section

variable (ht : Teardown r target gone r')
include ht

lemma Teardown.active (u : Nat) : r'.Active u ↔ r.Active u ∧ u ∉ gone := by
  rw [Active, Active, ht.objects u]
  split
  · rename_i hu
    simp [hu]
  · rename_i hu
    simp [hu]

lemma Teardown.identity (u : Nat) : (r'.objects u).identity = (r.objects u).identity := by
  rw [ht.objects u]
  split <;> rfl

lemma Teardown.children (u : Nat) : (r'.objects u).children = (r.objects u).children := by
  rw [ht.objects u]
  split <;> rfl

end

lemma Teardown.filed (h : Integral r) (hself : r.map[(r.objects target).id]? = some target)
    (ht : Teardown r target gone r') : Filed r' := by
  have hid : ∀ u, (r'.objects u).id = (r.objects u).id := fun u => congrArg (·.2.1) (ht.identity u)
  have hregistered : ∀ u, (r'.objects u).registered = (r.objects u).registered :=
    fun u => congrArg (·.1) (ht.identity u)
  have hmap := ht.map_iff h hself
  have hgone := fun u (hu : u ∈ gone) => h.gone_filed hself ht hu
  refine ⟨fun i u hi => ?_, fun u hu hreg hactive => ?_, fun i hi => ?_, ?_, fun i hi => ?_,
    fun i u hi => ?_⟩
  · obtain ⟨hi, hu⟩ := (hmap i u).1 hi
    obtain ⟨hlt, hreg, hactive, hidx⟩ := h.filed.map i u hi
    rw [ht.nextUid, hregistered, ht.active, hid]
    exact ⟨hlt, hreg, ⟨hactive, hu⟩, hidx⟩
  · rw [ht.nextUid] at hu
    rw [hregistered] at hreg
    obtain ⟨hactive, hnot⟩ := (ht.active u).1 hactive
    rw [hid]
    exact (hmap _ u).2 ⟨h.filed.active u hu hreg hactive, hnot⟩
  · rw [ht.map i]
    rw [ht.reclaimed] at hi
    split
    · rfl
    · rename_i hnot
      rcases mem_append.1 hi with hi | hi
      · exact h.filed.queue i hi
      · exact absurd hi hnot
  · rw [ht.reclaimed]
    refine nodup_append.2 ⟨h.filed.nodup, ?_, ?_⟩
    · refine ht.nodup.map_on fun x hx y hy hxy => ?_
      have hx := hgone x hx
      rw [hxy, hgone y hy] at hx
      exact (some.inj hx).symm
    · rintro i hi j hj rfl
      obtain ⟨x, hx, rfl⟩ := mem_map.1 hj
      have hnone := h.filed.queue _ hi
      rw [hgone x hx] at hnone
      cases hnone
  · rw [ht.next]
    rw [ht.reclaimed] at hi
    rcases mem_append.1 hi with hi | hi
    · exact h.filed.queue_lt i hi
    · obtain ⟨x, hx, rfl⟩ := mem_map.1 hi
      exact h.filed.map_lt _ x (hgone x hx)
  · rw [ht.next]
    exact h.filed.map_lt i u ((hmap i u).1 hi).1

/-- A teardown of a detached target keeps the invariant. -/
lemma Integral.teardown (h : Integral r) (hself : r.map[(r.objects target).id]? = some target)
    (hdetached : Detached r target) (ht : Teardown r target gone r') : Integral r' := by
  refine ⟨h.pedigree.congr ht.nextUid ht.identity, ht.filed h hself, ?_⟩
  intro u hu hactive name childId hchild
  rw [ht.nextUid] at hu
  rw [ht.children] at hchild
  obtain ⟨hactive, hnot⟩ := (ht.active u).1 hactive
  obtain ⟨c, hc, hparent, hname⟩ := h.entries u hu hactive name childId hchild
  have hentry : r.Entry u c := ⟨name, childId, hchild, hc⟩
  -- had the child fallen, so would its parent
  have hkept : c ∉ gone := by
    intro hmem
    rcases ((ht.mem c).1 hmem).cases_tail with rfl | ⟨a, ha, hfall⟩
    · exact hdetached u hu hactive hentry
    · have hgone := (ht.mem a).2 ha
      obtain ⟨hlt, -, haactive, -⟩ := h.filed.map _ a (h.gone_filed hself ht hgone)
      have hsame := (h.entry hlt haactive hfall.1).2.1
      rw [hparent] at hsame
      exact hnot (some.inj hsame ▸ hgone)
  refine ⟨c, (ht.map_iff h hself childId c).2 ⟨hc, hkept⟩, ?_, ?_⟩
  · exact (congrArg (·.2.2.2.2.1) (ht.identity c)).trans hparent
  · exact (congrArg (·.2.2.2.1) (ht.identity c)).trans hname

end Fall

/-! ## New objects -/

/-- The index `allocate` hands out is free, and no longer queued. -/
structure Allocates (r : Registry) : Prop where
  free : r.map[r.allocate.1]? = none
  unqueued : r.allocate.1 ∉ r.allocate.2.reclaimed
  lt : r.allocate.1 < r.allocate.2.next
  queue : ∀ i ∈ r.allocate.2.reclaimed, i ∈ r.reclaimed
  nodup : r.allocate.2.reclaimed.Nodup
  next : r.next ≤ r.allocate.2.next

lemma Filed.allocates (h : Filed r) : Allocates r := by
  have hqueue := h.queue
  have hnodup := h.nodup
  have hlt := h.queue_lt
  cases hq : r.reclaimed with
  | nil =>
    have halloc : r.allocate = (r.next, { r with next := r.next + 1 }) := by
      simp only [allocate, hq]
    constructor <;> simp only [halloc, hq, not_mem_nil, not_false_eq_true, imp_self,
      implies_true, nodup_nil, Nat.lt_succ_self, Nat.le_succ]
    -- every index in the map is below the counter
    cases hmap : r.map[r.next]? with
    | none => rfl
    | some u => exact absurd (h.map_lt r.next u hmap) (lt_irrefl _)
  | cons i rest =>
    have halloc : r.allocate = (i, { r with reclaimed := rest }) := by
      simp only [allocate, hq]
    rw [hq] at hqueue hnodup hlt
    obtain ⟨hnot, hrest⟩ := nodup_cons.1 hnodup
    constructor <;> simp only [halloc, hq, Nat.le_refl]
    · exact hqueue i mem_cons_self
    · exact hnot
    · exact hlt i mem_cons_self
    · exact fun j hj => mem_cons_of_mem _ hj
    · exact hrest

section Attach

variable {r : Registry} {self : Nat} {name : String} {maskedCaps : Capability}

section

variable (hself : self < r.nextUid)
include hself

lemma attachChild_new : (r.attachChild self name maskedCaps).registry.objects r.nextUid =
      r.newChild self r.allocate.1 name maskedCaps := by
  rw [attachChild_objects hself, if_neg (Nat.ne_of_gt hself), if_pos rfl]

lemma attachChild_status {u : Nat} (hu : u < r.nextUid) :
    ((r.attachChild self name maskedCaps).registry.objects u).status = (r.objects u).status := by
  rw [attachChild_objects hself]
  split
  · rename_i h
    rw [h]
  · rw [if_neg (ne_of_lt hu)]

/-- The child's entry is new, and no other entry changes. -/
lemma attachChild_entry
    (hname : (r.objects self).children[name]? = none) {u : Nat} (hu : u < r.nextUid) (other : String) :
    ((r.attachChild self name maskedCaps).registry.objects u).children[other]? =
      if u = self ∧ other = name then some r.allocate.1 else (r.objects u).children[other]? := by
  rw [attachChild_objects hself]
  by_cases hus : u = self
  · subst hus
    simp only [if_true, getElem?_insertIfNew hname, true_and, eq_comm]
  · simp only [hus, ne_of_lt hu, if_false, false_and]

end

lemma Integral.attachChild_filed (h : Integral r) (hself : self < r.nextUid) :
    Filed (r.attachChild self name maskedCaps).registry := by
  have halloc := h.filed.allocates
  have hev := attachChild_evolves r self name maskedCaps
  have hnew := @attachChild_new r self name maskedCaps hself
  refine ⟨fun i u hi => ?_, fun u hu hreg hactive => ?_, fun i hi => ?_, halloc.nodup,
    fun i hi => ?_, fun i u hi => ?_⟩
  · rw [attachChild_nextUid]
    rw [attachChild_map] at hi
    rcases getElem?_insert_cases hi with ⟨hid, rfl⟩ | ⟨_, hi⟩
    · rw [Active, hnew]
      exact ⟨Nat.lt_succ_self _, rfl, rfl, hid⟩
    · obtain ⟨hlt, hreg, hactive, hid⟩ := h.filed.map i u hi
      rw [Active, attachChild_status hself hlt, hev.registered_eq hlt, hev.id_eq hlt]
      exact ⟨Nat.lt_succ_of_lt hlt, hreg, hactive, hid⟩
  · rw [attachChild_nextUid] at hu
    rw [attachChild_map, getElem?_insert]
    rcases Nat.lt_succ_iff_lt_or_eq.1 hu with hold | rfl
    · rw [hev.registered_eq hold] at hreg
      rw [Active, attachChild_status hself hold] at hactive
      have hmap := h.filed.active u hold hreg hactive
      rw [hev.id_eq hold, if_neg, hmap]
      intro heq
      rw [← heq, halloc.free] at hmap
      cases hmap
    · rw [hnew]
      exact if_pos rfl
  · rw [attachChild_reclaimed] at hi
    rw [attachChild_map, getElem?_insert, if_neg]
    · exact h.filed.queue i (halloc.queue i hi)
    · intro heq
      exact halloc.unqueued (heq ▸ hi)
  · rw [attachChild_reclaimed] at hi
    rw [attachChild_next]
    exact lt_of_lt_of_le (h.filed.queue_lt i (halloc.queue i hi)) halloc.next
  · rw [attachChild_map] at hi
    rw [attachChild_next]
    rcases getElem?_insert_cases hi with ⟨rfl, _⟩ | ⟨_, hi⟩
    · exact halloc.lt
    · exact lt_of_lt_of_le (h.filed.map_lt i u hi) halloc.next

/-- `add_child` on an active registered object under a free name keeps the invariant. -/
lemma Integral.attachChild (h : Integral r) (hself : self < r.nextUid)
    (hreg : (r.objects self).registered = true) (hname : (r.objects self).children[name]? = none) :
    Integral (r.attachChild self name maskedCaps).registry := by
  have halloc := h.filed.allocates
  have hev := attachChild_evolves r self name maskedCaps
  have hnew := @attachChild_new r self name maskedCaps hself
  have hdescends : Descends r (r.attachChild self name maskedCaps).registry r.nextUid := by
    rw [Descends, hnew]
    refine ⟨?_, nofun, fun o ho => ?_⟩
    · rintro _ ⟨⟩
      exact ⟨hself, hreg, rfl⟩
    obtain ⟨hmem, hactive⟩ := mem_filter.1 ho
    have hold : o < r.nextUid ∧ (r.objects o).registered = true := by
      rcases mem_cons.1 hmem with rfl | hmem
      · exact ⟨hself, hreg⟩
      · obtain ⟨hlt, horeg, -⟩ := h.pedigree.lineage self hself o hmem
        exact ⟨hlt, horeg⟩
    -- an active ancestor still has its index, so the new object got another one
    have hmap := h.filed.active o hold.1 hold.2 (of_decide_eq_true hactive)
    refine ⟨hold.1, hold.2, fun heq => ?_⟩
    rw [heq] at hmap
    exact absurd (hmap.symm.trans halloc.free) (by simp)
  refine ⟨h.pedigree.grow hev.nextUid hev.identity fun c hc => ?_, h.attachChild_filed hself, ?_⟩
  · rw [attachChild_nextUid] at hc
    rcases Nat.lt_succ_iff_lt_or_eq.1 hc with hold | rfl
    · exact .inl hold
    · exact .inr hdescends
  · intro u hu hactive other childId hchild
    rw [attachChild_nextUid] at hu
    rcases Nat.lt_succ_iff_lt_or_eq.1 hu with hold | rfl
    · rw [attachChild_entry hself hname hold] at hchild
      rw [attachChild_map, getElem?_insert]
      split at hchild
      · rename_i heq
        obtain ⟨rfl, rfl⟩ := heq
        cases hchild
        refine ⟨r.nextUid, if_pos rfl, ?_, ?_⟩ <;> rw [hnew] <;> rfl
      · rw [Active, attachChild_status hself hold] at hactive
        obtain ⟨c, hc, hparent, hcname⟩ := h.entries u hold hactive other childId hchild
        have hlt := h.map_bound _ _ hc
        refine ⟨c, ?_, ?_, ?_⟩
        · rw [if_neg, hc]
          intro heq
          rw [← heq, halloc.free] at hc
          cases hc
        · exact (congrArg (·.2.2.2.2.1) (hev.identity c hlt)).trans hparent
        · exact (congrArg (·.2.2.2.1) (hev.identity c hlt)).trans hcname
    · rw [hnew] at hchild
      have hempty : (({} : Std.TreeMap String Nat))[other]? = some childId := hchild
      simp at hempty

end Attach

lemma newAnonymous_objects (r : Registry) (maskedCaps : Capability) :
    ∀ u < r.nextUid, (Handle.newAnonymous maskedCaps r).2.objects u = r.objects u := by
  intro u hu
  show (if u = r.nextUid then _ else r.objects u) = _
  exact if_neg (ne_of_lt hu)

/-- An anonymous object stays outside the tree. -/
lemma Integral.newAnonymous (h : Integral r) (maskedCaps : Capability) :
    Integral (Handle.newAnonymous maskedCaps r).2 := by
  have hev : Evolves r (Handle.newAnonymous maskedCaps r).2 := .build _
  have hold := newAnonymous_objects r maskedCaps
  have hnew : (Handle.newAnonymous maskedCaps r).2.objects r.nextUid =
      ⟨false, 0, none, "#anonymous", .active, maskedCaps, LifecycleFlags.none, 0, {}, none, []⟩ := by
    show (if r.nextUid = r.nextUid then _ else r.objects _) = _
    exact if_pos rfl
  have hcases : ∀ u < r.nextUid + 1, u < r.nextUid ∨ u = r.nextUid :=
    fun u hu => Nat.lt_succ_iff_lt_or_eq.1 hu
  refine ⟨h.pedigree.grow hev.nextUid hev.identity fun c hc => (hcases c hc).imp_right ?_,
    ⟨fun i u hi => ?_, fun u hu hreg hactive => ?_, h.filed.queue, h.filed.nodup, h.filed.queue_lt,
      h.filed.map_lt⟩, ?_⟩
  · rintro rfl
    rw [Descends, hnew]
    exact ⟨nofun, fun _ => ⟨rfl, nofun⟩, nofun⟩
  · obtain ⟨hlt, hrest⟩ := h.filed.map i u hi
    rw [Active, hold u hlt]
    exact ⟨Nat.lt_succ_of_lt hlt, hrest⟩
  · rcases hcases u hu with hlt | rfl
    · rw [Active, hold u hlt] at hactive
      rw [hold u hlt] at hreg ⊢
      exact h.filed.active u hlt hreg hactive
    · rw [hnew] at hreg
      cases hreg
  · intro u hu hactive name childId hchild
    rcases hcases u hu with hlt | rfl
    · rw [Active, hold u hlt] at hactive
      rw [hold u hlt] at hchild
      obtain ⟨c, hc, hrest⟩ := h.entries u hlt hactive name childId hchild
      refine ⟨c, hc, ?_⟩
      rw [hold c (h.map_bound _ _ hc)]
      exact hrest
    · rw [hnew] at hchild
      have hempty : (({} : Std.TreeMap String Nat))[name]? = some childId := hchild
      simp at hempty

end Registry

end Akarin.Objects
