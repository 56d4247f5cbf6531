/-
# Akarin.Objects.Teardown -- what `remove_internal` does

The breadth-first teardown marks, before it removes anything, every active object that can be
reached from its target through entries of the children maps (`visit_expands` is one layer of it);
then it takes their indices out of the registry and queues them for reuse. `removeInternal_cases`
is the specification the invariants are derived from: the conditional unlinking always happens, and
if the target is active, the rest is a `Teardown`.
-/
import Akarin.Objects.Coherence

namespace Akarin.Objects

open List Lib
open Relation (ReflTransGen)

namespace Registry

def Active (r : Registry) (uid : Nat) : Prop := (r.objects uid).status = .active
deriving Decidable

/-- An entry of the children map of `parent` leads to `child`. -/
def Entry (r : Registry) (parent child : Nat) : Prop :=
  ∃ (name : String) (childId : Nat), (r.objects parent).children[name]? = some childId ∧
    r.map[childId]? = some child

/-- The objects of `s` are those of `r`, except that some may have another status. -/
structure Marks (r s : Registry) : Prop where
  map : s.map = r.map
  next : s.next = r.next
  reclaimed : s.reclaimed = r.reclaimed
  nextUid : s.nextUid = r.nextUid
  objects : ∀ u, s.objects u = { r.objects u with status := (s.objects u).status }

namespace Marks

variable {r s t : Registry}

lemma refl (r : Registry) : Marks r r := ⟨rfl, rfl, rfl, rfl, fun _ => rfl⟩

lemma trans (h₁ : Marks r s) (h₂ : Marks s t) : Marks r t where
  map := h₂.map.trans h₁.map
  next := h₂.next.trans h₁.next
  reclaimed := h₂.reclaimed.trans h₁.reclaimed
  nextUid := h₂.nextUid.trans h₁.nextUid
  objects u := by
    rw [h₂.objects u, h₁.objects u]

lemma setStatus (uid : Nat) (status : ObjectStatus) : Marks r (r.setStatus uid status) := by
  refine ⟨rfl, rfl, rfl, rfl, fun u => ?_⟩
  simp only [Registry.setStatus, setObject]
  split
  · rename_i h
    rw [h]
  · rfl

lemma children_eq (h : Marks r s) (u : Nat) : (s.objects u).children = (r.objects u).children := by
  rw [h.objects u]

end Marks

/-! ## One layer of the search -/

lemma markChildren_marks (ids : List Nat) (r : Registry) : Marks r (markChildren ids r).1 := by
  fun_induction markChildren ids r with
  | case1 => exact .refl _
  | case2 _ _ _ _ ih | case3 _ _ _ _ _ _ ih => exact ih
  | case4 _ _ _ _ _ _ _ ih => exact (Marks.setStatus _ _).trans ih

lemma active_setStatus_destroying (r : Registry) (uid u : Nat) :
    (r.setStatus uid .destroying).Active u ↔ r.Active u ∧ u ≠ uid := by
  simp only [Active, setStatus, setObject]
  by_cases h : u = uid
  · simp [h]
  · simp [h]

/-- Marking the objects behind a list of indices. -/
lemma markChildren_expands (ids : List Nat) (r : Registry) (uid : Nat) :
    Expands (fun _ child => ∃ childId ∈ ids, r.map[childId]? = some child) Active r uid
      (markChildren ids r) := by
  -- an index that leads to nothing active adds nothing
  have hskip : ∀ {childId rest} {r : Registry}, (∀ b, r.map[childId]? = some b → ¬ r.Active b) →
      Expands (fun _ child => ∃ id ∈ rest, r.map[id]? = some child) Active r uid (markChildren rest r) →
      Expands (fun _ child => ∃ id ∈ childId :: rest, r.map[id]? = some child) Active r uid
        (markChildren rest r) := by
    intro childId rest r hidle h
    refine ⟨fun b hb => ?_, h.nodup, h.marks, fun b hb => ?_⟩
    · obtain ⟨⟨id, hid, hmap⟩, hactive⟩ := h.found b hb
      exact ⟨⟨id, mem_cons_of_mem _ hid, hmap⟩, hactive⟩
    · obtain ⟨id, hid, hmap⟩ := hb
      rcases mem_cons.1 hid with rfl | hid
      · exact fun hactive => hidle b hmap ((h.marks b).1 hactive).1
      · exact h.closed b ⟨id, hid, hmap⟩
  fun_induction markChildren ids r with
  | case1 =>
    refine ⟨fun b hb => absurd hb not_mem_nil, nodup_nil, fun b => ?_, fun b hb => ?_⟩
    · simp
    · obtain ⟨_, hmem, _⟩ := hb
      cases hmem
  | case2 childId rest r hnone ih =>
    refine hskip (fun b hb => ?_) ih
    rw [hnone] at hb
    cases hb
  | case3 childId rest r child hchild hstatus ih =>
    refine hskip (fun b hb => ?_) ih
    rw [hchild] at hb
    cases hb
    exact hstatus
  | case4 childId rest r child hchild hstatus _ h =>
    have hactive : r.Active child := not_not.1 hstatus
    have hfound : ∀ b ∈ (markChildren rest (r.setStatus child .destroying)).2, r.Active b ∧ b ≠ child :=
      fun b hb => (active_setStatus_destroying r child b).1 (h.found b hb).2
    refine ⟨fun b hb => ?_, ?_, fun b => ?_, fun b hb => ?_⟩
    · rcases mem_cons.1 hb with rfl | hb
      · exact ⟨⟨childId, mem_cons_self, hchild⟩, hactive⟩
      · obtain ⟨id, hid, hmap⟩ := (h.found b hb).1
        exact ⟨⟨id, mem_cons_of_mem _ hid, hmap⟩, (hfound b hb).1⟩
    · exact nodup_cons.2 ⟨fun hmem => (hfound child hmem).2 rfl, h.nodup⟩
    · rw [h.marks b, active_setStatus_destroying, mem_cons, not_or, and_assoc]
    · obtain ⟨id, hid, hmap⟩ := hb
      rcases mem_cons.1 hid with rfl | hid
      · obtain rfl := Option.mem_unique hchild hmap
        intro hb
        exact ((active_setStatus_destroying r child child).1 ((h.marks child).1 hb).1).2 rfl
      · exact h.closed b ⟨id, hid, hmap⟩

variable {r s : Registry} {found : Registry × List Nat}

lemma visit_expands (h : Marks r s) (uid : Nat) : Expands r.Entry Active s uid (visit s uid) := by
  have hexp := markChildren_expands ((s.objects uid).children.toList.map (·.2)) s uid
  have hedge : ∀ child, r.Entry uid child ↔
      ∃ childId ∈ (s.objects uid).children.toList.map (·.2), s.map[childId]? = some child := by
    intro child
    rw [h.children_eq, h.map]
    constructor
    · rintro ⟨name, childId, hentry, hmap⟩
      exact ⟨childId, mem_map.2 ⟨(name, childId), mem_toList_iff.2 hentry, rfl⟩, hmap⟩
    · rintro ⟨childId, hmem, hmap⟩
      obtain ⟨⟨name, id⟩, hentry, rfl⟩ := mem_map.1 hmem
      exact ⟨name, id, mem_toList_iff.1 hentry, hmap⟩
  refine ⟨fun b hb => ?_, hexp.nodup, hexp.marks, fun b hb => ?_⟩
  · exact ⟨(hedge b).2 (hexp.found b hb).1, (hexp.found b hb).2⟩
  · exact hexp.closed b ((hedge b).1 hb)

/-! ## The whole search -/

/-- How many objects are active. -/
def population (r : Registry) : Nat :=
  ((List.range r.nextUid).filter fun u => r.Active u).length

lemma population_le (r : Registry) : r.population ≤ r.nextUid := by
  have h := length_filter_le (fun u => decide (r.Active u)) (List.range r.nextUid)
  rwa [length_range] at h

/-- What one layer marks, it takes off the population. -/
lemma population_visit (h : Marks r s)
    (hbound : ∀ i u : Nat, r.map[i]? = some u → u < r.nextUid) (uid : Nat) :
    (visit s uid).1.population + (visit s uid).2.length ≤ s.population := by
  have hexp := visit_expands h uid
  have hnext : (visit s uid).1.nextUid = s.nextUid := (markChildren_marks _ s).nextUid
  unfold population
  rw [hnext, ← length_append]
  apply List.Subperm.length_le
  apply List.Nodup.subperm
  · refine nodup_append.2 ⟨nodup_range.filter _, hexp.nodup, ?_⟩
    rintro x hx y hy rfl
    exact ((hexp.marks x).1 (of_decide_eq_true (mem_filter.1 hx).2)).2 hy
  · intro x hx
    rcases mem_append.1 hx with hx | hx
    · obtain ⟨hmem, hactive⟩ := mem_filter.1 hx
      have hactive := ((hexp.marks x).1 (of_decide_eq_true hactive)).1
      exact mem_filter.2 ⟨hmem, decide_eq_true hactive⟩
    · obtain ⟨⟨_, childId, _, hmap⟩, hactive⟩ := hexp.found x hx
      have hlt := hbound childId x hmap
      rw [← h.nextUid] at hlt
      exact mem_filter.2 ⟨mem_range.2 hlt, decide_eq_true hactive⟩

/-- A step of the search for what falls with `target`. -/
def Falls (r : Registry) (target a b : Nat) : Prop := r.Entry a b ∧ r.Active b ∧ b ≠ target

/-- The teardown of the objects in `gone`. -/
structure Teardown (r : Registry) (target : Nat) (gone : List Nat) (r' : Registry) : Prop where
  nodup : gone.Nodup
  mem : ∀ u, u ∈ gone ↔ ReflTransGen (r.Falls target) target u
  objects : ∀ u, r'.objects u =
    if u ∈ gone then { r.objects u with status := .destroying } else r.objects u
  map : ∀ i : Nat, r'.map[i]? = if i ∈ gone.map fun u => (r.objects u).id then none else r.map[i]?
  reclaimed : r'.reclaimed = r.reclaimed ++ gone.map fun u => (r.objects u).id
  next : r'.next = r.next
  nextUid : r'.nextUid = r.nextUid

/-- The second pass. It does not look at statuses, and changes only the indices. -/
structure Reclaimed (r : Registry) (gone : List Nat) (r' : Registry) : Prop where
  objects : r'.objects = r.objects
  next : r'.next = r.next
  nextUid : r'.nextUid = r.nextUid
  map : ∀ i : Nat, r'.map[i]? = if i ∈ gone.map fun u => (r.objects u).id then none else r.map[i]?
  reclaimed : r'.reclaimed = r.reclaimed ++ gone.map fun u => (r.objects u).id

lemma reclaimAll_reclaimed (gone : List Nat) (r : Registry) : Reclaimed r gone (gone.foldl reclaim r) := by
  induction gone generalizing r with
  | nil => exact ⟨rfl, rfl, rfl, fun i => by simp, by simp⟩
  | cons uid rest ih =>
    have h := ih (r.reclaim uid)
    refine ⟨h.objects, h.next, h.nextUid, fun i => ?_, ?_⟩
    · rw [foldl_cons, h.map i]
      show (if i ∈ rest.map _ then none else (r.map.erase (r.objects uid).id)[i]?) = _
      rw [getElem?_erase, map_cons]
      by_cases hi : (r.objects uid).id = i
      · simp [hi]
      · simp [hi, Ne.symm hi, reclaim]
    · rw [foldl_cons, h.reclaimed]
      simp [reclaim]

lemma entry_setStatus (r : Registry) (uid : Nat) (status : ObjectStatus) :
    (r.setStatus uid status).Entry = r.Entry := by
  funext a b
  unfold Entry
  rw [(Marks.setStatus uid status).children_eq a]
  rfl

lemma status_eq_of_active_iff {a b : ObjectStatus} (h : a = .active ↔ b = .active) : a = b := by
  cases a <;> cases b <;> simp_all

/-- What the search finds and marks. -/
lemma search_spec (target : Nat) (hbound : ∀ i u : Nat, r.map[i]? = some u → u < r.nextUid)
    (hfound : drain visit (r.nextUid + 1) (r.setStatus target .destroying) [target] [] = found) :
    Marks r found.1 ∧ found.2.Nodup ∧ (∀ u, u ∈ found.2 ↔ ReflTransGen (r.Falls target) target u) ∧
      ∀ u, found.1.Active u ↔ r.Active u ∧ u ∉ found.2 := by
  have hstart : ¬ (r.setStatus target .destroying).Active target :=
    fun h => ((active_setStatus_destroying r target target).1 h).2 rfl
  have hspec : Marks (r.setStatus target .destroying) found.1 ∧
      Drained (r.setStatus target .destroying).Entry Active (r.setStatus target .destroying) target
        found := by
    rw [← hfound]
    apply drain_spec (I := Marks (r.setStatus target .destroying))
    · exact fun s a hs => hs.trans (markChildren_marks _ s)
    · exact fun s a hs => visit_expands hs a
    · exact fun s a hs => population_visit hs hbound a
    · exact .refl _
    · exact hstart
    · exact Nat.succ_le_succ (population_le (r.setStatus target .destroying))
  obtain ⟨hmarks, hdrained⟩ := hspec
  have hopen : OpenEdge (r.setStatus target .destroying).Entry Active
      (r.setStatus target .destroying) = r.Falls target := by
    funext a b
    rw [OpenEdge, active_setStatus_destroying, entry_setStatus]
    rfl
  have hmem : ∀ u, u ∈ found.2 ↔ ReflTransGen (r.Falls target) target u := by
    intro u
    rw [hdrained.visited, hopen]
  refine ⟨(Marks.setStatus target .destroying).trans hmarks, hdrained.nodup, hmem, fun u => ?_⟩
  have hself : target ∈ found.2 := (hmem target).2 .refl
  rw [hdrained.marks, active_setStatus_destroying]
  -- the target is among what was found, so it needs no mention of its own
  constructor
  · rintro ⟨⟨hactive, -⟩, hnot⟩
    exact ⟨hactive, hnot⟩
  · rintro ⟨hactive, hnot⟩
    exact ⟨⟨hactive, fun heq => hnot (heq ▸ hself)⟩, hnot⟩

/-- The search and the second pass together. -/
lemma teardown_spec (target : Nat) (hbound : ∀ i u : Nat, r.map[i]? = some u → u < r.nextUid)
    (hfound : drain visit (r.nextUid + 1) (r.setStatus target .destroying) [target] [] = found) :
    Teardown r target found.2 (found.2.foldl reclaim found.1) := by
  obtain ⟨hmarks, hnodup, hmem, hactive⟩ := search_spec target hbound hfound
  have hreclaimed := reclaimAll_reclaimed found.2 found.1
  have hids : found.2.map (fun u => (found.1.objects u).id) = found.2.map fun u => (r.objects u).id := by
    refine map_congr_left fun u _ => ?_
    rw [hmarks.objects u]
  refine ⟨hnodup, hmem, fun u => ?_, fun i => ?_, ?_, hreclaimed.next.trans hmarks.next,
    hreclaimed.nextUid.trans hmarks.nextUid⟩
  · rw [hreclaimed.objects, hmarks.objects u]
    split
    · rename_i hu
      have hdead : (found.1.objects u).status = .destroying := by
        cases hstatus : (found.1.objects u).status with
        | active => exact absurd hu ((hactive u).1 hstatus).2
        | destroying => rfl
      rw [hdead]
    · rename_i hu
      have hsame : (found.1.objects u).status = (r.objects u).status :=
        status_eq_of_active_iff ((hactive u).trans (and_iff_left hu))
      rw [hsame]
  · rw [hreclaimed.map i, hids, hmarks.map]
  · rw [hreclaimed.reclaimed, hids, hmarks.reclaimed]

/-! ## `remove_internal` -/

lemma setChildren_active (r : Registry) (uid : Nat) (children : Std.TreeMap String Nat) (u : Nat) :
    (r.setChildren uid children).Active u ↔ r.Active u := by
  simp only [Active, setChildren, setObject]
  split
  · rename_i h
    rw [h]
  · rfl

lemma unlink_active (r : Registry) (uid u : Nat) : (r.unlink uid).Active u ↔ r.Active u := by
  unfold unlink
  dsimp only
  split
  · rfl
  split
  · exact setChildren_active r _ _ u
  · rfl

/-- The target is unlinked. If it is active, it is then torn down with what falls with it. -/
lemma removeInternal_cases (uid : Nat) (hbound : ∀ i u : Nat, r.map[i]? = some u → u < r.nextUid) :
    (¬ r.Active uid ∧ removeInternal uid r = (.error (.error .objectDestroyed), r.unlink uid)) ∨
      (r.Active uid ∧ (removeInternal uid r).1 = .ok () ∧
        ∃ gone, Teardown (r.unlink uid) uid gone (removeInternal uid r).2) := by
  have hprunes := unlink_prunes r uid
  have hboundUnlinked : ∀ i u : Nat, (r.unlink uid).map[i]? = some u → u < (r.unlink uid).nextUid :=
    fun i u hi => lt_of_lt_of_le (hbound i u (hprunes.shrinks i u hi)) hprunes.nextUid
  unfold removeInternal
  dsimp only
  split
  · rename_i hstatus
    exact .inl ⟨fun h => hstatus ((unlink_active r uid uid).2 h), rfl⟩
  · rename_i hstatus
    refine .inr ⟨(unlink_active r uid uid).1 (not_not.1 hstatus), rfl, ?_⟩
    exact ⟨_, teardown_spec uid hboundUnlinked rfl⟩

end Registry

end Akarin.Objects
