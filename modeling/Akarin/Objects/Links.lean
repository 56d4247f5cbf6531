/-
# Akarin.Objects.Links -- every registered object is found from its parent

`Linked` says that the children maps lead to every registered object but the root. With it a removal
takes out exactly the subtree of its target (`Integral.removal`): the search follows the children maps,
and these are then the same tree as the parent indices.
-/
import Akarin.Objects.Integrity

namespace Akarin.Objects

open Lib Option

namespace Registry

/-- The parent's index is registered, and the entry there under the object's name has its index. -/
def FoundFromParent (r : Registry) (u : Nat) : Prop :=
  ∃ parentId parent : Nat, (r.objects u).parent = some parentId ∧ r.map[parentId]? = some parent ∧
    (r.objects parent).children[(r.objects u).name]? = some (r.objects u).id

def Linked (r : Registry) : Prop :=
  ∀ i u : Nat, r.map[i]? = some u → u ≠ 0 → r.FoundFromParent u

/-- The same, except for an object that is being removed. -/
def LinkedBut (r : Registry) (target : Nat) : Prop :=
  ∀ i u : Nat, r.map[i]? = some u → u ≠ 0 → u ≠ target → r.FoundFromParent u

/-- The registered objects afterwards are those that are not below the target. -/
def RemovesExactly (r r' : Registry) (target : Nat) : Prop :=
  ∀ i u : Nat, r'.map[i]? = some u ↔ r.map[i]? = some u ∧ ¬ r.Below target u

variable {r r' : Registry}

lemma Linked.but (h : Linked r) (target : Nat) : LinkedBut r target :=
  fun i u hi hroot _ => h i u hi hroot

/-! ## Operations that keep the tree -/

/-- Metadata may differ, entries do not. -/
lemma Linked.trims (h : Linked r) (ht : Trims r r') (hback : Trims r' r) : Linked r' := by
  intro i u hi hroot
  rw [ht.map] at hi
  obtain ⟨parentId, parent, hparent, hmap, hchild⟩ := h i u hi hroot
  refine ⟨parentId, parent, ?_, ?_, ?_⟩
  · rw [ht.parent, hparent]
  · rw [ht.map, hmap]
  · rw [ht.name, ht.id_eq]
    exact hback.children parent _ _ hchild

lemma Linked.newAnonymous (h : Linked r) (hintegral : Integral r)
    (maskedCaps : Capability) : Linked (Handle.newAnonymous maskedCaps r).2 := by
  have hold := newAnonymous_objects r maskedCaps
  intro i u hi hroot
  obtain ⟨parentId, parent, hparent, hmap, hchild⟩ := h i u hi hroot
  refine ⟨parentId, parent, ?_, hmap, ?_⟩
  · rw [hold u (hintegral.map_bound i u hi), hparent]
  · rw [hold u (hintegral.map_bound i u hi), hold parent (hintegral.map_bound _ _ hmap), hchild]

variable {name : String} {target : Nat}

lemma Linked.attachChild (h : Linked r) (hintegral : Integral r) {self : Nat}
    {maskedCaps : Capability} (hself : self < r.nextUid) (hreg : (r.objects self).registered = true)
    (hactive : r.Active self) (hname : (r.objects self).children[name]? = none) :
    Linked (r.attachChild self name maskedCaps).registry := by
  have hfree := hintegral.filed.allocates.free
  have hev := attachChild_evolves r self name maskedCaps
  have hnew := @attachChild_new r self name maskedCaps hself
  -- what was registered keeps its index
  have hkept : ∀ i u : Nat, r.map[i]? = some u →
      (r.attachChild self name maskedCaps).registry.map[i]? = some u := by
    intro i u hi
    rw [attachChild_map, getElem?_insert, if_neg, hi]
    intro heq
    rw [← heq, hfree] at hi
    cases hi
  intro i u hi hroot
  rw [attachChild_map] at hi
  rcases getElem?_insert_cases hi with ⟨_, rfl⟩ | ⟨_, hi⟩
  · refine ⟨(r.objects self).id, self, ?_, ?_, ?_⟩
    · rw [hnew]
      rfl
    · exact hkept _ _ (hintegral.filed.active self hself hreg hactive)
    · rw [hnew, attachChild_entry hself hname hself]
      exact if_pos ⟨rfl, rfl⟩
  · have hlt := hintegral.map_bound i u hi
    obtain ⟨parentId, parent, hparent, hmap, hchild⟩ := h i u hi hroot
    refine ⟨parentId, parent, ?_, hkept _ _ hmap, ?_⟩
    · exact (congrArg (·.2.2.1) (hev.identity u hlt)).trans hparent
    · have huname : ((r.attachChild self name maskedCaps).registry.objects u).name =
          (r.objects u).name := congrArg (·.2.2.2.1) (hev.identity u hlt)
      rw [huname, hev.id_eq hlt, attachChild_entry hself hname (hintegral.map_bound _ _ hmap),
        if_neg, hchild]
      rintro ⟨rfl, heq⟩
      rw [heq, hname] at hchild
      cases hchild

/-! ## Removal -/

/-- Taking away the entry that leads to the target unlinks nothing else. -/
lemma LinkedBut.erase {parent : Nat} (h : LinkedBut r target) (hintegral : Integral r)
    (hself : r.map[(r.objects target).id]? = some target)
    (hentry : (r.objects parent).children[name]? = some (r.objects target).id) :
    LinkedBut (r.setChildren parent ((r.objects parent).children.erase name)) target := by
  have ht := @Trims.erase r parent name
  intro i u hi hroot hne
  rw [ht.map] at hi
  obtain ⟨parentId, p, hparent, hmap, hchild⟩ := h i u hi hroot hne
  refine ⟨parentId, p, ?_, ?_, ?_⟩
  · rw [ht.parent, hparent]
  · rw [ht.map, hmap]
  · rw [ht.name, ht.id_eq]
    by_cases hp : p = parent
    · subst hp
      have hother : name ≠ (r.objects u).name := by
        -- otherwise the entry leads to `u`, which has the target's index
        intro heq
        rw [← heq, hentry] at hchild
        obtain ⟨-, -, -, hid⟩ := hintegral.filed.map i u hi
        rw [some.inj hchild, hid, hi] at hself
        exact hne (some.inj hself)
      show (if p = p then _ else r.objects p).children[(r.objects u).name]? = _
      rw [if_pos rfl, getElem?_erase, if_neg hother, hchild]
    · show (if p = parent then _ else r.objects p).children[(r.objects u).name]? = _
      rw [if_neg hp, hchild]

lemma LinkedBut.unlink (h : LinkedBut r target) (hintegral : Integral r)
    (hself : r.map[(r.objects target).id]? = some target) : LinkedBut (r.unlink target) target := by
  unfold Registry.unlink
  dsimp only
  split
  · exact h
  split
  · rename_i hentry
    exact h.erase hintegral hself hentry
  · exact h

lemma Trims.below (ht : Trims r r') : r'.Below = r.Below := by
  have hchild : r'.ChildOf = r.ChildOf := by
    funext a b
    rw [ChildOf, ChildOf, ht.map, ht.id_eq, ht.id_eq, ht.parent]
  rw [Below, Below, hchild]

section Fall

variable {r r' : Registry} {target : Nat} {gone : List Nat}

/-- What falls with the target is what is below it. -/
lemma Teardown.mem_iff_below (ht : Teardown r target gone r') (h : Integral r)
    (hself : r.map[(r.objects target).id]? = some target) (hlinked : LinkedBut r target) (u : Nat) :
    u ∈ gone ↔ r.Below target u := by
  constructor
  · intro hu
    have hpath := (ht.mem u).1 hu
    clear hu
    induction hpath with
    | refl => exact .refl
    | tail hpath hfall ih =>
      obtain ⟨hlt, -, hactive, -⟩ :=
        h.filed.map _ _ (h.gone_filed hself ht ((ht.mem _).2 hpath))
      obtain ⟨hmap, hparent, -⟩ := h.entry hlt hactive hfall.1
      obtain ⟨-, -, hidx⟩ := h.pedigree.parent _ (h.map_bound _ _ hmap) _ hparent
      exact ih.tail ⟨hmap, hidx⟩
  · intro hbelow
    induction hbelow with
    | refl => exact (ht.mem target).2 .refl
    | @tail a c _ hchild ih =>
      by_cases hc : c = target
      · rw [hc]
        exact (ht.mem target).2 .refl
      · obtain ⟨hmap, hparent⟩ := hchild
        have hroot : c ≠ 0 := by
          rintro rfl
          have hnone := (h.pedigree.root 0 h.pedigree.booted h.pedigree.origin).1
          rw [hnone] at hparent
          cases hparent
        obtain ⟨parentId, p, hp, hpmap, hentry⟩ := hlinked _ c hmap hroot hc
        -- the parent the entry was found at is `a` itself
        have hidx : parentId = (r.objects a).id := mem_unique hp hparent
        rw [hidx, h.gone_filed hself ht ih] at hpmap
        obtain rfl : a = p := some.inj hpmap
        obtain ⟨-, -, hactive, -⟩ := h.filed.map _ c hmap
        have hfall : r.Falls target a c := ⟨⟨_, _, hentry, hmap⟩, hactive, hc⟩
        exact (ht.mem c).2 (((ht.mem a).1 ih).tail hfall)

lemma Teardown.linked (ht : Teardown r target gone r') (h : Integral r)
    (hself : r.map[(r.objects target).id]? = some target) (hlinked : LinkedBut r target) : Linked r' := by
  intro i u hi hroot
  obtain ⟨hi, hu⟩ := (ht.map_iff h hself i u).1 hi
  have hne : u ≠ target := fun heq => hu (heq ▸ (ht.mem target).2 .refl)
  obtain ⟨parentId, p, hparent, hmap, hchild⟩ := hlinked i u hi hroot hne
  obtain ⟨-, -, hactive, hid⟩ := h.filed.map i u hi
  -- had the parent fallen, so would the child
  have hp : p ∉ gone := by
    intro hmem
    refine hu ((ht.mem u).2 (((ht.mem p).1 hmem).tail ⟨⟨_, _, hchild, ?_⟩, hactive, hne⟩))
    rw [hid, hi]
  refine ⟨parentId, p, ?_, (ht.map_iff h hself parentId p).2 ⟨hmap, hp⟩, ?_⟩
  · exact (congrArg (·.2.2.1) (ht.identity u)).trans hparent
  · have hname : (r'.objects u).name = (r.objects u).name :=
      congrArg (·.2.2.2.1) (ht.identity u)
    have hidx : (r'.objects u).id = (r.objects u).id := congrArg (·.2.1) (ht.identity u)
    rw [ht.children, hname, hidx, hchild]

end Fall

/-- `remove_internal` on an active registered object succeeds and keeps the invariant. If the rest
of the tree is linked, it removes exactly the subtree and leaves a linked tree. -/
lemma Integral.removal (h : Integral r) (hlt : target < r.nextUid)
    (hreg : (r.objects target).registered = true) (hactive : r.Active target) :
    (removeInternal target r).1 = .ok () ∧ Integral (removeInternal target r).2 ∧
      (LinkedBut r target → Linked (removeInternal target r).2 ∧
        RemovesExactly r (removeInternal target r).2 target) := by
  have ht := Trims.unlink r target
  have hintegral := h.trims ht
  have hself := h.filed.active target hlt hreg hactive
  have hselfUnlinked : (r.unlink target).map[((r.unlink target).objects target).id]? = some target := by
    rw [ht.map, ht.id_eq, hself]
  rcases removeInternal_cases target h.map_bound with ⟨hdead, -⟩ | ⟨-, hok, gone, hdown⟩
  · exact absurd hactive hdead
  · refine ⟨hok, hintegral.teardown hselfUnlinked (h.unlink_detached target) hdown, fun hlinked => ?_⟩
    have hlinked := hlinked.unlink h hself
    refine ⟨hdown.linked hintegral hselfUnlinked hlinked, fun i u => ?_⟩
    rw [hdown.map_iff hintegral hselfUnlinked, hdown.mem_iff_below hintegral hselfUnlinked hlinked,
      ht.below, ht.map]

end Registry

end Akarin.Objects
