/-
# Akarin.Objects.Sticky -- removal requests and the STICKY flag

A sticky object is meant to be removed by the kernel only. The three requests that remove objects
test for it each in their own way: `Registry::remove` tests the object it removes,
`WriteOperation::remove_child` tests the parent, `AdminOperation::remove_child` tests the parent and
refuses the kernel. None of them looks below the object that is removed. `stickyPolicy_iff` says for
which requests the policy holds nevertheless.
-/
import Akarin.Objects.RegistryRuns

namespace Akarin.Objects

open Lib Bool Action
open Relation (ReflTransGen)

/-- A removal request. -/
inductive Removal where
  | remove (handle : Handle)
  | writeChild (self : Nat) (name : String)
  | adminChild (self : Nat) (name : String)

namespace Removal

open Registry

/-- The request is made; the index that the child removals return is dropped. -/
def run (isKernel : Bool) (request : Removal) (r : Registry) :
    Except (Fault ObjectError) Unit × Registry :=
  match request with
  | .remove handle => Registry.remove handle isKernel r
  | .writeChild self name =>
    let result := writeRemoveChild self name isKernel r
    (result.1.map fun _ => (), result.2)
  | .adminChild self name =>
    let result := adminRemoveChild self name isKernel r
    (result.1.map fun _ => (), result.2)

/-- The child under a name of `self`, and the registry once its entry is gone. -/
def Picks (r : Registry) (self : Nat) (name : String) (target : Nat) (r' : Registry) : Prop :=
  (r.objects self).registered = true ∧
    (∃ id : Nat, (r.objects self).children[name]? = some id ∧ r.map[id]? = some target) ∧
    r' = r.setChildren self ((r.objects self).children.erase name)

/-- The checks of the request let it through: `remove_internal` is called on `target` in `r'`. -/
def HandsOver (isKernel : Bool) (r : Registry) (target : Nat) (r' : Registry) : Removal → Prop
  | .remove handle => Reaches handle isKernel r ∧ target = handle.uid ∧ r' = r
  | .writeChild self name =>
    (isKernel = true ∨ (r.objects self).isSticky = false) ∧ Picks r self name target r' ∧
      (r.objects target).maskedCaps.contains .write = false
  | .adminChild self name =>
    (isKernel = false ∨ (r.objects self).isSticky = false) ∧ Picks r self name target r'

end Removal

namespace Registry

/-- The objects a removal of `target` takes down: those found from it through entries of the children
maps, by way of active objects. -/
def Doomed (r : Registry) (target u : Nat) : Prop :=
  ReflTransGen ((r.unlink target).Falls target) target u

/-- The same registry with every lifecycle flag cleared. -/
def withoutSticky (r : Registry) : Registry :=
  { r with objects := fun u => { r.objects u with lifecycleFlags := LifecycleFlags.none } }

lemma withoutSticky_isSticky (r : Registry) (u : Nat) : (r.withoutSticky.objects u).isSticky = false := by
  show BitFlags.contains ((LifecycleFlags.fromBits LifecycleFlags.none).getD LifecycleFlags.none)
    LifecycleFlags.sticky = false
  decide

/-! ## What a removal does to the statuses -/

/-- The answer of `remove_internal` depends on the status of its target only. -/
lemma removeInternal_outcome (uid : Nat) (r : Registry) : (removeInternal uid r).1 =
      if r.Active uid then .ok () else .error (.error .objectDestroyed) := by
  simp only [removeInternal]
  split
  · rename_i h
    exact (if_neg fun hactive => h ((unlink_active r uid uid).2 hactive)).symm
  · rename_i h
    exact (if_pos ((unlink_active r uid uid).1 (not_not.1 h))).symm

/-- What is active after `remove_internal`. -/
lemma removeInternal_active {r : Registry} (target : Nat)
    (hbound : ∀ i u : Nat, r.map[i]? = some u → u < r.nextUid) (u : Nat) :
    (removeInternal target r).2.Active u ↔ r.Active u ∧ ¬ (r.Active target ∧ r.Doomed target u) := by
  rcases removeInternal_cases target hbound with ⟨hdead, heq⟩ | ⟨hactive, -, gone, hgone⟩
  · rw [heq, unlink_active]
    exact ⟨fun h => ⟨h, fun hd => hdead hd.1⟩, And.left⟩
  · have hmem : u ∈ gone ↔ r.Doomed target u := hgone.mem u
    rw [← unlink_active r target u]
    unfold Active
    rw [hgone.objects u]
    split
    · rename_i hu
      exact ⟨fun h => (nomatch h), fun h => absurd ⟨hactive, hmem.1 hu⟩ h.2⟩
    · rename_i hu
      exact ⟨fun h => ⟨h, fun hd => hu (hmem.2 hd.2)⟩, And.left⟩

end Registry

namespace Removal

open Registry

variable {r r' : Registry} {isKernel : Bool} {request : Removal} {target : Nat}

/-- The statuses after the request are those `remove_internal` leaves, if it is called. -/
lemma run_handsOver (h : request.HandsOver isKernel r target r') :
    (request.run isKernel r).2 = (removeInternal target r').2 := by
  cases request with
  | remove handle =>
    obtain ⟨hreaches, rfl, rfl⟩ := h
    rcases remove_cases handle isKernel r' with ⟨hnot, -⟩ | ⟨-, heq⟩
    · exact absurd hreaches hnot
    · exact congrArg Prod.snd heq
  | writeChild self name =>
    obtain ⟨hsticky, ⟨hreg, ⟨id, hentry, hmap⟩, rfl⟩, hmask⟩ := h
    have hcheck : (!isKernel && (r.objects self).isSticky) = false := by
      rcases hsticky with rfl | hs
      · rfl
      · rw [hs, Bool.and_false]
    simp only [run, writeRemoveChild, hcheck, hentry, hreg, hmap, hmask, Bool.not_true]
    exact andThen_ret_state _ _ _
  | adminChild self name =>
    obtain ⟨hsticky, hreg, ⟨id, hentry, hmap⟩, rfl⟩ := h
    have hcheck : (isKernel && (r.objects self).isSticky) = false := by
      rcases hsticky with rfl | hs
      · rfl
      · rw [hs, Bool.and_false]
    have hregErased : ((r.setChildren self ((r.objects self).children.erase name)).objects
        self).registered = true := ((@Trims.erase r self name).registered self).trans hreg
    have hmapErased : (r.setChildren self ((r.objects self).children.erase name)).map[id]? =
        some target := hmap
    simp only [run, adminRemoveChild, hcheck, hentry, hregErased, hmapErased, Bool.not_true]
    exact andThen_ret_state _ _ _

/-- A request that is refused changes no status. -/
lemma run_refused (h : ∀ target r', ¬ request.HandsOver isKernel r target r') (u : Nat) :
    (request.run isKernel r).2.Active u ↔ r.Active u := by
  cases request with
  | remove handle =>
    rcases remove_cases handle isKernel r with ⟨-, e, heq⟩ | ⟨hreaches, -⟩
    · rw [run, heq]
    · exact absurd ⟨hreaches, rfl, rfl⟩ (h handle.uid r)
  | writeChild self name =>
    show (writeRemoveChild self name isKernel r).2.Active u ↔ _
    fun_cases writeRemoveChild self name isKernel r with
    | case6 hcheck id hentry hreg child hmap hmask =>
      refine absurd ⟨?_, ⟨by simpa using hreg, ⟨id, hentry, hmap⟩, rfl⟩, by simpa using hmask⟩ (h child _)
      cases isKernel with
      | true => exact .inl rfl
      | false => exact .inr (by simpa using hcheck)
    | _ => rfl
  | adminChild self name =>
    have ht := @Trims.erase r self name
    show (adminRemoveChild self name isKernel r).2.Active u ↔ _
    fun_cases adminRemoveChild self name isKernel r with
    | case1 | case2 => rfl
    | case3 | case4 => exact ht.active u
    | case5 hcheck id hentry _ hreg child hmap =>
      rw [ht.registered, not_eq_true, not_eq_false'] at hreg
      refine absurd ⟨?_, hreg, ⟨id, hentry, hmap⟩, rfl⟩ (h child _)
      cases isKernel with
      | false => exact .inl rfl
      | true => exact .inr (by simpa using hcheck)

/-- The registry a request hands over differs in an entry of a children map at most. -/
lemma HandsOver.trims (h : request.HandsOver isKernel r target r') : Trims r r' := by
  cases request with
  | remove handle =>
    obtain ⟨-, -, rfl⟩ := h
    exact .refl _
  | writeChild self name =>
    obtain ⟨-, ⟨-, -, rfl⟩, -⟩ := h
    exact .erase self name
  | adminChild self name =>
    obtain ⟨-, -, -, rfl⟩ := h
    exact .erase self name

lemma HandsOver.bound (h : request.HandsOver isKernel r target r')
    (hbound : ∀ i u : Nat, r.map[i]? = some u → u < r.nextUid) :
    ∀ i u : Nat, r'.map[i]? = some u → u < r'.nextUid := by
  rw [h.trims.map, h.trims.nextUid]
  exact hbound

/-! ## The policy -/

/-- What the flag promises of a request: made without kernel authority it destroys no sticky object,
and made with it, its answer is the one it would get if no object were sticky. -/
structure StickyPolicy (r : Registry) (request : Removal) : Prop where
  survives : ∀ u, (r.objects u).isSticky = true → r.Active u → (request.run false r).2.Active u
  kernel : (request.run true r).1 = (request.run true r.withoutSticky).1

/-- No sticky object falls with the target of the request. -/
def Spares (r : Registry) (request : Removal) : Prop :=
  ∀ target r', request.HandsOver false r target r' → r.Active target →
    ∀ u, r'.Doomed target u → (r.objects u).isSticky = false

/-- The request is not an administrator's on a sticky parent. -/
def AdmitsKernel (r : Registry) : Removal → Prop
  | .adminChild self _ => (r.objects self).isSticky = false
  | _ => True

/-- Everything a removal takes down was active. -/
lemma Doomed.active {r : Registry} {target u : Nat} (htarget : r.Active target)
    (h : r.Doomed target u) : r.Active u := by
  cases h with
  | refl => exact htarget
  | tail _ hstep => exact (unlink_active r target u).1 hstep.2.1

lemma survives_iff (hbound : ∀ i u : Nat, r.map[i]? = some u → u < r.nextUid) (request : Removal) :
    (∀ u, (r.objects u).isSticky = true → r.Active u → (request.run false r).2.Active u) ↔
      request.Spares r := by
  constructor
  · intro hsurvives target r' hover hactive u hdoomed
    by_contra hsticky
    have ht := hover.trims
    have htarget := (ht.active target).2 hactive
    have hu := hsurvives u (by simpa using hsticky) ((ht.active u).1 (Doomed.active htarget hdoomed))
    rw [run_handsOver hover, removeInternal_active target (hover.bound hbound)] at hu
    exact hu.2 ⟨htarget, hdoomed⟩
  · intro hspares u hsticky hactive
    by_cases hover : ∃ target r', request.HandsOver false r target r'
    · obtain ⟨target, r', hover⟩ := hover
      have ht := hover.trims
      rw [run_handsOver hover, removeInternal_active target (hover.bound hbound)]
      refine ⟨(ht.active u).2 hactive, fun ⟨htarget, hdoomed⟩ => ?_⟩
      have hnot := hspares target r' hover ((ht.active target).1 htarget) u hdoomed
      rw [hsticky] at hnot
      cases hnot
    · exact (run_refused (fun target r' h => hover ⟨target, r', h⟩) u).2 hactive

/-- The answer of a child removal that has come as far as `remove_internal`. -/
lemma removeThen_outcome (child id : Nat) (r : Registry) :
    (andThen (removeInternal child) (fun _ => ret id) r).1.map (fun _ => ()) =
      if r.Active child then .ok () else .error (.error .objectDestroyed) := by
  have houtcome := removeInternal_outcome child r
  unfold andThen
  split
  · rename_i h
    rw [h] at houtcome
    rw [← houtcome]
    rfl
  · rename_i h
    rw [h] at houtcome
    rw [← houtcome]
    rfl

/-- The answer of a child removal that has passed its sticky test; `masked` says whether the child's
mask is looked at. -/
def pickOutcome (r : Registry) (self : Nat) (name : String) (masked : Bool) :
    Except (Fault ObjectError) Unit :=
  match (r.objects self).children[name]? with
  | none => .error (.error .objectNotFound)
  | some id =>
    if !(r.objects self).registered then .error .panic
    else
      match r.map[id]? with
      | none => .error (.error .objectNotFound)
      | some child =>
        if masked && (r.objects child).maskedCaps.contains .write then
          .error (.error .insufficientCapabilities)
        else if r.Active child then .ok () else .error (.error .objectDestroyed)

lemma pickOutcome_ne (r : Registry) (self : Nat) (name : String) (masked : Bool) :
    pickOutcome r self name masked ≠ .error (.error .invalidArgument) := by
  fun_cases pickOutcome r self name masked <;> simp

lemma writeChild_outcome (isKernel : Bool) (r : Registry) (self : Nat) (name : String) :
    ((writeChild self name).run isKernel r).1 =
      if !isKernel && (r.objects self).isSticky then .error (.error .invalidArgument)
      else pickOutcome r self name true := by
  simp only [run, writeRemoveChild, pickOutcome, Bool.true_and]
  split
  · rfl
  cases (r.objects self).children[name]? with
  | none => rfl
  | some id =>
    dsimp only
    split
    · rfl
    cases r.map[id]? with
    | none => rfl
    | some child =>
      dsimp only
      split
      · rfl
      · rw [removeThen_outcome]
        simp only [setChildren_active]

lemma adminChild_outcome (isKernel : Bool) (r : Registry) (self : Nat) (name : String) :
    ((adminChild self name).run isKernel r).1 =
      if isKernel && (r.objects self).isSticky then .error (.error .invalidArgument)
      else pickOutcome r self name false := by
  have hregistered := (Trims.erase (r := r) self name).registered self
  have hmap : (r.setChildren self ((r.objects self).children.erase name)).map = r.map := rfl
  simp only [run, adminRemoveChild, pickOutcome, Bool.false_and, hregistered, hmap]
  split
  · rfl
  cases (r.objects self).children[name]? with
  | none => rfl
  | some id =>
    dsimp only
    split
    · rfl
    cases r.map[id]? with
    | none => rfl
    | some child =>
      dsimp only
      rw [removeThen_outcome]
      simp only [setChildren_active, Bool.false_eq_true, if_false]

lemma kernel_iff (r : Registry) (request : Removal) :
    (request.run true r).1 = (request.run true r.withoutSticky).1 ↔ request.AdmitsKernel r := by
  have hpick : ∀ self name masked,
      pickOutcome r.withoutSticky self name masked = pickOutcome r self name masked :=
    fun _ _ _ => rfl
  cases request with
  | remove handle =>
    refine iff_of_true ?_ trivial
    have hupgrade : handle.object.upgrade r.withoutSticky = handle.object.upgrade r := by
      cases handle.object <;> rfl
    have hactive : ∀ u, r.withoutSticky.Active u ↔ r.Active u := fun _ => Iff.rfl
    simp only [run, Registry.remove, hupgrade, Bool.not_true, Bool.false_and]
    split
    · rfl
    split
    · rfl
    simp only [Bool.false_eq_true, if_false, removeInternal_outcome, hactive]
  | writeChild self name =>
    refine iff_of_true ?_ trivial
    rw [writeChild_outcome, writeChild_outcome, hpick]
    rfl
  | adminChild self name =>
    rw [adminChild_outcome, adminChild_outcome, hpick, withoutSticky_isSticky]
    cases hsticky : (r.objects self).isSticky with
    | false => exact iff_of_true rfl hsticky
    | true =>
      refine iff_of_false (fun h => pickOutcome_ne r self name false h.symm) ?_
      show (r.objects self).isSticky ≠ false
      rw [hsticky]
      decide

/-- For every request on every registry: the policy holds exactly if no sticky object falls with the
target of a request that gets through without kernel authority, and the request is not one of an
administrator on a sticky parent. -/
theorem stickyPolicy_iff (r : Registry)
    (hbound : ∀ i u : Nat, r.map[i]? = some u → u < r.nextUid) (request : Removal) :
    StickyPolicy r request ↔ request.Spares r ∧ request.AdmitsKernel r := by
  rw [← survives_iff hbound request, ← kernel_iff r request]
  exact ⟨fun h => ⟨h.survives, h.kernel⟩, fun h => ⟨h.1, h.2⟩⟩

/-- A directory `p` of the root with a sticky child `c`. -/
def stickyOps : List World.Op :=
  [.addChild 0 "p" 0, .addChild 1 "c" 0, .setLifecycleFlags 2 .sticky]

def stickyRegistry : Registry := (runOps World.step World.boot stickyOps).registry

lemma stickyRegistry_bound : ∀ i u : Nat, stickyRegistry.map[i]? = some u → u < stickyRegistry.nextUid :=
  fun i u h => ((@World.run_integral stickyOps (by decide)).filed.map i u h).1

/-- Without kernel authority a writer on the root, which is sticky, is refused. -/
theorem stickyPolicy_iff_writeChild_root :
    ((writeChild 0 "p").run false stickyRegistry).1 = .error (.error .invalidArgument) ∧
      StickyPolicy stickyRegistry (writeChild 0 "p") := by
  refine ⟨by decide, (stickyPolicy_iff stickyRegistry stickyRegistry_bound _).2 ⟨?_, trivial⟩⟩
  rintro target r' ⟨hsticky | hsticky, -⟩
  · cases hsticky
  · exact absurd hsticky (by decide)

/-- A writer on `p` without kernel authority destroys the sticky `c`; an administrator on the sticky
root is refused with kernel authority and let through without. -/
theorem child_removal_ignores_sticky_child :
    (stickyRegistry.objects 2).isSticky = true ∧ stickyRegistry.Active 2 ∧
      ¬ ((writeChild 1 "c").run false stickyRegistry).2.Active 2 ∧
      ((adminChild 0 "p").run true stickyRegistry).1 = .error (.error .invalidArgument) ∧
      ((adminChild 0 "p").run true stickyRegistry.withoutSticky).1 = .ok () ∧
      ¬ ((adminChild 0 "p").run false stickyRegistry).2.Active 2 ∧
      ¬ StickyPolicy stickyRegistry (writeChild 1 "c") ∧
      ¬ StickyPolicy stickyRegistry (adminChild 0 "p") := by
  refine ⟨by decide, by decide, by decide, by decide, by decide, by decide, fun h => ?_, fun h => ?_⟩
  · exact absurd (h.survives 2 (by decide) (by decide)) (by decide)
  · exact absurd h.kernel (by decide)

end Removal

end Akarin.Objects
