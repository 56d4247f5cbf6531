/-
# Akarin.Objects.Anonymous -- anonymous objects beside the registry

An anonymous object has no registry, and its index is 0 like the root's. `Registry::remove` takes the
object's index without asking which it is, and `add_child` counts on a registry; as long as these two are
refused on other grounds, and for every other call, a handle of an anonymous object leaves the registry as it
is, since only registered objects ever have children.
-/
import Akarin.Objects.Teardown

namespace Akarin.Objects

open Lib Registry

/-- The calls a handle can make on the tree of objects. -/
inductive TreeCall where
  | addChild (name : String) (maskedCaps : Capability)
  | writeRemoveChild (name : String) (isKernel : Bool)
  | adminRemoveChild (name : String) (isKernel : Bool)
  | remove (isKernel : Bool)
  | drop
  | locate (path : String)

/-- A call's answer, without the value. -/
def answer {α : Type} (result : Except (Fault ObjectError) α × Registry) :
    Except (Fault ObjectError) Unit × Registry :=
  (result.1.map fun _ => (), result.2)

namespace Handle

/-- Make a call through the handle. -/
def perform (handle : Handle) (r : Registry) : TreeCall → Except (Fault ObjectError) Unit × Registry
  | .addChild name maskedCaps =>
    answer (handle.withObject Capability.write (fun self => addChild self name maskedCaps) r)
  | .writeRemoveChild name isKernel =>
    answer (handle.withObject Capability.write (fun self => writeRemoveChild self name isKernel) r)
  | .adminRemoveChild name isKernel =>
    answer (handle.withObject Capability.adminGrp (fun self => adminRemoveChild self name isKernel) r)
  | .remove isKernel => remove handle isKernel r
  | .drop => dropHandle handle r
  | .locate path => answer (handle.locate path r, r)

/-- The call is harmless on an anonymous object: an `add_child` is refused for its name or for want of a valid
handle with WRITE, a removal for want of a valid handle with ADMIN or because the object is sticky. -/
def Spares (handle : Handle) (r : Registry) : TreeCall → Prop
  | .addChild name _ =>
    name = "" ∨ name = "self" ∨ handle.isValid r = false ∨ handle.capabilities.contains .write = false
  | .remove isKernel => handle.capabilities.contains .admin = false ∨ handle.isValid r = false ∨
      isKernel = false ∧ (r.objects handle.uid).isSticky = true
  | _ => True

/-- The checks of an operation through a handle whose token carries no index. -/
lemma withObject_of_no_index {α : Type} {handle : Handle} (hid : handle.token.id = none)
    (required : Capability) (f : Nat → Action Registry ObjectError α) (r : Registry) :
    handle.withObject required f r =
      if handle.isValid r = false then (.error (.error .objectDestroyed), r)
      else if handle.capabilities.contains required = false then
        (.error (.error .insufficientCapabilities), r)
      else f handle.uid r := by
  unfold withObject isValid Object.verifyCapabilities
  cases hupgrade : handle.object.upgrade r with
  | none => rfl
  | some uid =>
    obtain rfl := ObjectRef.upgrade_eq_some hupgrade
    have hcaps : handle.token.contains required = handle.capabilities.contains required := rfl
    by_cases hactive : (r.objects handle.object.uid).status = .active
    · cases hhas : handle.capabilities.contains required <;> simp [hid, hactive, hcaps, hhas, uid]
    · simp [hactive]

end Handle

/-- The call has not panicked, and the registry and what is registered are as before. -/
structure Undisturbed (r : Registry) (result : Except (Fault ObjectError) Unit × Registry) : Prop where
  answered : result.1 ≠ .error .panic
  map : result.2.map = r.map
  reclaimed : result.2.reclaimed = r.reclaimed
  objects : ∀ u, (r.objects u).registered = true → result.2.objects u = r.objects u

namespace Undisturbed

variable {r : Registry} {handle : Handle}

lemma refused (e : ObjectError) : Undisturbed r (.error (.error e), r) :=
  ⟨nofun, rfl, rfl, fun _ _ => rfl⟩

lemma addChild_iff (hid : handle.token.id = none)
    (hnone : ∀ name : String, (r.objects handle.uid).children[name]? = none)
    (hreg : (r.objects handle.uid).registered = false) (name : String) (maskedCaps : Capability) :
    Undisturbed r (handle.perform r (.addChild name maskedCaps)) ↔
      handle.Spares r (.addChild name maskedCaps) := by
  simp only [Handle.perform, Handle.Spares, Handle.withObject_of_no_index hid]
  split_ifs with hvalid hcaps
  · exact iff_of_true (refused _) (.inr (.inr (.inl hvalid)))
  · exact iff_of_true (refused _) (.inr (.inr (.inr hcaps)))
  · by_cases hname : name = "" ∨ name = "self"
    · have hdangerous : (name = "" || name = "self") = true := by simpa using hname
      rw [addChild, if_pos hdangerous]
      exact iff_of_true (refused _) (hname.imp_right .inl)
    · have hpanic : addChild handle.uid name maskedCaps r = (.error .panic, r) := by
        have hdangerous : (name = "" || name = "self") = false := by simpa using hname
        simp [addChild, hdangerous, hnone, hreg]
      rw [hpanic]
      refine iff_of_false (fun h => h.answered rfl) ?_
      rintro (h | h | h | h)
      exacts [hname (.inl h), hname (.inr h), hvalid h, hcaps h]

/-- An operation through the handle that is refused if it is let through. -/
lemma withObject_refused (hid : handle.token.id = none) {α : Type} {required : Capability}
    {f : Nat → Action Registry ObjectError α} (hf : ∃ e, f handle.uid r = (.error (.error e), r)) :
    Undisturbed r (answer (handle.withObject required f r)) := by
  obtain ⟨e, hf⟩ := hf
  rw [Handle.withObject_of_no_index hid, hf]
  split_ifs <;> exact refused _

/-- The owner removes the object: its index, 0, is handed out again, unless the object is gone already. -/
lemma remove_iff (hbound : ∀ i u : Nat, r.map[i]? = some u → u < r.nextUid)
    (hparent : (r.objects handle.uid).parent = none) (isKernel : Bool) :
    Undisturbed r (handle.perform r (.remove isKernel)) ↔ handle.Spares r (.remove isKernel) := by
  simp only [Handle.perform, Handle.Spares, Registry.remove]
  cases hadmin : handle.capabilities.contains Capability.admin with
  | false => exact iff_of_true (refused _) (.inl rfl)
  | true =>
    simp only [Bool.not_true, Bool.false_eq_true, if_false, reduceCtorEq, false_or]
    cases hupgrade : handle.object.upgrade r with
    | none => exact iff_of_true (refused _) (.inl (by simp [Handle.isValid, hupgrade]))
    | some uid =>
      obtain rfl : uid = handle.uid := ObjectRef.upgrade_eq_some hupgrade
      have hvalid : handle.isValid r = true ↔ r.Active handle.uid := by
        simp [Handle.isValid, hupgrade, Active]
      dsimp only
      split
      · rename_i hsticky
        exact iff_of_true (refused _) (.inr (by simpa using hsticky))
      · rename_i hloose
        have hsame : r.unlink handle.uid = r := by simp [unlink, hparent]
        rcases removeInternal_cases handle.uid hbound with ⟨hdead, hres⟩ | ⟨hactive, -, gone, hgone⟩
        · rw [hres, hsame]
          exact iff_of_true (refused _) (.inl (Bool.eq_false_iff.2 (hdead ∘ hvalid.1)))
        · refine iff_of_false (fun h => ?_) ?_
          · have hself : handle.uid ∈ gone := (hgone.mem _).2 .refl
            have hqueue := hgone.reclaimed.symm.trans h.reclaimed
            rw [hsame, List.append_right_eq_self, List.map_eq_nil_iff] at hqueue
            exact List.not_mem_nil (hqueue ▸ hself)
          · rintro (h | h)
            · exact absurd (hvalid.2 hactive) (by simp [h])
            · exact hloose (by simpa using h)

end Undisturbed

namespace World

lemma run_parentsRegistered (ops : List Op) : ParentsRegistered (runOps step boot ops).registry := by
  have hboot : ParentsRegistered boot.registry := by
    intro u name hname
    replace hname : (if u = 0 then _ else vacant).children[name]? ≠ none := hname
    split at hname <;> exact absurd Std.TreeMap.getElem?_emptyc hname
  exact (run_invariant_all (I := fun w : World => w.Coherent ∧ ParentsRegistered w.registry)
    (fun _ op h => ⟨h.1.step op, (h.1.step_grows op).parents h.2⟩) ⟨boot_coherent, hboot⟩ ops).2

/-- Whatever is called, references are coherent and only registered objects have children. -/
theorem run_refers (ops : List Op) :
    (runOps step boot ops).Coherent ∧ ParentsRegistered (runOps step boot ops).registry :=
  ⟨run_coherent ops, run_parentsRegistered ops⟩

/-- In every reachable state, a call through an anonymous handle disturbs nothing exactly if it is not a removal
that is let through and not an `add_child` that is. -/
theorem anonymous_undisturbed_iff (ops : List Op) (handle : Handle)
    (hmem : some handle ∈ (runOps step boot ops).handles) (hanonymous : handle.registered = false)
    (call : TreeCall) :
    Undisturbed (runOps step boot ops).registry (handle.perform (runOps step boot ops).registry call) ↔
      handle.Spares (runOps step boot ops).registry call := by
  have hcoherent := run_coherent ops
  have hok := hcoherent.handles handle hmem
  have hreg := hok.registered.symm.trans hanonymous
  have hid : handle.token.id = none := by rw [hok.id, Object.index, hreg]; rfl
  have hnone : ∀ name : String, ((runOps step boot ops).registry.objects handle.uid).children[name]? = none :=
    fun name => by_contra fun hname => by simp [(run_parentsRegistered ops handle.uid name hname).2] at hreg
  cases call with
  | addChild name maskedCaps => exact Undisturbed.addChild_iff hid hnone hreg name maskedCaps
  | writeRemoveChild name isKernel =>
    refine iff_of_true (.withObject_refused hid ?_) trivial
    unfold Registry.writeRemoveChild
    rw [hnone]
    split <;> exact ⟨_, rfl⟩
  | adminRemoveChild name isKernel =>
    refine iff_of_true (.withObject_refused hid ?_) trivial
    unfold Registry.adminRemoveChild
    rw [hnone]
    split <;> exact ⟨_, rfl⟩
  | remove isKernel =>
    exact Undisturbed.remove_iff (fun i u hi => (hcoherent.map i u hi).1) (hok.parentless hanonymous) isKernel
  | drop =>
    refine iff_of_true ?_ trivial
    simp only [Handle.perform, dropHandle, hanonymous, Bool.and_false, Bool.false_and]
    split <;> exact ⟨by simp, rfl, rfl, fun _ _ => rfl⟩
  | locate path =>
    refine iff_of_true ?_ trivial
    simp only [Handle.perform, Handle.locate, hanonymous]
    exact .refused _

/-- The handle of the first anonymous object. -/
def anonymousOwner : Handle := ⟨⟨none, .adminGrp, unrestricted⟩, false, .owned 1⟩

theorem anonymous_undisturbed_owner : Undisturbed (runOps step boot [.newAnonymous 0]).registry
      (anonymousOwner.perform (runOps step boot [.newAnonymous 0]).registry (.adminRemoveChild "dev" true)) :=
  (anonymous_undisturbed_iff [.newAnonymous 0] anonymousOwner (by decide) rfl _).2 trivial

/-- The owner of an anonymous object removes it: the root is gone from the map, and its index is handed out
again. And an anonymous object cannot take a child. -/
theorem anonymous_disturbs : some anonymousOwner ∈ (runOps step boot [.newAnonymous 0]).handles ∧
      ¬ Undisturbed (runOps step boot [.newAnonymous 0]).registry
        (anonymousOwner.perform (runOps step boot [.newAnonymous 0]).registry (.remove true)) ∧
      ¬ Undisturbed (runOps step boot [.newAnonymous 0]).registry
        (anonymousOwner.perform (runOps step boot [.newAnonymous 0]).registry (.addChild "dev" 0)) :=
  ⟨by decide, fun h => absurd h.reclaimed (by decide), fun h => h.answered (by decide)⟩

end World

end Akarin.Objects
