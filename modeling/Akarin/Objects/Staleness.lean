/-
# Akarin.Objects.Staleness -- traversal from the handle of a destroyed object

A handle keeps its index when its object is destroyed, and `locate_and_then` starts from that index
without asking whether the handle is still valid. `stale_locate_iff` says when this is harmless: as
long as nobody else has been given the index. `stale_handle_reaches_successor` is a run in which
somebody has, and the handle of the old object becomes an owner's handle of the new one.
-/
import Akarin.Objects.RegistryRuns

namespace Akarin.Objects

open Lib Option

namespace Handle

/-- `Token::new` would refuse a copy of the handle's token. -/
def CopyRefused (handle : Handle) : Prop :=
  handle.interfaceCaps ≠ unrestricted ∧ handle.capabilities.isPrivileged = true

end Handle

namespace Registry

variable {r : Registry} {handle : Handle} {path : String}

/-- What a relative traversal starts from. -/
lemma startToken_relative (hpath : isAbsolute path = false) : r.startToken (some handle) path =
      Token.make handle.objectId handle.capabilities handle.interfaceCaps := by
  unfold startToken
  rw [hpath]

/-- From an index nobody has, the traversal gets no further than `self`. -/
lemma walkAll_stuck {token token' : Token} {names : List String}
    (hnobody : token.id.bind (r.map[·]?) = none) (h : r.walkAll token names = .ok token') :
    token' = token := by
  induction names with
  | nil =>
    cases h
    rfl
  | cons name names ih =>
    have hwalk : r.walk token name = .ok token ∨ ∃ e, r.walk token name = .error e := by
      unfold walk
      split
      · exact .inl rfl
      split
      · exact .inr ⟨_, rfl⟩
      · rename_i currentId hid
        rw [hid] at hnobody
        simp only [show r.map[currentId]? = none from hnobody]
        exact .inr ⟨_, rfl⟩
    unfold walkAll at h
    rcases hwalk with heq | ⟨e, heq⟩
    · rw [heq] at h
      exact ih h
    · rw [heq] at h
      cases h

/-- A traversal from an index nobody has finds nothing. -/
lemma locateAndThen_stuck (hpath : isAbsolute path = false)
    (hnobody : handle.objectId.bind (r.map[·]?) = none) (found : Handle) :
    r.locateAndThen (some handle) path ≠ .ok found := by
  unfold locateAndThen
  rw [startToken_relative hpath]
  split
  · exact nofun
  rename_i token htoken
  obtain rfl := Token.make_eq_ok htoken
  split
  · exact nofun
  rename_i token hwalk
  obtain rfl := walkAll_stuck hnobody hwalk
  split
  · exact nofun
  rename_i finalId hid
  have hmap : r.map[finalId]? = none := by
    rw [show handle.objectId = some finalId from hid] at hnobody
    exact hnobody
  rw [hmap]
  exact nofun

/-- The empty path leads to whoever has the index. -/
lemma locateAndThen_empty {id holder : Nat} (hid : handle.objectId = some id)
    (hmap : r.map[id]? = some holder) (hcopy : ¬ handle.CopyRefused) :
    ∃ found, r.locateAndThen (some handle) "" = .ok found ∧ found.uid = holder := by
  have hrelative : isAbsolute "" = false := by decide
  have hempty : components "" = [] := by decide
  obtain ⟨token, htoken⟩ := @Token.exists_make_iff handle.objectId _ _ |>.2 hcopy
  refine ⟨⟨token, (r.objects holder).registered, .shared holder⟩, ?_, rfl⟩
  obtain rfl := Token.make_eq_ok htoken
  unfold locateAndThen
  rw [startToken_relative hrelative, htoken, hempty]
  simp only [walkAll, hid, hmap]

end Registry

namespace World

open Registry

/-- In every run on registered objects: a traversal from the handle of a destroyed object leads only
to that object or a descendant it had, whatever the relative path, exactly when nobody has its index
now (or its token cannot be copied). -/
theorem stale_locate_iff (ops : List Op) (hon : Meets step OnRegistered boot ops) {slot : Nat}
    {handle : Handle} (hhandle : (runOps step boot ops).handle? slot = some handle)
    (hdead : ((runOps step boot ops).registry.objects handle.uid).status ≠ .active) :
    (∀ path found, isAbsolute path = false →
      (runOps step boot ops).registry.locateAndThen (some handle) path = .ok found →
        found.uid = handle.uid ∨
          handle.uid ∈ ((runOps step boot ops).registry.objects found.uid).lineage) ↔
      (((runOps step boot ops).registry.objects handle.uid).index.bind
        ((runOps step boot ops).registry.map[·]?) = none ∨ handle.CopyRefused) := by
  have h := run_integral hon
  have hok := (run_coherent ops).handleOk hhandle
  generalize (runOps step boot ops).registry = r at *
  have hid : handle.objectId = (r.objects handle.uid).index := hok.id
  constructor
  · intro hreach
    by_contra hnot
    rw [not_or] at hnot
    obtain ⟨hsome, hcopy⟩ := hnot
    obtain ⟨holder, hholder⟩ := ne_none_iff_exists'.1 hsome
    obtain ⟨id, hindex, hmap⟩ := bind_eq_some_iff.1 hholder
    obtain ⟨hlt, -, hactive, hidx⟩ := h.filed.map id holder hmap
    obtain ⟨found, hfound, rfl⟩ := locateAndThen_empty (hid.trans hindex) hmap hcopy
    rcases hreach "" found (by decide) hfound with hself | hancestor
    · rw [← hself] at hdead
      exact hdead hactive
    · -- an ancestor that was active when its descendant was created has another index
      obtain ⟨-, hreg, hne⟩ := h.pedigree.lineage found.uid hlt handle.uid hancestor
      rw [Object.index, hreg] at hindex
      exact hne ((some.inj hindex).trans hidx.symm)
  · rintro (hnobody | hrefused) path found hpath hfound
    · rw [← hid] at hnobody
      exact absurd hfound (locateAndThen_stuck hpath hnobody found)
    · unfold locateAndThen at hfound
      rw [startToken_relative hpath] at hfound
      split at hfound
      · cases hfound
      · rename_i token htoken
        exact absurd hrefused (Token.exists_make_iff.1 ⟨token, htoken⟩)

/-- An object is removed while a handle of its owner is still around. -/
def removedOps : List Op := [.addChild 0 "a" 0, .remove 1 true]

def removedOwner : Handle := ⟨⟨some 1, .adminGrp, unrestricted⟩, true, .shared 1⟩

theorem stale_locate_iff_removedOps : (runOps step boot removedOps).handle? 1 = some removedOwner ∧
      ∀ path found, isAbsolute path = false →
        (runOps step boot removedOps).registry.locateAndThen (some removedOwner) path = .ok found →
        found.uid = removedOwner.uid ∨ removedOwner.uid ∈
          ((runOps step boot removedOps).registry.objects found.uid).lineage := by
  have hhandle : (runOps step boot removedOps).handle? 1 = some removedOwner := by decide
  refine ⟨hhandle, ?_⟩
  exact (stale_locate_iff removedOps (by decide) hhandle (by decide)).2 (.inl (by decide))

/-- Then another object gets the index, and the stale handle leads to it, as its owner. -/
theorem stale_handle_reaches_successor : let w := runOps step boot (removedOps ++ [.addChild 0 "b" 0])
    w.handle? 1 = some removedOwner ∧ (w.registry.objects removedOwner.uid).status = .destroying ∧
      ∀ path ∈ ["", "self"], ∃ found,
        w.registry.locateAndThen (some removedOwner) path = .ok found ∧ found.uid = 2 ∧
        (w.registry.objects 2).lineage = [0] ∧
        found.capabilities.contains Capability.admin = true := by
  refine ⟨by decide, by decide, fun path hpath => ?_⟩
  refine ⟨⟨⟨some 1, .adminGrp, unrestricted⟩, true, .shared 2⟩, ?_⟩
  simp only [List.mem_cons, List.not_mem_nil, or_false] at hpath
  rcases hpath with rfl | rfl
  · exact ⟨by decide, by decide, by decide, by decide⟩
  · exact ⟨by decide, by decide, by decide, by decide⟩

end World

end Akarin.Objects
