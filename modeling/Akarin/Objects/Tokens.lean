/-
# Akarin.Objects.Tokens -- what a token may hold

`Token::new` panics on a privileged token that is restricted. Both words come from the caller in
`derive_handle`, and `downgrade` may restrict a token that stays privileged, so that a later `locate` or
`upgrade` builds it anew and panics (`panics_on_restricted_agent`). As long as neither happens every token
of the system is whole, and no call panics.

A mask takes capabilities away along a path. `derive_token` gives CLONE and SEND back to a privileged
parent whose privilege is masked, also where the mask has them (`mask_undone`). Apart from these two the
capabilities that reach the end of a path are those of its start less the masks on the way
(`locateAndThen_passed`).
-/
import Akarin.Objects.Authority
import Akarin.Objects.Coherence

namespace Akarin.Objects

open Lib Handle Registry Object BitFlags Bool List BitVec

/-! ## Whole tokens -/

lemma Capability.isPrivileged_or (a b : Capability) :
    (a ||| b).isPrivileged = (a.isPrivileged || b.isPrivileged) := by
  have hagent : (a ||| b).contains agent = (a.contains agent || b.contains agent) :=
    @contains_or_twoPow 32 6 a b (by decide)
  rw [isPrivileged, isPrivileged, isPrivileged, contains_or_admin, hagent]
  cases a.contains admin <;> cases a.contains agent <;> cases b.contains admin <;> rfl

/-- A privileged token is unrestricted. -/
def Token.Whole (token : Token) : Prop :=
  token.capabilities.isPrivileged = true → token.interfaceCaps = unrestricted
deriving Decidable

/-- A call has not panicked, and the token it has made is whole. -/
def Clean {α : Type} (token : α → Token) : Except (Fault ObjectError) α → Prop
  | .ok a => (token a).Whole
  | .error fault => fault ≠ .panic

variable {α : Type} {token : Token} {r : Registry} {path : String}

lemma Clean.ne_panic {token : α → Token} {result : Except (Fault ObjectError) α}
    (h : Clean token result) : result ≠ .error .panic := by
  rintro rfl
  exact h rfl

lemma Clean.whole {token : α → Token} {result : Except (Fault ObjectError) α} (h : Clean token result)
    (a : α) (ha : result = .ok a) : (token a).Whole := by
  rw [ha] at h
  exact h

@[elab_as_elim]
lemma Clean.elim {token : α → Token} {motive : Except (Fault ObjectError) α → Prop}
    {result : Except (Fault ObjectError) α} (h : Clean token result)
    (herror : ∀ fault, fault ≠ .panic → motive (.error fault)) (hok : ∀ a, (token a).Whole → motive (.ok a)) :
    motive result := by
  cases result with
  | error fault => exact herror fault h
  | ok a => exact hok a h

lemma Capability.isPrivileged_of_remove {caps mask : Capability} (h : (caps.remove mask).isPrivileged = true) :
    caps.isPrivileged = true := by
  by_contra hnot
  rw [not_eq_true] at hnot
  exact absurd ((isPrivileged_of_within (remove_within caps mask) hnot).symm.trans h) (by decide)

lemma Token.make_clean (id : Option Nat) {capabilities : Capability} {interfaceCaps : BitVec 32}
    (h : capabilities.isPrivileged = true → interfaceCaps = unrestricted) :
    Clean (fun token => token) (make id capabilities interfaceCaps) := by
  obtain ⟨token, htoken⟩ : ∃ token, make id capabilities interfaceCaps = .ok token :=
    exists_make_iff.2 fun hbad => hbad.1 (h hbad.2)
  rw [htoken]
  obtain rfl := make_eq_ok htoken
  exact h

section Calls

variable {r : Registry} {handle : Handle} {token : Token} {permit : Permit}

/-- What `derive_token` appends does not make a token privileged. -/
lemma Object.deriveToken_clean (object : Object) (parentToken : Token) :
    Clean (fun token => token) (object.deriveToken parentToken) := by
  fun_cases deriveToken with
  | case4 =>
    rename_i appendCaps
    refine Token.make_clean _ fun hprivileged => ?_
    rw [Capability.isPrivileged_or, or_eq_true] at hprivileged
    rcases hprivileged with hfinal | happend
    · exact if_pos hfinal
    · unfold appendCaps at happend
      split at happend <;> exact absurd happend (by decide)
  | _ => rintro ⟨⟩

lemma Registry.walk_clean (htoken : token.Whole) (name : String) :
    Clean (fun token => token) (r.walk token name) := by
  fun_cases walk with
  | case1 => exact htoken
  | case6 => exact deriveToken_clean _ _
  | _ => rintro ⟨⟩

lemma Registry.walkAll_clean (htoken : token.Whole) (names : List String) :
    Clean (fun token => token) (r.walkAll token names) := by
  induction names generalizing token with
  | nil => exact htoken
  | cons name names ih =>
    unfold walkAll
    exact (walk_clean htoken name).elim (fun _ => id) fun _ hwhole => ih hwhole

variable {curr : Option Handle}

section

variable (hcurr : ∀ handle ∈ curr, handle.token.Whole)
include hcurr

lemma Registry.startToken_clean (path : String) : Clean (fun token => token) (r.startToken curr path) := by
  fun_cases startToken with
  | case1 | case2 => exact Token.make_clean _ (hcurr _ rfl)
  | case5 => exact deriveToken_clean _ _
  | _ => exact nofun

lemma Registry.locateAndThen_clean (path : String) : Clean Handle.token (r.locateAndThen curr path) := by
  unfold locateAndThen
  refine (startToken_clean hcurr path).elim (fun _ => id) fun _ hstart => ?_
  dsimp only
  refine (walkAll_clean hstart (components path)).elim (fun _ => id) fun _ hwhole => ?_
  dsimp only
  split
  · exact nofun
  split
  · exact nofun
  exact hwhole

end

lemma Handle.deriveHandle_clean {cap : Capability} {interfaceCaps : BitVec 32}
    (hcap : cap.isPrivileged = true → interfaceCaps = unrestricted) :
    Clean Handle.token (handle.deriveHandle cap interfaceCaps r) := by
  unfold deriveHandle
  split
  · exact nofun
  split
  · exact nofun
  split
  · exact nofun
  exact (Token.make_clean handle.objectId hcap).elim (fun _ => id) fun _ => id

lemma Handle.issuePermit_clean (cap : Capability) (oneshot : Bool) (interfaceCaps : BitVec 32) :
    Clean Permit.token (handle.issuePermit cap oneshot interfaceCaps r) := by
  unfold issuePermit
  split
  · exact nofun
  split
  · exact nofun
  split
  · exact nofun
  rename_i hcap
  have hmake : Clean (fun token => token) (Token.make handle.objectId cap interfaceCaps) :=
    Token.make_clean _ fun hprivileged => absurd hprivileged hcap
  exact hmake.elim (fun _ => id) fun _ => id

section

variable (hhandle : handle.token.Whole)
include hhandle

/-- A permit adds no privilege, and an unrestricted handle stays unrestricted. -/
lemma Handle.consume_clean (hpermit : permit.token.capabilities.isPrivileged = false) (kind : PermitKind) :
    Clean (fun token => token) (handle.consume permit kind r) := by
  fun_cases consume with
  | case4 =>
    refine Token.make_clean _ fun hprivileged => ?_
    rw [Capability.isPrivileged_or, hpermit, Bool.or_false] at hprivileged
    have hwide : handle.interfaceCaps = unrestricted := hhandle hprivileged
    rw [hwide]
    exact allOnes_or
  | _ => rintro ⟨⟩

lemma Handle.upgrade_clean (hpermit : permit.token.capabilities.isPrivileged = false) :
    Clean Handle.token (handle.upgrade permit r) ∧ Clean Handle.token (handle.upgradeOneshot permit r) := by
  have hconsume := consume_clean (r := r) hhandle hpermit
  unfold upgrade upgradeOneshot
  constructor
  · exact (hconsume .permanent).elim (fun _ => id) fun _ => id
  · exact (hconsume .oneShot).elim (fun _ => id) fun _ => id

lemma Handle.acquireRef_clean : Clean Handle.token (handle.acquireRef r) := by
  unfold acquireRef
  split
  · exact nofun
  · exact hhandle

end

/-- The owner's handle of a child. -/
lemma Handle.addChild_token {name : String} {maskedCaps : Capability} {owner : Handle}
    (h : (handle.withObject .write (fun self => addChild self name maskedCaps) r).1 = .ok owner) :
    owner.token = ⟨some r.allocate.1, .adminGrp, unrestricted⟩ := by
  rcases handle.withObject_cases .write
      (fun self => addChild self name maskedCaps) r with ⟨e, heq⟩ | ⟨-, heq⟩
  · rw [heq] at h
    cases h
  rw [heq] at h
  rcases addChild_cases handle.uid name maskedCaps r with ⟨e, hres⟩ | ⟨-, ⟨e, hres, -⟩ | hres⟩
  · rw [hres] at h
    cases h
  · rw [hres] at h
    cases h
  · rw [hres, attachChild_handle] at h
    cases h
    rfl

lemma Handle.locate_clean (hhandle : handle.token.Whole) (path : String) :
    Clean Handle.token (handle.locate path r) := by
  unfold locate
  split
  · exact nofun
  · refine locateAndThen_clean ?_ path
    rintro _ ⟨⟩
    exact hhandle

end Calls

/-! ## Runs -/

namespace World

/-- The call makes a token that `Token::new` does not accept. -/
def Panics (w : World) : Op → Prop
  | .deriveHandle slot cap interfaceCaps =>
    ∃ handle ∈ w.handle? slot, handle.deriveHandle cap interfaceCaps w.registry = .error .panic
  | .locate slot path => ∃ handle ∈ w.handle? slot, handle.locate path w.registry = .error .panic
  | .locateRoot path => w.registry.locateAndThen none path = .error .panic
  | .issuePermit slot cap oneshot interfaceCaps =>
    ∃ handle ∈ w.handle? slot, handle.issuePermit cap oneshot interfaceCaps w.registry = .error .panic
  | .upgrade slot permit => ∃ handle ∈ w.handle? slot, ∃ p ∈ w.permit? permit,
      handle.upgrade p w.registry = .error .panic
  | .upgradeOneshot slot permit => ∃ handle ∈ w.handle? slot, ∃ p ∈ w.permit? permit,
      handle.upgradeOneshot p w.registry = .error .panic
  | _ => False

/-- An AGENT handle is derived unrestricted, and what stays privileged when it is downgraded is not
restricted. -/
def Careful (w : World) : Op → Prop
  | .deriveHandle _ cap interfaceCaps => cap.isPrivileged = true → interfaceCaps = unrestricted
  | .downgrade slot caps interfaceCaps => ∀ handle ∈ w.handle? slot,
      (handle.capabilities.remove caps).isPrivileged = true →
        remove handle.interfaceCaps interfaceCaps = handle.interfaceCaps
  | _ => True

/-- Every token is whole. -/
def AllWhole (w : World) : Prop := ∀ handle, some handle ∈ w.handles → handle.token.Whole

variable {w : World}

lemma Coherent.permit (hw : w.Coherent) {slot : Nat} {p : Permit} (hslot : p ∈ w.permit? slot) :
    p.token.capabilities.isPrivileged = false := (hw.permits _ (mem_of_permit? hslot)).unprivileged

namespace AllWhole

lemma handle (h : w.AllWhole) {slot : Nat} {handle : Handle} (hslot : handle ∈ w.handle? slot) :
    handle.token.Whole := h _ (mem_of_handle? hslot)

lemma step (h : w.AllWhole) (hw : w.Coherent) (op : Op) (hcareful : w.Careful op) : (w.step op).AllWhole := by
  intro made hmem
  rcases mem_step_handles hmem with hold | hmade
  · exact h made hold
  cases op with
  | addChild slot name maskedCaps =>
    obtain ⟨handle, -, hres⟩ := hmade
    exact fun _ => congrArg Token.interfaceCaps (addChild_token hres)
  | acquireRef =>
    obtain ⟨handle, hslot, hres⟩ := hmade
    exact (acquireRef_clean (h.handle hslot)).whole made hres
  | tryClone =>
    obtain ⟨handle, hslot, hres⟩ := hmade
    exact (acquireRef_clean (h.handle hslot)).whole made (tryClone_eq_ok hres)
  | deriveHandle =>
    obtain ⟨handle, -, hres⟩ := hmade
    exact (deriveHandle_clean hcareful).whole made hres
  | downgrade slot caps interfaceCaps =>
    obtain ⟨handle, hslot, rfl⟩ := hmade
    intro hprivileged
    show remove handle.interfaceCaps interfaceCaps = unrestricted
    rw [hcareful handle hslot hprivileged]
    exact h.handle hslot (Capability.isPrivileged_of_remove hprivileged)
  | locate slot path =>
    obtain ⟨handle, hslot, hres⟩ := hmade
    exact (locate_clean (h.handle hslot) path).whole made hres
  | locateRoot path => exact (locateAndThen_clean (by rintro _ ⟨⟩) path).whole made hmade
  | newAnonymous =>
    cases hmade
    exact fun _ => rfl
  | upgrade =>
    obtain ⟨handle, hslot, p, hp, hres⟩ := hmade
    exact (upgrade_clean (h.handle hslot) (hw.permit hp)).1.whole made hres
  | upgradeOneshot =>
    obtain ⟨handle, hslot, p, hp, hres⟩ := hmade
    exact (upgrade_clean (h.handle hslot) (hw.permit hp)).2.whole made hres
  | _ => cases hmade

/-- With whole tokens no careful call panics. -/
lemma not_panics (h : w.AllWhole) (hw : w.Coherent) (op : Op) (hcareful : w.Careful op) : ¬ w.Panics op := by
  intro hpanics
  cases op with
  | deriveHandle slot cap interfaceCaps =>
    obtain ⟨_, _, heq⟩ := hpanics
    exact (deriveHandle_clean hcareful).ne_panic heq
  | locate slot path =>
    obtain ⟨_, hslot, heq⟩ := hpanics
    exact (locate_clean (h.handle hslot) path).ne_panic heq
  | locateRoot path => exact (locateAndThen_clean (by rintro _ ⟨⟩) path).ne_panic hpanics
  | issuePermit slot cap oneshot interfaceCaps =>
    obtain ⟨_, _, heq⟩ := hpanics
    exact (issuePermit_clean cap oneshot interfaceCaps).ne_panic heq
  | upgrade slot permit =>
    obtain ⟨_, hslot, _, hp, heq⟩ := hpanics
    exact (upgrade_clean (h.handle hslot) (hw.permit hp)).1.ne_panic heq
  | upgradeOneshot slot permit =>
    obtain ⟨_, hslot, _, hp, heq⟩ := hpanics
    exact (upgrade_clean (h.handle hslot) (hw.permit hp)).2.ne_panic heq
  | _ => exact hpanics

end AllWhole

instance (w : World) (op : Op) : Decidable (w.Careful op) := by
  cases op <;> unfold Careful <;> infer_instance

/-- No call of a run reaches the panic in `Token::new`, as long as AGENT handles are derived unrestricted and
what stays privileged is not restricted. -/
theorem not_panics_of_careful (ops : List Op) (hcareful : Meets step Careful boot ops) :
    Meets step (fun w op => ¬ w.Panics op) boot ops := by
  refine hcareful.upgrade (I := fun w => w.AllWhole ∧ w.Coherent) (fun w op hw hop => ?_) ⟨?_, boot_coherent⟩
  · exact ⟨hw.1.not_panics hw.2 op hop, hw.1.step hw.2 op hop, hw.2.step op⟩
  · intro handle hmem
    cases mem_singleton.1 hmem
    exact of_decide_eq_true rfl

/-- An agent is derived and locates a child, and a reader is made of the owner's handle. -/
def carefulOps : List Op :=
  [.newAnonymous 0, .deriveHandle 1 .agent unrestricted, .issuePermit 1 .read false 0,
    .downgrade 1 .adminGrp 1, .locate 0 "dev"]

theorem not_panics_carefulOps : Meets step (fun w op => ¬ w.Panics op) boot carefulOps :=
  not_panics_of_careful carefulOps (by decide)

/-- An owner derives an AGENT handle without interface capabilities. A downgrade that restricts an owner's
handle has the next `locate` through it panic. -/
theorem panics_on_restricted_agent :
    ¬ Meets step (fun w op => ¬ w.Panics op) boot [.newAnonymous 0, .deriveHandle 1 Capability.agent 0] ∧
      ¬ Meets step (fun w op => ¬ w.Panics op) boot
        [.addChild 0 "dev" 0, .downgrade 1 0 1, .locate 1 "self"] := by
  refine ⟨fun hmeets => hmeets.2.1 ⟨_, rfl, ?_⟩, fun hmeets => hmeets.2.2.1 ⟨_, rfl, ?_⟩⟩
  · decide
  · decide

end World

/-! ## Masks -/

/-- The mask takes a privilege that the capabilities have, and CLONE or SEND with it. -/
def Object.Restores (object : Object) (capabilities : Capability) : Prop :=
  object.maskedCaps.isPrivileged = true ∧ capabilities.isPrivileged = true ∧
    object.maskedCaps &&& (.clone ||| .send) ≠ 0

lemma Object.deriveToken_masked_iff {object : Object} {parentToken : Token}
    (h : object.deriveToken parentToken = .ok token) :
    token.capabilities &&& object.maskedCaps = 0 ↔ ¬ object.Restores parentToken.capabilities := by
  obtain ⟨-, rfl⟩ := deriveToken_eq_ok h
  have hkept : parentToken.capabilities &&& ~~~object.maskedCaps &&& object.maskedCaps = 0#32 := by
    rw [BitVec.and_assoc, BitVec.and_comm (~~~object.maskedCaps), BitVec.and_not_self]
    exact and_zero
  -- what is masked and there all the same is what was appended
  rw [BitVec.and_comm, BitVec.and_or_distrib_left, BitVec.and_comm, hkept, zero_or]
  unfold Restores
  split
  · rename_i hboth
    rw [and_eq_true] at hboth
    simp [hboth]
  · rename_i hboth
    rw [and_eq_true] at hboth
    exact iff_of_true and_zero fun hrestores => hboth ⟨hrestores.1, hrestores.2.1⟩

/-- The two differ in CLONE and SEND at most. -/
def Capability.SameRest (a b : Capability) : Prop := a.remove (.clone ||| .send) = b.remove (.clone ||| .send)

namespace Capability.SameRest

variable {a b : Capability}

lemma contains_eq (h : a.SameRest b) {i : Nat} (hi : i < 32)
    (hrest : BitFlags.contains (.clone ||| .send : Capability) (twoPow 32 i) = false) :
    a.contains (twoPow 32 i) = b.contains (twoPow 32 i) := by
  have hkept := congrArg (BitFlags.contains · (twoPow 32 i)) h
  simp only [Capability.remove, contains_remove_twoPow _ _ hi, hrest, Bool.not_false, Bool.and_true] at hkept
  exact hkept

lemma execute_eq (h : a.SameRest b) : a.contains .execute = b.contains .execute :=
  h.contains_eq (i := 4) (by decide) (by decide)

lemma isPrivileged_eq (h : a.SameRest b) : a.isPrivileged = b.isPrivileged := by
  rw [isPrivileged, isPrivileged]
  exact congrArg₂ _ (h.contains_eq (i := 5) (by decide) (by decide)) (h.contains_eq (i := 6) (by decide) (by decide))

lemma remove (h : a.SameRest b) (mask : Capability) : (a.remove mask).SameRest (b.remove mask) := by
  unfold SameRest Capability.remove BitFlags.remove at h ⊢
  rw [BitVec.and_assoc, BitVec.and_assoc, BitVec.and_comm (~~~mask), ← BitVec.and_assoc, ← BitVec.and_assoc, h]

/-- A token has what its parent has less the mask of the object. -/
lemma derived {object : Object} {parentToken : Token} (h : object.deriveToken parentToken = .ok token) :
    token.capabilities.SameRest (parentToken.capabilities.remove object.maskedCaps) := by
  obtain ⟨-, rfl⟩ := deriveToken_eq_ok h
  unfold SameRest Capability.remove BitFlags.remove
  rw [BitVec.and_comm, BitVec.and_or_distrib_left, BitVec.and_comm]
  split
  · rw [show ~~~(Capability.clone ||| Capability.send) &&& (Capability.clone ||| Capability.send) = 0#32 by decide]
    exact or_zero
  · exact or_zero.trans rfl

end Capability.SameRest

namespace Registry

variable (r)

/-- The objects that a path leads through from an index. -/
def along : Option Nat → List String → List Nat
  | _, [] => []
  | index, name :: names =>
    if name = "self" then along index names
    else
      match r.childNamed index name with
      | none => []
      | some child => child :: along (some (r.objects child).id) names

/-- The objects that derive a token on a path; without a handle the root is the first. -/
def passed (curr : Option Handle) (path : String) : List Nat :=
  match curr with
  | some handle => r.along handle.objectId (components path)
  | none =>
    match r.map[0]? with
    | none => []
    | some root => root :: r.along (some (r.objects root).id) (components path)

/-- What the masks of the objects leave of the capabilities. -/
def unmasked (caps : Capability) (uids : List Nat) : Capability :=
  uids.foldl (fun caps uid => caps.remove (r.objects uid).maskedCaps) caps

/-- What a path starts with. -/
def startCaps (curr : Option Handle) : Capability := curr.elim preRootToken.capabilities Handle.capabilities

variable {r}

lemma walkAll_passed {token' : Token} {names : List String} {caps : Capability}
    (hcaps : token.capabilities.SameRest caps) (h : r.walkAll token names = .ok token') :
    r.along token.id names = [] ∧ token' = token ∨ ∃ (before : List Nat) (last id : Nat) (parentToken : Token),
      r.along token.id names = before ++ [last] ∧ r.map[id]? = some last ∧
        (r.objects last).deriveToken parentToken = .ok token' ∧
        parentToken.capabilities.SameRest (r.unmasked caps before) := by
  induction names generalizing token caps with
  | nil =>
    cases h
    exact .inl ⟨rfl, rfl⟩
  | cons name names ih =>
    unfold walkAll at h
    split at h
    · cases h
    rename_i middle hwalk
    rcases walk_cases hwalk with ⟨rfl, rfl⟩ | ⟨hself, child, hchild, hmiddle⟩
    · exact ih hcaps h
    · have hid : middle.id = some (r.objects child).id := by rw [(deriveToken_eq_ok hmiddle).2]
      have halong : r.along token.id (name :: names) = child :: r.along middle.id names := by
        simp only [along, if_neg hself, hchild, hid]
      have hrest : middle.capabilities.SameRest (caps.remove (r.objects child).maskedCaps) :=
        (Capability.SameRest.derived hmiddle).trans (hcaps.remove _)
      right
      rcases ih hrest h with ⟨hnone, rfl⟩ | ⟨before, last, id, parentToken, hlast, hfiled, hderive, hparent⟩
      · obtain ⟨_, -, hfound⟩ := Option.bind_eq_some_iff.1 hchild
        obtain ⟨_, -, hfound⟩ := Option.bind_eq_some_iff.1 hfound
        obtain ⟨_, -, hfound⟩ := Option.bind_eq_some_iff.1 hfound
        exact ⟨[], child, _, token, by rw [halong, hnone, nil_append], hfound, hmiddle, hcaps⟩
      · exact ⟨child :: before, last, id, parentToken, by rw [halong, hlast]; rfl, hfiled, hderive, hparent⟩

lemma startToken_none (h : r.startToken none path = .ok token) :
    ∃ root, r.map[0]? = some root ∧ (r.objects root).deriveToken preRootToken = .ok token := by
  unfold startToken at h
  split at h
  · rename_i heq _
    cases heq
  · rename_i heq _
    cases heq
  · split at h
    · cases h
    · exact ⟨_, ‹_›, h⟩
  · cases h

/-- The handle at the end of a path has the token of the handle the path starts with, or one that the last object
has derived from what the objects before it have left. -/
lemma locateAndThen_passed {curr : Option Handle} {handle : Handle} (h : r.locateAndThen curr path = .ok handle) :
    r.passed curr path = [] ∧ (∃ start ∈ curr, handle.token = start.token) ∨
      ∃ (before : List Nat) (last id : Nat) (parentToken : Token), r.passed curr path = before ++ [last] ∧
        r.map[id]? = some last ∧ (r.objects last).deriveToken parentToken = .ok handle.token ∧
        parentToken.capabilities.SameRest (r.unmasked (startCaps curr) before) := by
  obtain ⟨start, token, finalId, final, hstart, hwalk, -, -, rfl⟩ := locateAndThen_eq_ok h
  cases curr with
  | some handle =>
    obtain rfl := Token.make_eq_ok (startToken_handle hstart)
    exact (walkAll_passed rfl hwalk).imp_left fun ⟨hnone, htoken⟩ => ⟨hnone, handle, rfl, htoken⟩
  | none =>
    obtain ⟨root, hroot, hderive⟩ := startToken_none hstart
    have hid : start.id = some (r.objects root).id := by rw [(deriveToken_eq_ok hderive).2]
    have hpassed : r.passed none path = root :: r.along start.id (components path) := by
      simp only [passed, hroot, hid]
    right
    rcases walkAll_passed (Capability.SameRest.derived hderive) hwalk with
      ⟨hnone, rfl⟩ | ⟨before, last, id, parentToken, hlast, hrest⟩
    · exact ⟨[], root, 0, _, by rw [hpassed, hnone, nil_append], hroot, hderive, rfl⟩
    · exact ⟨root :: before, last, id, parentToken, by rw [hpassed, hlast]; rfl, hrest⟩

/-- The mask of the last object on a path does not give back what it takes; where no object derives a token, the
handle that the path starts with has nothing that its object masks. -/
def MaskKept (r : Registry) (curr : Option Handle) (path : String) : Prop :=
  match (r.passed curr path).getLast? with
  | some last => ¬ (r.objects last).Restores (r.unmasked (startCaps curr) (r.passed curr path).dropLast)
  | none => ∀ handle ∈ curr, ∀ uid ∈ handle.objectId.bind (r.map[·]?),
      handle.capabilities &&& (r.objects uid).maskedCaps = 0

lemma locateAndThen_masked_iff (hmap : MapSound r) {curr : Option Handle} {handle : Handle}
    (h : r.locateAndThen curr path = .ok handle) :
    handle.capabilities &&& (r.objects handle.uid).maskedCaps = 0 ↔ r.MaskKept curr path := by
  obtain ⟨-, token, finalId, final, -, -, hid, hfinal, rfl⟩ := locateAndThen_eq_ok h
  unfold MaskKept
  rcases locateAndThen_passed h with
    ⟨hnone, start, hstart, htoken⟩ | ⟨before, last, id, parentToken, hpassed, hfiled, hderive, hparent⟩
  · obtain rfl := Option.mem_def.1 hstart
    obtain rfl : token = start.token := htoken
    have hfound : start.objectId.bind (r.map[·]?) = some final := by rw [objectId, hid]; exact hfinal
    rw [hnone]
    simp [hfound, Handle.uid, ObjectRef.uid, capabilities]
  · -- the last object is the one that the index of its token leads to
    have hsame : last = final := by
      have hown : token.id = some (r.objects last).id := congrArg Token.id (deriveToken_eq_ok hderive).2
      rw [(hmap id last hfiled).2.2] at hown
      obtain rfl := Option.mem_unique hown hid
      exact Option.mem_unique hfiled hfinal
    subst hsame
    rw [hpassed, getLast?_concat, dropLast_concat]
    refine (deriveToken_masked_iff hderive).trans (not_congr ?_)
    unfold Restores
    rw [hparent.isPrivileged_eq]

end Registry

/-- A token has nothing that the mask of its object takes away exactly if the mask does not take a privilege of
the parent together with CLONE or SEND; and so for the handle at the end of a path, with the capabilities that the
objects in front of the last one leave. -/
theorem masked_iff_not_restores (ops : List World.Op) :
    (∀ (object : Object) (parentToken token : Token), object.deriveToken parentToken = .ok token →
      (token.capabilities &&& object.maskedCaps = 0 ↔ ¬ object.Restores parentToken.capabilities)) ∧
    ∀ (curr : Option Handle) (path : String) (handle : Handle),
      (runOps World.step World.boot ops).registry.locateAndThen curr path = .ok handle →
      (handle.capabilities &&& ((runOps World.step World.boot ops).registry.objects handle.uid).maskedCaps = 0 ↔
        (runOps World.step World.boot ops).registry.MaskKept curr path) :=
  ⟨fun _ _ _ h => deriveToken_masked_iff h,
    fun _ _ _ h => locateAndThen_masked_iff (World.run_coherent ops).map h⟩

/-- An owner's handle on a directory with a child that masks its capabilities. -/
def maskedOps (mask : Capability) : List World.Op := [.addChild 0 "dev" 0, .addChild 1 "disk" mask]

def directoryOwner : Handle := ⟨⟨some 1, .adminGrp, unrestricted⟩, true, .shared 1⟩

theorem masked_iff_not_restores_maskedOps :
    (Capability.read ||| Capability.execute ||| Capability.clone ||| Capability.send) &&&
      (Capability.admin ||| Capability.agent ||| Capability.write) = 0 :=
  ((masked_iff_not_restores (maskedOps (Capability.admin ||| Capability.agent ||| Capability.write))).2
    (some directoryOwner) "disk"
    ⟨⟨some 2, Capability.read ||| Capability.execute ||| Capability.clone ||| Capability.send, 0⟩, true, .shared 2⟩
    (by decide)).2 fun hrestores => hrestores.2.2 (by decide)

/-- The mask takes ADMIN, AGENT and CLONE; the handle that the owner locates has CLONE. -/
theorem mask_undone : (runOps World.step World.boot
      (maskedOps (Capability.admin ||| Capability.agent ||| Capability.clone))).registry.locateAndThen
        (some directoryOwner) "disk" =
      .ok ⟨⟨some 2, Capability.read ||| Capability.write ||| Capability.execute ||| Capability.clone |||
        Capability.send, 0⟩, true, .shared 2⟩ ∧ ((runOps World.step World.boot
      (maskedOps (Capability.admin ||| Capability.agent ||| Capability.clone))).registry.objects 2).maskedCaps =
      Capability.admin ||| Capability.agent ||| Capability.clone := by
  decide

/-! ## Interface capabilities -/

/-- Interface capabilities come with EXECUTE only. -/
def Token.Fits (token : Token) : Prop :=
  token.interfaceCaps ≠ 0 → token.capabilities.contains .execute = true

/-- EXECUTE reaches the end of a path if a privilege does or the last object publishes an interface. -/
def Registry.Passes (r : Registry) (curr : Option Handle) (path : String) : Prop :=
  ∀ last ∈ (r.passed curr path).getLast?,
    (r.unmasked (startCaps curr) (r.passed curr path)).isPrivileged = true ∨
        (r.objects last).publicInterfaceCaps ≠ 0 →
      (r.unmasked (startCaps curr) (r.passed curr path)).contains .execute = true

instance (r : Registry) (curr : Option Handle) (path : String) : Decidable (r.Passes curr path) := by
  unfold Registry.Passes
  infer_instance

section Execute

/-- The token at the end of a path. -/
lemma Registry.locateAndThen_fits {curr : Option Handle} {made : Handle} (hcurr : ∀ start ∈ curr, start.token.Fits)
    (hpasses : r.Passes curr path) (h : r.locateAndThen curr path = .ok made) : made.token.Fits := by
  rcases locateAndThen_passed h with
    ⟨-, start, hstart, htoken⟩ | ⟨before, last, id, parentToken, hpassed, -, hderive, hparent⟩
  · exact htoken ▸ hcurr start hstart
  · have hrest := hparent.remove (r.objects last).maskedCaps
    have hall : r.unmasked (startCaps curr) (r.passed curr path) =
        (r.unmasked (startCaps curr) before).remove (r.objects last).maskedCaps := by
      rw [hpassed, unmasked, foldl_append]
      rfl
    have hlast := hpasses last (by rw [hpassed, getLast?_concat]; rfl)
    rw [hall, ← hrest.isPrivileged_eq, ← hrest.execute_eq] at hlast
    intro hinterface
    rw [(Capability.SameRest.derived hderive).execute_eq]
    rw [(deriveToken_eq_ok hderive).2] at hinterface
    refine hlast (or_iff_not_imp_left.2 fun hplain => ?_)
    exact fun hzero => hinterface ((if_neg hplain).trans hzero)

variable {handle : Handle}

/-- A permit that fits raises a handle that fits to one that does. -/
lemma Handle.raised_fits {permit : Permit} (hhandle : handle.token.Fits)
    (hpermit : permit.token.Fits) : (handle.raised permit).Fits := by
  intro hne
  have hor : (handle.raised permit).capabilities.contains .execute =
      (handle.token.capabilities.contains .execute || permit.token.capabilities.contains .execute) :=
    @contains_or_twoPow 32 4 _ _ (by decide)
  rw [hor, or_eq_true]
  by_cases hzero : handle.token.interfaceCaps = 0
  · refine .inr (hpermit fun hnone => hne ?_)
    show handle.token.interfaceCaps ||| permit.token.interfaceCaps = 0
    rw [hzero, hnone]
    decide
  · exact .inl (hhandle hzero)

/-- EXECUTE stays as long as interface capabilities do. -/
lemma Handle.downgrade_fits {caps : Capability} {interfaceCaps : BitVec 32}
    (hhandle : handle.token.Fits) (hcaps : caps.contains .execute = true →
      remove handle.interfaceCaps interfaceCaps = 0) : (handle.downgrade caps interfaceCaps).token.Fits := by
  intro hne
  have hremove : (handle.downgrade caps interfaceCaps).token.capabilities.contains .execute =
      (handle.token.capabilities.contains .execute && !caps.contains .execute) :=
    @contains_remove_twoPow 32 4 _ _ (by decide)
  rw [hremove, Bool.eq_false_iff.2 fun hexecute => hne (hcaps hexecute), Bool.not_false, Bool.and_true]
  refine hhandle fun hzero => hne ?_
  show handle.token.interfaceCaps &&& ~~~interfaceCaps = 0
  rw [hzero]
  exact zero_and

end Execute

namespace World

/-- Interface capabilities are asked for with EXECUTE, EXECUTE is taken with them, and paths leave it. -/
def Fitting (w : World) : Op → Prop
  | .deriveHandle _ cap interfaceCaps | .issuePermit _ cap _ interfaceCaps =>
    interfaceCaps ≠ 0 → cap.contains .execute = true
  | .downgrade slot caps interfaceCaps => ∀ handle ∈ w.handle? slot, caps.contains .execute = true →
      remove handle.interfaceCaps interfaceCaps = 0
  | .locate slot path => ∀ handle ∈ w.handle? slot, w.registry.Passes (some handle) path
  | .locateRoot path => w.registry.Passes none path
  | _ => True

/-- The interface capabilities of every handle and of every permit come with EXECUTE. -/
structure AllFit (w : World) : Prop extends w.Coherent where
  handles_fit : ∀ handle, some handle ∈ w.handles → handle.token.Fits
  permits_fit : ∀ permit, some permit ∈ w.permits → permit.token.Fits

variable {w : World}

lemma AllFit.step (h : w.AllFit) (op : Op) (hfit : w.Fitting op) : (w.step op).AllFit := by
  have hhandle : ∀ {slot handle}, handle ∈ w.handle? slot → handle.token.Fits :=
    fun hslot => h.handles_fit _ (mem_of_handle? hslot)
  have hpermit : ∀ {slot p}, p ∈ w.permit? slot → p.token.Fits :=
    fun hslot => h.permits_fit _ (mem_of_permit? hslot)
  have howner : Capability.adminGrp.contains .execute = true := by decide
  refine ⟨h.toCoherent.step op, fun made hmem => ?_, fun permit hmem => ?_⟩
  · rcases mem_step_handles hmem with hold | hmade
    · exact h.handles_fit made hold
    cases op with
    | addChild =>
      obtain ⟨handle, -, hres⟩ := hmade
      rw [addChild_token hres]
      exact fun _ => howner
    | acquireRef =>
      obtain ⟨handle, hslot, hres⟩ := hmade
      obtain rfl := acquireRef_eq_ok hres
      exact h.handles_fit handle (mem_of_handle? hslot)
    | tryClone =>
      obtain ⟨handle, hslot, hres⟩ := hmade
      obtain rfl := acquireRef_eq_ok (tryClone_eq_ok hres)
      exact h.handles_fit handle (mem_of_handle? hslot)
    | deriveHandle =>
      obtain ⟨handle, -, hres⟩ := hmade
      obtain rfl := deriveHandle_eq_ok hres
      exact hfit
    | downgrade slot caps interfaceCaps =>
      obtain ⟨handle, hslot, rfl⟩ := hmade
      exact downgrade_fits (hhandle hslot) (hfit handle hslot)
    | locate =>
      obtain ⟨handle, hslot, hres⟩ := hmade
      refine locateAndThen_fits ?_ (hfit handle hslot) (locate_eq_ok hres)
      rintro _ ⟨⟩
      exact hhandle hslot
    | locateRoot => exact locateAndThen_fits (by rintro _ ⟨⟩) hfit hmade
    | newAnonymous =>
      cases hmade
      exact fun _ => howner
    | upgrade =>
      obtain ⟨handle, hslot, p, hp, hres⟩ := hmade
      obtain rfl := upgrade_eq_ok hres
      exact raised_fits (hhandle hslot) (hpermit hp)
    | upgradeOneshot =>
      obtain ⟨handle, hslot, p, hp, hres⟩ := hmade
      obtain rfl := upgradeOneshot_eq_ok hres
      exact raised_fits (hhandle hslot) (hpermit hp)
    | _ => cases hmade
  · rcases mem_step_permits hmem with hold | hissued
    · exact h.permits_fit permit hold
    · cases op with
      | issuePermit =>
        obtain ⟨handle, -, hres⟩ := hissued
        obtain ⟨-, rfl⟩ := issuePermit_eq_ok hres
        exact hfit
      | _ => cases hissued

instance (w : World) (op : Op) : Decidable (w.Fitting op) := by
  cases op <;> unfold Fitting <;> infer_instance

/-- Interface capabilities come with EXECUTE in every state of a run whose calls ask for them with EXECUTE, take
EXECUTE only together with them, and follow paths that leave it. -/
theorem interface_caps_fit (ops : List Op) (hfit : Meets step Fitting boot ops) :
    ∀ handle, some handle ∈ (runOps step boot ops).handles → handle.token.Fits := by
  refine (run_invariant (I := AllFit) (fun w op h hop => h.step op hop) ⟨boot_coherent, ?_, nofun⟩ hfit).handles_fit
  intro handle hmem
  cases mem_singleton.1 hmem
  exact fun hne => absurd rfl hne

/-- A disk publishes an interface and is located; its owner derives a user, and takes EXECUTE away again. -/
def fittingOps : List Op :=
  [.addChild 0 "dev" 0, .addChild 1 "disk" 0, .setPublicInterfaceCaps 2 3, .locate 1 "disk",
    .deriveHandle 2 (.read ||| .execute) 1, .downgrade 4 .execute 1]

theorem interface_caps_fit_fittingOps : Meets step Fitting boot fittingOps ∧
    ∀ handle, some handle ∈ (runOps step boot fittingOps).handles → handle.token.Fits :=
  ⟨by decide, interface_caps_fit fittingOps (by decide)⟩

/-- An owner, who has EXECUTE, derives a reader with an interface capability; and what a device publishes comes
to a handle without EXECUTE that locates it. -/
theorem interface_caps_without_execute :
    (∃ handle, some handle ∈ (runOps step boot [.newAnonymous 0, .deriveHandle 1 Capability.read 1]).handles ∧
      ¬ handle.token.Fits) ∧ ∃ handle, some handle ∈ (runOps step boot
        [.addChild 0 "dev" 0, .setPublicInterfaceCaps 1 3, .locate 0 "dev"]).handles ∧ ¬ handle.token.Fits :=
  ⟨⟨⟨⟨none, .read, 1⟩, false, .shared 1⟩, by decide, fun h => absurd (h (by decide)) (by decide)⟩,
    ⟨⟨some 1, 0xffffff8f#32, 3⟩, true, .shared 1⟩,
    by decide, fun h => absurd (h (by decide)) (by decide)⟩

end World

end Akarin.Objects
