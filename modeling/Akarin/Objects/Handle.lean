/-
# Akarin.Objects.Handle -- obtaining handles, and permits

The operations that turn a handle into another one (`derive_handle`, `try_clone`, `acquire_ref`,
`downgrade`, `locate`) and the permits that raise a handle's capabilities for good (`upgrade`) or
for one call (`upgrade_oneshot`). They read the registry and do not change it.

A permit remembers, for the history only, which object's handle issued it.
-/
import Akarin.Objects.Registry

namespace Akarin.Objects

open Lib

/-! ## Paths -/

/-- Split a list of characters at every slash. -/
def splitSlash : List Char → List (List Char)
  | [] => [[]]
  | c :: cs =>
    if c = '/' then [] :: splitSlash cs
    else
      match splitSlash cs with
      | [] => [[c]]
      | part :: parts => (c :: part) :: parts

/-- `ObjectPath::components`: the non-empty pieces. -/
def components (path : String) : List String :=
  ((splitSlash path.toList).filter (· ≠ [])).map String.ofList

/-- `ObjectPath::is_absolute`. -/
def isAbsolute (path : String) : Bool := path.toList.head? = some '/'

example : components "/dev//vmo/" = ["dev", "vmo"] := by decide

/-! ## Path traversal -/

namespace Registry

/-- `PRE_ROOT_TOKEN`. -/
def preRootToken : Token := ⟨none, .send ||| .read, 0⟩

/-- The token the traversal starts with. -/
def startToken (r : Registry) (curr : Option Handle) (path : String) : Except (Fault ObjectError) Token :=
  match curr, isAbsolute path with
  | some handle, false => Token.make handle.objectId handle.capabilities handle.interfaceCaps
  | some handle, true =>
    if handle.objectId = some 0 then
      Token.make handle.objectId handle.capabilities handle.interfaceCaps
    else .error (.error .invalidArgument)
  | none, true =>
    match r.map[0]? with
    | none => .error (.error .objectNotFound)
    | some root => (r.objects root).deriveToken preRootToken
  | none, false => .error (.error .invalidArgument)

/-- One component of the traversal: everything is looked up by index. -/
def walk (r : Registry) (token : Token) (name : String) : Except (Fault ObjectError) Token :=
  if name = "self" then .ok token
  else
    match token.id with
    | none => .error (.error .invalidArgument)
    | some currentId =>
      match r.map[currentId]? with
      | none => .error (.error .objectNotFound)
      | some current =>
        match (r.objects current).children[name]? with
        | none => .error (.error .objectNotFound)
        | some childId =>
          match r.map[childId]? with
          | none => .error (.error .objectNotFound)
          | some child => (r.objects child).deriveToken token

/-- The whole path. -/
def walkAll (r : Registry) : Token → List String → Except (Fault ObjectError) Token
  | token, [] => .ok token
  | token, name :: names =>
    match r.walk token name with
    | .error e => .error e
    | .ok token => r.walkAll token names

/-- `locate_and_then`, up to the closure: the handle it is given. -/
def locateAndThen (r : Registry) (curr : Option Handle) (path : String) :
    Except (Fault ObjectError) Handle :=
  match r.startToken curr path with
  | .error e => .error e
  | .ok token =>
    match r.walkAll token (components path) with
    | .error e => .error e
    | .ok token =>
      match token.id with
      | none => .error (.error .invalidArgument)
      | some finalId =>
        match r.map[finalId]? with
        | none => .error (.error .objectNotFound)
        | some final => .ok ⟨token, (r.objects final).registered, .shared final⟩

variable {r : Registry} {token token' : Token}

/-- The child that a component names, as `walk` looks it up. -/
def childNamed (r : Registry) (id : Option Nat) (name : String) : Option Nat := do
  let current ← r.map[← id]?
  r.map[← (r.objects current).children[name]?]?

lemma walk_cases {name : String} (h : r.walk token name = .ok token') :
    (name = "self" ∧ token' = token) ∨ name ≠ "self" ∧ ∃ child, r.childNamed token.id name = some child ∧
        (r.objects child).deriveToken token = .ok token' := by
  revert h
  fun_cases walk r token name with
  | case1 hself =>
    rintro ⟨⟩
    exact .inl ⟨hself, rfl⟩
  | case6 hself _ hid _ hcurrent _ hchild _ hfound =>
    exact fun h => .inr ⟨hself, _, by simp [childNamed, hid, hcurrent, hchild, hfound], h⟩
  | _ => exact nofun

/-- Whatever every object passes on to the tokens it derives holds at the end of a path. -/
lemma walkAll_rule {I : Token → Prop} (hderive : ∀ (child : Nat) (parentToken token : Token),
      (r.objects child).deriveToken parentToken = .ok token → I parentToken → I token)
    {names : List String} (htoken : I token) (h : r.walkAll token names = .ok token') : I token' := by
  revert h
  fun_induction walkAll r token names with
  | case1 =>
    rintro ⟨⟩
    exact htoken
  | case2 => exact nofun
  | case3 token name names middle hwalk ih =>
    refine ih ?_
    rcases walk_cases hwalk with ⟨-, rfl⟩ | ⟨-, child, -, hmiddle⟩
    · exact htoken
    · exact hderive child token middle hmiddle htoken

lemma locateAndThen_eq_ok {curr : Option Handle} {path : String} {handle : Handle}
    (h : r.locateAndThen curr path = .ok handle) :
    ∃ (start token : Token) (finalId final : Nat), r.startToken curr path = .ok start ∧
      r.walkAll start (components path) = .ok token ∧ token.id = some finalId ∧
      r.map[finalId]? = some final ∧ handle = ⟨token, (r.objects final).registered, .shared final⟩ := by
  revert h
  fun_cases locateAndThen r curr path with
  | case5 =>
    rintro ⟨⟩
    exact ⟨_, _, _, _, ‹_›, ‹_›, ‹_›, ‹_›, rfl⟩
  | _ => exact nofun

end Registry

/-! ## Handles from handles -/

namespace Handle

/-- `new_anonymous`: an object outside the registry, owned by its handle. -/
def newAnonymous (maskedCaps : Capability) (r : Registry) : Handle × Registry :=
  (⟨⟨none, .adminGrp, unrestricted⟩, false, .owned r.nextUid⟩,
    r.build ⟨false, 0, none, "#anonymous", .active, maskedCaps, LifecycleFlags.none, 0, {}, none, []⟩)

section

variable (handle : Handle)

/-- `acquire_ref`. -/
def acquireRef (r : Registry) : Except (Fault ObjectError) Handle :=
  if !handle.isValid r then .error (.error .objectDestroyed)
  else .ok { handle with object := handle.object.intoShared }

/-- `try_clone`. -/
def tryClone (r : Registry) : Except (Fault ObjectError) Handle :=
  if !handle.capabilities.contains .clone then
    .error (.error .insufficientCapabilities)
  else handle.acquireRef r

/-- What a handle may pass on: generic capabilities and interface capabilities. -/
def derivable : Option (Capability × BitVec 32) :=
  if handle.capabilities.contains .admin then
    some (.clone ||| .send ||| .read ||| .write |||
      .execute ||| .agent, unrestricted)
  else if handle.capabilities.contains .agent then
    some (.clone ||| .send ||| .read ||| .write |||
      .execute, unrestricted)
  else if handle.capabilities.contains .clone then
    some (handle.capabilities, handle.interfaceCaps)
  else none

/-- `derive_handle`. -/
def deriveHandle (cap : Capability) (interfaceCaps : BitVec 32) (r : Registry) :
    Except (Fault ObjectError) Handle :=
  if !handle.isValid r then .error (.error .objectDestroyed)
  else
    match handle.derivable with
    | none => .error (.error .insufficientCapabilities)
    | some (derivable, effectiveInterfaceCaps) =>
      if !derivable.contains cap ||
          (interfaceCaps != 0 && !handle.capabilities.contains Capability.execute) ||
          effectiveInterfaceCaps &&& interfaceCaps != interfaceCaps then
        .error (.error .insufficientCapabilities)
      else
        match Token.make handle.objectId cap interfaceCaps with
        | .error e => .error e
        | .ok token => .ok ⟨token, handle.registered, handle.object.intoShared⟩

end

/-- `Handle::downgrade`. -/
def downgrade (handle : Handle) (caps : Capability) (interfaceCaps : BitVec 32) : Handle :=
  { handle with token := handle.token.downgrade caps interfaceCaps }

/-- `Handle::locate`. -/
def locate (handle : Handle) (path : String) (r : Registry) : Except (Fault ObjectError) Handle :=
  if !handle.registered then .error (.error .invalidArgument)
  else r.locateAndThen (some handle) path

end Handle

/-! ## Permits -/

/-- How often a permit is good. -/
inductive PermitKind where
  | oneShot
  | permanent
  deriving DecidableEq

/-- Rights handed to another handle. -/
structure Permit where
  token : Token
  kind : PermitKind
  issuer : Nat
  deriving DecidableEq

namespace Handle

section

variable (handle : Handle)

/-- `issue_permit`. -/
def issuePermit (cap : Capability) (oneshot : Bool) (interfaceCaps : BitVec 32)
    (r : Registry) : Except (Fault ObjectError) Permit :=
  if !handle.isValid r then .error (.error .objectDestroyed)
  else if !handle.capabilities.isPrivileged then .error (.error .insufficientCapabilities)
  else if cap.isPrivileged then .error (.error .invalidArgument)
  else
    match Token.make handle.objectId cap interfaceCaps with
    | .error e => .error e
    | .ok token => .ok ⟨token, if oneshot then .oneShot else .permanent, handle.uid⟩

/-- The token both ways of consuming a permit compute. -/
def raisedToken (permit : Permit) : Except (Fault ObjectError) Token :=
  Token.make handle.objectId (handle.capabilities ||| permit.token.capabilities)
    (handle.interfaceCaps ||| permit.token.interfaceCaps)

/-- The checks and the token of `upgrade` and `upgrade_oneshot`, which differ in the kind of permit
they take. -/
def consume (permit : Permit) (kind : PermitKind) (r : Registry) : Except (Fault ObjectError) Token :=
  if permit.kind ≠ kind then .error (.error .invalidArgument)
  else if !handle.isValid r then .error (.error .objectDestroyed)
  else if permit.token.id ≠ handle.objectId then .error (.error .invalidArgument)
  else handle.raisedToken permit

/-- `Handle::upgrade`: the handle afterwards. -/
def upgrade (permit : Permit) (r : Registry) : Except (Fault ObjectError) Handle :=
  match handle.consume permit .permanent r with
  | .error e => .error e
  | .ok token => .ok { handle with token := token }

/-- `Permit::upgrade_oneshot`: the temporary handle its closure is given. -/
def upgradeOneshot (permit : Permit) (r : Registry) : Except (Fault ObjectError) Handle :=
  match handle.consume permit .oneShot r with
  | .error e => .error e
  | .ok token => .ok ⟨token, handle.registered, handle.object.intoShared⟩

end

/-! ## What the calls return -/

section Results

variable {r : Registry} {handle handle' : Handle} {cap : Capability} {interfaceCaps : BitVec 32}
  {permit : Permit}

lemma acquireRef_eq_ok (h : handle.acquireRef r = .ok handle') :
    handle' = { handle with object := handle.object.intoShared } := by
  unfold acquireRef at h
  split at h
  · cases h
  · cases h
    rfl

lemma tryClone_eq_ok (h : handle.tryClone r = .ok handle') : handle.acquireRef r = .ok handle' := by
  unfold tryClone at h
  split at h
  · cases h
  · exact h

lemma deriveHandle_eq_ok (h : handle.deriveHandle cap interfaceCaps r = .ok handle') :
    handle' = ⟨⟨handle.objectId, cap, interfaceCaps⟩, handle.registered, handle.object.intoShared⟩ := by
  revert h
  fun_cases deriveHandle handle cap interfaceCaps r with
  | case5 _ _ _ _ _ token htoken =>
    obtain rfl := Token.make_eq_ok htoken
    exact fun h => (Except.ok.inj h).symm
  | _ => exact nofun

lemma locate_eq_ok {path : String} (h : handle.locate path r = .ok handle') :
    r.locateAndThen (some handle) path = .ok handle' := by
  unfold locate at h
  split at h
  · cases h
  · exact h

lemma issuePermit_eq_ok {oneshot : Bool} (h : handle.issuePermit cap oneshot interfaceCaps r = .ok permit) :
    cap.isPrivileged = false ∧
      permit = ⟨⟨handle.objectId, cap, interfaceCaps⟩, if oneshot then .oneShot else .permanent, handle.uid⟩ := by
  revert h
  fun_cases issuePermit handle cap oneshot interfaceCaps r with
  | case5 _ _ hcap token htoken =>
    obtain rfl := Token.make_eq_ok htoken
    exact fun h => ⟨Bool.eq_false_iff.2 hcap, (Except.ok.inj h).symm⟩
  | _ => exact nofun

/-- The token that a permit raises the handle's to. -/
def raised (handle : Handle) (permit : Permit) : Token :=
  ⟨handle.objectId, handle.capabilities ||| permit.token.capabilities,
    handle.interfaceCaps ||| permit.token.interfaceCaps⟩

/-- Consuming a permit: what was checked, and the token that comes out. -/
lemma consume_eq_ok {kind : PermitKind} {token : Token} (h : handle.consume permit kind r = .ok token) :
    permit.kind = kind ∧ handle.isValid r = true ∧ permit.token.id = handle.objectId ∧
      handle.raisedToken permit = .ok token := by
  revert h
  fun_cases consume handle permit kind r with
  | case4 hkind hvalid hid =>
    exact fun h => ⟨not_not.1 hkind, by simpa using hvalid, not_not.1 hid, h⟩
  | _ => exact nofun

lemma upgrade_eq_ok (h : handle.upgrade permit r = .ok handle') :
    handle' = { handle with token := handle.raised permit } := by
  unfold upgrade at h
  split at h
  · cases h
  · rename_i token htoken
    obtain rfl := Token.make_eq_ok (consume_eq_ok htoken).2.2.2
    exact (Except.ok.inj h).symm

lemma upgradeOneshot_eq_ok (h : handle.upgradeOneshot permit r = .ok handle') :
    handle' = ⟨handle.raised permit, handle.registered, handle.object.intoShared⟩ := by
  unfold upgradeOneshot at h
  split at h
  · cases h
  · rename_i token htoken
    obtain rfl := Token.make_eq_ok (consume_eq_ok htoken).2.2.2
    exact (Except.ok.inj h).symm

end Results

end Handle

end Akarin.Objects
