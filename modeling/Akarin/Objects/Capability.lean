/-
# Akarin.Objects.Capability -- capabilities and tokens

`Capability` is the `bitflags!` word of the object system and `Token` what a handle carries: the
index of its object, generic capabilities and interface capabilities. `Token::new` asserts that a
privileged token is unrestricted; a failed assertion is the answer `none` here.
-/
import Akarin.Lib.Action
import Akarin.Lib.BitFlags

namespace Akarin.Objects

open Lib Bool

/-- `Capability: u32`. -/
abbrev Capability := BitVec 32

namespace Capability

def clone : Capability := 0x01#32
def send : Capability := 0x02#32
def read : Capability := 0x04#32
def write : Capability := 0x08#32
def execute : Capability := 0x10#32
def admin : Capability := 0x20#32
def agent : Capability := 0x40#32

/-- The owner's group. -/
def adminGrp : Capability := admin ||| read ||| write ||| execute ||| agent

/-- Every bit, named or not. -/
def trusted : Capability := BitVec.allOnes 32

def contains (caps other : Capability) : Bool := BitFlags.contains caps other

def remove (caps other : Capability) : Capability := BitFlags.remove caps other

/-- `contains(ADMIN) || contains(AGENT)`. -/
def isPrivileged (caps : Capability) : Bool := caps.contains admin || caps.contains agent

/-- Nothing privileged can be found inside an unprivileged set. -/
lemma isPrivileged_of_within {a b : Capability} (h : BitFlags.Within a b)
    (hb : b.isPrivileged = false) : a.isPrivileged = false := by
  rw [isPrivileged, or_eq_false_iff] at hb ⊢
  constructor
  · refine eq_false_iff.2 fun ha => ?_
    exact eq_false_iff.1 hb.1 (BitFlags.contains_of_within h ha)
  · refine eq_false_iff.2 fun ha => ?_
    exact eq_false_iff.1 hb.2 (BitFlags.contains_of_within h ha)

lemma contains_or_admin (a b : Capability) :
    (a ||| b).contains admin = (a.contains admin || b.contains admin) :=
  @BitFlags.contains_or_twoPow 32 5 a b (by decide)

end Capability

/-- `u32::MAX` as interface capabilities: no restriction. -/
def unrestricted : BitVec 32 := BitVec.allOnes 32

/-- Errors of the object calls. -/
inductive ObjectError where
  | objectDestroyed
  | insufficientCapabilities
  | invalidArgument
  | objectNotFound
  | dangerousName
  | duplicateChildName
  deriving DecidableEq

/-- The authority a handle carries. -/
structure Token where
  id : Option Nat
  capabilities : Capability
  interfaceCaps : BitVec 32
  deriving DecidableEq

namespace Token

/-- `Token::new`; `none` is its panic. -/
def new (id : Option Nat) (capabilities : Capability) (interfaceCaps : BitVec 32) : Option Token :=
  if interfaceCaps ≠ unrestricted ∧ capabilities.isPrivileged = true then none
  else some ⟨id, capabilities, interfaceCaps⟩

/-- `Token::new` inside a fallible function. -/
def make (id : Option Nat) (capabilities : Capability) (interfaceCaps : BitVec 32) :
    Except (Fault ObjectError) Token :=
  match new id capabilities interfaceCaps with
  | none => .error .panic
  | some token => .ok token

def contains (token : Token) (cap : Capability) : Bool := token.capabilities.contains cap

def downgrade (token : Token) (caps : Capability) (interfaceCaps : BitVec 32) : Token :=
  { token with
    capabilities := token.capabilities.remove caps
    interfaceCaps := BitFlags.remove token.interfaceCaps interfaceCaps }

variable {id : Option Nat} {capabilities : Capability} {interfaceCaps : BitVec 32}

lemma make_eq_ok {token : Token} (h : make id capabilities interfaceCaps = .ok token) :
    token = ⟨id, capabilities, interfaceCaps⟩ := by
  unfold make new at h
  split at h
  · cases h
  · rename_i heq
    split at heq
    · cases heq
    · cases heq
      cases h
      rfl

lemma exists_make_iff : (∃ token, make id capabilities interfaceCaps = .ok token) ↔
      ¬ (interfaceCaps ≠ unrestricted ∧ capabilities.isPrivileged = true) := by
  unfold make new
  by_cases h : interfaceCaps ≠ unrestricted ∧ capabilities.isPrivileged = true
  · simp [h]
  · simp [h]

end Token

end Akarin.Objects
