/-
# Akarin.Arch.CachePolicy -- changing the cache policy of an entry

`set_cache_policy` decodes the flag bits of an entry and encodes them again. READ and the policies other
than `Cached` and `Uncached` do not survive the decoding, which does no harm; but `MMUFlags` that are empty
encode to an entry that is not present, and what is not present decodes to an executable page.
-/
import Akarin.Arch.PageTable
import Akarin.Lib.Runs

namespace Akarin.Arch

open Lib
open Memory (MMUFlags CachePolicy)

namespace PageTableFlags

/-- The bits a policy is encoded in. -/
def ofPolicy : CachePolicy → PageTableFlags
  | .cached => 0
  | .uncached | .uncachedDevice | .writeCombining => noCache ||| writeThrough

/-- What an entry keeps when its cache policy changes. -/
def kept : List PageTableFlags := [present, writable, userAccessible, noExecute, global, hugePage]

lemma encode_kept (write execute user huge glob cached cached' : Bool) :
    ∀ bit ∈ kept, (encode write execute user huge glob cached).contains bit =
      (encode write execute user huge glob cached').contains bit := by
  intro bit hbit
  simp only [kept, List.mem_cons, List.not_mem_nil, or_false] at hbit
  rcases hbit with rfl | rfl | rfl | rfl | rfl | rfl <;>
    revert write execute user huge glob cached cached' <;> decide

lemma ofMmu_setCachePolicy (write execute user huge glob cached : Bool) (policy : CachePolicy) :
    (encode write execute user huge glob cached).toMmu.setCachePolicy policy ≠ 0 →
    ofMmu ((encode write execute user huge glob cached).toMmu.setCachePolicy policy) =
      encode write execute user huge glob (policy == .cached) := by
  revert write execute user huge glob cached
  cases policy <;> decide +kernel

lemma encode_cachePolicy (write execute user huge glob : Bool) (policy : CachePolicy) :
    ofPolicy (encode write execute user huge glob (policy == .cached)).toMmu.cachePolicy = ofPolicy policy := by
  revert write execute user huge glob
  cases policy <;> decide

end PageTableFlags

open PageTableFlags (ofPolicy kept)

/-- Writes to an entry in place. -/
inductive EntryOp where
  | setFlags (flags : MMUFlags)
  | setCachePolicy (policy : CachePolicy)

namespace PageTableEntry

def cachePolicy (entry : PageTableEntry) : CachePolicy := entry.flags.cachePolicy

def step (entry : PageTableEntry) : EntryOp → PageTableEntry
  | .setFlags flags => entry.setFlags flags
  | .setCachePolicy policy => entry.setCachePolicy policy

/-- The policy is changed, up to its encoding, and nothing else is. -/
structure ChangesPolicy (entry : PageTableEntry) (policy : CachePolicy) : Prop where
  physAddr : (entry.setCachePolicy policy).physAddr = entry.physAddr
  bits : ∀ bit ∈ kept, (entry.setCachePolicy policy).rawFlags.contains bit = entry.rawFlags.contains bit
  readBack : ofPolicy (entry.setCachePolicy policy).cachePolicy = ofPolicy policy

def PolicyLaw (entry : PageTableEntry) : EntryOp → Prop
  | .setFlags _ => True
  | .setCachePolicy policy => entry.ChangesPolicy policy

/-- The entry whose policy is changed is present, and its flags with the policy are not empty. -/
def Encodes (entry : PageTableEntry) : EntryOp → Prop
  | .setFlags _ => True
  | .setCachePolicy policy => entry.isPresent = true ∧ entry.flags.setCachePolicy policy ≠ 0

instance (entry : PageTableEntry) (op : EntryOp) : Decidable (entry.Encodes op) := by
  cases op <;> unfold Encodes <;> infer_instance

lemma physAddr_setFlags (phys : Nat) (flags flags' : MMUFlags) :
    ((ofPhysAddr phys flags).setFlags flags').physAddr = (ofPhysAddr phys flags).physAddr := by
  rw [setFlags, physAddr_eq, physAddr_eq, BitVec.ofNat_toNat, BitVec.setWidth_eq, BitVec.and_assoc, BitVec.and_self]

lemma changesPolicy (phys : Nat) (flags : MMUFlags) {policy : CachePolicy}
    (h : (ofPhysAddr phys flags).Encodes (.setCachePolicy policy)) :
    (ofPhysAddr phys flags).ChangesPolicy policy := by
  obtain ⟨hpresent, hne⟩ := h
  rw [isPresent_ofPhysAddr] at hpresent
  have hraw := (rawFlags_ofPhysAddr phys flags).trans (if_neg hpresent)
  have hflags : ((ofPhysAddr phys flags).setCachePolicy policy).rawFlags =
      .ofMmu ((ofPhysAddr phys flags).flags.setCachePolicy policy) := rawFlags_ofPhysAddr _ _
  rw [PageTableEntry.flags, hraw] at hne hflags
  rw [PageTableFlags.ofMmu_setCachePolicy _ _ _ _ _ _ policy hne] at hflags
  refine ⟨physAddr_setFlags phys flags _, fun bit hbit => ?_, ?_⟩
  · rw [hflags, hraw]
    exact PageTableFlags.encode_kept _ _ _ _ _ _ _ bit hbit
  · rw [cachePolicy, PageTableEntry.flags, hflags]
    exact PageTableFlags.encode_cachePolicy _ _ _ _ _ policy

/-- A change of the policy changes nothing else, in every sequence of calls in which it is made on entries
that are present and stay so. -/
theorem policyLaw_of_encodes (phys : Nat) (flags : MMUFlags) (ops : List EntryOp)
    (hops : Meets step Encodes (ofPhysAddr phys flags) ops) :
    Meets step PolicyLaw (ofPhysAddr phys flags) ops := by
  refine hops.upgrade (I := fun entry => ∃ phys flags, entry = ofPhysAddr phys flags) ?_ ⟨_, _, rfl⟩
  rintro _ op ⟨phys, flags, rfl⟩ hop
  cases op with
  | setFlags flags' => exact ⟨trivial, _, _, rfl⟩
  | setCachePolicy policy => exact ⟨changesPolicy phys flags hop, _, _, rfl⟩

theorem policyLaw_userPage : Meets step PolicyLaw (ofPhysAddr 0x5000 (MMUFlags.read ||| MMUFlags.user))
      [.setCachePolicy .writeCombining, .setFlags MMUFlags.write, .setCachePolicy .cached] :=
  policyLaw_of_encodes 0x5000 _ _ (by decide)

/-- A page that only the kernel can read, and no one can execute, is gone when its policy is set to the one
it has; and an entry that is not present appears as an executable page. -/
theorem policyLaw_fails : ¬ (ofPhysAddr 0x5000 MMUFlags.read).ChangesPolicy .cached ∧
      ¬ (ofPhysAddr 0x5000 0).ChangesPolicy .uncached := by
  constructor <;>
  · intro h
    have hbit := h.bits .present (by decide)
    exact absurd hbit (by decide)

end PageTableEntry

end Akarin.Arch
