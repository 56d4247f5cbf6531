/-
# Akarin.Arch.PageMap -- a page table as a finite map

A page table should be a finite map from pages to frames: `map` refuses a page exactly when part of it
is mapped and otherwise adds it, `unmap` takes away one page, and a call that fails changes no
translation.

The table is not such a map for every use. A table that has become empty still blocks the huge page in
its place (`empty_table_blocks_huge_page`), flags that encode to nothing leave words that are neither
used nor free, and `unmap` takes the leaf it finds, of whatever size. `Sensible` excludes these uses.
-/
import Akarin.Arch.PageTree
import Akarin.Lib.Runs

namespace Akarin.Arch

open Lib Action PageTableEntry PageSize Except Tables
open Memory (MMUFlags CachePolicy checkedAdd usizeBound)

/-! ## Operations -/

/-- What a page table is asked to do. -/
inductive PageTableOp where
  | map (page : Page) (frame : Nat) (flags : MMUFlags) (cache : CachePolicy)
  | unmap (page : Page)
  | setFlags (page : Page) (flags : MMUFlags)
  | setPhysAddr (page : Page) (phys : Nat) (flags : MMUFlags)
  | setCachePolicy (page : Page) (policy : CachePolicy)
  | clear (page : Page)

namespace PageTableOp

def page : PageTableOp → Page
  | .map page _ _ _ => page
  | .unmap page => page
  | .setFlags page _ => page
  | .setPhysAddr page _ _ => page
  | .setCachePolicy page _ => page
  | .clear page => page

/-- The operation, without what it returns. -/
def perform : PageTableOp → Action PageTable PagingError PUnit
  | .map page frame flags cache => do
      let _ ← PageTable.map page frame flags cache
      return ⟨⟩
  | .unmap page => do
      let _ ← PageTable.unmap page
      return ⟨⟩
  | .setFlags page flags => PageTable.edit page (·.setFlags flags)
  | .setPhysAddr page phys flags => PageTable.edit page fun _ => .ofPhysAddr phys flags
  | .setCachePolicy page policy => PageTable.edit page (·.setCachePolicy policy)
  | .clear page => PageTable.edit page fun _ => .cleared

end PageTableOp

namespace PageTable

def step (table : PageTable) (op : PageTableOp) : PageTable := op.perform.exec table

/-! ## The contract -/

/-- What callers rely on in `map`. -/
structure MapContract (before after : PageTable) (page : Page) (frame : Nat)
    (outcome : Except (Fault PagingError) TlbInvalidator) : Prop where
  /-- Part of the page is mapped exactly when the call says so. -/
  refused : outcome = .error (.error .alreadyMapped) ∨ outcome = .error (.error .parentIsHugePage) ↔
    before.Overlaps page
  otherwise : ¬ before.Overlaps page → (∃ flush, outcome = .ok flush) ∨ outcome = .error (.error .noMemory)
  mapped : ∀ flush, outcome = .ok flush →
    (∃ flags cache size, (query page).outcome after = .ok (frame, flags, cache, size)) ∧
      SameOn (¬ page.Contains ·) before after
  failed : ∀ fault, outcome = .error fault → SameOn (fun _ => True) before after

/-- What callers rely on in `unmap`. -/
structure UnmapContract (before after : PageTable) (page : Page)
    (outcome : Except (Fault PagingError) ((Nat × Nat) × TlbInvalidator)) : Prop where
  unmapped : ∀ frame, outcome = .ok frame →
    (∀ virt, page.Contains virt → before.Mapped virt ∧ ¬ after.Mapped virt) ∧
      SameOn (¬ page.Contains ·) before after
  failed : ∀ fault, outcome = .error fault → SameOn (fun _ => True) before after

/-- What a finite map from pages to frames does with the operation. -/
def ActsAsMap (table : PageTable) : PageTableOp → Prop
  | .map page frame flags cache =>
    MapContract table (table.step (.map page frame flags cache)) page frame
      ((map page frame flags cache).outcome table)
  | .unmap page => UnmapContract table (table.step (.unmap page)) page ((unmap page).outcome table)
  | op => ∀ fault, op.perform.outcome table = .error fault → SameOn (fun _ => True) table (table.step op)

/-! ## Uses for which the contract holds -/

/-- A leaf of this size, present and recognisable as a leaf. -/
def LeafFlags (size : PageSize) (flags : MMUFlags) : Prop :=
  flags ≠ 0 ∧ (size ≠ .size4K → flags.contains .hugePage = true)
deriving Decidable

/-- The use of the table that an operation makes is one it is made for:
* `map` writes a frame address that fits an entry, and flags that make it present; if there is a
  table in the place of the page, something is mapped in it;
* `unmap` is given the page as it was mapped;
* an edit leaves a leaf a leaf. -/
def Sensible (table : PageTable) : PageTableOp → Prop
  | .map page frame flags cache =>
    frame % 0x1000 = 0 ∧ frame < 2 ^ 52 ∧ mapFlags page.size flags cache ≠ 0 ∧
      page.startVaddr + page.size.size < usizeBound ∧
      (∀ below, table.tableAt (pathTo page.startVaddr (page.size.level - 1)) = some below →
        page.size ≠ .size4K → table.Overlaps page)
  | .unmap page => page.startVaddr + page.size.size < usizeBound ∧
      ∀ ptr size, (entryMut page).outcome table = .ok (ptr, size) → size = page.size
  | .setFlags page flags =>
    ∀ ptr size, (entryMut page).outcome table = .ok (ptr, size) → LeafFlags size flags
  | .setPhysAddr page _ flags =>
    ∀ ptr size, (entryMut page).outcome table = .ok (ptr, size) → LeafFlags size flags
  | .setCachePolicy page policy =>
    ∀ ptr size, (entryMut page).outcome table = .ok (ptr, size) →
      (table.read ptr).flags.setCachePolicy policy ≠ 0
  | .clear _ => True

/-! ## Words of leaves -/

variable {table after : PageTable} {page : Page} {size : PageSize} {flags : MMUFlags} {cache : CachePolicy}
  {frame phys virt level : Nat} {entry : PageTableEntry}

/-- The word of a leaf is present, and above level 1 it is not taken for a table. -/
lemma LeafFlags.isLeaf (h : LeafFlags size flags) (phys : Nat) : (ofPhysAddr phys flags).isPresent = true ∧
      (size.level = 1 ∨ (ofPhysAddr phys flags).isLeaf = true) := by
  refine ⟨(isPresent_ofPhysAddr phys flags).2 h.1, ?_⟩
  by_cases hsize : size = .size4K
  · exact .inl (level_eq_one.2 hsize)
  · rw [isLeaf_ofPhysAddr phys h.1]
    exact .inr (h.2 hsize)

lemma mapFlags_leafFlags
    (h : mapFlags size flags cache ≠ 0) : LeafFlags size (mapFlags size flags cache) := by
  refine ⟨h, fun hsize => ?_⟩
  rw [mapFlags, if_neg hsize]
  change BitFlags.contains _ (BitVec.twoPow 16 6) = true
  rw [BitFlags.contains_or_twoPow _ _ (by decide), Bool.or_eq_true]
  exact .inr (by decide)

/-- The huge bit of a leaf survives a change of its cache policy. -/
lemma setCachePolicy_leafFlags {policy : CachePolicy}
    (hleaf : size.level = 1 ∨ entry.isLeaf = true) (h : entry.flags.setCachePolicy policy ≠ 0) :
    LeafFlags size (entry.flags.setCachePolicy policy) := by
  refine ⟨h, fun hsize => ?_⟩
  have hhuge : entry.flags.contains .hugePage = true := by
    rw [flags, PageTableFlags.toMmu_huge]
    exact hleaf.resolve_left (level_eq_one.not.2 hsize)
  change (entry.flags.setCachePolicy policy).contains (BitVec.twoPow 16 6) = true
  rw [MMUFlags.contains_eq_getLsbD _ (by decide),
    MMUFlags.setCachePolicy_getLsbD _ _ (by decide) (by decide),
    ← MMUFlags.contains_eq_getLsbD _ (by decide)]
  exact hhuge

/-! ## `map` -/

lemma MapContract.of_refused {e : PagingError} (hs : table.Sound) (hgrown : table.Grown after)
    (he : e = .alreadyMapped ∨ e = .parentIsHugePage)
    (hoverlaps : table.Overlaps page) : MapContract table after page frame (.error (.error e)) where
  refused := by
    refine iff_of_true ?_ hoverlaps
    rcases he with rfl | rfl
    · exact .inl rfl
    · exact .inr rfl
  otherwise hfree := absurd hoverlaps hfree
  mapped _ hok := nomatch hok
  failed _ _ := hgrown.sameOn hs _

lemma MapContract.of_noMemory (hs : table.Sound) (hgrown : table.Grown after)
    (hfree : ¬ table.Overlaps page) : MapContract table after page frame (.error (.error .noMemory)) where
  refused := iff_of_false (by rintro (h | h) <;> cases h) hfree
  otherwise _ := .inr rfl
  mapped _ hok := nomatch hok
  failed _ _ := hgrown.sameOn hs _

/-- An entry that is in use at the place of the page belongs to a mapped address, unless it is a
table. -/
lemma leaf_or_table (hs : table.Sound) (hpos : 1 ≤ level) (hle : level ≤ 3)
    (htable : table.tableAt (pathTo virt level) = some phys)
    (hused : (table.read ⟨phys, indexAt virt level⟩).isUnused = false) :
    table.Leaf virt level (table.read ⟨phys, indexAt virt level⟩) ∨
      level ≠ 1 ∧ ∃ below, table.tableAt (pathTo virt (level - 1)) = some below := by
  have hword := wordAt_read htable (indexAt virt level)
  rcases hs.words _ _ _ (pathTo_length_le virt hpos) hword with hunused | ⟨hpresent, -⟩
  · rw [hused] at hunused
    cases hunused
  · by_cases hends : level = 1 ∨ (table.read ⟨phys, indexAt virt level⟩).isLeaf = true
    · exact .inl ⟨hpos, by omega, hword, hpresent, hends⟩
    · push Not at hends
      obtain ⟨below, rfl⟩ : ∃ below, level = below + 1 := ⟨level - 1, by omega⟩
      exact .inr ⟨hends.1, _, tableAt_next (by omega) hpresent (by simpa using hends.2) hword⟩

/-- Writing the new entry at an unused place. -/
lemma MapContract.of_written {before : PageTable}
    {flush : TlbInvalidator} (hbefore : before.Sound) (hgrown : before.Grown table)
    (hpage : Canonical page.startVaddr) (hflags : LeafFlags page.size flags)
    (haligned : frame % 0x1000 = 0) (hbound : frame < 2 ^ 52)
    (htable : table.tableAt (pathTo page.startVaddr page.size.level) = some phys)
    (hunused : (table.read ⟨phys, indexAt page.startVaddr page.size.level⟩).isUnused = true) :
    (table.write ⟨phys, indexAt page.startVaddr page.size.level⟩ (.ofPhysAddr frame flags)).Sound ∧
      MapContract before
        (table.write ⟨phys, indexAt page.startVaddr page.size.level⟩ (.ofPhysAddr frame flags))
        page frame (.ok flush) := by
  have hs := hgrown.sound
  obtain ⟨hpos, hle⟩ := level_pos page.size
  obtain ⟨hpresent, hends⟩ := hflags.isLeaf frame
  have hreplaces : table.Replaces page.startVaddr page.size.level phys (.ofPhysAddr frame flags) := by
    refine ⟨hpos, hle, htable, fun hlevel => ⟨next_of_unused hunused, ?_⟩, .inr hpresent⟩
    exact next_of_leaf (hends.resolve_left (by omega))
  have hfree : ¬ before.Overlaps page := by
    rw [← hgrown.overlaps_iff hbefore]
    exact Vacant.not_overlaps hs hpage
      ⟨page.size.level, _, hpos, le_rfl, by omega, wordAt_read htable _, hunused⟩
  have hsound := hreplaces.sound hs
  refine ⟨hsound, iff_of_false (by rintro (h | h) <;> cases h) hfree, fun _ => .inl ⟨_, rfl⟩, ?_, nofun⟩
  intro _ _
  constructor
  · have hleaf := query_of_leaf hsound (⟨hpos, by omega, hreplaces.wordAt_here hs rfl, hpresent, hends⟩ :
        Leaf _ page.startVaddr page.size.level _)
    rw [physAddr_ofPhysAddr flags haligned hbound] at hleaf
    exact ⟨_, _, _, hleaf⟩
  · intro virt hvirt hout
    rw [hreplaces.translate_other hs ((contains_iff hpage hvirt).not.1 hout)]
    exact hgrown.sameOn hbefore (fun _ => True) virt hvirt trivial

lemma map_contract (hs : table.Sound) (hpage : Canonical page.startVaddr)
    (hok : table.Sensible (.map page frame flags cache)) : ((map page frame flags cache) table).2.Sound ∧
      MapContract table ((map page frame flags cache) table).2 page frame
        ((map page frame flags cache) table).1 := by
  obtain ⟨haligned, hbound, hflags, hlast, hempty⟩ := hok
  obtain ⟨hpos, hle⟩ := level_pos page.size
  have hdescent := walk_descent hpos hle page.startVaddr hs (by omega) le_rfl tableAt_nil
  rw [map, bind_of_ok (show gets _ table = (.ok table.rootPhys, table) from rfl)]
  generalize hwalk : walkToLeafMut page.startVaddr (some page.size.level) true 4 table.rootPhys table
    = result at hdescent
  cases hdescent with
  | noMemory hgrown hvacant =>
    rw [bind_of_error hwalk]
    refine ⟨hgrown.sound, .of_noMemory hs hgrown ?_⟩
    rw [← hgrown.overlaps_iff hs]
    exact hvacant.not_overlaps hgrown.sound hpage
  | huge hgrown hleaf =>
    rw [bind_of_error hwalk]
    refine ⟨hgrown.sound, .of_refused hs hgrown (.inr rfl) ?_⟩
    exact ⟨_, page.contains_start, (mapped_iff hs).2 ⟨_, _, hleaf⟩⟩
  | @arrived after phys size hgrown htable hsame =>
    rw [bind_of_ok hwalk]
    cases hunused : (after.read ⟨phys, indexAt page.startVaddr page.size.level⟩).isUnused with
    | true =>
      have hstop : checkedAdd page.startVaddr page.size.size
          = some (page.startVaddr + page.size.size) := if_pos hlast
      simp only [bind, andThen, gets, ensure, hunused, if_true, ret, Action.modify, hstop, Action.orPanic]
      exact MapContract.of_written hs hgrown hpage (mapFlags_leafFlags hflags) haligned hbound htable hunused
    | false =>
      obtain rfl := hsame.resolve_right (by rw [hunused]; decide)
      simp only [bind, andThen, gets, ensure, hunused]
      refine ⟨hs, .of_refused hs hgrown (.inl rfl) ?_⟩
      rcases leaf_or_table hs hpos hle htable hunused with hleaf | ⟨hlevel, below, hbelow⟩
      · exact ⟨_, page.contains_start, (mapped_iff hs).2 ⟨_, _, hleaf⟩⟩
      · exact hempty below hbelow (level_eq_one.not.1 hlevel)

/-! ## `unmap` and the methods of an entry -/

/-- A leaf may be cleared, or overwritten by a leaf of its size. -/
lemma Leaf.replaces (htable : table.tableAt (pathTo virt size.level) = some phys)
    (hleaf : table.Leaf virt size.level (table.read ⟨phys, indexAt virt size.level⟩))
    (hentry : entry.isUnused = true ∨ entry.isPresent = true ∧ (size.level = 1 ∨ entry.isLeaf = true)) :
    table.Replaces virt size.level phys entry := by
  obtain ⟨hpos, hle⟩ := level_pos size
  refine ⟨hpos, hle, htable, fun hlevel => ⟨?_, ?_⟩, hentry.imp id And.left⟩
  · exact hleaf.next (by omega)
  · rcases hentry with hunused | ⟨-, hends⟩
    · exact next_of_unused hunused
    · exact next_of_leaf (hends.resolve_left (by omega))

/-- The addresses of a page share its leaf. -/
lemma Leaf.of_path {u v : Nat} (h : table.Leaf v level entry)
    (hpath : pathTo u (level - 1) = pathTo v (level - 1)) : table.Leaf u level entry := by
  obtain ⟨htable, hindex⟩ := (entry_eq_iff h.pos h.le h.pos h.le).2 ⟨rfl, hpath⟩
  apply h.of_word
  rw [htable, hindex]
  exact h.word

section

variable (hs : table.Sound)
include hs

/-- Clearing the entry of the page. -/
lemma UnmapContract.of_cleared {frame : (Nat × Nat) × TlbInvalidator} (hpage : Canonical page.startVaddr)
    (htable : table.tableAt (pathTo page.startVaddr page.size.level) = some phys)
    (hleaf : table.Leaf page.startVaddr page.size.level
      (table.read ⟨phys, indexAt page.startVaddr page.size.level⟩)) :
    (table.write ⟨phys, indexAt page.startVaddr page.size.level⟩ .cleared).Sound ∧
      UnmapContract table (table.write ⟨phys, indexAt page.startVaddr page.size.level⟩ .cleared) page
        (.ok frame) := by
  have hreplaces := hleaf.replaces htable (.inl (rfl : cleared.isUnused = true))
  have hsound := hreplaces.sound hs
  refine ⟨hsound, fun _ _ => ⟨fun virt hin => ?_, fun virt hvirt hout => ?_⟩, nofun⟩
  · have hpath := (contains_iff hpage (Page.canonical_of_contains hpage hin)).1 hin
    rw [mapped_iff hs, mapped_iff hsound]
    refine ⟨⟨_, _, hleaf.of_path hpath⟩, ?_⟩
    rintro ⟨level, entry, hafter⟩
    exact not_leaf_of_unused hleaf.pos hleaf.le (hreplaces.wordAt_here hs hpath) rfl hafter
  · exact hreplaces.translate_other hs ((contains_iff hpage hvirt).not.1 hout)

lemma unmap_contract (hpage : Canonical page.startVaddr)
    (hok : table.Sensible (.unmap page)) : ((unmap page) table).2.Sound ∧
      UnmapContract table ((unmap page) table).2 page ((unmap page) table).1 := by
  obtain ⟨hlast, hsize⟩ := hok
  obtain ⟨outcome, hrun, hlookup⟩ := entryMut_lookup hs page
  cases hlookup with
  | missing _ =>
    rw [unmap, bind_of_error hrun]
    exact ⟨hs, nofun, fun _ _ => (Grown.refl hs).sameOn hs _⟩
  | @found size phys _ htable hleaf =>
    obtain rfl := hsize _ _ (congrArg Prod.fst hrun)
    have hused := isUnused_of_isPresent hleaf.present
    have hstop : checkedAdd page.startVaddr page.size.size
        = some (page.startVaddr + page.size.size) := if_pos hlast
    rw [unmap, bind_of_ok hrun]
    simp only [bind, andThen, gets, ensure, hused, if_true, ret, Action.modify, hstop, Action.orPanic]
    exact UnmapContract.of_cleared hs hpage htable hleaf

/-- What an edit does: it fails without a trace or writes the leaf it has found. -/
lemma edit_cases (page : Page) (f : PageTableEntry → PageTableEntry) :
    (edit page f table = (.error (.error .notMapped), table)) ∨ ∃ (size : PageSize) (phys : Nat),
        (entryMut page).outcome table = .ok (⟨phys, indexAt page.startVaddr size.level⟩, size) ∧
        table.tableAt (pathTo page.startVaddr size.level) = some phys ∧
        table.Leaf page.startVaddr size.level (table.read ⟨phys, indexAt page.startVaddr size.level⟩) ∧
        edit page f table = (.ok ⟨⟩, table.write ⟨phys, indexAt page.startVaddr size.level⟩
          (f (table.read ⟨phys, indexAt page.startVaddr size.level⟩))) := by
  obtain ⟨outcome, hrun, hlookup⟩ := entryMut_lookup hs page
  cases hlookup with
  | missing _ => exact .inl (bind_of_error hrun)
  | @found size phys _ htable hleaf =>
    exact .inr ⟨size, phys, congrArg Prod.fst hrun, htable, hleaf, bind_of_ok hrun⟩

lemma edit_contract {f : PageTableEntry → PageTableEntry}
    (hf : ∀ ptr (size : PageSize), (entryMut page).outcome table = .ok (ptr, size) →
      (size.level = 1 ∨ (table.read ptr).isLeaf = true) →
        (f (table.read ptr)).isUnused = true ∨ (f (table.read ptr)).isPresent = true ∧
          (size.level = 1 ∨ (f (table.read ptr)).isLeaf = true)) :
    ((edit page f) table).2.Sound ∧ ∀ fault, ((edit page f) table).1 = .error fault →
      SameOn (fun _ => True) table ((edit page f) table).2 := by
  rcases edit_cases hs page f with hfail | ⟨size, phys, hfound, htable, hleaf, hwrite⟩
  · rw [hfail]
    exact ⟨hs, fun _ _ => (Grown.refl hs).sameOn hs _⟩
  · rw [hwrite]
    exact ⟨(hleaf.replaces htable (hf _ _ hfound hleaf.ends)).sound hs, nofun⟩

end

/-! ## Runs -/

lemma step_contract (hs : table.Sound) (op : PageTableOp) (hpage : Canonical op.page.startVaddr)
    (hok : table.Sensible op) : table.ActsAsMap op ∧ (table.step op).Sound := by
  cases op with
  | map page frame flags cache =>
    have hstep : table.step (.map page frame flags cache) = ((map page frame flags cache) table).2 :=
      andThen_ret_state _ _ _
    obtain ⟨hsound, hcontract⟩ := map_contract hs hpage hok
    rw [ActsAsMap, hstep]
    exact ⟨hcontract, hsound⟩
  | unmap page =>
    have hstep : table.step (.unmap page) = ((unmap page) table).2 := andThen_ret_state _ _ _
    obtain ⟨hsound, hcontract⟩ := unmap_contract hs hpage hok
    rw [ActsAsMap, hstep]
    exact ⟨hcontract, hsound⟩
  | setFlags | setPhysAddr =>
    refine (edit_contract hs fun ptr size hfound _ => .inr ?_).symm
    exact (hok ptr size hfound).isLeaf _
  | setCachePolicy page policy =>
    refine (edit_contract hs fun ptr size hfound hends => .inr ?_).symm
    exact (setCachePolicy_leafFlags hends (hok ptr size hfound)).isLeaf _
  | clear page => exact (edit_contract hs fun _ _ _ _ => .inl rfl).symm

lemma empty_sound {allocator : TableAllocator} {memory : Tables Nat Nat PageTableEntry}
    (h : empty allocator memory = some table) : table.Sound := by
  cases hanswer : allocator.answers 0 with
  | none => simp [empty, hanswer] at h
  | some answer =>
    have hoffset := (allocator.mapped _ _ hanswer).1
    simp only [empty, virtToPhys, hanswer, bind, Option.bind, hoffset, if_true] at h
    obtain rfl := Option.some.inj h
    have hroot : ∀ i, (memory.fill (answer - allocator.physicalMemoryOffset) .cleared
        (answer - allocator.physicalMemoryOffset) i) = .cleared := fun i => if_pos rfl
    have hbare := fun i => congrArg PageTableEntry.next (hroot i)
    refine ⟨?_, ?_, ?_⟩
    · intro p q phys _ _ hp hq
      rw [(tableAt_of_bare_root hbare hp).1, (tableAt_of_bare_root hbare hq).1]
    · intro path phys _ htable
      obtain ⟨-, rfl⟩ := tableAt_of_bare_root hbare htable
      refine ⟨0, zero_lt_one, ?_⟩
      rw [Nat.sub_add_cancel hoffset, hanswer]
    · intro path i entry _ hword
      obtain ⟨phys, htable, rfl⟩ := wordAt_eq_some.1 hword
      obtain ⟨-, rfl⟩ := tableAt_of_bare_root hbare htable
      exact .inl (congrArg isUnused (hroot i))

/-- From an empty table on, the page table acts as a finite map from pages to frames in every run of
sensible operations on canonical page addresses. -/
theorem run_actsAsMap {allocator : TableAllocator} {memory : Tables Nat Nat PageTableEntry}
    {ops : List PageTableOp} (hempty : empty allocator memory = some table)
    (hops : Meets step (fun table op => Canonical op.page.startVaddr ∧ table.Sensible op) table ops) :
    Meets step ActsAsMap table ops :=
  Meets.upgrade (I := Sound) (fun _ op hs hok => step_contract hs op hok.1 hok.2) (empty_sound hempty) hops

/-! ## A run that conforms and one that does not -/

/-- Eight frames from physical address `0x1000` on, in a direct map at `0xffff800000000000`. -/
def eightFrames : TableAllocator where
  physicalMemoryOffset := 0xffff800000000000
  answers k := if k < 8 then some (0xffff800000000000 + 0x1000 * (k + 1)) else none
  mapped := by
    intro k virt h
    split at h
    · obtain rfl := Option.some.inj h
      unfold usizeBound
      omega
    · cases h
  aligned := by
    intro k virt h
    split at h
    · obtain rfl := Option.some.inj h
      omega
    · cases h
  distinct := by
    intro i j virt hi hj
    split at hi
    · split at hj
      · have := (Option.some.inj hi).trans (Option.some.inj hj).symm
        omega
      · cases hj
    · cases hi

/-- A new table, in a memory where every word looks like the entry of a table. -/
def newTable : PageTable :=
  ⟨0x1000, eightFrames, 1, Tables.fill (fun _ _ => ⟨0x7⟩) 0x1000 .cleared⟩

lemma empty_newTable : empty eightFrames (fun _ _ => ⟨0x7⟩) = some newTable := rfl

def smallPage : Page := ⟨0x1000, .size4K, by decide⟩

def largePage : Page := ⟨0x200000, .size2M, by decide⟩

def lowPage : Page := ⟨0, .size2M, by decide⟩

def conformingRun : List PageTableOp :=
  [.map largePage 0x400000 .write .cached,
    .map smallPage 0x8000 .write .cached,
    .setFlags largePage (.write ||| .hugePage),
    .setCachePolicy smallPage .uncached,
    .unmap smallPage,
    .clear largePage]

lemma conformingRun_sensible :
    Meets step (fun table op => Canonical op.page.startVaddr ∧ table.Sensible op) newTable
      conformingRun := by
  refine ⟨⟨by decide, by decide, by decide, by decide, by decide, fun below h => ?_⟩,
    ⟨by decide, by decide, by decide, by decide, by decide, fun _ _ h => absurd rfl h⟩,
    ⟨by decide, fun ptr size h => ?_⟩, ⟨by decide, fun ptr size h => ?_⟩,
    ⟨by decide, by decide, fun ptr size h => ?_⟩, ⟨by decide, trivial⟩, trivial⟩
  · cases (show none = some below from h)
  · cases (show ok (⟨0x3000, 1⟩, .size2M) = ok (ptr, size) from h)
    decide
  · cases (show ok (⟨0x4000, 1⟩, .size4K) = ok (ptr, size) from h)
    decide
  · cases (show ok (⟨0x4000, 1⟩, .size4K) = ok (ptr, size) from h)
    rfl

/-- The theorem applies to a run that maps both sizes, edits, unmaps and clears. -/
theorem run_actsAsMap_conformingRun : Meets step ActsAsMap newTable conformingRun :=
  run_actsAsMap empty_newTable conformingRun_sensible

/-- The table of the small page stays when the page is unmapped, and the large page around it is
refused although nothing in it is mapped. -/
theorem empty_table_blocks_huge_page : empty eightFrames (fun _ _ => ⟨0x7⟩) = some newTable ∧
      ¬ Meets step ActsAsMap newTable [.map smallPage 0x8000 MMUFlags.write .cached, .unmap smallPage,
          .map lowPage 0x400000 MMUFlags.write .cached] := by
  refine ⟨rfl, fun hmeets => ?_⟩
  have hrefused := hmeets.2.2.1.refused
  have houtcome : (map lowPage 0x400000 MMUFlags.write .cached).outcome
      (runOps step newTable [.map smallPage 0x8000 MMUFlags.write .cached, .unmap smallPage])
        = .error (.error .alreadyMapped) := by rfl
  have hempty : ∀ i : Fin 512, ((query (.containing (i * 0x1000) .size4K)).outcome
      (runOps step newTable [.map smallPage 0x8000 MMUFlags.write .cached, .unmap smallPage])).isOk
        = false := by decide +kernel
  obtain ⟨virt, hin, translation, htranslation⟩ := hrefused.1 (.inl houtcome)
  have hindex : virt / 0x1000 < 512 := by
    have := hin.2
    simp only [lowPage, size] at this
    omega
  have hpage : Page.containing (virt / 0x1000 * 0x1000) .size4K = .containing virt .size4K := by
    simp [Page.containing, size]
  have hnone := hempty ⟨virt / 0x1000, hindex⟩
  rw [hpage] at hnone
  cases (congrArg isOk htranslation).symm.trans hnone

end PageTable

end Akarin.Arch
