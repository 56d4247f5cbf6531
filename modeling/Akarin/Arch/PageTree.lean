/-
# Akarin.Arch.PageTree -- the tables of a page table form a tree

Table frames are linked by address and nothing in the memory keeps two entries from pointing to one
frame. While the tables form a tree (`Sound`), the words of the page table can be spoken of by their
paths, and what an address is translated to is the one leaf on its path. Three results say all there
is to say about a walk: a lookup ends at the leaf of the address if there is one (`walk_lookup`); the
walk that creates tables ends at the entry of its level, at a huge page or without memory, and changes
no translation (`walk_descent`); overwriting an entry changes the translations below it and no others
(`Replaces.translate_other`).
-/
import Akarin.Arch.PageTable

namespace Akarin.Arch

open List PageTableEntry Lib Option Action PageSize Tables
open Memory (MMUFlags CachePolicy)

/-! ## Translations -/

/-- Bits 48 to 63 repeat bit 47. -/
def Canonical (virt : Nat) : Prop := virt < 2 ^ 47 ∨ 2 ^ 64 - 2 ^ 47 ≤ virt ∧ virt < 2 ^ 64
deriving Decidable

def Page.Contains (page : Page) (virt : Nat) : Prop :=
  page.startVaddr ≤ virt ∧ virt < page.startVaddr + page.size.size

lemma PageSize.level_pos (size : PageSize) : 1 ≤ size.level ∧ size.level ≤ 3 := by
  cases size <;> decide

lemma PageSize.level_eq_one {size : PageSize} : size.level = 1 ↔ size = .size4K := by
  cases size <;> decide

lemma PageSize.level_injective : Function.Injective level := by
  intro a b h
  cases a <;> cases b <;> first | rfl | cases h

lemma Page.contains_start (page : Page) : page.Contains page.startVaddr := by
  have hpos : 0 < page.size.size := by
    cases page.size <;> decide
  exact ⟨le_rfl, by omega⟩

lemma Page.canonical_of_contains {page : Page} {virt : Nat} (hpage : Canonical page.startVaddr)
    (h : page.Contains virt) : Canonical virt := by
  have haligned := page.aligned
  unfold Page.Contains Canonical at *
  cases hsize : page.size
  all_goals
    rw [hsize] at haligned h
    simp only [PageSize.size] at haligned h
    omega

namespace PageTable

/-- What an address is translated to: `query` for the 4K page around it. -/
def translate (table : PageTable) (virt : Nat) :
    Except (Fault PagingError) (Nat × MMUFlags × CachePolicy × PageSize) :=
  (query (.containing virt .size4K)).outcome table

def Mapped (table : PageTable) (virt : Nat) : Prop :=
  ∃ translation, table.translate virt = .ok translation

/-- Some address of the page is mapped. -/
def Overlaps (table : PageTable) (page : Page) : Prop := ∃ virt, page.Contains virt ∧ table.Mapped virt

/-- The addresses for which `keep` holds have the same translation before and after. -/
def SameOn (keep : Nat → Prop) (before after : PageTable) : Prop :=
  ∀ virt, Canonical virt → keep virt → after.translate virt = before.translate virt

end PageTable

/-! ## Paths -/

/-- The table an entry points to. -/
def PageTableEntry.next (entry : PageTableEntry) : Option Nat :=
  if entry.isPresent && !entry.isLeaf then some entry.physAddr else none

namespace PageTable

/-- The table at the end of a path. -/
abbrev tableAt (table : PageTable) (path : List Nat) : Option Nat :=
  Tables.tableAt PageTableEntry.next table.memory table.rootPhys path

/-- The word of the table at the end of a path. -/
abbrev wordAt (table : PageTable) (path : List Nat) (i : Nat) : Option PageTableEntry :=
  Tables.wordAt PageTableEntry.next table.memory table.rootPhys path i

/-- The path to the table of a level. -/
def pathTo (virt level : Nat) : List Nat := (indices virt).take (4 - level)

/-- The index in the table of a level. -/
def indexAt (virt level : Nat) : Nat := (indices virt).getD (4 - level) 0

/-! ## The tables form a tree -/

lemma pathTo_length (virt level : Nat) : (pathTo virt level).length = 4 - level := by
  simp [pathTo, indices]

lemma pathTo_length_le (virt : Nat) {level : Nat} (h : 1 ≤ level) : (pathTo virt level).length ≤ 3 := by
  rw [pathTo_length]
  omega

lemma pathTo_pred (virt : Nat) {level : Nat} (h : level < 4) :
    pathTo virt level = pathTo virt (level + 1) ++ [indexAt virt (level + 1)] := by
  interval_cases level <;> rfl

/-- The tables form a tree of their own. -/
structure Sound (table : PageTable) : Prop where
  separate : Tables.Separate PageTableEntry.next table.memory table.rootPhys 3
  /-- Tables were handed out by the allocator. -/
  issued : ∀ path phys, path.length ≤ 3 → table.tableAt path = some phys → ∃ k < table.calls,
      table.allocator.answers k = some (phys + table.allocator.physicalMemoryOffset)
  /-- Words are unused or present, and those of the root are never leaves. -/
  words : ∀ path i entry, path.length ≤ 3 → table.wordAt path i = some entry →
    entry.isUnused = true ∨ entry.isPresent = true ∧ (path = [] → entry.isLeaf = false)

end PageTable

namespace PageTableEntry

variable {entry : PageTableEntry}

lemma next_of_unused (h : entry.isUnused = true) : entry.next = none := by
  rw [isUnused, beq_iff_eq] at h
  obtain ⟨word⟩ := entry
  subst h
  decide

lemma next_of_leaf (h : entry.isLeaf = true) : entry.next = none := by
  simp [next, h]

lemma next_of_table (hpresent : entry.isPresent = true)
    (hleaf : entry.isLeaf = false) : entry.next = some entry.physAddr := by
  simp [next, hpresent, hleaf]

lemma isPresent_ofTable (phys : Nat) : (ofTable phys).isPresent = true := by
  rw [ofTable_eq, isPresent_ofPhysAddr]
  decide

lemma isLeaf_ofTable (phys : Nat) : (ofTable phys).isLeaf = false := by
  rw [ofTable_eq, isLeaf_ofPhysAddr phys (by decide)]
  decide

lemma physAddr_ofTable {phys : Nat} (haligned : phys % 0x1000 = 0) (hbound : phys < 2 ^ 52) :
    (ofTable phys).physAddr = phys := by
  rw [ofTable_eq, physAddr_ofPhysAddr _ haligned hbound]

end PageTableEntry

namespace PageTable

variable {table after : PageTable} {virt level level' phys answer target : Nat} {path : List Nat}
  {entry entry' : PageTableEntry} {page : Page} {ptr : EntryPtr} {size : PageSize}

lemma wordAt_eq_some {i : Nat} : table.wordAt path i = some entry ↔
      ∃ phys, table.tableAt path = some phys ∧ table.memory phys i = entry :=
  Tables.wordAt_eq_some

lemma wordAt_read (h : table.tableAt path = some phys) (i : Nat) :
    table.wordAt path i = some (table.read ⟨phys, i⟩) :=
  wordAt_eq_some.2 ⟨phys, h, rfl⟩

lemma tableAt_pathTo (virt : Nat) (h : level < 4) : table.tableAt (pathTo virt level) =
      (table.wordAt (pathTo virt (level + 1)) (indexAt virt (level + 1))).bind next := by
  rw [pathTo_pred virt h]
  exact tableAt_concat _ _

lemma tableAt_next (h : level < 4) (hpresent : entry.isPresent = true) (hleaf : entry.isLeaf = false)
    (hword : table.wordAt (pathTo virt (level + 1)) (indexAt virt (level + 1)) = some entry) :
    table.tableAt (pathTo virt level) = some entry.physAddr := by
  rw [tableAt_pathTo virt h, hword]
  exact next_of_table hpresent hleaf

/-- Two words on the path of one address: the upper one points to a table. -/
lemma next_of_deeper {upper lower : PageTableEntry} (hle : level ≤ 4)
    (hlt : level' < level) (hupper : table.wordAt (pathTo virt level) (indexAt virt level) = some upper)
    (hlower : table.wordAt (pathTo virt level') (indexAt virt level') = some lower) :
    ∃ phys, upper.next = some phys := by
  obtain ⟨_, hdeep, -⟩ := wordAt_eq_some.1 hlower
  obtain ⟨below, rfl⟩ : ∃ below, level = below + 1 := ⟨level - 1, by omega⟩
  have hprefix : pathTo virt below <+: pathTo virt level' := take_prefix_take_left (by omega)
  obtain ⟨phys, hphys⟩ := tableAt_of_prefix hprefix hdeep
  have hnext : table.tableAt (pathTo virt below) = _ := tableAt_pathTo virt (by omega)
  rw [hupper] at hnext
  exact ⟨phys, hnext.symm.trans hphys⟩

/-! ## Leaves -/

/-- The leaf an address is translated by, at a level. -/
structure Leaf (table : PageTable) (virt level : Nat) (entry : PageTableEntry) : Prop where
  pos : 1 ≤ level
  le : level ≤ 4
  word : table.wordAt (pathTo virt level) (indexAt virt level) = some entry
  present : entry.isPresent = true
  ends : level = 1 ∨ entry.isLeaf = true

section

variable (h : table.Leaf virt level entry)
include h

lemma Leaf.of_word {u : Nat} (hword : after.wordAt (pathTo u level) (indexAt u level) = some entry) :
    after.Leaf u level entry :=
  ⟨h.pos, h.le, hword, h.present, h.ends⟩

lemma Leaf.next (hlevel : level ≠ 1) : entry.next = none := next_of_leaf (h.ends.resolve_left hlevel)

lemma Leaf.not_above (h' : table.Leaf virt level' entry') : ¬ level' < level := by
  intro hlt
  have hpos := h'.pos
  obtain ⟨phys, hphys⟩ := next_of_deeper h.le hlt h.word h'.word
  rw [h.next (by omega)] at hphys
  cases hphys

lemma Leaf.unique (h' : table.Leaf virt level' entry') : level = level' ∧ entry = entry' := by
  have hlevel : level = level' := by
    have hnot := h.not_above h'
    have hnot' := h'.not_above h
    omega
  subst hlevel
  exact ⟨rfl, mem_unique h.word h'.word⟩

end

/-- An unused word on the path of an address: nothing is mapped there. -/
lemma not_leaf_of_unused (hpos : 1 ≤ level)
    (hle : level ≤ 4) (hword : table.wordAt (pathTo virt level) (indexAt virt level) = some entry)
    (hunused : entry.isUnused = true) : ¬ table.Leaf virt level' entry' := by
  intro hleaf
  rcases lt_trichotomy level' level with hlt | heq | hgt
  · obtain ⟨phys, hphys⟩ := next_of_deeper hle hlt hword hleaf.word
    rw [next_of_unused hunused] at hphys
    cases hphys
  · subst heq
    obtain rfl := mem_unique hword hleaf.word
    rw [isUnused_of_isPresent hleaf.present] at hunused
    cases hunused
  · obtain ⟨phys, hphys⟩ := next_of_deeper hleaf.le hgt hleaf.word hword
    rw [hleaf.next (by omega)] at hphys
    cases hphys

/-! ## Looking up -/

namespace Sound

/-- Tables can be read through the direct map. -/
lemma entryPtr_eq (hs : table.Sound) {path : List Nat} (hlen : path.length ≤ 3)
    (h : table.tableAt path = some phys) (i : Nat) : entryPtr phys i table = (.ok ⟨phys, i⟩, table) := by
  obtain ⟨k, -, hanswer⟩ := hs.issued path phys hlen h
  have hmapped := (table.allocator.mapped k _ hanswer).2
  have hvirt : physToVirt table.allocator phys
      = some (phys + table.allocator.physicalMemoryOffset) := if_pos hmapped
  simp only [entryPtr, bind, andThen, gets, orFail, hvirt]
  rfl

end Sound

lemma ensureTable_of_used (create : Bool) (h : (table.read ptr).isUnused = false) :
    ensureTable ptr create table = (.ok (table.read ptr), table) := by
  simp only [ensureTable, bind, andThen, gets, h]
  rfl

lemma ensureTable_of_unused (h : (table.read ptr).isUnused = true) :
    ensureTable ptr false table = (.error (.error .notMapped), table) := by
  simp only [ensureTable, bind, andThen, gets, h]
  rfl

lemma ofLevel_eq_some (hpos : 1 ≤ level) (hle : level ≤ 3) :
    ∃ size, ofLevel level = some size ∧ size.level = level := by
  interval_cases level
  · exact ⟨.size4K, rfl, rfl⟩
  · exact ⟨.size2M, rfl, rfl⟩
  · exact ⟨.size1G, rfl, rfl⟩

/-- How a walk without a target ends: at the leaf of the address, if there is one. -/
inductive Lookup (table : PageTable) (virt level : Nat) :
    Except (Fault PagingError) (EntryPtr × PageSize) → Prop
  | found (size : PageSize) {phys : Nat} (hle : size.level ≤ level)
      (htable : table.tableAt (pathTo virt size.level) = some phys)
      (hleaf : table.Leaf virt size.level (table.read ⟨phys, indexAt virt size.level⟩)) :
      Lookup table virt level (.ok (⟨phys, indexAt virt size.level⟩, size))
  | missing (hnone : ∀ level' entry, level' ≤ level → ¬ table.Leaf virt level' entry) :
      Lookup table virt level (.error (.error .notMapped))

section

variable (hs : table.Sound)
include hs

lemma walk_lookup (virt : Nat) (hle : level ≤ 4) (htable : table.tableAt (pathTo virt level) = some phys) :
    ∃ outcome, walkToLeafMut virt none false level phys table = (outcome, table) ∧
      table.Lookup virt level outcome := by
  induction level generalizing phys with
  | zero =>
    refine ⟨_, rfl, .missing fun level' entry hlevel hleaf => ?_⟩
    have := hleaf.pos
    omega
  | succ level ih =>
    have hlen := pathTo_length_le virt (Nat.le_add_left 1 level)
    have hptr := hs.entryPtr_eq hlen htable (indexAt virt (level + 1))
    generalize hentry : table.read ⟨phys, indexAt virt (level + 1)⟩ = entry
    have hword : table.wordAt (pathTo virt (level + 1)) (indexAt virt (level + 1)) = some entry :=
      wordAt_eq_some.2 ⟨phys, htable, hentry⟩
    rw [walkToLeafMut]
    change ∃ outcome, (entryPtr phys (indexAt virt (level + 1)) >>= _) table = _ ∧ _
    rw [bind_of_ok hptr, if_neg (by simp)]
    rcases hs.words _ _ _ hlen hword with hunused | ⟨hpresent, hroot⟩
    · rw [← hentry] at hunused
      refine ⟨_, bind_of_error (ensureTable_of_unused hunused), .missing ?_⟩
      intro level' leaf _
      exact not_leaf_of_unused (by omega) hle hword (hentry ▸ hunused)
    · have hused := isUnused_of_isPresent hpresent
      rw [← hentry] at hused
      rw [bind_of_ok (ensureTable_of_used false hused), hentry, ensure, if_pos hpresent]
      change ∃ outcome, (if level + 1 = 1 then _ else _ : Action PageTable PagingError _) table = _ ∧ _
      by_cases hone : level + 1 = 1
      · obtain rfl : level = 0 := by omega
        subst hentry
        exact ⟨_, rfl, .found .size4K (by decide) htable ⟨by decide, by decide, hword, hpresent, .inl rfl⟩⟩
      · rw [if_neg hone]
        cases hleaf : entry.isLeaf with
        | true =>
          have hbelow : level + 1 ≤ 3 := by
            by_contra htop
            have hpath : pathTo virt (level + 1) = [] := by
              rw [← length_eq_zero_iff, pathTo_length]
              omega
            rw [hroot hpath] at hleaf
            cases hleaf
          obtain ⟨size, hsize, hlevel⟩ := ofLevel_eq_some (by omega) hbelow
          have hfound : table.Leaf virt (level + 1) entry :=
            ⟨by omega, hle, hword, hpresent, .inr hleaf⟩
          rw [if_pos rfl, hsize]
          refine ⟨_, rfl, ?_⟩
          subst hentry
          rw [← hlevel] at htable hfound ⊢
          exact .found size le_rfl htable hfound
        | false =>
          rw [if_neg (by simp)]
          obtain ⟨outcome, hwalk, hlookup⟩ := ih (by omega) (tableAt_next (by omega) hpresent hleaf hword)
          refine ⟨outcome, hwalk, ?_⟩
          cases hlookup with
          | found size hsize htable hfound => exact .found size (by omega) htable hfound
          | missing hnone =>
            refine .missing fun level' leaf hlevel hfound => ?_
            rcases lt_or_eq_of_le hlevel with hlt | rfl
            · exact hnone level' leaf (by omega) hfound
            · obtain rfl := mem_unique hword hfound.word
              rcases hfound.ends with h | h
              · exact hone h
              · rw [hleaf] at h
                cases h

lemma entryMut_lookup (page : Page) :
    ∃ outcome, entryMut page table = (outcome, table) ∧ table.Lookup page.startVaddr 4 outcome :=
  walk_lookup hs page.startVaddr le_rfl (tableAt_nil)

/-- The root has no leaves. -/
lemma Leaf.exists_size (h : table.Leaf virt level entry) : ∃ size : PageSize, size.level = level := by
  by_cases htop : level = 4
  · subst htop
    have hleaf := h.ends.resolve_left (by decide)
    rcases hs.words _ _ _ (Nat.zero_le _) h.word with hunused | ⟨-, hroot⟩
    · rw [isUnused_of_isPresent h.present] at hunused
      cases hunused
    · rw [hroot rfl] at hleaf
      cases hleaf
  · have hpos := h.pos
    have hle := h.le
    obtain ⟨size, -, hsize⟩ := ofLevel_eq_some hpos (by omega)
    exact ⟨size, hsize⟩

lemma entryMut_of_leaf (h : table.Leaf page.startVaddr size.level entry) :
    ∃ phys, entryMut page table = (.ok (⟨phys, indexAt page.startVaddr size.level⟩, size), table) ∧
      table.tableAt (pathTo page.startVaddr size.level) = some phys ∧
      table.read ⟨phys, indexAt page.startVaddr size.level⟩ = entry := by
  obtain ⟨outcome, hrun, hlookup⟩ := entryMut_lookup hs page
  cases hlookup with
  | found size' _ htable hleaf =>
    obtain ⟨hlevel, hentry⟩ := hleaf.unique h
    obtain rfl := level_injective hlevel
    exact ⟨_, hrun, htable, hentry⟩
  | missing hnone => exact absurd h (hnone _ _ h.le)

lemma entryMut_of_no_leaf (h : ∀ level entry, ¬ table.Leaf page.startVaddr level entry) :
    entryMut page table = (.error (.error .notMapped), table) := by
  obtain ⟨outcome, hrun, hlookup⟩ := entryMut_lookup hs page
  cases hlookup with
  | found size _ _ hleaf => exact absurd hleaf (h _ _)
  | missing _ => exact hrun

/-- `query` answers what the leaf says. -/
lemma query_of_leaf (h : table.Leaf page.startVaddr size.level entry) : (query page).outcome table
      = .ok (entry.physAddr, entry.flags, entry.flags.cachePolicy, size) := by
  obtain ⟨phys, hrun, -, hread⟩ := entryMut_of_leaf hs h
  rw [outcome, query, bind_of_ok hrun]
  simp only [bind, andThen, gets, ensure, hread, h.present, if_true]
  rfl

lemma query_of_no_leaf (h : ∀ level entry, ¬ table.Leaf page.startVaddr level entry) :
    (query page).outcome table = .error (.error .notMapped) := by
  rw [outcome, query, bind_of_error (entryMut_of_no_leaf hs h)]

end

/-! ## Leaves and translations -/

lemma shiftRight_and_511 (a k : Nat) : (a >>> k) &&& 0x1ff = a / 2 ^ k % 512 := by
  rw [Nat.shiftRight_eq_div_pow, show 0x1ff = 2 ^ 9 - 1 from rfl, Nat.and_two_pow_sub_one_eq_mod]

/-- The offset in the 4K page plays no role. -/
lemma indices_containing (virt : Nat) :
    indices (Page.containing virt .size4K).startVaddr = indices virt := by
  simp only [indices, shiftRight_and_511, Page.containing, size, cons.injEq, and_true]
  omega

lemma leaf_containing :
    table.Leaf (Page.containing virt .size4K).startVaddr level entry ↔ table.Leaf virt level entry := by
  have hpath : pathTo (Page.containing virt .size4K).startVaddr level = pathTo virt level := by
    rw [pathTo, pathTo, indices_containing]
  have hindex : indexAt (Page.containing virt .size4K).startVaddr level = indexAt virt level := by
    rw [indexAt, indexAt, indices_containing]
  constructor
  · intro h
    exact h.of_word (hpath ▸ hindex ▸ h.word)
  · intro h
    apply h.of_word
    rw [hpath, hindex]
    exact h.word

section

variable (hs : table.Sound)
include hs

lemma translate_of_leaf (h : table.Leaf virt size.level entry) :
    table.translate virt = .ok (entry.physAddr, entry.flags, entry.flags.cachePolicy, size) :=
  query_of_leaf hs (leaf_containing.2 h)

lemma translate_of_no_leaf (h : ∀ level entry, ¬ table.Leaf virt level entry) :
    table.translate virt = .error (.error .notMapped) :=
  query_of_no_leaf hs fun level entry hleaf => h level entry (leaf_containing.1 hleaf)

lemma mapped_iff : table.Mapped virt ↔ ∃ level entry, table.Leaf virt level entry := by
  constructor
  · rintro ⟨translation, htranslate⟩
    by_contra hnone
    push Not at hnone
    rw [translate_of_no_leaf hs hnone] at htranslate
    cases htranslate
  · rintro ⟨level, entry, hleaf⟩
    obtain ⟨size, rfl⟩ := hleaf.exists_size hs
    exact ⟨_, translate_of_leaf hs hleaf⟩

/-- Translations are determined by the leaves. -/
lemma translate_congr (hs' : after.Sound)
    (h : ∀ level entry, after.Leaf virt level entry ↔ table.Leaf virt level entry) :
    after.translate virt = table.translate virt := by
  by_cases hmapped : ∃ level entry, table.Leaf virt level entry
  · obtain ⟨level, entry, hleaf⟩ := hmapped
    obtain ⟨size, rfl⟩ := hleaf.exists_size hs
    rw [translate_of_leaf hs hleaf, translate_of_leaf hs' ((h _ _).2 hleaf)]
  · push Not at hmapped
    rw [translate_of_no_leaf hs hmapped,
      translate_of_no_leaf hs' fun level entry hleaf => hmapped level entry ((h level entry).1 hleaf)]

end

/-! ## Pages and paths -/

/-- The addresses of a page are those whose path goes through its entry. -/
lemma contains_iff (hpage : Canonical page.startVaddr) (hvirt : Canonical virt) : page.Contains virt ↔
      pathTo virt (page.size.level - 1) = pathTo page.startVaddr (page.size.level - 1) := by
  have haligned := page.aligned
  simp only [Page.Contains, pathTo, indices, Canonical, shiftRight_and_511] at *
  cases hsize : page.size
  all_goals
    rw [hsize] at haligned
    simp only [level, size, take, cons.injEq, and_true] at *
    omega

/-- The entries of two addresses are one when the levels are and the paths agree that far. -/
lemma entry_eq_iff {u v : Nat} (hpos : 1 ≤ level) (hle : level ≤ 4) (hpos' : 1 ≤ level')
    (hle' : level' ≤ 4) : pathTo u level' = pathTo v level ∧ indexAt u level' = indexAt v level ↔
      level' = level ∧ pathTo u (level - 1) = pathTo v (level - 1) := by
  obtain ⟨below, rfl⟩ : ∃ below, level = below + 1 := ⟨level - 1, by omega⟩
  rw [Nat.add_sub_cancel]
  constructor
  · rintro ⟨hpath, hindex⟩
    have hlength := congrArg length hpath
    rw [pathTo_length, pathTo_length] at hlength
    obtain rfl : level' = below + 1 := by omega
    exact ⟨rfl, by rw [pathTo_pred u (by omega), pathTo_pred v (by omega), hpath, hindex]⟩
  · rintro ⟨rfl, hpath⟩
    rw [pathTo_pred u (by omega), pathTo_pred v (by omega)] at hpath
    obtain ⟨hpath, hindex⟩ := append_inj' hpath rfl
    exact ⟨hpath, singleton_inj.1 hindex⟩

/-! ## Overwriting an entry -/

section Write

variable {level phys : Nat} {entry : PageTableEntry}

/-- An entry may be overwritten by a word that keeps to the tree: neither the old word nor the new
one points to a table, and the new one is unused or present. -/
structure Replaces (table : PageTable) (virt level phys : Nat) (entry : PageTableEntry) : Prop where
  pos : 1 ≤ level
  le : level ≤ 3
  here : table.tableAt (pathTo virt level) = some phys
  ends : 2 ≤ level → (table.read ⟨phys, indexAt virt level⟩).next = none ∧ entry.next = none
  word : entry.isUnused = true ∨ entry.isPresent = true

variable (hs : table.Sound) (h : table.Replaces virt level phys entry)
include hs h

lemma Replaces.wordAt {path : List Nat} (hlen : path.length ≤ 3) (i : Nat) :
    (table.write ⟨phys, indexAt virt level⟩ entry).wordAt path i =
      if path = pathTo virt level ∧ i = indexAt virt level then some entry else table.wordAt path i := by
  have hpath := pathTo_length virt level
  have hpos := h.pos
  refine wordAt_put hs.separate h.here (by omega) (fun hlt => h.ends (by omega)) hlen i

lemma Replaces.sound : (table.write ⟨phys, indexAt virt level⟩ entry).Sound := by
  have hpath := pathTo_length virt level
  have hpos := h.pos
  have hle := h.le
  have hends : (pathTo virt level).length < 3 → _ := fun hlt => h.ends (by omega)
  refine ⟨separate_put hs.separate h.here (by omega) hends, ?_, ?_⟩
  · intro path table' hlen htable
    refine hs.issued path table' hlen ?_
    rw [← htable]
    exact (tableAt_put hs.separate h.here (by omega) hends hlen).symm
  · intro path i word hlen hword
    rw [h.wordAt hs hlen] at hword
    split at hword
    · rename_i hhere
      obtain rfl := some.inj hword
      refine h.word.imp id fun hpresent => ⟨hpresent, fun hroot => ?_⟩
      rw [hhere.1] at hroot
      rw [hroot, length_nil] at hpath
      omega
    · exact hs.words path i word hlen hword

variable {u : Nat}

/-- Other leaves stay. -/
lemma Replaces.leaf_other {leaf : PageTableEntry}
    (hother : ¬ (level' = level ∧ pathTo u (level - 1) = pathTo virt (level - 1))) :
    (table.write ⟨phys, indexAt virt level⟩ entry).Leaf u level' leaf ↔ table.Leaf u level' leaf := by
  have hpos := h.pos
  have hle := h.le
  have hword : 1 ≤ level' → level' ≤ 4 →
      (table.write ⟨phys, indexAt virt level⟩ entry).wordAt (pathTo u level') (indexAt u level')
        = table.wordAt (pathTo u level') (indexAt u level') := by
    intro hpos' hle'
    rw [h.wordAt hs (pathTo_length_le u hpos'), if_neg]
    rwa [entry_eq_iff hpos (by omega) hpos' hle']
  constructor
  · intro hleaf
    exact hleaf.of_word ((hword hleaf.pos hleaf.le).symm.trans hleaf.word)
  · intro hleaf
    exact hleaf.of_word ((hword hleaf.pos hleaf.le).trans hleaf.word)

lemma Replaces.wordAt_here (hsame : pathTo u (level - 1) = pathTo virt (level - 1)) :
    (table.write ⟨phys, indexAt virt level⟩ entry).wordAt (pathTo u level) (indexAt u level)
      = some entry := by
  have hpos := h.pos
  have hle := h.le
  rw [h.wordAt hs (pathTo_length_le u hpos), if_pos]
  exact (entry_eq_iff hpos (by omega) hpos (by omega)).2 ⟨rfl, hsame⟩

/-- An address that is not below the entry is translated as before. -/
lemma Replaces.translate_other (hother : pathTo u (level - 1) ≠ pathTo virt (level - 1)) :
    (table.write ⟨phys, indexAt virt level⟩ entry).translate u = table.translate u :=
  translate_congr hs (h.sound hs) fun _ _ => h.leaf_other hs fun hsame => hother hsame.2

end Write

/-! ## Creating tables -/

/-- Tables may have been added, none of which maps anything. -/
structure Grown (before after : PageTable) : Prop where
  sound : after.Sound
  leaves : ∀ virt level entry, after.Leaf virt level entry ↔ before.Leaf virt level entry

lemma Grown.refl (hs : table.Sound) : table.Grown table := ⟨hs, fun _ _ _ => Iff.rfl⟩

lemma Grown.trans {a b c : PageTable} (h : a.Grown b) (h' : b.Grown c) : a.Grown c :=
  ⟨h'.sound, fun virt level entry => (h'.leaves virt level entry).trans (h.leaves virt level entry)⟩

lemma Grown.sameOn (hs : table.Sound) (h : table.Grown after) (keep : Nat → Prop) :
    SameOn keep table after :=
  fun virt _ _ => translate_congr hs h.sound (h.leaves virt)

lemma Grown.overlaps_iff (hs : table.Sound) (h : table.Grown after) (page : Page) :
    after.Overlaps page ↔ table.Overlaps page := by
  unfold Overlaps
  simp only [mapped_iff hs, mapped_iff h.sound, h.leaves]

/-- The allocator was asked in vain. -/
def asked (table : PageTable) : PageTable := { table with calls := table.calls + 1 }

lemma grown_asked (hs : table.Sound) : table.Grown table.asked := by
  refine ⟨⟨hs.separate, ?_, hs.words⟩, fun virt level entry => ?_⟩
  · intro path phys hlen htable
    obtain ⟨k, hk, hanswer⟩ := hs.issued path phys hlen htable
    exact ⟨k, Nat.lt_succ_of_lt hk, hanswer⟩
  · exact ⟨fun h => h.of_word h.word, fun h => h.of_word h.word⟩

/-- A zeroed table hung into an entry. -/
def link (table : PageTable) (ptr : EntryPtr) (fresh : Nat) : PageTable :=
  { table with
    calls := table.calls + 1
    memory := (table.memory.fill fresh .cleared).put ptr.table ptr.index (.ofTable fresh) }

lemma allocTable_of_none (h : table.allocator.answers table.calls = none) :
    allocTable table = (.error (.error .noMemory), table.asked) := by
  simp only [allocTable, bind, Action.andThen, Action.gets, Action.modify, h]
  rfl

section

variable {fresh : Nat}

lemma allocTable_of_some
    (h : table.allocator.answers table.calls = some (fresh + table.allocator.physicalMemoryOffset)) :
    allocTable table = (.ok fresh, { table.asked with memory := table.memory.fill fresh .cleared }) := by
  have hphys : virtToPhys table.allocator (fresh + table.allocator.physicalMemoryOffset) = some fresh := by
    rw [virtToPhys, if_pos (Nat.le_add_left _ _), Nat.add_sub_cancel]
  simp only [allocTable, bind, Action.andThen, Action.gets, Action.modify, Action.orFail, h,
    Action.ret, hphys]
  rfl

lemma ensureTable_of_none (hunused : (table.read ptr).isUnused = true)
    (h : table.allocator.answers table.calls = none) :
    ensureTable ptr true table = (.error (.error .noMemory), table.asked) := by
  simp only [ensureTable, bind, andThen, gets, hunused, if_true, ensure,
    ret, allocTable_of_none h]

lemma ensureTable_of_some (hunused : (table.read ptr).isUnused = true)
    (h : table.allocator.answers table.calls = some (fresh + table.allocator.physicalMemoryOffset)) :
    ensureTable ptr true table = (.ok (.ofTable fresh), table.link ptr fresh) := by
  simp only [ensureTable, bind, andThen, gets, hunused, if_true, ensure,
    ret, allocTable_of_some h]
  rfl

/-- The allocator has answered for an unused entry above level 1. -/
structure Links (table : PageTable) (virt level phys answer : Nat) : Prop where
  pos : 2 ≤ level
  le : level ≤ 4
  here : table.tableAt (pathTo virt level) = some phys
  unused : (table.read ⟨phys, indexAt virt level⟩).isUnused = true
  answered : table.allocator.answers table.calls = some answer

variable (hs : table.Sound) (h : table.Links virt level phys (fresh + table.allocator.physicalMemoryOffset))
include hs h

/-- The frame is none of the tables. -/
lemma Links.unreached (path : List Nat) (hlen : path.length ≤ 3) :
    table.tableAt path ≠ some fresh := by
  intro htable
  obtain ⟨k, hk, hanswer⟩ := hs.issued path _ hlen htable
  have := table.allocator.distinct _ _ _ hanswer h.answered
  omega

omit hs in
lemma Links.physAddr : (ofTable fresh).physAddr = fresh := by
  obtain ⟨haligned, hbound⟩ := table.allocator.aligned _ _ h.answered
  rw [Nat.add_sub_cancel] at haligned hbound
  exact physAddr_ofTable haligned hbound

lemma Links.hangs : Tables.Hangs next table.memory table.rootPhys 3 (pathTo virt level)
    (indexAt virt level) phys fresh .cleared (.ofTable fresh) where
  separate := hs.separate
  here := h.here
  short := by
    have hpos := h.pos
    rw [pathTo_length]
    omega
  unreached := h.unreached hs
  old_ends := next_of_unused h.unused
  zero_ends := rfl
  new_leads := by rw [next_of_table (isPresent_ofTable _) (isLeaf_ofTable _), h.physAddr]

omit hs in
lemma Links.path_below : pathTo virt (level - 1) = pathTo virt level ++ [indexAt virt level] := by
  obtain ⟨below, rfl⟩ : ∃ below, level = below + 1 := ⟨level - 1, by have := h.pos; omega⟩
  exact pathTo_pred virt (by have := h.le; omega)

lemma Links.tableAt (path : List Nat) (hlen : path.length ≤ 3) :
    (table.link ⟨phys, indexAt virt level⟩ fresh).tableAt path =
      if path = pathTo virt (level - 1) then some fresh else table.tableAt path := by
  rw [h.path_below]
  exact (h.hangs hs).tableAt_link hlen

lemma Links.wordAt (path : List Nat) (hlen : path.length ≤ 3) (i : Nat) :
    (table.link ⟨phys, indexAt virt level⟩ fresh).wordAt path i =
      if path = pathTo virt (level - 1) then some .cleared
      else if path = pathTo virt level ∧ i = indexAt virt level then some (.ofTable fresh)
      else table.wordAt path i := by
  rw [h.path_below]
  exact (h.hangs hs).wordAt_link hlen i

lemma Links.sound : (table.link ⟨phys, indexAt virt level⟩ fresh).Sound := by
  refine ⟨(h.hangs hs).separate_link, ?_, ?_⟩
  · intro path table' hlen htable
    rw [h.tableAt hs path hlen] at htable
    split at htable
    · obtain rfl := some.inj htable
      exact ⟨table.calls, Nat.lt_succ_self _, h.answered⟩
    · obtain ⟨k, hk, hanswer⟩ := hs.issued path table' hlen htable
      exact ⟨k, Nat.lt_succ_of_lt hk, hanswer⟩
  · intro path i entry hlen hword
    rw [h.wordAt hs path hlen] at hword
    split at hword
    · obtain rfl := some.inj hword
      exact .inl rfl
    · split at hword
      · obtain rfl := some.inj hword
        exact .inr ⟨isPresent_ofTable _, fun _ => isLeaf_ofTable _⟩
      · exact hs.words path i entry hlen hword

omit hs in
/-- There was no table below the entry. -/
lemma Links.tableAt_below : table.tableAt (pathTo virt (level - 1)) = none := by
  obtain ⟨below, rfl⟩ : ∃ below, level = below + 1 := ⟨level - 1, by have := h.pos; omega⟩
  rw [Nat.add_sub_cancel, tableAt_pathTo virt (by have := h.le; omega), wordAt_read h.here]
  exact next_of_unused h.unused

/-- The new table maps nothing, and neither did the entry before. -/
lemma Links.grown : table.Grown (table.link ⟨phys, indexAt virt level⟩ fresh) := by
  have hlevel := h.pos
  refine ⟨h.sound hs, fun u level' entry => ⟨fun hleaf => ?_, fun hleaf => ?_⟩⟩
  · have hword := hleaf.word
    rw [h.wordAt hs _ (pathTo_length_le u hleaf.pos)] at hword
    split at hword
    · obtain rfl := some.inj hword
      exact absurd hleaf.present (by decide)
    · split at hword
      · rename_i hhere
        obtain rfl := some.inj hword
        rcases hleaf.ends with hone | hends
        · have hlength := congrArg length hhere.1
          rw [pathTo_length, pathTo_length] at hlength
          omega
        · rw [isLeaf_ofTable] at hends
          cases hends
      · exact hleaf.of_word hword
  · obtain ⟨phys', htable, hread⟩ := wordAt_eq_some.1 hleaf.word
    have hnotBelow : pathTo u level' ≠ pathTo virt (level - 1) := by
      intro hpath
      rw [hpath, h.tableAt_below] at htable
      cases htable
    have hnotHere : ¬ (pathTo u level' = pathTo virt level ∧ indexAt u level' = indexAt virt level) := by
      rintro ⟨hpath, hindex⟩
      rw [hpath] at htable
      obtain rfl := mem_unique htable h.here
      have hunused := h.unused
      rw [PageTable.read, ← hindex, hread, isUnused_of_isPresent hleaf.present] at hunused
      cases hunused
    apply hleaf.of_word
    rw [h.wordAt hs _ (pathTo_length_le u hleaf.pos), if_neg hnotBelow, if_neg hnotHere]
    exact hleaf.word

end

/-! ## The creating walk -/

/-- The path of the address ends, at the level or above it, in an unused entry. -/
def Vacant (table : PageTable) (virt target : Nat) : Prop :=
  ∃ level entry, 1 ≤ target ∧ target ≤ level ∧ level ≤ 4 ∧
    table.wordAt (pathTo virt level) (indexAt virt level) = some entry ∧ entry.isUnused = true

lemma Vacant.not_overlaps (hs : table.Sound) (hpage : Canonical page.startVaddr)
    (h : table.Vacant page.startVaddr page.size.level) : ¬ table.Overlaps page := by
  obtain ⟨level, entry, hpos, hge, hle, hword, hunused⟩ := h
  rintro ⟨virt, hin, hmapped⟩
  obtain ⟨level', leaf, hleaf⟩ := (mapped_iff hs).1 hmapped
  have hpath := (contains_iff hpage (Page.canonical_of_contains hpage hin)).1 hin
  have habove : pathTo virt (level - 1) = pathTo page.startVaddr (level - 1) := by
    have htake := congrArg (take (4 - (level - 1))) hpath
    simp only [pathTo, take_take] at htake ⊢
    rwa [min_eq_left (by omega)] at htake
  obtain ⟨hpath, hindex⟩ := (entry_eq_iff (by omega) hle (by omega) hle).2 ⟨rfl, habove⟩
  rw [← hpath, ← hindex] at hword
  exact not_leaf_of_unused (by omega) hle hword hunused hleaf

/-- How the walk to a level ends: at the entry of that level, without memory, or at a huge page. -/
inductive Descent (before : PageTable) (virt target : Nat) :
    Except (Fault PagingError) (EntryPtr × PageSize) × PageTable → Prop
  | arrived {after : PageTable} {phys : Nat} {size : PageSize} (hgrown : before.Grown after)
      (htable : after.tableAt (pathTo virt target) = some phys)
      (hsame : after = before ∨ (after.read ⟨phys, indexAt virt target⟩).isUnused = true) :
      Descent before virt target (.ok (⟨phys, indexAt virt target⟩, size), after)
  | noMemory {after : PageTable} (hgrown : before.Grown after) (hvacant : after.Vacant virt target) :
      Descent before virt target (.error (.error .noMemory), after)
  | huge {after : PageTable} {level : Nat} {entry : PageTableEntry} (hgrown : before.Grown after)
      (hleaf : before.Leaf virt level entry) :
      Descent before virt target (.error (.error .parentIsHugePage), after)

/-- A walk that goes on below a table it has just created arrives at an unused entry. -/
lemma Descent.of_link {fresh : Nat} (hs : table.Sound)
    (h : table.Links virt (level + 1) phys (fresh + table.allocator.physicalMemoryOffset))
    (hpos : 1 ≤ target) (hle : target ≤ level)
    {result : Except (Fault PagingError) (EntryPtr × PageSize) × PageTable}
    (hdescent : Descent (table.link ⟨phys, indexAt virt (level + 1)⟩ fresh) virt target result) :
    Descent table virt target result := by
  have hgrow := h.grown hs
  cases hdescent with
  | noMemory hgrown hvacant => exact .noMemory (hgrow.trans hgrown) hvacant
  | huge hgrown hleaf => exact .huge (hgrow.trans hgrown) ((hgrow.leaves _ _ _).1 hleaf)
  | @arrived after phys' size hgrown htable hsame =>
    refine .arrived (hgrow.trans hgrown) htable (.inr ?_)
    rcases hsame with rfl | hunused
    · -- only the new table can hold the entry: below it there is nothing
      have hlevel := h.le
      have hword := wordAt_read htable (indexAt virt target)
      have hnew := h.wordAt hs (pathTo virt level) (pathTo_length_le virt (by omega)) (indexAt virt level)
      rw [if_pos (by rw [Nat.add_sub_cancel])] at hnew
      rcases lt_or_eq_of_le hle with hlt | rfl
      · obtain ⟨below, hbelow⟩ := next_of_deeper (by omega) hlt hnew hword
        cases hbelow
      · rw [← mem_unique hnew hword]
        rfl
    · exact hunused

lemma walk_descent (hpos : 1 ≤ target) (htop : target ≤ 3) (virt : Nat)
    (hs : table.Sound) (hge : target ≤ level) (hle : level ≤ 4)
    (htable : table.tableAt (pathTo virt level) = some phys) :
    Descent table virt target (walkToLeafMut virt (some target) true level phys table) := by
  induction level generalizing table phys with
  | zero => omega
  | succ level ih =>
    have hlen := pathTo_length_le virt (Nat.le_add_left 1 level)
    have hptr := hs.entryPtr_eq hlen htable (indexAt virt (level + 1))
    rw [walkToLeafMut]
    change Descent table virt target ((entryPtr phys (indexAt virt (level + 1)) >>= _) table)
    rw [bind_of_ok hptr]
    by_cases hhere : target = level + 1
    · subst hhere
      obtain ⟨size, hsize, -⟩ := ofLevel_eq_some hpos htop
      rw [if_pos rfl, hsize]
      exact .arrived (.refl hs) htable (.inl rfl)
    · rw [if_neg (by simpa using hhere)]
      generalize hentry : table.read ⟨phys, indexAt virt (level + 1)⟩ = entry
      have hword : table.wordAt (pathTo virt (level + 1)) (indexAt virt (level + 1)) = some entry :=
        wordAt_eq_some.2 ⟨phys, htable, hentry⟩
      rcases hs.words _ _ _ hlen hword with hunused | ⟨hpresent, -⟩
      · rw [← hentry] at hunused
        cases hanswer : table.allocator.answers table.calls with
        | none =>
          rw [bind_of_error (ensureTable_of_none hunused hanswer)]
          exact .noMemory (grown_asked hs)
            ⟨level + 1, entry, hpos, hge, hle, hword, hentry ▸ hunused⟩
        | some answer =>
          obtain ⟨fresh, rfl⟩ := Nat.exists_eq_add_of_le' (table.allocator.mapped _ _ hanswer).1
          have hlinks : table.Links virt (level + 1) phys _ := ⟨by omega, hle, htable, hunused, hanswer⟩
          rw [bind_of_ok (ensureTable_of_some hunused hanswer), ensure, if_pos (isPresent_ofTable _), ensure,
            if_pos (isLeaf_ofTable _), hlinks.physAddr]
          refine .of_link hs hlinks hpos (by omega) ?_
          refine ih (hlinks.sound hs) (by omega) (by omega) ?_
          rw [hlinks.tableAt hs _ (pathTo_length_le virt (by omega))]
          exact if_pos (by rw [Nat.add_sub_cancel])
      · have hused := isUnused_of_isPresent hpresent
        rw [← hentry] at hused
        rw [bind_of_ok (ensureTable_of_used true hused), hentry, ensure, if_pos hpresent]
        cases hleaf : entry.isLeaf with
        | true =>
          exact .huge (.refl hs) ⟨by omega, hle, hword, hpresent, .inr hleaf⟩
        | false => exact ih hs (by omega) (by omega) (tableAt_next (by omega) hpresent hleaf hword)

end PageTable

end Akarin.Arch
