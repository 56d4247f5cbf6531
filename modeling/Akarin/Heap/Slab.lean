/-
# Akarin.Heap.Slab -- the slab allocator, one call after the other

A page of a size class is cut into objects; the objects that are free are threaded into a list through
their first words, and the page's metadata holds the head of the list and a reference count. A cache
holds one page per class and gives its objects out. A page that has run out is let go by its cache and
lives on by its objects; the first object that comes back to it may put it into a cache again, and the
last reference that goes returns it to the frame allocator.

The calls are taken whole here, each one running to its end before the next; `SlabLaw` says what the
pages, their lists and their counts look like between two of them. A cache marks a free slot with the page
address zero, so that the law takes a frame allocator that does not hand out the first physical page.
-/
import Akarin.Heap.Pages
import Akarin.Lib.Chain
import Akarin.Lib.Tasks

namespace Akarin.Heap

open List Function Option Prod
open Lib (runOps Meets run_invariant Chain weigh weigh_set)

/-! ## Model -/

/-- The metadata of one slab page. -/
structure SlubPageMeta where
  freeHead : Nat
  refcount : Nat

/-- A range of pages with metadata. -/
structure SlubSection where
  startPhys : Nat
  endPhys : Nat

def SlubSection.contains (range : SlubSection) (phys : Nat) : Bool :=
  range.startPhys ≤ phys && phys < range.endPhys

/-- `fetch_add(1)`. -/
def wrappingSucc (n : Nat) : Nat := (n + 1) % 2 ^ 64

/-- `fetch_sub(1)`. -/
def wrappingPred (n : Nat) : Nat := (n + (2 ^ 64 - 1)) % 2 ^ 64

/-- The runtime with the words of memory it threads its lists through, and the caches. The metadata of a
page is found through the sections; it is kept by page here. History: the pages it has from the frame
allocator and the objects that are given out, each with its class. -/
structure Slab where
  sections : List SlubSection
  metas : Nat → SlubPageMeta
  memory : Nat → Nat
  caches : List (List Nat)
  pages : List (Nat × Nat)
  live : List (Nat × Nat)

/-- How `alloc` ends. -/
inductive AllocResult where
  | object (ptr : Nat)
  | outOfMemory
  /-- The metadata of a page is missing. -/
  | panicked
  deriving DecidableEq

namespace Slab

section

variable (s : Slab)

/-- `meta_for_phys` finds a section. -/
def hasMeta (phys : Nat) : Bool := s.sections.any (·.contains phys)

def setFreeHead (page head : Nat) : Slab :=
  { s with metas := update s.metas page { s.metas page with freeHead := head } }

def setRefcount (page refcount : Nat) : Slab :=
  { s with metas := update s.metas page { s.metas page with refcount := refcount } }

def write (address value : Nat) : Slab :=
  { s with memory := update s.memory address value }

/-- `current_pages[class_index]` of a cache. -/
def current (cache k : Nat) : Nat := ((s.caches[cache]?).bind (·[k]?)).getD 0

def setCurrent (cache k page : Nat) : Slab :=
  match s.caches[cache]? with
  | none => s
  | some slots => { s with caches := s.caches.set cache (slots.set k page) }

end

/-- The loop of `initialize_page`, over the indices below `count` from the last one on. -/
def linkObjects (page size : Nat) : (count head : Nat) → (Nat → Nat) → (Nat → Nat) × Nat
  | 0, head, memory => (memory, head)
  | index + 1, head, memory =>
    linkObjects page size index (physToVirt page + index * size)
      (update memory (physToVirt page + index * size) head)

section

variable (s : Slab)

def initializePage (page size : Nat) : Slab :=
  let linked := linkObjects page size (PAGE_SIZE / size) 0 s.memory
  { s with memory := linked.1 }.setFreeHead page linked.2

def freePage (page : Nat) : Slab :=
  { s with
    metas := update s.metas page ⟨0, 0⟩
    pages := s.pages.filter (·.1 ≠ page) }

def releaseCacheReference (page : Nat) : Slab :=
  let refcount := (s.metas page).refcount
  let s := s.setRefcount page (wrappingPred refcount)
  if refcount = 1 then s.freePage page else s

/-- `alloc` has a page from the frame allocator. -/
def installPage (cache k page : Nat) : Slab :=
  ({ s with pages := (page, k) :: s.pages }.initializePage page (objectSize k)
    |>.setRefcount page 1).setCurrent cache k page

/-- `alloc` takes the first object of the current page. -/
def takeObject (cache k page : Nat) : Slab :=
  let head := (s.metas page).freeHead
  let next := s.memory head
  let s := s.setFreeHead page next
  let s := s.setRefcount page (wrappingSucc (s.metas page).refcount)
  let s := if next = 0 then (s.setCurrent cache k 0).releaseCacheReference page else s
  { s with live := (head, k) :: s.live }

/-- What the current page is good for. -/
inductive Attempt where
  | finished (s : Slab) (result : AllocResult)
  /-- There is no current page any more. -/
  | exhausted (s : Slab)

/-- One turn of the loop of `alloc`, up to the request for a page. The exchange of the list's head
succeeds, as nobody else runs. -/
def tryCurrent (cache k : Nat) : Attempt :=
  let page := s.current cache k
  if page = 0 then .exhausted s
  else if s.hasMeta page = false then .finished s .panicked
  else if (s.metas page).freeHead = 0 then
    .exhausted ((s.setCurrent cache k 0).releaseCacheReference page)
  else .finished (s.takeObject cache k page) (.object (s.metas page).freeHead)

/-- `alloc`; `frames` are the pages that the frame allocator hands out when it is asked. -/
def alloc (s : Slab) (cache k : Nat) : List Nat → Slab × AllocResult
  | [] =>
    match s.tryCurrent cache k with
    | .finished s result => (s, result)
    | .exhausted s => (s, .outOfMemory)
  | page :: frames =>
    match s.tryCurrent cache k with
    | .finished s result => (s, result)
    | .exhausted s =>
      if s.hasMeta page then alloc (s.installPage cache k page) cache k frames
      else (s, .panicked)

/-- `dealloc` of an object of class `k` whose page has metadata. -/
def deallocObject (cache ptr k page : Nat) : Slab :=
  let head := (s.metas page).freeHead
  let refcount := (s.metas page).refcount
  let s := ((s.write ptr head).setFreeHead page ptr).setRefcount page (wrappingPred refcount)
  let s := { s with live := s.live.erase (ptr, k) }
  if refcount = 1 then s.freePage page
  else if head = 0 ∧ s.current cache k = 0 then
    (s.setRefcount page (wrappingSucc (s.metas page).refcount)).setCurrent cache k page
  else s

def dealloc (cache ptr size align : Nat) : Slab :=
  match classIndex size align with
  | none => s
  | some k =>
    match pageBaseForPtr ptr with
    | none => s
    | some page => if s.hasMeta page then s.deallocObject cache ptr k page else s

/-- `release` of the slots from the first one on; it panics if the metadata of a page is missing. -/
def releaseSlots (s : Slab) (cache : Nat) : List Nat → Slab
  | [] => s
  | k :: ks =>
    let page := s.current cache k
    if page = 0 then s.releaseSlots cache ks
    else if s.hasMeta page = false then s
    else ((s.releaseCacheReference page).setCurrent cache k 0).releaseSlots cache ks

def release (cache : Nat) : Slab := s.releaseSlots cache (List.range SIZE_CLASSES.length)

end

/-- The runtime with zeroed metadata and `cacheCount` empty caches. -/
def new (sections : List SlubSection) (memory : Nat → Nat) (cacheCount : Nat) : Slab where
  sections := sections
  metas := fun _ => ⟨0, 0⟩
  memory := memory
  caches := List.replicate cacheCount (List.replicate SIZE_CLASSES.length 0)
  pages := []
  live := []

end Slab

/-- Calls on the slab, and stores of its users. -/
inductive SlabOp where
  | alloc (cache size align : Nat) (frames : List Nat)
  | dealloc (cache ptr size align : Nat)
  | release (cache : Nat)
  /-- The owner of an object stores a word in it. -/
  | store (address value : Nat)

namespace Slab

def step (s : Slab) : SlabOp → Slab
  | .alloc cache size align frames =>
    match classIndex size align with
    | none => s
    | some k => (s.alloc cache k frames).1
  | .dealloc cache ptr size align => s.dealloc cache ptr size align
  | .release cache => s.release cache
  | .store address value => s.write address value

def run (s : Slab) (ops : List SlabOp) : Slab := runOps step s ops

/-! ## What is asked of the callers, and what the allocator promises -/

/-- The word at the address belongs to the object. -/
def Holds (object : Nat × Nat) (address : Nat) : Prop :=
  object.1 ≤ address ∧ address + 8 ≤ object.1 + objectSize object.2
deriving Decidable

/-- The frame allocator hands out pages that are not in use; what is freed is live and has the class it
was allocated with; a store stays inside a live object. -/
def Legal (s : Slab) : SlabOp → Prop
  | .alloc cache _ _ frames =>
    cache < s.caches.length ∧ frames.Nodup ∧
      ∀ page ∈ frames, page % PAGE_SIZE = 0 ∧ page ∉ s.pages.map Prod.fst
  | .dealloc cache ptr size align =>
    cache < s.caches.length ∧ ∃ k ∈ classIndex size align, (ptr, k) ∈ s.live
  | .release cache => cache < s.caches.length
  | .store address _ => address % 8 = 0 ∧ ∃ object ∈ s.live, Holds object address

/-- The frame allocator does not hand out the physical page zero. -/
def NoZeroPage : SlabOp → Prop
  | .alloc _ _ _ frames => 0 ∉ frames
  | _ => True

def inPage (page : Nat) (object : Nat × Nat) : Bool := pageBaseForPtr object.1 == some page

/-- How many live objects the page has. -/
def liveIn (s : Slab) (page : Nat) : Nat := s.live.countP (inPage page)

/-- How many slots of caches hold the page. -/
def holders (s : Slab) (page : Nat) : Nat :=
  if page = 0 then 0 else weigh (fun slots => slots.count page) s.caches

/-- Two objects do not overlap. -/
def Apart (a b : Nat × Nat) : Prop :=
  a.1 + objectSize a.2 ≤ b.1 ∨ b.1 + objectSize b.2 ≤ a.1

/-- Live objects are apart; the rest is on free lists. -/
structure SlabLaw (s : Slab) : Prop where
  live_in_page : ∀ a k, (a, k) ∈ s.live → ∃ page, (page, k) ∈ s.pages ∧ physToVirt page ≤ a ∧
    a + objectSize k ≤ physToVirt page + PAGE_SIZE ∧ a % objectSize k = 0
  live_apart : s.live.Pairwise Apart
  free_list : ∀ page k, (page, k) ∈ s.pages → ∃ free,
    Chain s.memory (s.metas page).freeHead free ∧ free.Nodup ∧
      ∀ a, a ∈ free ↔ a ∈ objects page k ∧ (a, k) ∉ s.live
  refcount : ∀ page k, (page, k) ∈ s.pages →
    (s.metas page).refcount = s.liveIn page + s.holders page ∧ s.holders page ≤ 1
  returned : ∀ page, page ∈ s.pages.map Prod.fst ↔ 0 < s.liveIn page + s.holders page
  /-- A call of `alloc` that returns an object adds it to the live ones, and it returns one if it has a
  page with metadata to turn to. -/
  returns : ∀ cache size align frames k, s.Legal (.alloc cache size align frames) → 0 ∉ frames →
    classIndex size align = some k →
    (∀ a, (s.alloc cache k frames).2 = .object a → (s.alloc cache k frames).1.live = (a, k) :: s.live) ∧
    ((∀ page ∈ frames, s.hasMeta page) → frames ≠ [] → ∃ a, (s.alloc cache k frames).2 = .object a)

/-! ## The invariant -/

/-- A page in use: its list holds what is free in it, and its count is what refers to it, with the references
that a call has in hand. -/
structure PageSound (s : Slab) (inHand page k : Nat) : Prop where
  class_lt : k < SIZE_CLASSES.length
  aligned : page % PAGE_SIZE = 0
  ne_zero : page ≠ 0
  hasMeta : s.hasMeta page = true
  free_list : ∃ free, Chain s.memory (s.metas page).freeHead free ∧ free.Nodup ∧
    ∀ a, a ∈ free ↔ a ∈ objects page k ∧ (a, k) ∉ s.live
  refcount : (s.metas page).refcount = s.liveIn page + s.holders page + inHand
  counted : 0 < (s.metas page).refcount

/-- The invariant while a call has a reference to the page `hand`; zero stands for no page, as in a slot. -/
structure Balanced (s : Slab) (hand : Nat) : Prop where
  pages_nodup : (s.pages.map Prod.fst).Nodup
  page : ∀ page k, (page, k) ∈ s.pages → s.PageSound (if page = hand then 1 else 0) page k
  live_nodup : s.live.Nodup
  live_mem : ∀ a k, (a, k) ∈ s.live → ∃ page, (page, k) ∈ s.pages ∧ a ∈ objects page k
  slots : ∀ slots ∈ s.caches, slots.length = SIZE_CLASSES.length
  current : ∀ cache k, s.current cache k ≠ 0 →
    (s.current cache k, k) ∈ s.pages ∧ (s.metas (s.current cache k)).freeHead ≠ 0
  holders_le : ∀ page, s.holders page ≤ 1

/-- Between two calls. -/
abbrev Sound (s : Slab) : Prop := s.Balanced 0

variable {s s' : Slab} {page k cache hand : Nat}

lemma PageSound.base {inHand a : Nat} (h : s.PageSound inHand page k) (ha : a ∈ objects page k) :
    pageBaseForPtr a = some page :=
  pageBaseForPtr_object h.class_lt h.aligned ha

/-! ### Caches -/

variable {slots : List Nat} {a n size : Nat}

section

variable (hslots : s.caches[cache]? = some slots)
include hslots

lemma current_eq (k : Nat) : s.current cache k = (slots[k]?).getD 0 := by
  simp [current, hslots]

lemma setCurrent_eq (k page : Nat) :
    s.setCurrent cache k page = { s with caches := s.caches.set cache (slots.set k page) } := by
  simp [setCurrent, hslots]

lemma current_setCurrent
    (hk : k < slots.length) (page cache' k' : Nat) : (s.setCurrent cache k page).current cache' k' =
      if cache' = cache ∧ k' = k then page else s.current cache' k' := by
  have hlt := (List.getElem?_eq_some_iff.1 hslots).1
  rw [setCurrent_eq hslots]
  by_cases hcache : cache' = cache
  · subst hcache
    have hnew : (s.caches.set cache' (slots.set k page))[cache']? = some (slots.set k page) :=
      getElem?_set_self hlt
    rw [current_eq hslots, current, hnew]
    by_cases hkk : k' = k
    · subst hkk
      simp [getElem?_set_self hk]
    · simp [hkk, getElem?_set_ne (Ne.symm hkk)]
  · rw [if_neg (fun h => hcache h.1), current, current]
    simp only
    rw [getElem?_set_ne (Ne.symm hcache)]

end

lemma count_set (hk : k < slots.length) (new page : Nat) :
    (slots.set k new).count page + (if page = slots[k] then 1 else 0) =
      slots.count page + (if page = new then 1 else 0) := by
  obtain ⟨before, after, heq, hset⟩ := Akarin.Lib.set_split (getElem?_eq_getElem hk)
  have hcount := congrArg (count page) heq
  rw [hset]
  simp only [count_append, count_cons, beq_iff_eq, eq_comm (a := page)] at hcount ⊢
  omega

/-- A slot that is written is one holder less for the old page and one more for the new. -/
lemma holders_setCurrent (hslots : s.caches[cache]? = some slots)
    (hk : k < slots.length) (new : Nat) (hpage : page ≠ 0) :
    (s.setCurrent cache k new).holders page + (if page = s.current cache k then 1 else 0) =
      s.holders page + (if page = new then 1 else 0) := by
  have hweigh := weigh_set (fun slots : List Nat => slots.count page) hslots (slots.set k new)
  have hcount := count_set hk new page
  rw [setCurrent_eq hslots, current_eq hslots, getElem?_eq_getElem hk]
  simp only [holders, if_neg hpage, getD_some] at *
  omega

/-- A slot that holds the page is counted. -/
lemma holders_pos (h : s.current cache k = page) (hpage : page ≠ 0) : 0 < s.holders page := by
  rw [holders, if_neg hpage]
  simp only [current] at h
  cases hslots : s.caches[cache]? with
  | none =>
    rw [hslots] at h
    exact absurd h.symm hpage
  | some slots =>
    have hle := Akarin.Lib.le_weigh (fun slots : List Nat => slots.count page) (mem_of_getElem? hslots)
    refine lt_of_lt_of_le (count_pos_iff.2 ?_) hle
    rw [hslots] at h
    cases hslot : slots[k]? with
    | none =>
      simp only [bind_some, hslot, getD_none] at h
      exact absurd h.symm hpage
    | some value =>
      simp only [bind_some, hslot, getD_some] at h
      exact h ▸ mem_of_getElem? hslot

/-- A page that is counted is in a slot. -/
lemma exists_current (h : 0 < s.holders page) : ∃ cache k, s.current cache k = page := by
  have hpage : page ≠ 0 := by
    rintro rfl
    exact absurd h (lt_irrefl 0)
  rw [holders, if_neg hpage] at h
  by_contra hnone
  refine absurd (Akarin.Lib.weigh_eq_zero fun slots hslots => ?_) (Nat.ne_of_gt h)
  refine count_eq_zero.2 fun hmem => hnone ?_
  obtain ⟨cache, hcache⟩ := mem_iff_getElem?.1 hslots
  obtain ⟨k, hk⟩ := mem_iff_getElem?.1 hmem
  exact ⟨cache, k, by rw [current_eq hcache, hk]; rfl⟩

lemma slots_setCurrent (h : ∀ slots ∈ s.caches, slots.length = SIZE_CLASSES.length) (cache k page : Nat) :
    ∀ slots ∈ (s.setCurrent cache k page).caches, slots.length = SIZE_CLASSES.length := by
  intro slots hmem
  unfold setCurrent at hmem
  split at hmem
  · exact h slots hmem
  · rename_i old hold
    rcases mem_or_eq_of_mem_set hmem with hmem | rfl
    · exact h slots hmem
    · rw [length_set]
      exact h old (mem_of_getElem? hold)

section

variable (s : Slab) (cache k page : Nat)

@[simp] lemma setCurrent_sections : (s.setCurrent cache k page).sections = s.sections := by
  unfold setCurrent; split <;> rfl

@[simp] lemma setCurrent_metas : (s.setCurrent cache k page).metas = s.metas := by
  unfold setCurrent; split <;> rfl

@[simp] lemma setCurrent_memory : (s.setCurrent cache k page).memory = s.memory := by
  unfold setCurrent; split <;> rfl

@[simp] lemma setCurrent_pages : (s.setCurrent cache k page).pages = s.pages := by
  unfold setCurrent; split <;> rfl

@[simp] lemma setCurrent_live : (s.setCurrent cache k page).live = s.live := by
  unfold setCurrent; split <;> rfl

end

/-! ### Changes of one page -/

/-- The page of a live object. -/
lemma Balanced.page_of_live (h : s.Balanced hand) {k page : Nat} (hlive : (a, k) ∈ s.live)
    (hbase : pageBaseForPtr a = some page) : (page, k) ∈ s.pages ∧ a ∈ objects page k := by
  obtain ⟨page', hpage', hobject⟩ := h.live_mem a k hlive
  have hsound := h.page page' k hpage'
  obtain rfl := mem_unique hbase (hsound.base hobject)
  exact ⟨hpage', hobject⟩

/-- What a step that works on the page `p` leaves alone. -/
structure SameBut (s s' : Slab) (p : Nat) : Prop where
  sections : s'.sections = s.sections := by rfl
  caches : s'.caches = s.caches := by rfl
  metas : ∀ page ≠ p, s'.metas page = s.metas page := by exact fun _ _ => rfl
  memory : ∀ a, pageBaseForPtr a ≠ some p → s'.memory a = s.memory a := by exact fun _ _ => rfl
  live : ∀ object, inPage p object = false → (object ∈ s'.live ↔ object ∈ s.live) := by
    exact fun _ _ => Iff.rfl
  liveIn : ∀ page ≠ p, s'.liveIn page = s.liveIn page := by exact fun _ _ => rfl
  pages : ∀ page k, page ≠ p → ((page, k) ∈ s'.pages ↔ (page, k) ∈ s.pages) := by
    exact fun _ _ _ => Iff.rfl

lemma SameBut.holders_eq {p : Nat} (h : s.SameBut s' p) (page : Nat) : s'.holders page = s.holders page := by
  rw [holders, h.caches, holders]

lemma SameBut.current_eq {p : Nat} (h : s.SameBut s' p) (cache k : Nat) :
    s'.current cache k = s.current cache k := by
  rw [current, h.caches, current]

/-- The other pages. -/
lemma PageSound.frame {p inHand : Nat} (h : s.PageSound inHand page k) (hsame : s.SameBut s' p)
    (hne : page ≠ p) : s'.PageSound inHand page k := by
  obtain ⟨free, hchain, hnodup, hmem⟩ := h.free_list
  refine { h with hasMeta := ?_, free_list := ⟨free, ?_, hnodup, fun a => ?_⟩, refcount := ?_, counted := ?_ }
  · rw [Slab.hasMeta, hsame.sections]
    exact h.hasMeta
  · rw [hsame.metas page hne]
    refine hchain.congr fun a ha => hsame.memory a ?_
    rw [h.base ((hmem a).1 ha).1]
    exact fun hp => hne (some.inj hp)
  · rw [hmem]
    refine and_congr_right fun hobject => not_congr (hsame.live (a, k) ?_).symm
    simp [inPage, h.base hobject, hne]
  · rw [hsame.metas page hne, hsame.liveIn page hne, hsame.holders_eq]
    exact h.refcount
  · rw [hsame.metas page hne]
    exact h.counted

/-- A step that works on one page keeps the invariant if it does so on this page. -/
lemma Balanced.of_page {p hand' : Nat} (h : s.Balanced hand) (hsame : s.SameBut s' p)
    (hhand : ∀ page ≠ p, page ≠ 0 → (page = hand' ↔ page = hand)) (hlive_nodup : s'.live.Nodup)
    (hpages_nodup : (s'.pages.map fst).Nodup)
    (hown : ∀ k, (p, k) ∈ s'.pages → s'.PageSound (if p = hand' then 1 else 0) p k)
    (hown_live : ∀ a k, (a, k) ∈ s'.live → inPage p (a, k) = true → (p, k) ∈ s'.pages ∧ a ∈ objects p k)
    (hown_current : ∀ cache k, s.current cache k = p → p ≠ 0 →
      (p, k) ∈ s'.pages ∧ (s'.metas p).freeHead ≠ 0) : s'.Balanced hand' where
  pages_nodup := hpages_nodup
  page page k hmem := by
    by_cases heq : page = p
    · subst heq
      exact hown k hmem
    · have hold := h.page page k ((hsame.pages page k heq).1 hmem)
      rw [if_congr (hhand page heq hold.ne_zero) rfl rfl]
      exact hold.frame hsame heq
  live_nodup := hlive_nodup
  live_mem a k hmem := by
    by_cases hin : inPage p (a, k) = true
    · exact ⟨p, hown_live a k hmem hin⟩
    · obtain ⟨page, hpage, hobject⟩ := h.live_mem a k ((hsame.live (a, k) (Bool.eq_false_iff.2 hin)).1 hmem)
      refine ⟨page, (hsame.pages page k ?_).2 hpage, hobject⟩
      rintro rfl
      exact hin (by simp [inPage, (h.page page k hpage).base hobject])
  slots := hsame.caches ▸ h.slots
  current cache k hne := by
    rw [hsame.current_eq] at hne ⊢
    by_cases heq : s.current cache k = p
    · rw [heq] at hne ⊢
      exact hown_current cache k heq hne
    · rw [hsame.pages _ k heq, hsame.metas _ heq]
      exact h.current cache k hne
  holders_le page := hsame.holders_eq page ▸ h.holders_le page

lemma Balanced.class_unique (h : s.Balanced hand) {j : Nat} (hk : (page, k) ∈ s.pages)
    (hj : (page, j) ∈ s.pages) : j = k :=
  congrArg snd (inj_on_of_nodup_map h.pages_nodup hj hk rfl)

/-- A page has 512 objects at most. -/
lemma countP_inPage_le {live : List (Nat × Nat)} (hk : k < SIZE_CLASSES.length) (hnodup : live.Nodup)
    (hin : ∀ a j, (a, j) ∈ live → pageBaseForPtr a = some page → k = j ∧ a ∈ objects page k) :
    live.countP (inPage page) ≤ 512 := by
  have hsub : (live.filter (inPage page)) ⊆ (objects page k).map fun a => (a, k) := by
    rintro ⟨a, j⟩ hmem
    obtain ⟨hlive, hbase⟩ := mem_filter.1 hmem
    obtain ⟨rfl, hobject⟩ := hin a j hlive (by simpa [inPage] using hbase)
    exact mem_map.2 ⟨a, hobject, rfl⟩
  have hle := (subperm_of_subset (hnodup.filter _) hsub).length_le
  obtain ⟨hsize, _, _⟩ := objectSize_spec hk
  have hobjects : PAGE_SIZE / objectSize k ≤ 512 :=
    le_trans (Nat.div_le_div_left hsize (by decide)) (by decide)
  rw [length_map, length_objects] at hle
  rw [countP_eq_length_filter]
  omega

lemma Balanced.liveIn_le (h : s.Balanced hand) (hpage : (page, k) ∈ s.pages) : s.liveIn page ≤ 512 := by
  refine countP_inPage_le (h.page page k hpage).class_lt h.live_nodup fun a j hlive hbase => ?_
  obtain ⟨hpage', hobject⟩ := h.page_of_live hlive hbase
  obtain rfl := h.class_unique hpage hpage'
  exact ⟨rfl, hobject⟩

/-- The count of a page in use does not wrap. -/
lemma Balanced.refcount_bounds (h : s.Balanced hand) (hpage : (page, k) ∈ s.pages) :
    1 ≤ (s.metas page).refcount ∧ (s.metas page).refcount ≤ 514 := by
  have hsound := h.page page k hpage
  have hlive := h.liveIn_le hpage
  have hholders := h.holders_le page
  have hrefcount := hsound.refcount
  refine ⟨hsound.counted, ?_⟩
  split at hrefcount <;> omega

lemma wrappingSucc_eq (h : n ≤ 514) : wrappingSucc n = n + 1 := by
  rw [wrappingSucc, Nat.mod_eq_of_lt (by omega)]

lemma wrappingPred_eq (h : 1 ≤ n) (h' : n ≤ 515) : wrappingPred n = n - 1 := by
  rw [wrappingPred]
  omega

/-- The slots of the cache that `cache` names. -/
lemma Balanced.exists_slots (h : s.Balanced hand) (hcache : cache < s.caches.length) :
    ∃ slots, s.caches[cache]? = some slots ∧ slots.length = SIZE_CLASSES.length :=
  ⟨s.caches[cache], getElem?_eq_getElem hcache, h.slots _ (getElem_mem hcache)⟩

/-! ### References in hand -/

lemma countP_inPage_cons (hbase : pageBaseForPtr a = some page) (k q : Nat) (live : List (Nat × Nat)) :
    ((a, k) :: live).countP (inPage q) = live.countP (inPage q) + if q = page then 1 else 0 := by
  rw [countP_cons]
  by_cases heq : q = page
  · simp [inPage, hbase, heq]
  · simp [inPage, hbase, heq, Ne.symm heq]

/-- The page in hand goes into a slot, and the page of the slot is in hand. -/
lemma Balanced.exchange (h : s.Balanced hand) (hcache : cache < s.caches.length)
    (hk : k < SIZE_CLASSES.length) (hhand : hand ≠ 0 →
      (hand, k) ∈ s.pages ∧ (s.metas hand).freeHead ≠ 0 ∧ s.holders hand = 0) :
    (s.setCurrent cache k hand).Balanced (s.current cache k) := by
  obtain ⟨slots, hslots, hlength⟩ := h.exists_slots hcache
  have hk : k < slots.length := hlength ▸ hk
  refine ⟨by simpa using h.pages_nodup, fun page j hpage => ?_, by simpa using h.live_nodup,
    fun a j ha => by simpa using h.live_mem a j (by simpa using ha), slots_setCurrent h.slots cache k hand,
    fun c j hne => ?_, fun page => ?_⟩
  · have hold := h.page page j (by simpa using hpage)
    have hset := holders_setCurrent hslots hk hand hold.ne_zero
    have hrefcount := hold.refcount
    refine { hold with hasMeta := ?_, free_list := ?_, refcount := ?_, counted := ?_ }
    · simpa [Slab.hasMeta] using hold.hasMeta
    · simpa using hold.free_list
    · rw [liveIn, setCurrent_live, ← liveIn, setCurrent_metas]
      omega
    · simpa using hold.counted
  · rw [current_setCurrent hslots hk] at hne ⊢
    simp only [setCurrent_pages, setCurrent_metas]
    split at hne
    · rename_i hboth
      rw [if_pos hboth, hboth.2]
      exact ⟨(hhand hne).1, (hhand hne).2.1⟩
    · rename_i hother
      rw [if_neg hother]
      exact h.current c j hne
  · by_cases hzero : page = 0
    · rw [hzero]
      exact Nat.zero_le 1
    have hset := holders_setCurrent hslots hk hand hzero
    have hone := h.holders_le page
    by_cases heq : page = hand
    · rw [if_pos heq, heq, (hhand (heq ▸ hzero)).2.2] at hset
      rw [heq]
      omega
    · rw [if_neg heq] at hset
      omega

/-- The reference in hand is given up; the last one returns the page. -/
lemma Balanced.letGo (h : s.Balanced page) (hpage : (page, k) ∈ s.pages) :
    (s.releaseCacheReference page).Sound := by
  have hsound := h.page page k hpage
  obtain ⟨hpos, hle⟩ := h.refcount_bounds hpage
  have hne := hsound.ne_zero
  have hrefcount := hsound.refcount
  rw [if_pos rfl] at hrefcount
  have hhand : ∀ q ≠ page, q ≠ 0 → (q = 0 ↔ q = page) := fun q hq hzero => by simp [hq, hzero]
  simp only [releaseCacheReference, setRefcount, wrappingPred_eq hpos (Nat.le_succ_of_le hle)]
  split
  · have hnone : s.liveIn page = 0 := by omega
    have hunheld : s.holders page = 0 := by omega
    refine h.of_page (p := page)
      { metas := fun q hq => by simp [freePage, hq], pages := fun q j hq => by simp [freePage, hq] }
      hhand h.live_nodup (h.pages_nodup.sublist (filter_sublist.map _)) (fun j hj => ?_)
      (fun a j ha hin => absurd hin (countP_eq_zero.1 hnone (a, j) ha))
      fun c j hc hp => absurd hunheld (Nat.ne_of_gt (holders_pos hc hp))
    simp [freePage] at hj
  · refine h.of_page (p := page) { metas := fun q hq => update_of_ne hq .. } hhand h.live_nodup
      h.pages_nodup (fun j hj => ?_) (fun a j ha hin => h.page_of_live ha (by simpa [inPage] using hin))
      fun c j hc hp => ?_
    · obtain rfl := h.class_unique hpage hj
      refine { hsound with free_list := by simpa using hsound.free_list, refcount := ?_, counted := ?_ }
      · simp only [update_self, if_neg hne]
        show (s.metas page).refcount - 1 = s.liveIn page + s.holders page + 0
        omega
      · simp only [update_self]
        omega
    · simpa [hc] using h.current c j (hc ▸ hp)

/-- The first object of the page's list is taken. -/
def taken (s : Slab) (k page : Nat) : Slab :=
  { s with
    metas := update s.metas page ⟨s.memory (s.metas page).freeHead, (s.metas page).refcount + 1⟩
    live := ((s.metas page).freeHead, k) :: s.live }

/-- A page that loses its last free object is in no slot. -/
lemma Balanced.taken (h : s.Balanced hand) (hpage : (page, k) ∈ s.pages)
    (hhead : (s.metas page).freeHead ≠ 0)
    (hlast : s.memory (s.metas page).freeHead = 0 → s.holders page = 0) : (s.taken k page).Balanced hand := by
  have hsound := h.page page k hpage
  obtain ⟨free, hchain, hnodup, hfree⟩ := hsound.free_list
  obtain ⟨rest, rfl, hrest⟩ := hchain.exists_cons hhead
  obtain ⟨hobject, hnew⟩ := (hfree _).1 mem_cons_self
  have hbase := hsound.base hobject
  have hcount : ∀ q, (s.taken k page).liveIn q = s.liveIn q + if q = page then 1 else 0 :=
    fun q => countP_inPage_cons hbase k q s.live
  refine h.of_page (p := page)
    { metas := fun q hq => update_of_ne hq ..
      live := fun object hin => ?_
      liveIn := fun q hq => by rw [hcount, if_neg hq]; rfl }
    (fun _ _ _ => Iff.rfl) (nodup_cons.2 ⟨hnew, h.live_nodup⟩) h.pages_nodup (fun j hj => ?_)
    (fun a j ha hin => ?_) fun c j hc hp => ⟨hc ▸ (h.current c j (hc ▸ hp)).1, fun hzero => ?_⟩
  · refine mem_cons.trans ⟨fun hmem => hmem.resolve_left ?_, .inr⟩
    rintro rfl
    simp [inPage, hbase] at hin
  · obtain rfl := h.class_unique hpage hj
    obtain ⟨hhead_rest, hnodup⟩ := nodup_cons.1 hnodup
    have hrefcount := hsound.refcount
    refine { hsound with free_list := ⟨rest, ?_, hnodup, fun a => ?_⟩, refcount := ?_, counted := ?_ }
    · simpa [Slab.taken] using hrest
    · show _ ↔ _ ∧ (a, j) ∉ ((s.metas page).freeHead, j) :: s.live
      rw [mem_cons, not_or, Prod.mk.injEq, and_iff_left rfl]
      have ha := hfree a
      rw [mem_cons] at ha
      constructor
      · intro hmem
        obtain ⟨hobj, hlive⟩ := ha.1 (.inr hmem)
        exact ⟨hobj, fun heq => hhead_rest (heq ▸ hmem), hlive⟩
      · rintro ⟨hobj, hneq, hlive⟩
        exact (ha.2 ⟨hobj, hlive⟩).resolve_left hneq
    · rw [hcount, if_pos rfl]
      simp only [Slab.taken, update_self]
      show (s.metas page).refcount + 1 = s.liveIn page + 1 + s.holders page + _
      omega
    · simp only [Slab.taken, update_self]
      omega
  · rcases mem_cons.1 ha with heq | hold
    · obtain ⟨rfl, rfl⟩ := Prod.mk.inj heq
      exact ⟨hpage, hobject⟩
    · exact h.page_of_live hold (by simpa [inPage] using hin)
  · refine absurd (hlast ?_) (Nat.ne_of_gt (holders_pos hc hp))
    simpa [Slab.taken] using hzero

lemma takeObject_eq (h : s.Sound) (hcache : cache < s.caches.length) (hpage : (page, k) ∈ s.pages) :
    s.takeObject cache k page = if s.memory (s.metas page).freeHead = 0 then
        ((s.setCurrent cache k 0).taken k page).releaseCacheReference page else s.taken k page := by
  obtain ⟨slots, hslots, _⟩ := h.exists_slots hcache
  have hsucc := wrappingSucc_eq (h.refcount_bounds hpage).2
  simp only [takeObject, Slab.taken, setFreeHead, setRefcount, update_self, update_idem, hsucc]
  split
  · rename_i hnext
    simp only [releaseCacheReference, setRefcount, freePage, setCurrent, hslots, update_self,
      update_idem, hnext]
    split <;> rfl
  · rfl

/-- The page stays the current one if it has another object, and is let go otherwise. -/
lemma Balanced.takeObject (h : s.Sound) (hcache : cache < s.caches.length)
    (hcurrent : s.current cache k = page) (hne : page ≠ 0) : (s.takeObject cache k page).Sound := by
  obtain ⟨hpage, hhead⟩ := h.current cache k (hcurrent ▸ hne)
  rw [hcurrent] at hpage hhead
  have hk := (h.page page k hpage).class_lt
  rw [takeObject_eq h hcache hpage]
  split
  · have hlifted := h.exchange hcache hk (absurd rfl)
    rw [hcurrent] at hlifted
    have hleft : (s.setCurrent cache k 0).holders page = 0 := by
      obtain ⟨slots, hslots, hlength⟩ := h.exists_slots hcache
      have hset := holders_setCurrent hslots (hlength ▸ hk) 0 hne
      have hone := h.holders_le page
      rw [if_pos hcurrent.symm, if_neg hne] at hset
      omega
    have htaken := hlifted.taken (by simpa using hpage) (by simpa using hhead) fun _ => hleft
    exact htaken.letGo (by simpa [Slab.taken] using hpage)
  · exact h.taken hpage hhead fun hzero => absurd hzero ‹_›

/-- A cache lets its page go. -/
lemma Balanced.releaseCurrent (h : s.Sound) (hcache : cache < s.caches.length)
    (hcurrent : s.current cache k = page) (hne : page ≠ 0) :
    ((s.releaseCacheReference page).setCurrent cache k 0).Sound := by
  obtain ⟨slots, hslots, _⟩ := h.exists_slots hcache
  obtain ⟨hpage, _⟩ := h.current cache k (hcurrent ▸ hne)
  rw [hcurrent] at hpage
  have heq : (s.releaseCacheReference page).setCurrent cache k 0 =
      (s.setCurrent cache k 0).releaseCacheReference page := by
    by_cases hlast : (s.metas page).refcount = 1 <;>
      simp [releaseCacheReference, setRefcount, freePage, setCurrent, hslots, hlast]
  have hlifted := h.exchange hcache (h.page page k hpage).class_lt (absurd rfl)
  rw [hcurrent] at hlifted
  rw [heq]
  exact hlifted.letGo (by simpa using hpage)

/-! ### A new page -/

/-- The loop of `initialize_page` puts the objects in front of the list, and writes to them only. -/
lemma linkObjects_spec (page : Nat) (hsize : 0 < size) :
    ∀ (count head : Nat) (memory : Nat → Nat) (xs : List Nat), Chain memory head xs →
      (∀ index < count, physToVirt page + index * size ∉ xs) →
      Chain (linkObjects page size count head memory).1 (linkObjects page size count head memory).2
          ((range count).map (fun index => physToVirt page + index * size) ++ xs) ∧
        ∀ a ∉ (range count).map (fun index => physToVirt page + index * size),
          (linkObjects page size count head memory).1 a = memory a
  | 0, _, _, _, hchain, _ => ⟨hchain, fun _ _ => rfl⟩
  | count + 1, head, memory, xs, hchain, hfresh => by
      have hne : physToVirt page + count * size ≠ 0 := by
        simp only [physToVirt, physicalMemoryOffset]
        omega
      have hpush := hchain.push (hfresh count (Nat.lt_succ_self count)) hne
      have hfresh' : ∀ index < count,
          physToVirt page + index * size ∉ (physToVirt page + count * size) :: xs := by
        intro index hlt hmem
        rcases mem_cons.1 hmem with heq | hold
        · have hindex := Nat.eq_of_mul_eq_mul_right hsize (Nat.add_left_cancel heq)
          omega
        · exact hfresh index (Nat.lt_succ_of_lt hlt) hold
      obtain ⟨hlinked, hother⟩ := linkObjects_spec page hsize count _ _ _ hpush hfresh'
      rw [range_succ, map_append]
      refine ⟨by rw [append_assoc]; exact hlinked, fun a ha => ?_⟩
      rw [mem_append, not_or] at ha
      rw [linkObjects, hother a ha.1, update_of_ne (by simpa using ha.2)]

section

variable (h : s.Sound)
include h

lemma Balanced.holders_eq_zero (hpage : page ∉ s.pages.map fst) : s.holders page = 0 := by
  by_contra hne
  obtain ⟨cache, k, rfl⟩ := exists_current (Nat.pos_of_ne_zero hne)
  by_cases hzero : s.current cache k = 0
  · rw [hzero] at hne
    exact hne rfl
  · exact hpage (mem_map.2 ⟨_, (h.current cache k hzero).1, rfl⟩)

lemma Balanced.liveIn_eq_zero (hpage : page ∉ s.pages.map fst) : s.liveIn page = 0 := by
  refine countP_eq_zero.2 fun object hobject hin => hpage ?_
  obtain ⟨hmem, _⟩ := h.page_of_live (a := object.1) (k := object.2) hobject (by simpa [inPage] using hin)
  exact mem_map.2 ⟨_, hmem, rfl⟩

/-- A new page with all its objects in its list. -/
def opened (s : Slab) (k page : Nat) : Slab :=
  let linked := linkObjects page (objectSize k) (PAGE_SIZE / objectSize k) 0 s.memory
  { s with
    metas := update s.metas page ⟨linked.2, 1⟩
    memory := linked.1
    pages := (page, k) :: s.pages }

lemma Balanced.opened (hk : k < SIZE_CLASSES.length) (hne : page ≠ 0)
    (haligned : page % PAGE_SIZE = 0) (hmeta : s.hasMeta page = true)
    (hfresh : page ∉ s.pages.map fst) :
    (s.opened k page).Balanced page ∧ ((s.opened k page).metas page).freeHead ≠ 0 := by
  obtain ⟨hsize, _, htwo⟩ := objectSize_spec hk
  obtain ⟨hchain, hother⟩ := linkObjects_spec page (show 0 < objectSize k by omega)
    (PAGE_SIZE / objectSize k) 0 s.memory [] rfl (by simp)
  rw [append_nil] at hchain
  have hold : ∀ j, (page, j) ∉ s.pages := fun j hmem => hfresh (mem_map.2 ⟨_, hmem, rfl⟩)
  have hnone := h.liveIn_eq_zero hfresh
  have hunheld := h.holders_eq_zero hfresh
  constructor
  · refine h.of_page (p := page)
      { metas := fun q hq => update_of_ne hq ..
        memory := fun a ha => hother a fun hmem => ha (pageBaseForPtr_object hk haligned hmem)
        pages := fun q j hq => by simp [Slab.opened, hq] }
      (fun q hq hzero => by simp [hq, hzero]) h.live_nodup (nodup_cons.2 ⟨hfresh, h.pages_nodup⟩)
      (fun j hj => ?_) (fun a j ha hin => absurd hin (countP_eq_zero.1 hnone (a, j) ha))
      fun c j hc hp => absurd (hc ▸ (h.current c j (hc ▸ hp)).1) (hold j)
    obtain rfl : j = k := by
      rcases mem_cons.1 hj with heq | hmem
      · exact (Prod.mk.inj heq).2
      · exact absurd hmem (hold j)
    refine ⟨hk, haligned, hne, hmeta, ⟨objects page j, ?_, objects_nodup hk, fun a => ?_⟩, ?_, ?_⟩
    · simp only [Slab.opened, update_self]
      exact hchain
    · refine ⟨fun hobject => ⟨hobject, fun hlive => hold j ?_⟩, And.left⟩
      exact (h.page_of_live hlive (pageBaseForPtr_object hk haligned hobject)).1
    · simp only [Slab.opened, update_self, if_true]
      show 1 = s.liveIn page + s.holders page + 1
      omega
    · simp [Slab.opened]
  · simp only [Slab.opened, update_self]
    refine hchain.ne_zero_of_mem (x := physToVirt page + 0 * objectSize k) ?_
    exact mem_map.2 ⟨0, mem_range.2 (by omega), rfl⟩

lemma Balanced.installPage (hcache : cache < s.caches.length)
    (hk : k < SIZE_CLASSES.length) (hcurrent : s.current cache k = 0) (hne : page ≠ 0)
    (haligned : page % PAGE_SIZE = 0) (hmeta : s.hasMeta page = true)
    (hfresh : page ∉ s.pages.map fst) : (s.installPage cache k page).Sound := by
  obtain ⟨hopened, hhead⟩ := h.opened hk hne haligned hmeta hfresh
  have heq : s.installPage cache k page = (s.opened k page).setCurrent cache k page := by
    simp only [Slab.installPage, initializePage, setFreeHead, setRefcount, Slab.opened,
      update_self, update_idem]
  have hdone : ((s.opened k page).setCurrent cache k page).Balanced (s.current cache k) :=
    hopened.exchange hcache hk fun _ => ⟨mem_cons_self, hhead, h.holders_eq_zero hfresh⟩
  rw [hcurrent] at hdone
  exact heq ▸ hdone

/-! ### Giving an object back -/

/-- The object is put in front of the page's list, and its reference is in hand. -/
def given (s : Slab) (ptr k page : Nat) : Slab :=
  { s with
    memory := update s.memory ptr (s.metas page).freeHead
    metas := update s.metas page ⟨ptr, (s.metas page).refcount⟩
    live := s.live.erase (ptr, k) }

lemma Balanced.given {ptr : Nat} (hlive : (ptr, k) ∈ s.live)
    (hbase : pageBaseForPtr ptr = some page) : (s.given ptr k page).Balanced page := by
  obtain ⟨hpage, hobject⟩ := h.page_of_live hlive hbase
  have hsound := h.page page k hpage
  have hmem_erase : ∀ object, object ∈ s.live.erase (ptr, k) ↔ object ≠ (ptr, k) ∧ object ∈ s.live :=
    fun object => h.live_nodup.mem_erase_iff
  have hcount : ∀ q, s.liveIn q = (s.given ptr k page).liveIn q + if q = page then 1 else 0 := by
    intro q
    rw [liveIn, (perm_cons_erase hlive).countP_eq, countP_inPage_cons hbase]
    rfl
  refine h.of_page (p := page)
    { metas := fun q hq => update_of_ne hq ..
      memory := fun a ha => update_of_ne (by rintro rfl; exact ha hbase) ..
      live := fun object hin => ?_
      liveIn := fun q hq => by rw [hcount, if_neg hq]; rfl }
    (fun q hq hzero => by simp [hq, hzero]) (h.live_nodup.erase _) h.pages_nodup (fun j hj => ?_)
    (fun a j ha hin => h.page_of_live ((hmem_erase _).1 ha).2 (by simpa [inPage] using hin))
    fun c j hc hp => ⟨hc ▸ (h.current c j (hc ▸ hp)).1, ?_⟩
  · refine (hmem_erase object).trans ⟨And.right, fun hmem => ⟨?_, hmem⟩⟩
    rintro rfl
    simp [inPage, hbase] at hin
  · obtain rfl := h.class_unique hpage hj
    obtain ⟨free, hchain, hnodup, hfree⟩ := hsound.free_list
    have hptr : ptr ∉ free := fun hmem => ((hfree ptr).1 hmem).2 hlive
    have hrefcount := hsound.refcount
    have hpage_count := hcount page
    refine { hsound with
      free_list := ⟨ptr :: free, ?_, nodup_cons.2 ⟨hptr, hnodup⟩, fun a => ?_⟩
      refcount := ?_, counted := ?_ }
    · simpa [Slab.given] using hchain.push hptr (object_ne_zero hobject)
    · rw [mem_cons, hfree, Slab.given, hmem_erase]
      constructor
      · rintro (rfl | ⟨hobj, hnot⟩)
        · exact ⟨hobject, fun hmem => hmem.1 rfl⟩
        · exact ⟨hobj, fun hmem => hnot hmem.2⟩
      · rintro ⟨hobj, hnot⟩
        by_cases heq : a = ptr
        · exact .inl heq
        · exact .inr ⟨hobj, fun hold => hnot ⟨fun hpair => heq (Prod.mk.inj hpair).1, hold⟩⟩
    · rw [if_neg hsound.ne_zero] at hrefcount
      rw [if_pos rfl] at hpage_count ⊢
      have hholders : (s.given ptr j page).holders page = s.holders page := rfl
      simp only [Slab.given, update_self] at *
      omega
    · simpa [Slab.given] using hsound.counted
  · simpa [Slab.given] using object_ne_zero hobject

/-- The reference of the object goes to the cache, if the page was full and the cache has none, or is given
up. -/
lemma Balanced.deallocObject (hcache : cache < s.caches.length) {ptr : Nat}
    (hlive : (ptr, k) ∈ s.live) (hbase : pageBaseForPtr ptr = some page) :
    (s.deallocObject cache ptr k page).Sound := by
  obtain ⟨slots, hslots, _⟩ := h.exists_slots hcache
  obtain ⟨hpage, hobject⟩ := h.page_of_live hlive hbase
  obtain ⟨hpos, hle⟩ := h.refcount_bounds hpage
  have hsound := h.page page k hpage
  have hgiven := h.given hlive hbase
  by_cases hadopt : (s.metas page).refcount ≠ 1 ∧ (s.metas page).freeHead = 0 ∧ s.current cache k = 0
  · obtain ⟨hmany, hfull, hcurrent⟩ := hadopt
    have heq : s.deallocObject cache ptr k page = (s.given ptr k page).setCurrent cache k page := by
      have hsucc : wrappingSucc (wrappingPred (s.metas page).refcount) = (s.metas page).refcount := by
        rw [wrappingPred_eq hpos (by omega), wrappingSucc_eq (by omega)]
        omega
      have hcurrent' := hcurrent
      simp only [Slab.current] at hcurrent'
      simp [Slab.deallocObject, hmany, hfull, setRefcount, setFreeHead, write, Slab.current, Slab.given,
        hsucc, hcurrent']
    have hunheld : s.holders page = 0 := by
      by_contra hheld
      obtain ⟨c, j, hc⟩ := exists_current (Nat.pos_of_ne_zero hheld)
      exact (hc ▸ (h.current c j (hc ▸ hsound.ne_zero)).2) hfull
    have hhead : ((s.given ptr k page).metas page).freeHead ≠ 0 := by
      simpa [Slab.given] using object_ne_zero hobject
    have hdone : ((s.given ptr k page).setCurrent cache k page).Balanced (s.current cache k) :=
      hgiven.exchange hcache hsound.class_lt fun _ => ⟨hpage, hhead, hunheld⟩
    rw [hcurrent] at hdone
    exact heq ▸ hdone
  · have heq : s.deallocObject cache ptr k page = (s.given ptr k page).releaseCacheReference page := by
      simp only [Slab.deallocObject, releaseCacheReference, setRefcount, setFreeHead, write, freePage, Slab.given,
        Slab.current, update_self, update_idem]
      split
      · rfl
      · rw [if_neg]
        exact fun hboth => hadopt ⟨‹_›, hboth⟩
    rw [heq]
    exact hgiven.letGo hpage

/-- A store inside a live object does not meet a free one. -/
lemma Balanced.store {object : Nat × Nat} {address : Nat} (hlive : object ∈ s.live)
    (hholds : Holds object address) (value : Nat) : (s.write address value).Sound := by
  obtain ⟨a, k⟩ := object
  obtain ⟨page, hpage, hobject⟩ := h.live_mem a k hlive
  have hsound := h.page page k hpage
  obtain ⟨hlow, hhigh⟩ := object_bounds hsound.class_lt hobject
  have hbase : pageBaseForPtr address = some page :=
    pageBaseForPtr_eq hsound.aligned (le_trans hlow hholds.1) (by
      have := hholds.2
      simp only at this
      omega)
  refine h.of_page (p := page) { memory := fun b hb => update_of_ne (by rintro rfl; exact hb hbase) .. }
    (fun _ _ _ => Iff.rfl) h.live_nodup h.pages_nodup (fun j hj => ?_)
    (fun b j hb hin => h.page_of_live hb (by simpa [inPage] using hin))
    fun c j hc hne => hc ▸ h.current c j (hc ▸ hne)
  obtain rfl := h.class_unique hpage hj
  obtain ⟨free, hchain, hnodup, hfree⟩ := hsound.free_list
  refine { hsound with free_list := ⟨free, hchain.update (fun hmem => ?_) value, hnodup, hfree⟩ }
  obtain ⟨hobj, hnot⟩ := (hfree address).1 hmem
  have hapart := objects_apart hobject hobj (by rintro rfl; exact hnot hlive)
  have hsize := (objectSize_spec hsound.class_lt).1
  obtain ⟨hle, hlt⟩ := hholds
  simp only at hle hlt
  omega

end

/-! ### Calls -/

@[simp] lemma length_caches_setCurrent (s : Slab) (cache k page : Nat) :
    (s.setCurrent cache k page).caches.length = s.caches.length := by
  unfold setCurrent
  split <;> simp

@[simp] lemma releaseCacheReference_live (s : Slab) (page : Nat) :
    (s.releaseCacheReference page).live = s.live := by
  simp only [releaseCacheReference]
  split <;> rfl

lemma takeObject_live (s : Slab) (cache k page : Nat) :
    (s.takeObject cache k page).live = ((s.metas page).freeHead, k) :: s.live := by
  simp only [takeObject]
  split
  · simp [setFreeHead, setRefcount]
  · rfl

/-- With a current page the call is served from it, whatever frames there are. -/
lemma Balanced.alloc_of_current (h : s.Sound) (hne : s.current cache k ≠ 0) (frames : List Nat) :
    s.alloc cache k frames = (s.takeObject cache k (s.current cache k),
      .object (s.metas (s.current cache k)).freeHead) := by
  obtain ⟨hpage, hhead⟩ := h.current cache k hne
  have htry : s.tryCurrent cache k = .finished (s.takeObject cache k (s.current cache k))
      (.object (s.metas (s.current cache k)).freeHead) := by
    have hmeta := (h.page _ k hpage).hasMeta
    simp [tryCurrent, hne, hmeta, hhead]
  cases frames with
  | nil | cons => simp only [alloc, htry]

/-- Without one it takes the first frame. -/
lemma alloc_of_none (hcurrent : s.current cache k = 0) (page : Nat) (frames : List Nat) :
    s.alloc cache k (page :: frames) =
      if s.hasMeta page then (s.installPage cache k page).alloc cache k frames else (s, .panicked) := by
  simp [alloc, tryCurrent, hcurrent]

lemma installPage_current (hcache : cache < s.caches.length)
    (hslots : ∀ slots ∈ s.caches, slots.length = SIZE_CLASSES.length) (hk : k < SIZE_CLASSES.length) :
    (s.installPage cache k page).current cache k = page := by
  have hslot : s.caches[cache]? = some s.caches[cache] := getElem?_eq_getElem hcache
  have hlength := hslots _ (getElem_mem hcache)
  have hcurrent := current_setCurrent hslot (hlength ▸ hk) page cache k
  rw [if_pos ⟨rfl, rfl⟩] at hcurrent
  simp only [current, setCurrent, hslot] at hcurrent
  simp only [Slab.installPage, current, setCurrent, initializePage, setRefcount, setFreeHead, hslot]
  exact hcurrent

@[simp] lemma installPage_live (s : Slab) (cache k page : Nat) :
    (s.installPage cache k page).live = s.live := by
  simp [Slab.installPage, initializePage, setRefcount, setFreeHead]

@[simp] lemma length_caches_installPage (s : Slab) (cache k page : Nat) :
    (s.installPage cache k page).caches.length = s.caches.length := by
  simp [Slab.installPage, initializePage, setRefcount, setFreeHead]

/-- What a call of `alloc` comes to. -/
lemma Balanced.alloc_cases (h : s.Sound) {align : Nat} {frames : List Nat}
    (hlegal : s.Legal (.alloc cache size align frames)) (hzero : 0 ∉ frames)
    (hk : k < SIZE_CLASSES.length) : (s.alloc cache k frames).1.Sound ∧
      ((∃ a, (s.alloc cache k frames).2 = .object a ∧ (s.alloc cache k frames).1.live = (a, k) :: s.live) ∨
        ((s.alloc cache k frames).2 = .outOfMemory ∧ frames = []) ∨
        ((s.alloc cache k frames).2 = .panicked ∧ ∃ page ∈ frames, s.hasMeta page = false)) := by
  obtain ⟨hcache, hnodup, hframes⟩ := hlegal
  by_cases hcurrent : s.current cache k = 0
  · cases frames with
    | nil =>
      have heq : s.alloc cache k [] = (s, .outOfMemory) := by simp [alloc, tryCurrent, hcurrent]
      rw [heq]
      exact ⟨h, .inr (.inl ⟨rfl, rfl⟩)⟩
    | cons page frames =>
      obtain ⟨haligned, hfresh⟩ := hframes page (mem_cons_self ..)
      have hne : page ≠ 0 := fun heq => hzero (heq ▸ mem_cons_self ..)
      rw [alloc_of_none hcurrent]
      by_cases hmeta : s.hasMeta page = true
      · have hinstalled := h.installPage hcache hk hcurrent hne haligned hmeta hfresh
        have hcurrent' : (s.installPage cache k page).current cache k ≠ 0 := by
          rw [installPage_current hcache h.slots hk]
          exact hne
        rw [if_pos hmeta, hinstalled.alloc_of_current hcurrent']
        exact ⟨hinstalled.takeObject (by simpa using hcache) rfl hcurrent',
          .inl ⟨_, rfl, by rw [takeObject_live, installPage_live]⟩⟩
      · rw [if_neg hmeta]
        exact ⟨h, .inr (.inr ⟨rfl, page, mem_cons_self .., Bool.eq_false_iff.2 hmeta⟩)⟩
  · rw [h.alloc_of_current hcurrent]
    exact ⟨h.takeObject hcache rfl hcurrent, .inl ⟨_, rfl, takeObject_live ..⟩⟩

lemma Balanced.releaseSlots (h : s.Sound) (hcache : cache < s.caches.length) (ks : List Nat) :
    (s.releaseSlots cache ks).Sound := by
  fun_induction Slab.releaseSlots s cache ks with
  | case1 | case3 => exact h
  | case2 _ _ _ _ _ ih => exact ih h hcache
  | case4 s k ks _ hzero _ ih =>
    refine ih (h.releaseCurrent hcache rfl hzero) ?_
    rw [length_caches_setCurrent]
    simp only [releaseCacheReference, setRefcount, freePage]
    split <;> exact hcache

lemma step_sound (op : SlabOp) (h : s.Sound) (hlegal : s.Legal op) (hzero : NoZeroPage op) :
    (s.step op).Sound := by
  cases op with
  | alloc cache size align frames =>
    simp only [step]
    split
    · exact h
    · rename_i k hk
      exact (h.alloc_cases hlegal hzero (classIndex_lt hk)).1
  | dealloc cache ptr size align =>
    obtain ⟨hcache, k, hk, hlive⟩ := hlegal
    obtain ⟨page, hpage, hobject⟩ := h.live_mem ptr k hlive
    have hsound := h.page page k hpage
    have hbase := hsound.base hobject
    simp only [step, dealloc, mem_def.1 hk, hbase, hsound.hasMeta, if_true]
    exact h.deallocObject hcache hlive hbase
  | release cache => exact h.releaseSlots hlegal _
  | store address value =>
    obtain ⟨_, object, hlive, hholds⟩ := hlegal
    exact h.store hlive hholds value

lemma new_sound (sections : List SlubSection) (memory : Nat → Nat) (cacheCount : Nat) :
    (new sections memory cacheCount).Sound := by
  have hempty : ∀ cache k, (new sections memory cacheCount).current cache k = 0 := by
    intro cache k
    simp only [current, new, getElem?_replicate]
    split
    · simp only [bind_some, getElem?_replicate]
      split <;> rfl
    · rfl
  refine ⟨nodup_nil, by simp [new], nodup_nil, by simp [new], fun slots hslots => ?_,
    fun cache k hne => absurd (hempty cache k) hne, fun page => ?_⟩
  · obtain ⟨_, rfl⟩ := mem_replicate.1 hslots
    simp
  · by_contra hmany
    have hheld : 0 < (new sections memory cacheCount).holders page := by omega
    obtain ⟨cache, k, hcurrent⟩ := exists_current hheld
    rw [hempty] at hcurrent
    rw [← hcurrent] at hmany
    exact hmany (Nat.zero_le 1)

/-! ## The law -/

lemma Balanced.live_apart (h : s.Sound) : s.live.Pairwise Apart := by
  refine List.Pairwise.imp_of_mem ?_ h.live_nodup
  rintro ⟨a, k⟩ ⟨b, j⟩ ha hb hne
  obtain ⟨p, hp, hpa⟩ := h.live_mem a k ha
  obtain ⟨q, hq, hqb⟩ := h.live_mem b j hb
  have hps := h.page p k hp
  have hqs := h.page q j hq
  by_cases heq : p = q
  · subst heq
    obtain rfl := h.class_unique hp hq
    exact objects_apart hpa hqb fun hab => hne (Prod.ext hab rfl)
  · -- two pages do not overlap, and neither do objects in them
    have hpbounds := object_bounds hps.class_lt hpa
    have hqbounds := object_bounds hqs.class_lt hqb
    have hpal := hps.aligned
    have hqal := hqs.aligned
    simp only [Apart, physToVirt, PAGE_SIZE] at *
    omega

lemma Balanced.refcount_eq (h : s.Sound) (hpage : (page, k) ∈ s.pages) :
    (s.metas page).refcount = s.liveIn page + s.holders page := by
  have hsound := h.page page k hpage
  rw [hsound.refcount, if_neg hsound.ne_zero]
  rfl

lemma Balanced.law (h : s.Sound) : s.SlabLaw where
  live_in_page a k hlive := by
    obtain ⟨page, hpage, hobject⟩ := h.live_mem a k hlive
    have hsound := h.page page k hpage
    obtain ⟨hlow, hhigh⟩ := object_bounds hsound.class_lt hobject
    exact ⟨page, hpage, hlow, hhigh, object_aligned hsound.class_lt hsound.aligned hobject⟩
  live_apart := h.live_apart
  free_list page k hpage := (h.page page k hpage).free_list
  refcount page k hpage := ⟨h.refcount_eq hpage, h.holders_le page⟩
  returned page := by
    constructor
    · intro hmem
      obtain ⟨⟨p, k⟩, hpage, rfl⟩ := mem_map.1 hmem
      exact h.refcount_eq hpage ▸ (h.page p k hpage).counted
    · intro hpos
      by_contra hnot
      rw [h.liveIn_eq_zero hnot, h.holders_eq_zero hnot] at hpos
      exact lt_irrefl 0 hpos
  returns cache size align frames k hlegal hzero hk := by
    obtain ⟨_, hresult⟩ := h.alloc_cases hlegal hzero (classIndex_lt hk)
    rcases hresult with ⟨a, hobject, hlive⟩ | ⟨hnone, rfl⟩ | ⟨hpanic, page, hmem, hmeta⟩
    · refine ⟨fun b hb => ?_, fun _ _ => ⟨a, hobject⟩⟩
      rw [hobject] at hb
      cases hb
      exact hlive
    · refine ⟨fun b hb => ?_, fun _ hne => absurd rfl hne⟩
      rw [hnone] at hb
      cases hb
    · refine ⟨fun b hb => ?_, fun hall _ => ?_⟩
      · rw [hpanic] at hb
        cases hb
      · rw [hall page hmem] at hmeta
        cases hmeta

/-- The slab allocator keeps its law in every run of calls, one after the other, in which the frame
allocator does not hand out the physical page zero. -/
theorem slabLaw_of_noZeroPage (sections : List SlubSection) (memory : Nat → Nat) (cacheCount : Nat)
    (ops : List SlabOp)
    (hops : Meets step (fun s op => s.Legal op ∧ NoZeroPage op) (new sections memory cacheCount) ops) :
    ((new sections memory cacheCount).run ops).SlabLaw :=
  (run_invariant (fun _ op h hok => step_sound op h hok.1 hok.2)
    (new_sound sections memory cacheCount) hops).law

instance (s : Slab) (op : SlabOp) : Decidable (s.Legal op) := by
  cases op <;> unfold Legal <;> infer_instance

instance (op : SlabOp) : Decidable (NoZeroPage op) := by
  cases op <;> unfold NoZeroPage <;> infer_instance

/-- Two objects of 2048 bytes fill a page; the first comes back to another cache, which takes the page
over, the second follows, and the release of that cache returns the page. -/
def throughTwoCaches : List SlabOp :=
  [.alloc 0 2048 8 [0x5000], .store 0xffff800000005000 7, .alloc 0 1500 16 [0x6000],
    .dealloc 1 0xffff800000005000 2048 8, .dealloc 0 0xffff800000005800 1500 16, .release 1]

theorem slabLaw_throughTwoCaches :
    ((new [⟨0x5000, 0x7000⟩] (fun _ => 0) 2).run (throughTwoCaches.take 4)).current 1 8 = 0x5000 ∧
      ((new [⟨0x5000, 0x7000⟩] (fun _ => 0) 2).run throughTwoCaches).pages = [] ∧
      ((new [⟨0x5000, 0x7000⟩] (fun _ => 0) 2).run throughTwoCaches).SlabLaw :=
  ⟨by decide +kernel, by decide +kernel, slabLaw_of_noZeroPage _ _ 2 throughTwoCaches (by decide +kernel)⟩

/-- The frame allocator hands out the physical page zero, which the cache takes for an empty slot. -/
def zeroPage : List SlabOp := [.alloc 0 2048 8 [0, 0x5000]]

/-- The page zero stays with a count of one and nothing that refers to it. -/
theorem slabLaw_fails : Meets step Legal (new [⟨0, 0x7000⟩] (fun _ => 0) 1) zeroPage ∧
    ¬ ((new [⟨0, 0x7000⟩] (fun _ => 0) 1).run zeroPage).SlabLaw := by
  refine ⟨by decide +kernel, fun h => ?_⟩
  have hcount := (h.refcount 0 8 (by decide +kernel)).1
  exact absurd hcount (by decide +kernel)

end Slab

end Akarin.Heap
