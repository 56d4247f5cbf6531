/-
# Akarin.Memory.VmoBytes -- what `read` and `write` can reach

Two halves. The first asks nothing of the VMOs: `read` looks only at the inner states along the
path and at physical memory inside their frames (`read_congr`), and `write` changes only memory
inside those frames (`write_within`).

The second is about a VMO whose index is exact and whose extents are all committed: its extents
place the offsets of a linear array in physical memory, and `read_local` and `write_local` are
reading and overwriting that array.
-/
import Akarin.Lib.CellView
import Akarin.Memory.VmoExtents

namespace Akarin.Memory

open List Option VmoExtent VmoHeap
open Lib (Shows Stored CellInjective)

/-! ## Footprints -/

/-- The address lies in the run. -/
def PhysRun.Covers (run : PhysRun) (addr : Nat) : Prop :=
  run.physAddr ≤ addr ∧ addr < run.physAddr + run.lenBytes

/-- The address lies in a frame of the VMO's own extents. -/
def VmoInner.Backs (inner : VmoInner) (addr : Nat) : Prop :=
  ∃ extent ∈ inner.extents, extent.frame.Covers addr

/-- The ids along the path from a VMO to its root. -/
def Vmo.ids : Vmo → List Nat
  | .root id _ _ => [id]
  | .child id _ _ _ parent => id :: parent.ids

/-- The address lies in a frame of one of the VMOs. -/
def VmoHeap.Backs (heap : VmoHeap) (ids : List Nat) (addr : Nat) : Prop :=
  ∃ id ∈ ids, (heap.inner id).Backs addr

/-- Only memory changed, and only at addresses in `S`. -/
structure WritesWithin (S : Nat → Prop) (heap heap' : VmoHeap) : Prop where
  nextId : heap'.nextId = heap.nextId
  inner : heap'.inner = heap.inner
  memory : ∀ addr, ¬ S addr → heap'.memory addr = heap.memory addr

namespace WritesWithin

variable {S T : Nat → Prop} {heap heap₁ heap₂ : VmoHeap}

lemma refl (S : Nat → Prop) (heap : VmoHeap) : WritesWithin S heap heap :=
  ⟨rfl, rfl, fun _ _ => rfl⟩

lemma trans (h₁ : WritesWithin S heap heap₁) (h₂ : WritesWithin S heap₁ heap₂) :
    WritesWithin S heap heap₂ where
  nextId := h₂.nextId.trans h₁.nextId
  inner := h₂.inner.trans h₁.inner
  memory addr haddr := (h₂.memory addr haddr).trans (h₁.memory addr haddr)

lemma mono (h : WritesWithin S heap heap₁) (hsub : ∀ addr, S addr → T addr) : WritesWithin T heap heap₁ :=
  ⟨h.nextId, h.inner, fun addr haddr => h.memory addr fun hS => haddr (hsub addr hS)⟩

end WritesWithin

lemma VmoInner.mem_of_extentAt {inner : VmoInner} {offset : Nat} {extent : VmoExtent}
    (h : inner.extentAt offset = some extent) : extent ∈ inner.extents := by
  obtain ⟨i, -, hi⟩ := bind_eq_some_iff.1 h
  exact mem_of_getElem? hi

namespace Vmo

variable {heap heap' : VmoHeap}

/-! ## Reads -/

variable {id len offset pageSize parentOffset fuel cursor : Nat} {bytes : List Byte} {vmo : Vmo}

lemma ownsPage_congr (h : heap'.inner id = heap.inner id) : ownsPage heap' id = ownsPage heap id := by
  funext offset
  rw [ownsPage, ownsPage, h]

lemma ownPage_congr (h : heap'.inner id = heap.inner id) : ownPage heap' id = ownPage heap id := by
  funext offset
  rw [ownPage, ownPage, h]

lemma offsetIsPageAligned_congr (h : heap'.inner vmo.id = heap.inner vmo.id) :
    vmo.offsetIsPageAligned heap' = vmo.offsetIsPageAligned heap := by
  funext offset
  rw [offsetIsPageAligned, offsetIsPageAligned, size, size, h]

variable {run : PhysRun} {inner : VmoInner} {readParent : Nat → Nat → Option (List Byte)}

lemma readRun_congr (hmem : ∀ addr, run.Covers addr → heap'.memory addr = heap.memory addr)
    (offset len : Nat) : readRun heap' run offset len = readRun heap run offset len := by
  unfold readRun
  split
  · rfl
  · rename_i stop hstop
    obtain rfl := checkedAdd_eq_some hstop
    split
    · rfl
    · rename_i hfits
      refine congrArg some (map_congr_left fun i hi => hmem _ ?_)
      have := mem_range.1 hi
      exact ⟨by omega, by omega⟩

lemma readLocalLoop_congr (hmem : ∀ addr, inner.Backs addr → heap'.memory addr = heap.memory addr)
    (fuel cursor len : Nat) :
    readLocalLoop heap' inner fuel cursor len = readLocalLoop heap inner fuel cursor len := by
  induction fuel generalizing cursor len with
  | zero => cases len <;> rfl
  | succ fuel ih =>
    cases len with
    | zero => rfl
    | succ len =>
      simp only [readLocalLoop]
      cases hextent : inner.extentAt cursor with
      | none => rfl
      | some extent =>
        have hrun : ∀ addr, extent.frame.Covers addr → heap'.memory addr = heap.memory addr :=
          fun addr haddr => hmem addr ⟨extent, VmoInner.mem_of_extentAt hextent, haddr⟩
        simp only [readRun_congr hrun, ih]

lemma readLocal_congr (hinner : heap'.inner id = heap.inner id)
    (hmem : ∀ addr, (heap.inner id).Backs addr → heap'.memory addr = heap.memory addr)
    (offset len : Nat) : readLocal heap' id offset len = readLocal heap id offset len := by
  simp only [readLocal, hinner, readLocalLoop_congr hmem]

lemma readCowLoop_congr {readParent' : Nat → Nat → Option (List Byte)}
    (hinner : heap'.inner id = heap.inner id)
    (hmem : ∀ addr, (heap.inner id).Backs addr → heap'.memory addr = heap.memory addr)
    (hparent : readParent' = readParent) (fuel cursor len : Nat) :
    readCowLoop heap' id pageSize parentOffset readParent' fuel cursor len =
      readCowLoop heap id pageSize parentOffset readParent fuel cursor len := by
  subst hparent
  induction fuel generalizing cursor len with
  | zero => cases len <;> rfl
  | succ fuel ih =>
    cases len with
    | zero => rfl
    | succ len =>
      simp only [readCowLoop, ownsPage_congr hinner, readLocal_congr hinner hmem, ih]

section

variable (hinner : ∀ id ∈ vmo.ids, heap'.inner id = heap.inner id)
include hinner

/-- A read depends on the inner states along the path and on memory inside their frames. -/
lemma read_congr (hmem : ∀ addr, heap.Backs vmo.ids addr → heap'.memory addr = heap.memory addr) :
    vmo.read heap' = vmo.read heap := by
  induction vmo with
  | root id pageSize backing =>
    funext offset len
    exact readLocal_congr (hinner id (mem_singleton_self id))
      (fun addr haddr => hmem addr ⟨id, mem_singleton_self id, haddr⟩) offset len
  | child id backing kind parentOffset parent ih =>
    have hself := hinner id mem_cons_self
    have hparent : parent.read heap' = parent.read heap := by
      refine ih (fun i hi => hinner i (mem_cons_of_mem _ hi)) ?_
      rintro addr ⟨i, hi, haddr⟩
      exact hmem addr ⟨i, mem_cons_of_mem _ hi, haddr⟩
    have hown := fun addr haddr => hmem addr ⟨id, mem_cons_self, haddr⟩
    funext offset len
    simp only [read, hself, hparent, readCowLoop_congr hself hown rfl]

lemma pageAt_congr : vmo.pageAt heap' = vmo.pageAt heap := by
  induction vmo with
  | root id pageSize backing =>
    have hself := hinner id (mem_singleton_self id)
    have haligned := @offsetIsPageAligned_congr heap heap' (.root id pageSize backing) hself
    funext offset
    simp only [pageAt, haligned, ownPage_congr hself]
  | child id backing kind parentOffset parent ih =>
    have hself := hinner id mem_cons_self
    have hparent := ih fun i hi => hinner i (mem_cons_of_mem _ hi)
    have haligned := @offsetIsPageAligned_congr heap heap'
      (.child id backing kind parentOffset parent) hself
    funext offset
    simp only [pageAt, haligned, ownPage_congr hself, ownsPage_congr hself, hparent]

end

/-! ## Writes -/

lemma writePhys_within {addr : Nat} {S : Nat → Prop}
    (hS : ∀ a, addr ≤ a → a < addr + bytes.length → S a) (heap : VmoHeap) :
    WritesWithin S heap (heap.writePhys addr bytes) := by
  refine ⟨rfl, rfl, fun a ha => ?_⟩
  simp only [writePhys]
  rw [if_neg fun hin => ha (hS a hin.1 hin.2)]

section

variable {ok : Bool}

lemma writeRun_within (h : writeRun run offset bytes heap = (ok, heap')) : WritesWithin run.Covers heap heap' := by
  revert h
  fun_cases writeRun run offset bytes heap with
  | case3 stop hstop =>
    rintro ⟨⟩
    obtain rfl := checkedAdd_eq_some hstop
    refine writePhys_within (fun a hlo hhi => ?_) heap
    exact ⟨by omega, by omega⟩
  | _ =>
    rintro ⟨⟩
    exact .refl _ _

lemma writeLocalLoop_within (h : writeLocalLoop inner fuel cursor bytes heap = (ok, heap')) :
    WritesWithin inner.Backs heap heap' := by
  fun_induction writeLocalLoop inner fuel cursor bytes heap with
  | case1 | case2 | case3 | case4 =>
    cases h
    exact .refl _ _
  | case5 _ _ _ _ _ extent hextent _ _ _ hres =>
    cases h
    exact (writeRun_within hres).mono fun _ haddr => ⟨extent, VmoInner.mem_of_extentAt hextent, haddr⟩
  | case6 _ _ _ _ _ extent hextent _ _ _ hres ih =>
    refine .trans ((writeRun_within hres).mono ?_) (ih h)
    exact fun _ haddr => ⟨extent, VmoInner.mem_of_extentAt hextent, haddr⟩

lemma writeLocal_within (h : writeLocal id offset bytes heap = (ok, heap')) :
    WritesWithin (heap.inner id).Backs heap heap' := by
  revert h
  fun_cases writeLocal id offset bytes heap with
  | case3 => exact writeLocalLoop_within
  | _ =>
    rintro ⟨⟩
    exact .refl _ _

/-- A write through a private child stays inside the child's own frames. -/
lemma writeCowLoop_within (h : writeCowLoop id pageSize fuel cursor bytes heap = (ok, heap')) :
    WritesWithin (heap.inner id).Backs heap heap' := by
  fun_induction writeCowLoop id pageSize fuel cursor bytes heap with
  | case1 | case2 | case3 =>
    cases h
    exact .refl _ _
  | case4 _ _ _ _ _ _ _ _ _ hres =>
    cases h
    exact writeLocal_within hres
  | case5 _ _ _ _ _ _ _ _ _ hres ih =>
    have hlocal := writeLocal_within hres
    have hrest := ih h
    rw [hlocal.inner] at hrest
    exact hlocal.trans hrest

end

/-- A write changes memory inside the frames along the path and nothing else. -/
lemma write_within (vmo : Vmo) (offset : Nat) (bytes : List Byte) (heap : VmoHeap) :
    WritesWithin (heap.Backs vmo.ids) heap (vmo.write offset bytes heap).2 := by
  induction vmo generalizing offset with
  | root id pageSize backing =>
    exact (writeLocal_within rfl).mono fun addr haddr => ⟨id, mem_singleton_self id, haddr⟩
  | child id backing kind parentOffset parent ih =>
    unfold write
    split
    · exact .refl _ _
    split
    · exact .refl _ _
    cases kind with
    | privateCow =>
      exact (writeCowLoop_within rfl).mono fun addr haddr => ⟨id, mem_cons_self, haddr⟩
    | sharedView =>
      dsimp only
      split
      · exact .refl _ _
      · refine (ih _).mono ?_
        rintro addr ⟨i, hi, haddr⟩
        exact ⟨i, mem_cons_of_mem _ hi, haddr⟩

/-! ## Lengths -/

lemma readRun_length (h : readRun heap run offset len = some bytes) : bytes.length = len := by
  unfold readRun at h
  split at h
  · cases h
  split at h
  · cases h
  cases h
  simp [readPhys]

lemma readLocalLoop_length
    (h : readLocalLoop heap inner fuel cursor len = some bytes) : bytes.length = len := by
  fun_induction readLocalLoop heap inner fuel cursor len generalizing bytes with
  | case1 =>
    cases h
    rfl
  | case2 | case3 | case4 | case5 => cases h
  | case6 =>
    rename_i hchunk ih
    obtain ⟨rest, hrest, rfl⟩ := map_eq_some_iff.1 h
    rw [length_append, readRun_length hchunk, ih hrest]
    omega

lemma readLocal_length (h : readLocal heap id offset len = some bytes) : bytes.length = len := by
  unfold readLocal at h
  split at h
  · cases h
  split at h
  · cases h
  exact readLocalLoop_length h

lemma readCowLoop_length
    (hparent : ∀ offset len bytes, readParent offset len = some bytes → bytes.length = len)
    (h : readCowLoop heap id pageSize parentOffset readParent fuel cursor len = some bytes) :
    bytes.length = len := by
  fun_induction readCowLoop heap id pageSize parentOffset readParent fuel cursor len generalizing bytes with
  | case1 =>
    cases h
    rfl
  | case2 | case3 => cases h
  | case4 =>
    rename_i chunk part bytes hpart ih
    obtain ⟨rest, hrest, rfl⟩ := map_eq_some_iff.1 h
    have hlen : bytes.length = chunk := by
      unfold part at hpart
      split at hpart
      · exact readLocal_length hpart
      · obtain ⟨translated, -, hread⟩ := bind_eq_some_iff.1 hpart
        exact hparent _ _ _ hread
    rw [length_append, hlen, ih hrest]
    omega

/-- A successful read fills the whole buffer. -/
lemma read_length (h : vmo.read heap offset len = some bytes) : bytes.length = len := by
  induction vmo generalizing offset len bytes with
  | root id pageSize backing => exact readLocal_length h
  | child id backing kind parentOffset parent ih =>
    unfold read at h
    split at h
    · cases h
    split at h
    · cases h
    cases kind with
    | privateCow => exact readCowLoop_length (fun _ _ _ => ih) h
    | sharedView =>
      obtain ⟨translated, -, hread⟩ := bind_eq_some_iff.1 h
      exact ih hread

end Vmo

/-! ## Extents as an array -/

namespace VmoInner

variable {vmo : Vmo} {inner : VmoInner}

/-- The physical address behind an offset. -/
def cellAt (inner : VmoInner) (offset : Nat) : Option Nat :=
  (inner.extentAt offset).map fun extent => extent.frame.physAddr + (offset - extent.offset)

variable {offset i : Nat} {extent : VmoExtent}

section

variable (h : inner.Sound vmo)
include h

lemma Sound.extentAt_eq_some : inner.extentAt offset = some extent ↔
      extent ∈ inner.extents ∧ extent.contains offset = true := by
  have hexact := h.indexed.exact h.disjoint
  constructor
  · intro hat
    obtain ⟨i, howner, hi⟩ := bind_eq_some_iff.1 hat
    obtain ⟨extent', hi', hin⟩ := (hexact offset i).1 howner
    rw [hi] at hi'
    cases hi'
    exact ⟨mem_of_getElem? hi, hin⟩
  · rintro ⟨hmem, hin⟩
    obtain ⟨i, hi⟩ := mem_iff_getElem?.1 hmem
    exact bind_eq_some_iff.2 ⟨i, (hexact offset i).2 ⟨extent, hi, hin⟩, hi⟩

/-- Up to its end an extent answers for the offsets that follow. -/
lemma Sound.extentAt_add (hat : inner.extentAt offset = some extent) (hi : offset + i < extent.stop) :
    inner.extentAt (offset + i) = some extent := by
  obtain ⟨hmem, hin⟩ := h.extentAt_eq_some.1 hat
  refine h.extentAt_eq_some.2 ⟨hmem, contains_iff.2 ⟨?_, hi⟩⟩
  have := (contains_iff.1 hin).1
  omega

lemma Sound.cellAt_add (hat : inner.extentAt offset = some extent) (hi : offset + i < extent.stop) :
    inner.cellAt (offset + i) = some (extent.frame.physAddr + (offset - extent.offset) + i) := by
  have hin := contains_iff.1 (h.extentAt_eq_some.1 hat).2
  rw [cellAt, h.extentAt_add hat hi, map_some]
  congr 1
  omega

lemma Sound.backs_of_cellAt {addr : Nat} (hcell : inner.cellAt offset = some addr) : inner.Backs addr := by
  obtain ⟨extent, hat, rfl⟩ := map_eq_some_iff.1 hcell
  obtain ⟨hmem, hin⟩ := h.extentAt_eq_some.1 hat
  have hspan := contains_iff.1 hin
  rw [stop] at hspan
  exact ⟨extent, hmem, by omega, by omega⟩

end

/-- Every offset of the span is backed by an extent. -/
def BackedOn (inner : VmoInner) (start len : Nat) : Prop :=
  ∀ offset, start ≤ offset → offset < start + len → ∃ extent, inner.extentAt offset = some extent

lemma BackedOn.sub {start len start' len' : Nat} (h : inner.BackedOn start len)
    (hlo : start ≤ start') (hhi : start' + len' ≤ start + len) : inner.BackedOn start' len' :=
  fun offset hlo' hhi' => h offset (by omega) (by omega)

end VmoInner

namespace Vmo

variable {heap : VmoHeap} {vmo : Vmo} {inner : VmoInner} {view : Nat → Byte}

variable {fuel cursor : Nat} {bytes : List Byte}

/-- `read_local` over a backed span of committed extents reads the array. -/
lemma readLocalLoop_shows (h : inner.Sound vmo)
    (hcommitted : ∀ extent ∈ inner.extents, extent.committed = true)
    (hshows : Shows inner.cellAt heap.memory view) {len : Nat} (hfuel : len ≤ fuel)
    (hbound : cursor + len < usizeBound) (hbacked : inner.BackedOn cursor len) :
    readLocalLoop heap inner fuel cursor len = some ((range' cursor len).map view) := by
  induction fuel generalizing cursor len with
  | zero =>
    obtain rfl : len = 0 := by omega
    rfl
  | succ fuel ih =>
    cases len with
    | zero => rfl
    | succ len =>
      obtain ⟨extent, hat⟩ := hbacked cursor le_rfl (by omega)
      obtain ⟨hmem, hin⟩ := h.extentAt_eq_some.1 hat
      have hspan := contains_iff.1 hin
      have hstop : extent.stop = extent.offset + extent.frame.lenBytes := rfl
      obtain ⟨chunk, hchunk⟩ : ∃ chunk, chunk = min (extent.stop - cursor) (len + 1) := ⟨_, rfl⟩
      have hrun : readRun heap extent.frame (cursor - extent.offset) chunk =
          some ((range' cursor chunk).map view) := by
        rw [readRun, checkedAdd, if_pos (by omega)]
        dsimp only
        rw [if_neg (by omega), readPhys, range'_eq_map_range, List.map_map]
        refine congrArg some (map_congr_left fun i hi => ?_)
        have hi := mem_range.1 hi
        exact hshows (cursor + i) _ (h.cellAt_add hat (by omega))
      rw [readLocalLoop, hat]
      simp only [hcommitted extent hmem, Bool.not_true, Bool.false_eq_true, if_false, ← hchunk, hrun]
      rw [ih (by omega) (by omega) (hbacked.sub (by omega) (by omega)), map_some,
        ← map_append, range'_append_1]
      congr 3
      omega

lemma writePhys_stored {cell : Nat → Option Nat} {start addr : Nat}
    (hcell : ∀ i < bytes.length, cell (start + i) = some (addr + i)) (heap : VmoHeap) :
    Stored cell start bytes heap.memory (heap.writePhys addr bytes).memory := by
  constructor
  · intro i v a hv ha
    obtain ⟨hi, rfl⟩ := List.getElem?_eq_some_iff.1 hv
    rw [hcell i hi] at ha
    cases ha
    simp only [writePhys]
    rw [if_pos ⟨by omega, by omega⟩, Nat.add_sub_cancel_left, getD_eq_getElem?_getD, hv]
    rfl
  · intro a hout
    simp only [writePhys]
    refine if_neg fun hin => hout (a - addr) (by omega) ?_
    rw [hcell _ (by omega)]
    congr 1
    omega

/-- `write_local` over a backed span of committed extents overwrites the array. -/
lemma writeLocalLoop_stored (h : inner.Sound vmo)
    (hcommitted : ∀ extent ∈ inner.extents, extent.committed = true) (hinj : CellInjective inner.cellAt)
    (hfuel : bytes.length ≤ fuel) (hbound : cursor + bytes.length < usizeBound)
    (hbacked : inner.BackedOn cursor bytes.length) (heap : VmoHeap) :
    (writeLocalLoop inner fuel cursor bytes heap).1 = true ∧ Stored inner.cellAt cursor bytes heap.memory
        (writeLocalLoop inner fuel cursor bytes heap).2.memory := by
  induction fuel generalizing cursor bytes heap with
  | zero =>
    obtain rfl : bytes = [] := length_eq_zero_iff.1 (by omega)
    exact ⟨rfl, .nil _ _ _⟩
  | succ fuel ih =>
    cases bytes with
    | nil => exact ⟨rfl, .nil _ _ _⟩
    | cons b bs =>
      have hpos : 0 < (b :: bs).length := Nat.succ_pos _
      obtain ⟨extent, hat⟩ := hbacked cursor le_rfl (by omega)
      obtain ⟨hmem, hin⟩ := h.extentAt_eq_some.1 hat
      have hspan := contains_iff.1 hin
      have hstop : extent.stop = extent.offset + extent.frame.lenBytes := rfl
      obtain ⟨chunk, hchunk⟩ : ∃ chunk, chunk = min (extent.stop - cursor) (b :: bs).length := ⟨_, rfl⟩
      have htake : ((b :: bs).take chunk).length = chunk := by
        rw [length_take]
        omega
      have hrun : writeRun extent.frame (cursor - extent.offset) ((b :: bs).take chunk) heap =
          (true, heap.writePhys (extent.frame.physAddr + (cursor - extent.offset))
            ((b :: bs).take chunk)) := by
        rw [writeRun, htake, checkedAdd, if_pos (by omega)]
        dsimp only
        rw [if_neg (by omega)]
      have hfirst := @writePhys_stored ((b :: bs).take chunk) inner.cellAt cursor
        (extent.frame.physAddr + (cursor - extent.offset)) (fun i hi => h.cellAt_add hat (by omega)) heap
      obtain ⟨hok, hrest⟩ := @ih (cursor + chunk) ((b :: bs).drop chunk)
        (by rw [length_drop]; omega) (by rw [length_drop]; omega)
        (hbacked.sub (by omega) (by rw [length_drop]; omega))
        (heap.writePhys (extent.frame.physAddr + (cursor - extent.offset)) ((b :: bs).take chunk))
      rw [writeLocalLoop, hat]
      simp only [hcommitted extent hmem, Bool.not_true, Bool.false_eq_true, if_false, ← hchunk, hrun]
      refine ⟨hok, ?_⟩
      have happend := hfirst.append hinj htake hrest
      rwa [take_append_drop] at happend

end Vmo

end Akarin.Memory
