/-
# Akarin.Heap.Frame -- the frame allocator

Physical frames are managed in three zones, each by an allocator that hands out aligned blocks of a power
of two of frames and takes them back. This allocator, `LLFree`, is a library and a parameter here, with the
laws that it is trusted to keep. Which free block it hands out is left to the caller of the model. All frames
start out as allocated; `feed` makes usable ranges free.
-/
import Akarin.Heap.Pages

namespace Akarin.Heap

/-! ## Model -/

/-- `AllocationZone`. -/
inductive Zone where
  | low
  | dma32
  | normal
  deriving DecidableEq

namespace Zone

def start : Zone → Nat
  | .low => 0
  | .dma32 => 0x100000
  | .normal => 0x100000000

def stop : Zone → Nat
  | .low => 0x100000
  | .dma32 => 0x100000000
  | .normal => 2 ^ 64 - 1

def contains (zone : Zone) (phys : Nat) : Bool := zone.start ≤ phys && phys < zone.stop

/-- `frame_num_until`. -/
def frameNumUntil (zone : Zone) (maxPhys : Nat) : Nat :=
  (min zone.stop (alignUp maxPhys PAGE_SIZE) - zone.start) / PAGE_SIZE

lemma start_dvd (zone : Zone) : PAGE_SIZE ∣ zone.start := by
  cases zone <;> exact Nat.dvd_of_mod_eq_zero (by decide)

end Zone

/-- The library that manages the frames of the zones: its state, which frames are free in it, by their
number in physical memory, its operations, `none` where they return an error, and what they are trusted to do.
A block is given by its first frame in the zone and its order. -/
class LLFree where
  State : Type
  free : State → (frame : Nat) → Bool
  /-- The zones with these numbers of frames, all of them allocated. -/
  allocAll : (Zone → Option Nat) → State
  /-- The zone takes a block back. -/
  put : State → Zone → (id order : Nat) → Option State
  /-- The zone hands the block out. -/
  get : State → Zone → (id order : Nat) → Option State
  free_allocAll : ∀ zones frame, free (allocAll zones) frame = false
  free_put : ∀ {s s' zone id order frame}, put s zone id order = some s' → free s' frame = true →
    free s frame = true ∨
      zone.start / PAGE_SIZE + id ≤ frame ∧ frame < zone.start / PAGE_SIZE + id + 2 ^ order
  aligned_get : ∀ {s s' zone id order}, get s zone id order = some s' → id % 2 ^ order = 0
  block_get : ∀ {s s' zone id order frame}, get s zone id order = some s' →
    zone.start / PAGE_SIZE + id ≤ frame → frame < zone.start / PAGE_SIZE + id + 2 ^ order →
      free s frame = true ∧ free s' frame = false
  free_get : ∀ {s s' zone id order frame}, get s zone id order = some s' → free s' frame = true →
    free s frame = true

/-- The frames of the zones (there may be no normal zone), and how many frames of each zone have been marked
as usable. -/
structure FrameAllocator [LLFree] where
  maxOrder : Nat
  hasNormal : Bool
  frames : LLFree.State
  totalFrames : Zone → Nat

/-- `num.next_power_of_two().trailing_zeros()`. -/
def orderOf (num : Nat) : Nat := if num ≤ 1 then 0 else Nat.log2 (num - 1) + 1

/-- `usize::trailing_zeros`. -/
def trailingZeros (n : Nat) : Nat := if n = 0 then 64 else Nat.log2 (n &&& (2 ^ 64 - n))

namespace FrameAllocator

variable [LLFree]

def new (maxOrder maxPhys : Nat) : FrameAllocator where
  maxOrder := maxOrder
  hasNormal := maxPhys > Zone.normal.start
  frames := LLFree.allocAll fun zone =>
    if zone = .normal ∧ maxPhys ≤ Zone.normal.start then none else some (zone.frameNumUntil maxPhys)
  totalFrames := fun _ => 0

/-- The frame is free. -/
def free (fa : FrameAllocator) (frame : Nat) : Bool := LLFree.free fa.frames frame

/-- The zone takes a block back. -/
def put (fa : FrameAllocator) (zone : Zone) (id order : Nat) : Option FrameAllocator :=
  (LLFree.put fa.frames zone id order).map fun frames => { fa with frames := frames }

/-- The zone hands a block out. -/
def get (fa : FrameAllocator) (zone : Zone) (id order : Nat) : Option FrameAllocator :=
  (LLFree.get fa.frames zone id order).map fun frames => { fa with frames := frames }

def addTotal (fa : FrameAllocator) (zone : Zone) (count : Nat) : FrameAllocator :=
  { fa with totalFrames := Function.update fa.totalFrames zone (fa.totalFrames zone + count) }

/-- The loop of `mark_usable`. -/
def markLoop (fa : FrameAllocator) (zone : Zone) : (fuel frame frameEnd : Nat) → Option FrameAllocator
  | 0, _, _ => some fa
  | fuel + 1, frame, frameEnd =>
    if frame < frameEnd then
      let order := min (min (trailingZeros frame) fa.maxOrder) (Nat.log2 (frameEnd - frame))
      match fa.put zone frame order with
      | none => none
      | some fa => markLoop fa zone fuel (frame + 2 ^ order) frameEnd
    else some fa

/-- `mark_usable`; `none` is a panic, also that of `end - 1` for a range that ends in the first page. -/
def markUsable (fa : FrameAllocator) (zone : Zone) (rangeStart rangeStop : Nat) : Option FrameAllocator :=
  let start := alignUp rangeStart PAGE_SIZE
  let stop := alignDown rangeStop PAGE_SIZE
  if stop = 0 ∨ ¬ (zone.contains rangeStart ∧ zone.contains (stop - 1)) then none
  else if stop ≤ start ∨ stop - start < PAGE_SIZE then some fa
  else
    (fa.markLoop zone ((stop - start) / PAGE_SIZE) ((start - zone.start) / PAGE_SIZE)
      ((stop - zone.start) / PAGE_SIZE)).map fun fa => fa.addTotal zone ((stop - start) / PAGE_SIZE)

/-- The zone that manages an address. -/
def zoneOf (fa : FrameAllocator) (phys : Nat) : Option Zone :=
  if Zone.low.contains phys then some .low
  else if Zone.dma32.contains phys then some .dma32
  else if fa.hasNormal ∧ Zone.normal.contains phys then some .normal
  else none

/-- `feed` of one range, zone after zone (`fuel` is the number of zones). A range that no zone manages is
warned about without end; this is a `none` here too. -/
def feedRange : (fuel : Nat) → FrameAllocator → (start stop : Nat) → Option FrameAllocator
  | 0, _, _, _ => none
  | fuel + 1, fa, start, stop =>
    if stop ≤ start then some fa
    else
      match fa.zoneOf start with
      | none => none
      | some zone =>
        let feedEnd := min stop zone.stop
        match fa.markUsable zone start feedEnd with
        | none => none
        | some fa => feedRange fuel fa feedEnd stop

def feed (fa : FrameAllocator) : List (Nat × Nat) → Option FrameAllocator
  | [] => some fa
  | (start, stop) :: ranges =>
    match feedRange 4 fa start stop with
    | none => none
    | some fa => fa.feed ranges

/-- `alloc` of `num` frames, of which `zone` hands out the block `id`: the physical address. -/
def alloc (fa : FrameAllocator) (zone : Zone) (id num : Nat) : Option (Nat × FrameAllocator) :=
  let order := orderOf num
  if order > fa.maxOrder then none
  else (fa.get zone id order).map fun fa => (zone.start + id * PAGE_SIZE, fa)

/-- `dealloc`; `none` is a panic. -/
def dealloc (fa : FrameAllocator) (virt num : Nat) : Option FrameAllocator :=
  match virtToPhys virt with
  | none => none
  | some phys =>
    match fa.zoneOf phys with
    | none => none
    | some zone => fa.put zone ((phys - zone.start) / PAGE_SIZE) (orderOf num)

/-! ## Which frames are free -/

lemma new_free (maxOrder maxPhys frame : Nat) : (new maxOrder maxPhys).free frame = false :=
  LLFree.free_allocAll ..

variable {fa fa' : FrameAllocator} {zone : Zone} {frame : Nat}

variable {phys id fuel start stop num : Nat}

lemma zoneOf_bounds (h : fa.zoneOf phys = some zone) : zone.start ≤ phys ∧ phys < zone.stop := by
  have hin : zone.contains phys = true := by
    revert h
    fun_cases zoneOf fa phys with
    | case4 => exact nofun
    | case3 _ _ hnormal =>
      rintro ⟨⟩
      exact hnormal.2
    | _ =>
      rintro ⟨⟩
      assumption
  simpa [Zone.contains] using hin

lemma put_free {order : Nat} (h : fa.put zone id order = some fa') (hfree : fa'.free frame = true) :
    fa.free frame = true ∨
      (zone.start / PAGE_SIZE + id ≤ frame ∧ frame < zone.start / PAGE_SIZE + id + 2 ^ order) := by
  obtain ⟨frames, hput, rfl⟩ := Option.map_eq_some_iff.1 h
  exact LLFree.free_put hput hfree

/-- What is marked is inside the range. -/
lemma markLoop_free {first last : Nat} (h : fa.markLoop zone fuel first last = some fa')
    (hfree : fa'.free frame = true) : fa.free frame = true ∨
      (zone.start / PAGE_SIZE + first ≤ frame ∧ frame < zone.start / PAGE_SIZE + last) := by
  revert h
  fun_induction markLoop fa zone fuel first last with
  | case1 | case4 =>
    rintro ⟨⟩
    exact .inl hfree
  | case2 => exact nofun
  | case3 fa fuel first last hlt order fb hput ih =>
    intro h
    -- a block is not longer than what is left of the range
    have hpow : 2 ^ order ≤ 2 ^ Nat.log2 (last - first) :=
      Nat.pow_le_pow_right (by decide) (Nat.min_le_right ..)
    have hself := Nat.log2_self_le (show last - first ≠ 0 by omega)
    have hpos := Nat.two_pow_pos order
    rcases ih h with hold | hrest
    · rcases put_free hput hold with hfa | hnew
      · exact .inl hfa
      · exact .inr (by omega)
    · exact .inr (by omega)

lemma markUsable_free (h : fa.markUsable zone start stop = some fa') (hfree : fa'.free frame = true) :
    fa.free frame = true ∨ (alignUp start PAGE_SIZE ≤ frame * PAGE_SIZE ∧
      (frame + 1) * PAGE_SIZE ≤ alignDown stop PAGE_SIZE) := by
  simp only [markUsable] at h
  split at h
  · cases h
  · rename_i hzone
    split at h
    · cases h
      exact .inl hfree
    · obtain ⟨fb, hloop, rfl⟩ := Option.map_eq_some_iff.1 h
      rcases markLoop_free hloop hfree with hold | hnew
      · exact .inl hold
      · -- the zone starts at a page, so that the page numbers are those of the addresses
        have hcontains : zone.start ≤ start := by
          have hin := (not_not.1 (not_or.1 hzone).2).1
          simp only [Zone.contains, Bool.and_eq_true, decide_eq_true_eq] at hin
          exact hin.1
        obtain ⟨base, hbase⟩ := zone.start_dvd
        simp only [hbase, alignUp, alignDown, PAGE_SIZE] at *
        exact .inr (by omega)

lemma feedRange_free (h : feedRange fuel fa start stop = some fa') (hfree : fa'.free frame = true) :
    fa.free frame = true ∨ (alignUp start PAGE_SIZE ≤ frame * PAGE_SIZE ∧
      (frame + 1) * PAGE_SIZE ≤ alignDown stop PAGE_SIZE) := by
  revert h
  fun_induction feedRange fuel fa start stop with
  | case2 =>
    rintro ⟨⟩
    exact .inl hfree
  | case5 _ fa start stop hlt zone hzone _ fb hmark ih =>
    intro h
    have hdown : alignDown (min stop zone.stop) PAGE_SIZE ≤ alignDown stop PAGE_SIZE :=
      Nat.mul_le_mul_right _ (Nat.div_le_div_right (Nat.min_le_left ..))
    rcases ih h with hold | hrest
    · rcases markUsable_free hmark hold with hfa | hnew
      · exact .inl hfa
      · exact .inr ⟨hnew.1, le_trans hnew.2 hdown⟩
    · refine .inr ⟨?_, hrest.2⟩
      -- the rest starts behind the range's start
      have hin := zoneOf_bounds hzone
      have hup : alignUp start PAGE_SIZE ≤ alignUp (min stop zone.stop) PAGE_SIZE :=
        Nat.mul_le_mul_right _ (Nat.div_le_div_right (by omega))
      exact le_trans hup hrest.1
  | _ => exact nofun

/-- The frames that `feed` makes free are whole pages of the ranges. -/
lemma feed_free {ranges : List (Nat × Nat)} (h : fa.feed ranges = some fa')
    (hfree : fa'.free frame = true) :
    fa.free frame = true ∨ ∃ range ∈ ranges, alignUp range.1 PAGE_SIZE ≤ frame * PAGE_SIZE ∧
      (frame + 1) * PAGE_SIZE ≤ alignDown range.2 PAGE_SIZE := by
  induction ranges generalizing fa with
  | nil =>
    cases h
    exact .inl hfree
  | cons range ranges ih =>
    obtain ⟨start, stop⟩ := range
    simp only [feed] at h
    split at h
    · cases h
    · rename_i fb hrange
      rcases ih h with hold | ⟨other, hmem, hpage⟩
      · rcases feedRange_free hrange hold with hfa | hnew
        · exact .inl hfa
        · exact .inr ⟨(start, stop), List.mem_cons_self .., hnew⟩
      · exact .inr ⟨other, List.mem_cons_of_mem _ hmem, hpage⟩

/-- What is handed out was free, and the block starts where the frames do. -/
lemma alloc_spec (h : fa.alloc zone id num = some (phys, fa')) :
    phys = zone.start + id * PAGE_SIZE ∧ id % 2 ^ orderOf num = 0 ∧
      (∀ frame, phys / PAGE_SIZE ≤ frame → frame < phys / PAGE_SIZE + 2 ^ orderOf num →
        fa.free frame = true ∧ fa'.free frame = false) ∧
      ∀ frame, fa'.free frame = true → fa.free frame = true := by
  simp only [alloc] at h
  split at h
  · cases h
  · obtain ⟨fb, hget, heq⟩ := Option.map_eq_some_iff.1 h
    obtain ⟨rfl, rfl⟩ := Prod.mk.inj heq
    obtain ⟨frames, hgot, rfl⟩ := Option.map_eq_some_iff.1 hget
    refine ⟨rfl, LLFree.aligned_get hgot, fun frame hlow hhigh => ?_, fun frame => LLFree.free_get hgot⟩
    rw [Nat.add_mul_div_right _ _ (by decide)] at hlow hhigh
    exact LLFree.block_get hgot hlow hhigh

/-- What becomes free by giving a block back are the frames of the block, from the one its address lies
in. -/
lemma dealloc_free {virt : Nat} (h : fa.dealloc virt num = some fa') (hfree : fa'.free frame = true) :
    fa.free frame = true ∨ ∃ phys, virtToPhys virt = some phys ∧ phys / PAGE_SIZE ≤ frame ∧
      frame < phys / PAGE_SIZE + 2 ^ orderOf num := by
  revert h
  fun_cases dealloc fa virt num with
  | case3 phys hphys zone hzone =>
    intro h
    rcases put_free h hfree with hold | hnew
    · exact .inl hold
    · have hin := zoneOf_bounds hzone
      obtain ⟨base, hbase⟩ := zone.start_dvd
      have hpage : zone.start / PAGE_SIZE + (phys - zone.start) / PAGE_SIZE = phys / PAGE_SIZE := by
        simp only [hbase, PAGE_SIZE] at *
        omega
      rw [hpage] at hnew
      exact .inr ⟨phys, hphys, hnew⟩
  | _ => rintro ⟨⟩

end FrameAllocator

/-! ## An allocator that keeps the laws -/

/-- The number of frames of each zone, and which frames are free. -/
structure Bitmap where
  zones : Zone → Option Nat
  free : Nat → Bool

namespace Bitmap

/-- The frames of the block are marked as free, or as allocated. It has to be aligned, in the range of its
zone, and all of its frames are the other. -/
def mark (value : Bool) (map : Bitmap) (zone : Zone) (id order : Nat) : Option Bitmap :=
  match map.zones zone with
  | none => none
  | some frames =>
    let first := zone.start / PAGE_SIZE + id
    if id % 2 ^ order = 0 ∧ id + 2 ^ order ≤ frames ∧
        (List.range (2 ^ order)).all (fun i => map.free (first + i) == !value) then
      some { map with
        free := fun frame => if first ≤ frame ∧ frame < first + 2 ^ order then value else map.free frame }
    else none

variable {map map' : Bitmap} {zone : Zone} {id order frame : Nat} {value : Bool}

lemma mark_ok (h : map.mark value zone id order = some map') : id % 2 ^ order = 0 ∧
    (∀ i < 2 ^ order, map.free (zone.start / PAGE_SIZE + id + i) = !value) ∧
      map' = { map with free := fun frame => if zone.start / PAGE_SIZE + id ≤ frame ∧
        frame < zone.start / PAGE_SIZE + id + 2 ^ order then value else map.free frame } := by
  unfold mark at h
  split at h
  · cases h
  · dsimp only at h
    split at h
    · rename_i hblock
      cases h
      exact ⟨hblock.1, by simpa using hblock.2.2, rfl⟩
    · cases h

end Bitmap

instance bitmap : LLFree where
  State := Bitmap
  free := Bitmap.free
  allocAll zones := ⟨zones, fun _ => false⟩
  put := Bitmap.mark true
  get := Bitmap.mark false
  free_allocAll _ _ := rfl
  free_put h hfree := by
    obtain ⟨-, -, rfl⟩ := Bitmap.mark_ok h
    dsimp only at hfree
    split at hfree
    · exact .inr ‹_›
    · exact .inl hfree
  aligned_get h := (Bitmap.mark_ok h).1
  block_get h hlow hhigh := by
    obtain ⟨-, hall, rfl⟩ := Bitmap.mark_ok h
    have hin := hall _ (Nat.sub_lt_left_of_lt_add hlow hhigh)
    rw [Nat.add_sub_cancel' hlow] at hin
    exact ⟨hin, if_pos ⟨hlow, hhigh⟩⟩
  free_get h hfree := by
    obtain ⟨-, -, rfl⟩ := Bitmap.mark_ok h
    dsimp only at hfree
    split at hfree
    · cases hfree
    · exact hfree

end Akarin.Heap
