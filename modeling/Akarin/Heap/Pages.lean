/-
# Akarin.Heap.Pages -- pages and the objects in them

Page arithmetic of the kernel heap: the direct map of physical memory, the size classes of the slab
allocator, and the objects a page of a class is cut into. The heap's null is the address zero; no object
is there, because the direct map starts above it.
-/
import Mathlib.Data.Set.Card

namespace Akarin.Heap

open List

def PAGE_SIZE : Nat := 0x1000

/-- `physical_memory_offset`. -/
def physicalMemoryOffset : Nat := 0xffff800000000000

def physToVirt (phys : Nat) : Nat := phys + physicalMemoryOffset

def virtToPhys (virt : Nat) : Option Nat :=
  if physicalMemoryOffset ≤ virt then some (virt - physicalMemoryOffset) else none

def alignUp (value align : Nat) : Nat := (value + align - 1) / align * align

def alignDown (value align : Nat) : Nat := value / align * align

def SIZE_CLASSES : List Nat := [8, 16, 32, 64, 128, 256, 512, 1024, 2048]

/-- `SlubRuntime::class_index` of a layout. -/
def classIndex (size align : Nat) : Option Nat :=
  SIZE_CLASSES.findIdx? (max (max size align) 8 ≤ ·)

def objectSize (classIndex : Nat) : Nat := SIZE_CLASSES.getD classIndex 0

/-- `page_base_for_ptr`. -/
def pageBaseForPtr (ptr : Nat) : Option Nat := (virtToPhys ptr).map (alignDown · PAGE_SIZE)

/-- The objects of a page, by their addresses. -/
def objects (page classIndex : Nat) : List Nat :=
  (List.range (PAGE_SIZE / objectSize classIndex)).map fun index =>
    physToVirt page + index * objectSize classIndex

variable {page k a b : Nat}

/-- A size class divides the page into two objects at least, each of which holds a word. -/
lemma objectSize_spec (hk : k < SIZE_CLASSES.length) :
    8 ≤ objectSize k ∧ objectSize k ∣ PAGE_SIZE ∧ 2 ≤ PAGE_SIZE / objectSize k := by
  have hall : ∀ k < SIZE_CLASSES.length,
      8 ≤ objectSize k ∧ objectSize k ∣ PAGE_SIZE ∧ 2 ≤ PAGE_SIZE / objectSize k := by decide
  exact hall k hk

lemma classIndex_lt {size align : Nat} (h : classIndex size align = some k) : k < SIZE_CLASSES.length :=
  (findIdx?_eq_some_iff_getElem.1 h).1

/-- The class is large enough for the layout. -/
lemma classIndex_le {size align : Nat} (h : classIndex size align = some k) :
    size ≤ objectSize k ∧ align ≤ objectSize k := by
  obtain ⟨hlt, hle, _⟩ := findIdx?_eq_some_iff_getElem.1 h
  have hsize : objectSize k = SIZE_CLASSES[k] := by
    rw [objectSize, getD_eq_getElem?_getD, getElem?_eq_getElem hlt]
    rfl
  rw [hsize]
  simp only [decide_eq_true_eq] at hle
  omega

lemma mem_objects : a ∈ objects page k ↔
    ∃ index < PAGE_SIZE / objectSize k, a = physToVirt page + index * objectSize k := by
  simp only [objects, mem_map, mem_range]
  constructor
  · rintro ⟨index, hlt, rfl⟩
    exact ⟨index, hlt, rfl⟩
  · rintro ⟨index, hlt, rfl⟩
    exact ⟨index, hlt, rfl⟩

/-- An object lies inside its page. -/
lemma object_bounds (hk : k < SIZE_CLASSES.length) (ha : a ∈ objects page k) :
    physToVirt page ≤ a ∧ a + objectSize k ≤ physToVirt page + PAGE_SIZE := by
  obtain ⟨index, hlt, rfl⟩ := mem_objects.1 ha
  obtain ⟨_, hdvd, _⟩ := objectSize_spec hk
  have hle : (index + 1) * objectSize k ≤ PAGE_SIZE := by
    calc (index + 1) * objectSize k ≤ PAGE_SIZE / objectSize k * objectSize k :=
          Nat.mul_le_mul_right _ hlt
      _ = PAGE_SIZE := Nat.div_mul_cancel hdvd
  rw [Nat.add_mul, Nat.one_mul] at hle
  exact ⟨Nat.le_add_right _ _, by omega⟩

lemma object_ne_zero (ha : a ∈ objects page k) : a ≠ 0 := by
  obtain ⟨index, _, rfl⟩ := mem_objects.1 ha
  simp only [physToVirt, physicalMemoryOffset]
  omega

/-- Addresses inside a page lead back to the page. -/
lemma pageBaseForPtr_eq (hpage : page % PAGE_SIZE = 0) (hle : physToVirt page ≤ a)
    (hlt : a < physToVirt page + PAGE_SIZE) : pageBaseForPtr a = some page := by
  have hoff : physicalMemoryOffset ≤ a := le_trans (Nat.le_add_left _ _) hle
  simp only [pageBaseForPtr, virtToPhys, if_pos hoff, Option.map_some, alignDown]
  simp only [physToVirt, PAGE_SIZE] at *
  congr 1
  omega

lemma pageBaseForPtr_object (hk : k < SIZE_CLASSES.length) (hpage : page % PAGE_SIZE = 0)
    (ha : a ∈ objects page k) : pageBaseForPtr a = some page := by
  obtain ⟨hle, hlt⟩ := object_bounds hk ha
  obtain ⟨hsize, _⟩ := objectSize_spec hk
  exact pageBaseForPtr_eq hpage hle (by omega)

/-- An object is aligned to its class. -/
lemma object_aligned (hk : k < SIZE_CLASSES.length) (hpage : page % PAGE_SIZE = 0)
    (ha : a ∈ objects page k) : a % objectSize k = 0 := by
  obtain ⟨index, _, rfl⟩ := mem_objects.1 ha
  obtain ⟨_, hdvd, _⟩ := objectSize_spec hk
  have hoffset : objectSize k ∣ physicalMemoryOffset :=
    Nat.dvd_trans hdvd (Nat.dvd_of_mod_eq_zero (by decide))
  have hbase : objectSize k ∣ page := Nat.dvd_trans hdvd (Nat.dvd_of_mod_eq_zero hpage)
  apply Nat.mod_eq_zero_of_dvd
  exact Nat.dvd_add (Nat.dvd_add hbase hoffset) (Nat.dvd_mul_left _ _)

/-- Two objects of a page are apart. -/
lemma objects_apart (ha : a ∈ objects page k) (hb : b ∈ objects page k) (hne : a ≠ b) :
    a + objectSize k ≤ b ∨ b + objectSize k ≤ a := by
  obtain ⟨i, _, rfl⟩ := mem_objects.1 ha
  obtain ⟨j, _, rfl⟩ := mem_objects.1 hb
  rcases lt_trichotomy i j with hlt | rfl | hlt
  · left
    have hle := Nat.mul_le_mul_right (objectSize k) hlt
    rw [Nat.succ_mul] at hle
    omega
  · exact absurd rfl hne
  · right
    have hle := Nat.mul_le_mul_right (objectSize k) hlt
    rw [Nat.succ_mul] at hle
    omega

lemma objects_nodup (hk : k < SIZE_CLASSES.length) : (objects page k).Nodup := by
  obtain ⟨hsize, _⟩ := objectSize_spec hk
  refine List.Nodup.map (fun i j heq => ?_) nodup_range
  exact Nat.eq_of_mul_eq_mul_right (by omega) (Nat.add_left_cancel heq)

lemma length_objects (page k : Nat) : (objects page k).length = PAGE_SIZE / objectSize k := by
  simp [objects]

end Akarin.Heap
