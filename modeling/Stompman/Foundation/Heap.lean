import Mathlib.Data.List.Basic

/-!
# Cells with addresses

A heap gives every new cell the next address and never gives one up.  Values that programs hold by
reference live in cells; what an operation leaves alone is said by the addresses that it does not
touch.
-/

namespace Foundation

/-- A heap of cells. -/
structure Heap (α : Type) where
  /-- Contents of the cells, by address. -/
  cells : List α := []

namespace Heap

variable {α : Type} {heap : Heap α} {address other : Nat} {value new : α}

/-- The address of the next cell. -/
def size (heap : Heap α) : Nat := heap.cells.length

/-- The contents of a cell. -/
def read (heap : Heap α) (address : Nat) : Option α := heap.cells[address]?

/-- Make a new cell. -/
def alloc (heap : Heap α) (value : α) : Heap α := ⟨heap.cells ++ [value]⟩

/-- Change the contents of a cell. -/
def write (heap : Heap α) (address : Nat) (value : α) : Heap α := ⟨heap.cells.set address value⟩

theorem lt_size_of_read (found : heap.read address = some value) : address < heap.size :=
  (List.getElem?_eq_some_iff.mp found).1

@[simp] theorem read_alloc_size : (heap.alloc value).read heap.size = some value := by
  simp [read, alloc, size]

theorem read_alloc_of_lt (within : address < heap.size) :
    (heap.alloc new).read address = heap.read address := by
  rw [read, alloc, List.getElem?_append_left within, read]

theorem read_write (found : heap.read address = some value) :
    (heap.write address new).read address = some new := by
  have within : address < heap.cells.length := lt_size_of_read found
  rw [read, write, List.getElem?_set_self within]

theorem read_write_of_ne (different : other ≠ address) :
    (heap.write address new).read other = heap.read other := by
  rw [read, write, List.getElem?_set_ne (Ne.symm different), read]

end Heap

end Foundation
