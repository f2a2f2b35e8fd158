import Mathlib.Data.Finset.Card
import Mathlib.Order.Monotone.Basic
import PidOne.Proofs.Kernel.Granting

/-!
# Allocating numbers

Files that are opened one after the other take the free numbers in ascending order, whatever holes
the table has. Which number comes next depends on which numbers are in use and not on the files, so
`fresh` counts through the free numbers of a table once and for all: the file opened at some place
gets the fresh number of that place, and the fresh numbers up to some place are the lowest free
ones. From this the kernel after any number of files has been opened is known number by number.
-/

namespace PidOne

namespace FdTable

variable {table other : FdTable} {fd place earlier count : Nat}

/-- The same numbers are in use. -/
def SameUse (table other : FdTable) : Prop :=
  ∀ fd, table.get? fd = none ↔ other.get? fd = none

theorem lowestFree_le_of_free (h : table.get? fd = none) : table.lowestFree ≤ fd := by
  by_contra hlt
  have hused := isSome_get?_of_lt_lowestFree (Nat.lt_of_not_le hlt)
  rw [h] at hused
  cases hused

theorem SameUse.lowestFree (h : table.SameUse other) : table.lowestFree = other.lowestFree := by
  apply Nat.le_antisymm
  · apply lowestFree_le_of_free
    rw [h]
    exact get?_lowestFree other
  · apply lowestFree_le_of_free
    rw [← h]
    exact get?_lowestFree table

theorem get?_insert_eq_none_iff {descriptor : Descriptor} :
    (table.insert descriptor).get? fd = none ↔ table.get? fd = none ∧ fd ≠ table.lowestFree := by
  rw [get?_insert]
  by_cases hfd : fd = table.lowestFree
  · simp [hfd]
  · simp [hfd]

theorem SameUse.insert (h : table.SameUse other) (descriptor descriptor' : Descriptor) :
    (table.insert descriptor).SameUse (other.insert descriptor') := by
  intro fd
  rw [get?_insert_eq_none_iff, get?_insert_eq_none_iff, h fd, h.lowestFree]

theorem lowestFree_lt_insert (table : FdTable) (descriptor : Descriptor) :
    table.lowestFree < (table.insert descriptor).lowestFree := by
  obtain ⟨hfree, hne⟩ :=
    get?_insert_eq_none_iff.mp (get?_lowestFree (table.insert descriptor))
  exact Nat.lt_of_le_of_ne (lowestFree_le_of_free hfree) hne.symm

/-! ## Fresh numbers -/

/-- The free number that is taken after as many others as `place` says. It does not matter what
they are taken for. -/
def fresh (table : FdTable) : Nat → Nat
  | 0 => table.lowestFree
  | place + 1 => (table.insert ⟨0, false⟩).fresh place

theorem SameUse.fresh (h : table.SameUse other) (place : Nat) :
    table.fresh place = other.fresh place := by
  induction place generalizing table other with
  | zero => exact h.lowestFree
  | succ place ih => exact ih (h.insert _ _)

theorem fresh_insert (table : FdTable) (descriptor : Descriptor) (place : Nat) :
    (table.insert descriptor).fresh place = table.fresh (place + 1) := by
  have hsame : table.SameUse table := fun _ => Iff.rfl
  exact (hsame.insert descriptor ⟨0, false⟩).fresh place

theorem strictMono_fresh (table : FdTable) : StrictMono table.fresh := by
  apply strictMono_nat_of_lt_succ
  intro place
  induction place generalizing table with
  | zero => exact lowestFree_lt_insert table _
  | succ place ih => exact ih _

theorem get?_fresh (table : FdTable) (place : Nat) : table.get? (table.fresh place) = none := by
  induction place generalizing table with
  | zero => exact get?_lowestFree table
  | succ place ih => exact (get?_insert_eq_none_iff.mp (ih _)).1

/-- No free number is left out. -/
theorem exists_fresh_of_lt (hfree : table.get? fd = none) (hlt : fd < table.fresh place) :
    ∃ earlier < place, table.fresh earlier = fd := by
  induction place generalizing table with
  | zero => exact absurd hlt (Nat.not_lt.mpr (lowestFree_le_of_free hfree))
  | succ place ih =>
      by_cases hlowest : fd = table.lowestFree
      · exact ⟨0, Nat.succ_pos place, hlowest.symm⟩
      · obtain ⟨earlier, hearlier, hfresh⟩ :=
          ih (get?_insert_eq_none_iff.mpr ⟨hfree, hlowest⟩) hlt
        exact ⟨earlier + 1, Nat.succ_lt_succ hearlier, hfresh⟩

/-- Some numbers are free, and a free number below one of them is among them. -/
structure Lowest (table : FdTable) (numbers : Finset Nat) : Prop where
  free : ∀ fd ∈ numbers, table.get? fd = none
  least : ∀ fd, table.get? fd = none → ∀ higher ∈ numbers, fd < higher → fd ∈ numbers

def freshNumbers (table : FdTable) (count : Nat) : Finset Nat :=
  (Finset.range count).image table.fresh

theorem mem_freshNumbers :
    fd ∈ table.freshNumbers count ↔ ∃ place < count, table.fresh place = fd := by
  simp [freshNumbers]

theorem card_freshNumbers (table : FdTable) (count : Nat) :
    (table.freshNumbers count).card = count := by
  rw [freshNumbers, Finset.card_image_of_injective _ table.strictMono_fresh.injective,
    Finset.card_range]

theorem lowest_freshNumbers (table : FdTable) (count : Nat) :
    table.Lowest (table.freshNumbers count) where
  free := by
    intro fd hmem
    obtain ⟨place, -, rfl⟩ := mem_freshNumbers.mp hmem
    exact get?_fresh table place
  least := by
    intro fd hfree higher hmem hlt
    obtain ⟨place, hplace, rfl⟩ := mem_freshNumbers.mp hmem
    obtain ⟨earlier, hearlier, hfresh⟩ := exists_fresh_of_lt hfree hlt
    exact mem_freshNumbers.mpr ⟨earlier, hearlier.trans hplace, hfresh⟩

end FdTable

/-! ## Opening many files -/

namespace Kernel

variable {kernel : Kernel} {files : List OpenFile} {fd place : Nat}

/-- The kernel after some files have been opened, in this order. -/
def openFiles (kernel : Kernel) (files : List OpenFile) : Kernel :=
  files.foldl (fun kernel file => (kernel.openFile file).2) kernel

theorem openFiles_cons (kernel : Kernel) (file : OpenFile) (files : List OpenFile) :
    kernel.openFiles (file :: files) = (kernel.openFile file).2.openFiles files := rfl

theorem table_openFile (kernel : Kernel) (file : OpenFile) :
    (kernel.openFile file).2.table = kernel.table.insert ⟨kernel.files.length, true⟩ := rfl

theorem files_openFile (kernel : Kernel) (file : OpenFile) :
    (kernel.openFile file).2.files = kernel.files ++ [file] := rfl

/-- Nothing but the table and the files is any different. -/
theorem openFiles_eq (kernel : Kernel) (files : List OpenFile) :
    kernel.openFiles files
      = { kernel with
        table := (kernel.openFiles files).table, files := kernel.files ++ files } := by
  induction files generalizing kernel with
  | nil => rw [List.append_nil]; rfl
  | cons file files ih =>
      rw [openFiles_cons, ih, files_openFile, List.append_assoc]
      rfl

/-- Every other number stands for what it stood for. -/
theorem get?_openFiles_of_ne (h : ∀ place < files.length, fd ≠ kernel.table.fresh place) :
    (kernel.openFiles files).table.get? fd = kernel.table.get? fd := by
  induction files generalizing kernel with
  | nil => rfl
  | cons file files ih =>
      have hfirst : fd ≠ kernel.table.lowestFree := h 0 (Nat.succ_pos _)
      rw [openFiles_cons, ih]
      · rw [table_openFile, FdTable.get?_insert, if_neg hfirst]
      · intro place hplace
        rw [table_openFile, FdTable.fresh_insert]
        exact h (place + 1) (Nat.succ_lt_succ hplace)

theorem get?_openFiles_fresh (h : place < files.length) :
    (kernel.openFiles files).table.get? (kernel.table.fresh place)
      = some ⟨kernel.files.length + place, true⟩ := by
  induction files generalizing kernel place with
  | nil => cases h
  | cons file files ih =>
      rw [openFiles_cons]
      cases place with
      | zero =>
          -- all later files get higher numbers
          have hlater : ∀ later < files.length,
              kernel.table.fresh 0 ≠ (kernel.openFile file).2.table.fresh later := by
            intro later _
            rw [table_openFile, FdTable.fresh_insert]
            exact ne_of_lt (kernel.table.strictMono_fresh (Nat.succ_pos later))
          rw [get?_openFiles_of_ne hlater, table_openFile]
          exact FdTable.get?_insert_self _ _
      | succ place =>
          have hnumber := @ih (kernel.openFile file).2 place (Nat.lt_of_succ_lt_succ h)
          rw [table_openFile, FdTable.fresh_insert, files_openFile, List.length_append,
            List.length_singleton] at hnumber
          rw [hnumber, Nat.add_right_comm, Nat.add_assoc]

theorem file?_openFiles_fresh (h : place < files.length) :
    (kernel.openFiles files).file? (kernel.table.fresh place) = some files[place] := by
  rw [file?, FdTable.find?_ofNat, get?_openFiles_fresh h, openFiles_eq]
  simp [h]

end Kernel

end PidOne
