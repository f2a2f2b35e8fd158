/-!
# Descriptor tables

A descriptor table gives open files to numbers. Every new descriptor takes the lowest free number,
so a number is used again as soon as it has been closed. The view of a table is `get?`: `insert`
changes it at the lowest free number only, `erase` at the erased number only.
-/

namespace PidOne

/-- What a descriptor number stands for: an open file, known by its index among all open files, and
whether the descriptor is closed when another program is executed. -/
structure Descriptor where
  file : Nat
  cloexec : Bool
  deriving DecidableEq, Repr

/-- One slot for each number, in order; beyond the last slot every number is free. -/
structure FdTable where
  slots : List (Option Descriptor)
  deriving DecidableEq, Repr

namespace FdTable

def empty : FdTable := ⟨[]⟩

def get? (table : FdTable) (fd : Nat) : Option Descriptor := table.slots[fd]?.join

/-- The descriptor under a number that may be negative; no descriptor is. -/
def find? (table : FdTable) (number : Int) : Option Descriptor :=
  if number < 0 then none else table.get? number.toNat

def lowestFree (table : FdTable) : Nat := table.slots.findIdx Option.isNone

/-- The table with a descriptor under the lowest free number. -/
def insert (table : FdTable) (descriptor : Descriptor) : FdTable :=
  if table.lowestFree < table.slots.length then
    ⟨table.slots.set table.lowestFree (some descriptor)⟩
  else ⟨table.slots ++ [some descriptor]⟩

def erase (table : FdTable) (fd : Nat) : FdTable := ⟨table.slots.set fd none⟩

def descriptors (table : FdTable) : List Descriptor := table.slots.filterMap id

def size (table : FdTable) : Nat := table.descriptors.length

/-- Whether a descriptor of the table refers to a file that satisfies `p`. -/
def anyFile (table : FdTable) (p : Nat → Bool) : Bool :=
  table.descriptors.any fun descriptor => p descriptor.file

theorem lowestFree_le_length (table : FdTable) : table.lowestFree ≤ table.slots.length :=
  List.findIdx_le_length

@[simp]
theorem get?_empty (fd : Nat) : empty.get? fd = none := by simp [get?, empty]

@[simp]
theorem get?_lowestFree (table : FdTable) : table.get? table.lowestFree = none := by
  unfold lowestFree
  by_cases h : table.slots.findIdx Option.isNone < table.slots.length
  · have hnone := List.findIdx_getElem (w := h)
    rw [Option.isNone_iff_eq_none] at hnone
    simp [get?, List.getElem?_eq_getElem h, hnone]
  · simp [get?, List.getElem?_eq_none (Nat.le_of_not_lt h)]

/-- Every number below the lowest free one is in use. -/
theorem isSome_get?_of_lt_lowestFree {table : FdTable} {fd : Nat} (h : fd < table.lowestFree) :
    (table.get? fd).isSome = true := by
  have hlength := Nat.lt_of_lt_of_le h table.lowestFree_le_length
  have hsome := List.not_of_lt_findIdx h
  simp only [get?, List.getElem?_eq_getElem hlength, Option.join_some]
  simpa [Option.isSome_iff_ne_none] using hsome

theorem get?_insert (table : FdTable) (descriptor : Descriptor) (fd : Nat) :
    (table.insert descriptor).get? fd =
      if fd = table.lowestFree then some descriptor else table.get? fd := by
  have hle := table.lowestFree_le_length
  unfold insert get?
  split
  · next h =>
    rw [List.getElem?_set]
    by_cases hfd : fd = table.lowestFree
    · simp [hfd, h]
    · simp [hfd, Ne.symm hfd]
  · next h =>
    have hlength : table.lowestFree = table.slots.length := by omega
    rw [hlength]
    rcases Nat.lt_trichotomy fd table.slots.length with hlt | heq | hgt
    · simp [List.getElem?_append_left hlt, Nat.ne_of_lt hlt]
    · simp [heq]
    · have hnew : (table.slots ++ [some descriptor]).length ≤ fd := by simp; omega
      rw [List.getElem?_eq_none hnew, List.getElem?_eq_none (Nat.le_of_lt hgt)]
      simp [Nat.ne_of_gt hgt]

@[simp]
theorem get?_insert_self (table : FdTable) (descriptor : Descriptor) :
    (table.insert descriptor).get? table.lowestFree = some descriptor := by
  simp [get?_insert]

theorem get?_erase (table : FdTable) (erased fd : Nat) :
    (table.erase erased).get? fd = if fd = erased then none else table.get? fd := by
  unfold erase get?
  rw [List.getElem?_set]
  by_cases hfd : fd = erased
  · subst hfd
    by_cases hlt : fd < table.slots.length <;> simp [hlt]
  · simp [hfd, Ne.symm hfd]

theorem find?_ofNat (table : FdTable) (fd : Nat) : table.find? (fd : Int) = table.get? fd := by
  simp [find?, Int.not_lt.2 (Int.natCast_nonneg fd)]

theorem find?_of_neg {table : FdTable} {number : Int} (h : number < 0) :
    table.find? number = none := by
  simp [find?, h]

end FdTable

end PidOne
