import Mathlib.GroupTheory.Perm.ViaEmbedding
import PidOne.Proofs.Kernel.Allocating
import PidOne.Proofs.Kernel.Orderly

/-!
# The same but for numbers

Two kernels may differ in nothing but which number stands for which open file. `Renumbers` says this
with two permutations, one of the numbers and one of the places at which files are kept: they carry
the table of one kernel over to that of the other, and all else is the same, what the other
processes see included. Opening the same files in another order comes to such a kernel.
-/

namespace PidOne

namespace Kernel

/-- How one kernel becomes the other: every number is exchanged for another one as `number` says,
and every file for the one at another place as `file` says. -/
structure Renumbers (numbers : Finset Nat) (number file : Equiv.Perm Nat) (kernel other : Kernel) :
    Prop where
  /-- Nothing is any different but the table and the files. -/
  rest : other = { kernel with table := other.table, files := other.files }
  /-- Only the given numbers are exchanged for others. -/
  fixed : ∀ fd ∉ numbers, number fd = fd ∧ other.table.get? fd = kernel.table.get? fd
  table : ∀ fd, other.table.get? (number fd)
    = (kernel.table.get? fd).map fun descriptor =>
      { descriptor with file := file descriptor.file }
  files : ∀ index, other.files[file index]? = kernel.files[index]?
  /-- The descriptors of other processes are for the same files in both kernels. -/
  others : ∀ process ∈ kernel.others, ∀ fd descriptor, process.table.get? fd = some descriptor →
    file descriptor.file = descriptor.file

/-! ## Opening files in another order -/

variable {kernel : Kernel} {count : Nat} {files files' : Fin count → OpenFile} {fd index : Nat}

/-- The numbers that the files get, by the order in which they are opened. -/
def numberAt (kernel : Kernel) (count : Nat) : Fin count ↪ Nat where
  toFun place := kernel.table.fresh place
  inj' _ _ h := Fin.ext (kernel.table.strictMono_fresh.injective h)

/-- The places at which the files are kept. -/
def placeOf (kernel : Kernel) (count : Nat) : Fin count ↪ Nat where
  toFun place := kernel.files.length + place
  inj' _ _ h := Fin.ext (Nat.add_left_cancel h)

theorem get?_numberAt (place : Fin count) :
    (kernel.openFiles (List.ofFn files)).table.get? (kernel.numberAt count place)
      = some ⟨kernel.placeOf count place, true⟩ :=
  get?_openFiles_fresh (by simp)

theorem file?_numberAt (place : Fin count) :
    (kernel.openFiles (List.ofFn files)).file? (kernel.numberAt count place)
      = some (files place) := by
  have hplace : place.val < (List.ofFn files).length := by simp
  refine (file?_openFiles_fresh hplace).trans ?_
  simp

theorem get?_of_notMem_range (h : fd ∉ Set.range (kernel.numberAt count)) :
    (kernel.openFiles (List.ofFn files)).table.get? fd = kernel.table.get? fd := by
  apply get?_openFiles_of_ne
  rintro place hplace rfl
  rw [List.length_ofFn] at hplace
  exact h ⟨⟨place, hplace⟩, rfl⟩

theorem mem_range_numberAt :
    fd ∈ Set.range (kernel.numberAt count) ↔ fd ∈ kernel.table.freshNumbers count := by
  rw [FdTable.mem_freshNumbers]
  constructor
  · rintro ⟨place, rfl⟩
    exact ⟨place, place.isLt, rfl⟩
  · rintro ⟨place, hplace, rfl⟩
    exact ⟨⟨place, hplace⟩, rfl⟩

theorem notMem_range_placeOf (h : index < kernel.files.length) :
    index ∉ Set.range (kernel.placeOf count) := by
  rintro ⟨place, rfl⟩
  exact absurd h (Nat.not_lt.mpr (Nat.le_add_right _ _))

theorem files_openFiles (kernel : Kernel) (files : List OpenFile) :
    (kernel.openFiles files).files = kernel.files ++ files := by
  rw [openFiles_eq]

theorem getElem?_placeOf (place : Fin count) :
    (kernel.openFiles (List.ofFn files)).files[kernel.placeOf count place]?
      = some (files place) := by
  have hplace : kernel.placeOf count place = kernel.files.length + place := rfl
  rw [files_openFiles, hplace, List.getElem?_append_right (Nat.le_add_right _ _),
    Nat.add_sub_cancel_left]
  simp

/-- Where no new file is kept there is an old one or none. -/
theorem getElem?_of_notMem_range (h : index ∉ Set.range (kernel.placeOf count)) :
    (kernel.openFiles (List.ofFn files)).files[index]? = kernel.files[index]? := by
  rw [files_openFiles]
  rcases Nat.lt_or_ge index kernel.files.length with hlt | hge
  · rw [List.getElem?_append_left hlt]
  · have hbeyond : kernel.files.length + count ≤ index := by
      by_contra hwithin
      refine h ⟨⟨index - kernel.files.length, by omega⟩, ?_⟩
      exact Nat.add_sub_of_le hge
    rw [List.getElem?_eq_none (by simpa using hbeyond), List.getElem?_eq_none hge]

/-- **Files opened in another order** only get their numbers in another order. -/
theorem renumbers_openFiles (horderly : kernel.Orderly) (places : Equiv.Perm (Fin count))
    (h : ∀ place, files' (places place) = files place) :
    Renumbers (kernel.table.freshNumbers count) (places.viaEmbedding (kernel.numberAt count))
      (places.viaEmbedding (kernel.placeOf count)) (kernel.openFiles (List.ofFn files))
      (kernel.openFiles (List.ofFn files')) := by
  have hfile : ∀ index < kernel.files.length,
      places.viaEmbedding (kernel.placeOf count) index = index := by
    intro index hlt
    exact Equiv.Perm.viaEmbedding_apply_of_notMem _ _ _ (notMem_range_placeOf hlt)
  refine ⟨?_, ?_, ?_, ?_, ?_⟩
  · rw [openFiles_eq kernel (List.ofFn files), openFiles_eq kernel (List.ofFn files')]
  · intro fd hfd
    rw [← mem_range_numberAt] at hfd
    exact ⟨Equiv.Perm.viaEmbedding_apply_of_notMem _ _ _ hfd,
      by rw [get?_of_notMem_range hfd, get?_of_notMem_range hfd]⟩
  · intro fd
    by_cases hfd : fd ∈ Set.range (kernel.numberAt count)
    · obtain ⟨place, rfl⟩ := hfd
      rw [Equiv.Perm.viaEmbedding_apply, get?_numberAt, get?_numberAt, Option.map_some,
        Equiv.Perm.viaEmbedding_apply]
    · rw [Equiv.Perm.viaEmbedding_apply_of_notMem _ _ _ hfd, get?_of_notMem_range hfd,
        get?_of_notMem_range hfd]
      -- an old descriptor refers to an old file
      cases hget : kernel.table.get? fd with
      | none => rfl
      | some descriptor =>
          rw [Option.map_some, hfile _ (horderly.table fd descriptor hget)]
  · intro index
    by_cases hindex : index ∈ Set.range (kernel.placeOf count)
    · obtain ⟨place, rfl⟩ := hindex
      rw [Equiv.Perm.viaEmbedding_apply, getElem?_placeOf, getElem?_placeOf, h]
    · rw [Equiv.Perm.viaEmbedding_apply_of_notMem _ _ _ hindex, getElem?_of_notMem_range hindex,
        getElem?_of_notMem_range hindex]
  · intro process hmem fd descriptor hget
    rw [openFiles_eq] at hmem
    exact hfile _ (horderly.tables process hmem fd descriptor hget)

end Kernel

end PidOne
