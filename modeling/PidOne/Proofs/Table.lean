import PidOne.Kernel

/-!
# What system calls make of the descriptor table

Two requests put a descriptor into the table, each under the lowest free number, and one takes a
descriptor out. Making a pipe puts in two. Nothing else touches the table. Closing a number that is
free fails, and as erasing a free number changes nothing either, the table after a close is the one
with the number erased whatever the kernel answered.
-/

namespace PidOne

namespace FdTable

variable {table : FdTable} {fd : Nat}

theorem erase_of_free (h : table.get? fd = none) : table.erase fd = table := by
  rw [erase]
  rcases Nat.lt_or_ge fd table.slots.length with hlt | hge
  · have hnone : table.slots[fd] = none := by
      simpa [get?, List.getElem?_eq_getElem hlt] using h
    rw [← hnone, List.set_getElem_self]
  · rw [List.set_eq_of_length_le hge]

end FdTable

namespace Kernel

variable {kernel after : Kernel} {returned fd : Nat}

theorem isOpen_ofNat (kernel : Kernel) (fd : Nat) :
    kernel.isOpen fd = (kernel.table.get? fd).isSome := by
  rw [isOpen, FdTable.find?_ofNat]

def without (kernel : Kernel) (fd : Nat) : Kernel :=
  { kernel with table := kernel.table.erase fd }

theorem without_of_free (h : kernel.isOpen fd = false) : kernel.without fd = kernel := by
  have hfree : kernel.table.get? fd = none := by simpa [isOpen_ofNat] using h
  rw [without, FdTable.erase_of_free hfree]

theorem serve_close_open (h : kernel.isOpen fd = true) :
    kernel.serve (.close fd) = .ok (0, kernel.without fd) := by
  rw [serve, close, if_pos h]
  rfl

theorem serve_close_free {fd : Int} (h : kernel.isOpen fd = false) :
    kernel.serve (.close fd) = .error .ebadf := by
  rw [serve, close, if_neg (by simp [h])]
  rfl

/-- Only natural numbers are open. -/
theorem eq_ofNat_of_isOpen {fd : Int} (h : kernel.isOpen fd = true) :
    ∃ number : Nat, fd = number := by
  refine Int.eq_ofNat_of_zero_le (Int.not_lt.mp fun hneg => ?_)
  rw [isOpen, FdTable.find?_of_neg hneg] at h
  cases h

/-! ## Making descriptors -/

/-- The call has put a descriptor under the lowest free number. -/
def Installs (kernel : Kernel) (returned : Nat) (after : Kernel) : Prop :=
  returned = kernel.table.lowestFree
    ∧ ∃ descriptor, after.table = kernel.table.insert descriptor

theorem installs_install (kernel : Kernel) (descriptor : Descriptor) :
    kernel.Installs (kernel.install descriptor).1 (kernel.install descriptor).2 :=
  ⟨rfl, descriptor, rfl⟩

theorem installs_openFile (kernel : Kernel) (file : OpenFile) :
    kernel.Installs (kernel.openFile file).1 (kernel.openFile file).2 :=
  ⟨rfl, _, rfl⟩

/-- The writing end is made in a kernel that has the reading end. -/
theorem installs_pipe (kernel : Kernel) :
    ∃ between, kernel.Installs kernel.pipe.1 between
      ∧ between.Installs kernel.pipe.2.1 kernel.pipe.2.2 :=
  ⟨_, ⟨rfl, _, rfl⟩, installs_openFile _ _⟩

/-! ## Calls that leave the table alone -/

/-- All that a write may change is what is in the pipes. -/
theorem pipes_of_write {fd : Int} {data : List UInt8} {count : Nat}
    (h : kernel.write fd data = .ok (count, after)) :
    ∃ pipes, after = { kernel with pipes } := by
  unfold write at h
  split at h
  · split at h
    · cases h
      exact ⟨kernel.pipes, rfl⟩
    split at h
    · cases h
    split at h
    · cases h
    split at h
    · cases h
    · cases h
      exact ⟨_, rfl⟩
  · cases h

theorem pipes_of_read {fd : Int} {count : Nat} {bytes : List UInt8}
    (h : kernel.read fd count = .ok (bytes, after)) :
    ∃ pipes, after = { kernel with pipes } := by
  unfold read at h
  split at h
  · split at h
    · cases h
    split at h
    · cases h
      exact ⟨kernel.pipes, rfl⟩
    split at h
    · split at h
      · cases h
      · cases h
        exact ⟨kernel.pipes, rfl⟩
    · cases h
      exact ⟨_, rfl⟩
  · cases h

/-- What there was to start a child, and what is different afterwards. -/
structure Forks (kernel : Kernel) (child : Child) (after : Kernel) : Prop where
  birth : child.birth = kernel.births
  pid : 0 < child.pid
  free : kernel.hasProcess child.pid = false
  after : after = { kernel with
    others := kernel.others ++ [⟨child.birth, child.pid, .running, kernel.table⟩]
    births := kernel.births + 1 }

theorem forks_of_fork {child : Child} (h : kernel.fork = .ok (child, after)) :
    kernel.Forks child after := by
  unfold fork at h
  dsimp only at h
  split at h
  · cases h
  · next hfree =>
    cases h
    rw [Bool.or_eq_true, decide_eq_true_iff, not_or, Int.not_le, Bool.not_eq_true] at hfree
    exact ⟨rfl, hfree.1, hfree.2, rfl⟩

theorem table_write {fd : Int} {data : List UInt8} {count : Nat}
    (h : kernel.write fd data = .ok (count, after)) : after.table = kernel.table := by
  obtain ⟨pipes, rfl⟩ := pipes_of_write h
  rfl

theorem table_read {fd : Int} {count : Nat} {bytes : List UInt8}
    (h : kernel.read fd count = .ok (bytes, after)) : after.table = kernel.table := by
  obtain ⟨pipes, rfl⟩ := pipes_of_read h
  rfl

end Kernel

end PidOne
