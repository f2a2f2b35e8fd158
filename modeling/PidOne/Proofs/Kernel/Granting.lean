import Mathlib.Logic.Basic
import PidOne.PidFd.Flags
import PidOne.Proofs.Table

/-!
# What the kernel grants

`Grants` says of each request when the kernel grants it, what it returns then, and what becomes of
the kernel. A request is granted exactly if this relates it to an answer, so what requests keep is
shown by its six cases, and no proof has to take the kernel's checks apart again.
-/

namespace PidOne

/-! ## Flags -/

namespace PidFdFlags

variable {flags other : PidFdFlags}

/-- A set of flags contains another one if that has no bit besides. -/
theorem contains_iff :
    flags.contains other = true ↔ other.bits &&& ~~~flags.bits = 0 := by
  have hbit : ∀ a b : Bool, (a && b) = b ↔ (b && !a) = false := by decide
  rw [contains, beq_iff_eq, ← UInt32.toBitVec_inj, ← UInt32.toBitVec_inj,
    BitVec.eq_of_getLsbD_eq_iff, BitVec.eq_of_getLsbD_eq_iff]
  apply forall₂_congr
  intro bit hlt
  simp [hlt, hbit]

/-- The flag is a single bit, so to have some of it is to have all of it. -/
theorem contains_nonblock_iff :
    flags.contains nonblock = true ↔ flags.bits &&& nonblockBits ≠ 0 := by
  have hbits : nonblockBits.toBitVec = BitVec.twoPow 32 11 := by decide
  have hne : BitVec.twoPow 32 11 ≠ 0#32 := by decide
  have hzero : (0 : UInt32).toBitVec = 0#32 := rfl
  rw [contains, beq_iff_eq, ne_eq, ← UInt32.toBitVec_inj, ← UInt32.toBitVec_inj, nonblock]
  simp only [UInt32.toBitVec_and, hbits, BitVec.and_twoPow, hzero]
  by_cases hbit : flags.bits.toBitVec.getLsbD 11 = true
  · rw [if_pos hbit]
    exact iff_of_true rfl hne
  · rw [if_neg hbit]
    exact iff_of_false hne.symm (not_not_intro rfl)

end PidFdFlags

namespace Kernel

variable {kernel after : Kernel} {request : Request} {returned : Nat}

/-- The flags there are for process descriptors, as a set. -/
def openFlags (kernel : Kernel) : PidFdFlags := ⟨kernel.openBits⟩

/-- The open file that a request for a process descriptor makes. -/
def pidfdFile (birth : Nat) (flags : UInt32) : OpenFile :=
  ⟨.pidfd birth, flags &&& nonblockBit ≠ 0⟩

theorem pidfdFile_bits (birth : Nat) (flags : PidFdFlags) :
    pidfdFile birth flags.bits = ⟨.pidfd birth, flags.contains .nonblock⟩ := by
  have hnonblock : decide (flags.bits &&& PidFdFlags.nonblockBits ≠ 0)
      = flags.contains .nonblock := by
    rw [Bool.eq_iff_iff, decide_eq_true_iff, PidFdFlags.contains_nonblock_iff]
  exact congrArg (OpenFile.mk (.pidfd birth)) hnonblock

/-- The requests that the kernel grants, with what it returns and what it is afterwards. -/
inductive Grants (kernel : Kernel) : Request → Nat → Kernel → Prop where
  | pivotRoot {newRoot putOld : CString} {mounts : MountSpace} (hmay : kernel.mayMount = true)
      (h : kernel.mounts.pivotRoot (CString.readBack newRoot.memory)
        (CString.readBack putOld.memory) = .ok mounts) :
      Grants kernel (.pivotRoot newRoot putOld) 0 { kernel with mounts }
  | setChildSubreaper : Grants kernel .setChildSubreaper 0 { kernel with subreaper := true }
  | getChildSubreaper : Grants kernel .getChildSubreaper 0 kernel
  | pidfdOpen {pid : Pid} {birth : Nat} {flags : UInt32}
      (hflags : flags &&& ~~~kernel.openBits = 0) (hpid : 0 < pid)
      (h : kernel.birth? pid = some birth) :
      Grants kernel (.pidfdOpen pid flags) kernel.table.lowestFree
        (kernel.openFile (pidfdFile birth flags)).2
  | pidfdGetfd {pidfd target : Int} {birth : Nat} {table : FdTable} {source : Descriptor}
      (hfile : (kernel.file? pidfd).map OpenFile.resource = some (.pidfd birth))
      (htable : kernel.tableOf? birth = some table) (h : table.find? target = some source) :
      Grants kernel (.pidfdGetfd pidfd target 0) kernel.table.lowestFree
        (kernel.install ⟨source.file, true⟩).2
  | close {fd : Nat} (h : kernel.isOpen fd = true) :
      Grants kernel (.close fd) 0 (kernel.without fd)

theorem grants_of_serve (h : kernel.serve request = .ok (returned, after)) :
    kernel.Grants request returned after := by
  cases request with
  | pivotRoot newRoot putOld =>
      rw [serve, Kernel.pivotRoot] at h
      split at h
      · cases h
      next hmay =>
      split at h
      · cases h
      next mounts hmounts =>
      cases h
      exact .pivotRoot (by simpa using hmay) hmounts
  | setChildSubreaper =>
      cases h
      exact .setChildSubreaper
  | getChildSubreaper =>
      cases h
      exact .getChildSubreaper
  | pidfdOpen pid flags =>
      rw [serve, Kernel.pidfdOpen] at h
      split at h
      · cases h
      next hflags =>
      split at h
      · cases h
      next hpid =>
      split at h
      · cases h
      next birth hbirth =>
      cases h
      exact .pidfdOpen (not_not.mp hflags) (Int.not_le.mp hpid) hbirth
  | pidfdGetfd pidfd target flags =>
      rw [serve, Kernel.pidfdGetfd] at h
      split at h
      · cases h
      next hflags =>
      split at h
      · next birth hfile =>
        split at h
        · cases h
        next table htable =>
        split at h
        · cases h
        next source hsource =>
        cases h
        rw [not_not.mp hflags]
        exact .pidfdGetfd hfile htable hsource
      · cases h
  | close fd =>
      rw [serve, Kernel.close] at h
      split at h
      · next hopen =>
        obtain ⟨number, rfl⟩ := eq_ofNat_of_isOpen hopen
        cases h
        exact .close hopen
      · cases h

theorem serve_of_grants (h : kernel.Grants request returned after) :
    kernel.serve request = .ok (returned, after) := by
  cases h with
  | pivotRoot hmay h =>
      rw [serve, Kernel.pivotRoot, if_neg (by simp [hmay]), h]
      rfl
  | setChildSubreaper => rfl
  | getChildSubreaper => rfl
  | pidfdOpen hflags hpid h =>
      rw [serve, Kernel.pidfdOpen, if_neg (not_not.mpr hflags), if_neg (Int.not_le.mpr hpid), h]
      rfl
  | pidfdGetfd hfile htable h =>
      rw [serve, Kernel.pidfdGetfd, if_neg (not_not.mpr rfl)]
      simp only [hfile, htable, h]
      rfl
  | close h => exact serve_close_open h

/-! ## What this is for the table -/

theorem installs_pidfdOpen {pid : Pid} {flags : UInt32}
    (h : kernel.serve (.pidfdOpen pid flags) = .ok (returned, after)) :
    kernel.Installs returned after := by
  cases grants_of_serve h with
  | pidfdOpen => exact installs_openFile _ _

theorem installs_pidfdGetfd {pidfd target : Int} {flags : UInt32}
    (h : kernel.serve (.pidfdGetfd pidfd target flags) = .ok (returned, after)) :
    kernel.Installs returned after := by
  cases grants_of_serve h with
  | pidfdGetfd => exact installs_install _ _

theorem table_pivotRoot {newRoot putOld : CString}
    (h : kernel.serve (.pivotRoot newRoot putOld) = .ok (returned, after)) :
    after.table = kernel.table := by
  cases grants_of_serve h with
  | pivotRoot => rfl

end Kernel

end PidOne
