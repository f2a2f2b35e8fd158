import PidOne.Proofs.Kernel.Granting

/-!
# What the kernel refuses

`Refuses` says of each request when the kernel refuses it and with which error. It is the other half
of `Grants`: every request is related to an answer by one of the two, and by one only. The kernel
makes its checks in an order, and the conditions of a case say that the checks before it have been
passed, so what error comes first is read off the cases.
-/

namespace PidOne.Kernel

variable {kernel : Kernel} {request : Request} {errno : Errno}

/-- The requests that the kernel refuses, with the error it answers. -/
inductive Refuses (kernel : Kernel) : Request → Errno → Prop where
  | mayNotMount {newRoot putOld : CString} (h : kernel.mayMount = false) :
      Refuses kernel (.pivotRoot newRoot putOld) .eperm
  | pivotRoot {newRoot putOld : CString} {errno : Errno} (hmay : kernel.mayMount = true)
      (h : kernel.mounts.pivotRoot (CString.readBack newRoot.memory)
        (CString.readBack putOld.memory) = .error errno) :
      Refuses kernel (.pivotRoot newRoot putOld) errno
  /-- This is checked before the process is looked for. -/
  | cannotOpen {pid : Pid} {flags : UInt32} (h : flags &&& ~~~kernel.openBits ≠ 0 ∨ pid ≤ 0) :
      Refuses kernel (.pidfdOpen pid flags) .einval
  | noProcess {pid : Pid} {flags : UInt32} (hflags : flags &&& ~~~kernel.openBits = 0)
      (hpid : 0 < pid) (h : kernel.birth? pid = none) :
      Refuses kernel (.pidfdOpen pid flags) .esrch
  | cannotCopy {pidfd target : Int} {flags : UInt32} (h : flags ≠ 0) :
      Refuses kernel (.pidfdGetfd pidfd target flags) .einval
  | notPidfd {pidfd target : Int}
      (h : ∀ birth, (kernel.file? pidfd).map OpenFile.resource ≠ some (.pidfd birth)) :
      Refuses kernel (.pidfdGetfd pidfd target 0) .ebadf
  | notRunning {pidfd target : Int} {birth : Nat}
      (hfile : (kernel.file? pidfd).map OpenFile.resource = some (.pidfd birth))
      (h : kernel.tableOf? birth = none) : Refuses kernel (.pidfdGetfd pidfd target 0) .esrch
  | noTarget {pidfd target : Int} {birth : Nat} {table : FdTable}
      (hfile : (kernel.file? pidfd).map OpenFile.resource = some (.pidfd birth))
      (htable : kernel.tableOf? birth = some table) (h : table.find? target = none) :
      Refuses kernel (.pidfdGetfd pidfd target 0) .ebadf
  | notOpen {fd : Int} (h : kernel.isOpen fd = false) : Refuses kernel (.close fd) .ebadf

theorem refuses_of_serve (h : kernel.serve request = .error errno) :
    kernel.Refuses request errno := by
  cases request with
  | pivotRoot newRoot putOld =>
      rw [serve, Kernel.pivotRoot] at h
      split at h
      · next hmay =>
        cases h
        exact .mayNotMount (by simpa using hmay)
      next hmay =>
      split at h
      · next refused hmounts =>
        cases h
        exact .pivotRoot (by simpa using hmay) hmounts
      · cases h
  | setChildSubreaper => cases h
  | getChildSubreaper => cases h
  | pidfdOpen pid flags =>
      rw [serve, Kernel.pidfdOpen] at h
      split at h
      · next hflags =>
        cases h
        exact .cannotOpen (.inl hflags)
      next hflags =>
      split at h
      · next hpid =>
        cases h
        exact .cannotOpen (.inr hpid)
      next hpid =>
      split at h
      · next hnone =>
        cases h
        exact .noProcess (not_not.mp hflags) (Int.not_le.mp hpid) hnone
      · cases h
  | pidfdGetfd pidfd target flags =>
      rw [serve, Kernel.pidfdGetfd] at h
      split at h
      · next hflags =>
        cases h
        exact .cannotCopy hflags
      next hflags =>
      rw [not_not.mp hflags]
      split at h
      · next birth hfile =>
        split at h
        · next htable =>
          cases h
          exact .notRunning hfile htable
        next table htable =>
        split at h
        · next htarget =>
          cases h
          exact .noTarget hfile htable htarget
        · cases h
      · next hother =>
        cases h
        exact .notPidfd hother
  | close fd =>
      rw [serve, Kernel.close] at h
      split at h
      · cases h
      · next hclosed =>
        cases h
        exact .notOpen (by simpa using hclosed)

theorem serve_of_refuses (h : kernel.Refuses request errno) :
    kernel.serve request = .error errno := by
  cases h with
  | mayNotMount h =>
      rw [serve, Kernel.pivotRoot, if_pos (by simp [h])]
      rfl
  | pivotRoot hmay h =>
      rw [serve, Kernel.pivotRoot, if_neg (by simp [hmay]), h]
      rfl
  | @cannotOpen pid flags h =>
      rw [serve, Kernel.pidfdOpen]
      by_cases hflags : flags &&& ~~~kernel.openBits = 0
      · rw [if_neg (not_not.mpr hflags), if_pos (h.resolve_left (not_not.mpr hflags))]
      · rw [if_pos hflags]
  | noProcess hflags hpid h =>
      rw [serve, Kernel.pidfdOpen, if_neg (not_not.mpr hflags), if_neg (Int.not_le.mpr hpid), h]
  | cannotCopy h => rw [serve, Kernel.pidfdGetfd, if_pos h]
  | notPidfd h =>
      rw [serve, Kernel.pidfdGetfd, if_neg (not_not.mpr rfl)]
      split
      · next birth hfile => exact absurd hfile (h birth)
      · rfl
  | notRunning hfile h =>
      rw [serve, Kernel.pidfdGetfd, if_neg (not_not.mpr rfl)]
      simp only [hfile, h]
  | noTarget hfile htable h =>
      rw [serve, Kernel.pidfdGetfd, if_neg (not_not.mpr rfl)]
      simp only [hfile, htable, h]
  | notOpen h => exact serve_close_free h

/-- **A request is refused exactly as `Refuses` says.** -/
theorem serve_eq_error_iff :
    kernel.serve request = .error errno ↔ kernel.Refuses request errno :=
  ⟨refuses_of_serve, serve_of_refuses⟩

/-- Every request is granted or refused. -/
theorem grants_or_refuses (kernel : Kernel) (request : Request) :
    (∃ returned after, kernel.Grants request returned after)
      ∨ ∃ errno, kernel.Refuses request errno := by
  cases h : kernel.serve request with
  | ok answer =>
      obtain ⟨returned, after⟩ := answer
      exact .inl ⟨returned, after, grants_of_serve h⟩
  | error errno => exact .inr ⟨errno, refuses_of_serve h⟩

end PidOne.Kernel
