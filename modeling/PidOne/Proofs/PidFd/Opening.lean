import PidOne.Proofs.Kernel.Living
import PidOne.Proofs.Kernel.Refusing
import PidOne.Proofs.Session.Opening

/-!
# Opening one process descriptor

A call that opens a process descriptor succeeds if its flags are among those the kernel knows and
the process number is one of a process that has not been reaped. Which flags there are is the
kernel's affair: later ones know of more than the one that callers are given a name for, and a set
of flags is handed over whatever is in it. Otherwise the error tells a call that could never have
succeeded from one that came too late, and flags and number are checked before the process is looked
for. What is new after a call that succeeded is a single descriptor.
-/

namespace PidOne

/-- One descriptor has been added, for the open file at an index, and is held by a guard. -/
structure Kernel.Gains (before : Kernel) (guard : Guard) (file : Nat) (after : Kernel) : Prop where
  active : guard.isActive = true
  borrow? : guard.borrow? = some guard.number
  free : before.table.get? guard.number = none
  lowest : ∀ fd < guard.number, before.table.get? fd ≠ none
  /-- It is closed on execution. -/
  entry : after.table.get? guard.number = some ⟨file, true⟩
  others : ∀ fd, fd ≠ guard.number → after.table.get? fd = before.table.get? fd
  processes : after.others = before.others
  files : before.files <+: after.files

/-- A process descriptor has been opened for a process, with some flags. -/
structure OpenedFor (before : Kernel) (pid : Pid) (flags : PidFdFlags) (pidfd : PidFd)
    (after : Kernel) : Prop where
  process : pidfd.pid = pid
  subject : pidfd.guard.subject.pid = some pid
  gains : before.Gains pidfd.guard before.files.length after
  /-- It stays with the process that goes by the number at this moment. -/
  file? : ∃ birth, before.birth? pid = some birth
    ∧ after.file? pidfd.fd = some ⟨.pidfd birth, flags.contains .nonblock⟩

/-- How a call that opens a process descriptor goes. -/
structure Opens (host : Host) (pid : Pid) (flags : PidFdFlags)
    (result : Except SyscallError PidFd) (after : Host) : Prop where
  ok_iff : (∃ pidfd, result = .ok pidfd)
    ↔ host.kernel.openFlags.contains flags = true ∧ 0 < pid ∧ pid ∈ host.kernel.pids
  opened : ∀ pidfd, result = .ok pidfd → OpenedFor host.kernel pid flags pidfd after.kernel
  invalid_iff : result = .error (.kernel .pidfdOpen .einval)
    ↔ host.kernel.openFlags.contains flags = false ∨ pid ≤ 0
  missing_iff : result = .error (.kernel .pidfdOpen .esrch)
    ↔ host.kernel.openFlags.contains flags = true ∧ 0 < pid ∧ pid ∉ host.kernel.pids
  isMissingProcess : ∀ error, result = .error error →
    (error.isMissingProcess = true ↔ result = .error (.kernel .pidfdOpen .esrch))
  isRace : ∀ error, result = .error error → error.isRace = false
  unchanged : ∀ error, result = .error error → after.kernel = host.kernel

variable {host after : Host} {pid : Pid} {flags : PidFdFlags}

theorem Kernel.gains_install (kernel : Kernel) (file : Nat) (subject : GuardSubject)
    (events : EventNames) :
    kernel.Gains (Guard.holding ⟨kernel.table.lowestFree⟩ subject events) file
      (kernel.install ⟨file, true⟩).2 where
  active := rfl
  borrow? := rfl
  free := FdTable.get?_lowestFree _
  lowest := by
    intro fd hlt
    exact Option.isSome_iff_ne_none.mp (FdTable.isSome_get?_of_lt_lowestFree hlt)
  entry := FdTable.get?_insert_self _ _
  others := by
    intro fd hne
    exact (FdTable.get?_insert _ _ _).trans (if_neg hne)
  processes := rfl
  files := List.prefix_refl _

namespace PidFd

theorem openedFor_openFile {kernel : Kernel} {birth : Nat} (hbirth : kernel.birth? pid = some birth)
    (flags : PidFdFlags) :
    OpenedFor kernel pid flags (holding ⟨kernel.table.lowestFree⟩ pid)
      (kernel.openFile (Kernel.pidfdFile birth flags.bits)).2 := by
  have hgains := Kernel.gains_install
    { kernel with files := kernel.files ++ [Kernel.pidfdFile birth flags.bits] }
    kernel.files.length ⟨"pidfd", some pid⟩ eventNames
  exact {
    process := rfl
    subject := rfl
    gains := { hgains with files := List.prefix_append _ _ }
    file? := by
      refine ⟨birth, hbirth, ?_⟩
      rw [← Kernel.pidfdFile_bits]
      exact @Kernel.file?_openFiles_fresh kernel [Kernel.pidfdFile birth flags.bits] 0 Nat.one_pos }

theorem not_invalid (hflags : host.kernel.openFlags.contains flags = true) (hpid : 0 < pid) :
    ¬ (host.kernel.openFlags.contains flags = false ∨ pid ≤ 0) := by
  rintro (hunknown | hnonpositive)
  · rw [hflags] at hunknown
    cases hunknown
  · exact Int.not_le.mpr hpid hnonpositive

theorem opens_granted (hflags : host.kernel.openFlags.contains flags = true) (hpid : 0 < pid)
    {birth : Nat} (hbirth : host.kernel.birth? pid = some birth)
    (hafter : after.kernel = (host.kernel.openFile (Kernel.pidfdFile birth flags.bits)).2) :
    Opens host pid flags (.ok (holding ⟨host.kernel.table.lowestFree⟩ pid)) after where
  ok_iff := iff_of_true ⟨_, rfl⟩ ⟨hflags, hpid, Kernel.mem_pids_of_birth? hbirth⟩
  opened := by
    intro pidfd hok
    obtain rfl := Except.ok.inj hok
    rw [hafter]
    exact openedFor_openFile hbirth flags
  invalid_iff := iff_of_false nofun (not_invalid hflags hpid)
  missing_iff := by
    apply iff_of_false nofun
    rintro ⟨-, -, hmissing⟩
    exact hmissing (Kernel.mem_pids_of_birth? hbirth)
  isMissingProcess := nofun
  isRace := nofun
  unchanged := nofun

theorem opens_invalid (h : host.kernel.openFlags.contains flags = false ∨ pid ≤ 0)
    (hafter : after.kernel = host.kernel) :
    Opens host pid flags (.error (.kernel .pidfdOpen .einval)) after := by
  have hfit : ∀ {P : Prop}, ¬ (host.kernel.openFlags.contains flags = true ∧ 0 < pid ∧ P) := by
    rintro P ⟨hflags, hpid, -⟩
    exact not_invalid hflags hpid h
  exact {
    ok_iff := iff_of_false nofun hfit
    opened := nofun
    invalid_iff := iff_of_true rfl h
    missing_iff := iff_of_false (by decide) hfit
    isMissingProcess := by
      rintro error ⟨⟩
      decide
    isRace := by
      rintro error ⟨⟩
      rfl
    unchanged := fun _ _ => hafter }

theorem opens_missing (hflags : host.kernel.openFlags.contains flags = true) (hpid : 0 < pid)
    (h : pid ∉ host.kernel.pids) (hafter : after.kernel = host.kernel) :
    Opens host pid flags (.error (.kernel .pidfdOpen .esrch)) after where
  ok_iff := by
    apply iff_of_false nofun
    rintro ⟨-, -, hmem⟩
    exact h hmem
  opened := nofun
  invalid_iff := iff_of_false (by decide) (not_invalid hflags hpid)
  missing_iff := iff_of_true rfl ⟨hflags, hpid, h⟩
  isMissingProcess := by
    rintro error ⟨⟩
    decide
  isRace := by
    rintro error ⟨⟩
    rfl
  unchanged := fun _ _ => hafter

/-- **How an open goes.** In every state, for every process number and all flags: it succeeds if and
only if the kernel knows the flags, the number is positive and there is such a process, be it a
zombie. Of the others those with other flags or numbers are invalid whatever the processes are, and
the rest name a process that is missing; no failure is a race. -/
theorem opens_openPid (host : Host) (pid : Pid) (flags : PidFdFlags)
    (hown : host.refusal? (.pidfdOpen pid flags.bits) = none) :
    Opens host pid flags ((openPid pid flags).run.run host).1
      ((openPid pid flags).run.run host).2 := by
  rcases host.kernel.grants_or_refuses (.pidfdOpen pid flags.bits) with
    ⟨returned, kernel, hgrants⟩ | ⟨errno, hrefuses⟩
  · rw [run_openPid_granted (Host.answer_of_ok hown (Kernel.serve_of_grants hgrants))]
    cases hgrants with
    | pidfdOpen hflags hpid hbirth =>
        exact opens_granted (PidFdFlags.contains_iff.mpr hflags) hpid hbirth rfl
  · rw [run_openPid_rejected (Host.answer_of_error hown (Kernel.serve_of_refuses hrefuses)),
      SyscallError.ofErrno_code]
    cases hrefuses with
    | cannotOpen hinvalid =>
        refine opens_invalid (hinvalid.imp_left fun hbits => ?_) rfl
        rw [Bool.eq_false_iff, ne_eq, PidFdFlags.contains_iff]
        exact hbits
    | noProcess hflags hpid hmissing =>
        exact opens_missing (PidFdFlags.contains_iff.mpr hflags) hpid
          (Kernel.birth?_eq_none_iff.mp hmissing) rfl

/-- The process opens a descriptor for itself that does not block, with a flag besides for which
callers are given no name. -/
theorem opens_openPid_unnamed :
    let host := Host.start (Kernel.boot 100 false)
    let flags : PidFdFlags := ⟨2176⟩
    host.refusal? (.pidfdOpen 100 flags.bits) = none
      ∧ ((openPid 100 flags).run.run host).1 = .ok (holding ⟨3⟩ 100)
      ∧ Opens host 100 flags ((openPid 100 flags).run.run host).1
        ((openPid 100 flags).run.run host).2 := by
  intro host flags
  have hown : host.refusal? (.pidfdOpen 100 flags.bits) = none := rfl
  have hrun : ((openPid 100 ⟨2176⟩).run.run (Host.start (Kernel.boot 100 false))).1
      = .ok (holding ⟨3⟩ 100) := rfl
  exact ⟨hown, hrun, opens_openPid host 100 flags hown⟩

/-- A call can succeed with flags that callers are given no name for. -/
theorem accepts_unnamed :
    PidFdFlags.nonblock.contains ⟨128⟩ = false
      ∧ ((openPid 100 ⟨128⟩).run.run (Host.start (Kernel.boot 100 false))).1
        = .ok (holding ⟨3⟩ 100) :=
  ⟨rfl, rfl⟩

end PidFd

end PidOne
