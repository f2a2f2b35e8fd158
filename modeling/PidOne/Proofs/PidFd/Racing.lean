import PidOne.Proofs.PidFd.Copying

/-!
# When a failed copy counts as a race

Whether a failed copy counts as a race is read off its error number, and the kernel has one number
for two things: that the process does not have the descriptor asked for, and that the descriptor to
copy through is not for a process. The first is a race, the second a mistake of the caller, and both
count as one. Apart from that the word can be trusted: through a descriptor for a process every
failure is a race, unless flags were given, and only a process that has exited is reported missing.
-/

namespace PidOne

/-! ## Why the kernel refuses to copy -/

namespace Kernel

/-- The number is not open on a process descriptor. -/
def NoPidfd (kernel : Kernel) (pidfd : Int) : Prop :=
  ∀ birth, kernel.resource? pidfd ≠ some (.pidfd birth)

/-- The process behind a process descriptor has exited. -/
def Exited (kernel : Kernel) (pidfd : Int) : Prop :=
  ∃ birth, kernel.resource? pidfd = some (.pidfd birth) ∧ ∀ table, ¬ kernel.Runs birth table

/-- The process behind a process descriptor runs and does not have a number open. -/
def Lacks (kernel : Kernel) (pidfd target : Int) : Prop :=
  ∃ birth table, kernel.resource? pidfd = some (.pidfd birth) ∧ kernel.Runs birth table
    ∧ table.find? target = none

variable {kernel : Kernel} {pidfd target : Int} {flags : UInt32} {errno : Errno}

theorem refuses_pidfdGetfd_iff (hnumbered : kernel.Numbered) :
    kernel.Refuses (.pidfdGetfd pidfd target flags) errno
      ↔ flags ≠ 0 ∧ errno = .einval
        ∨ flags = 0 ∧ kernel.Exited pidfd ∧ errno = .esrch
        ∨ flags = 0 ∧ (kernel.Lacks pidfd target ∨ kernel.NoPidfd pidfd) ∧ errno = .ebadf := by
  constructor
  · intro h
    cases h with
    | cannotCopy hflags => exact .inl ⟨hflags, rfl⟩
    | notPidfd hother => exact .inr (.inr ⟨rfl, .inr hother, rfl⟩)
    | notRunning hfile hnone =>
        have hexited : kernel.Exited pidfd :=
          ⟨_, hfile, hnumbered.tableOf?_eq_none_iff.mp hnone⟩
        exact .inr (.inl ⟨rfl, hexited, rfl⟩)
    | noTarget hfile htable hmissing =>
        have hlacks : kernel.Lacks pidfd target :=
          ⟨_, _, hfile, hnumbered.tableOf?_eq_some_iff.mp htable, hmissing⟩
        exact .inr (.inr ⟨rfl, .inl hlacks, rfl⟩)
  · rintro (⟨hflags, rfl⟩ | ⟨rfl, ⟨birth, hpidfd, hexited⟩, rfl⟩ | ⟨rfl, hlacks | hnone, rfl⟩)
    · exact .cannotCopy hflags
    · exact .notRunning hpidfd (hnumbered.tableOf?_eq_none_iff.mpr hexited)
    · obtain ⟨birth, table, hpidfd, hruns, hmissing⟩ := hlacks
      exact .noTarget hpidfd (hnumbered.tableOf?_eq_some_iff.mpr hruns) hmissing
    · exact .notPidfd hnone

end Kernel

/-! ## What the caller is told -/

/-- The result of a copy through a descriptor is the kernel's word on it. -/
def AsServed {α : Type} (kernel : Kernel) (pidfd target : Int) (flags : UInt32)
    (result : Except SyscallError α) : Prop :=
  ∀ error, result = .error error
    ↔ ∃ errno, kernel.serve (.pidfdGetfd pidfd target flags) = .error errno
      ∧ error = .kernel .pidfdGetfd errno

/-- What the result of a copy says of the descriptor it was made through, and of the caller. -/
structure Judges {α : Type} (kernel : Kernel) (pidfd target : Int) (flags : UInt32)
    (result : Except SyscallError α) : Prop where
  isRace_iff : (∃ error, result = .error error ∧ error.isRace = true)
    ↔ flags = 0 ∧ (kernel.Exited pidfd ∨ kernel.Lacks pidfd target ∨ kernel.NoPidfd pidfd)
  isMissingProcess_iff : (∃ error, result = .error error ∧ error.isMissingProcess = true)
    ↔ flags = 0 ∧ kernel.Exited pidfd
  /-- Flags are the one mistake of a caller that is not taken for a race. -/
  flagged : flags ≠ 0 → result = .error (.kernel .pidfdGetfd .einval)

section

variable {α : Type} {kernel : Kernel} {pidfd target : Int} {flags : UInt32}
  {result : Except SyscallError α}

theorem asServed_ok {returned : Nat} {after : Kernel}
    (h : kernel.serve (.pidfdGetfd pidfd target flags) = .ok (returned, after)) (value : α) :
    AsServed kernel pidfd target flags (.ok value : Except SyscallError α) := by
  intro error
  rw [h]
  exact iff_of_false nofun nofun

theorem asServed_error {errno : Errno}
    (h : kernel.serve (.pidfdGetfd pidfd target flags) = .error errno) :
    AsServed kernel pidfd target flags
      (.error (.kernel .pidfdGetfd errno) : Except SyscallError α) := by
  intro error
  simp [h, eq_comm]

theorem AsServed.exists_iff (h : AsServed kernel pidfd target flags result)
    (P : SyscallError → Prop) :
    (∃ error, result = .error error ∧ P error)
      ↔ ∃ errno, kernel.Refuses (.pidfdGetfd pidfd target flags) errno
        ∧ P (.kernel .pidfdGetfd errno) := by
  simp only [h _, Kernel.serve_eq_error_iff]
  constructor
  · rintro ⟨_, ⟨errno, hrefuses, rfl⟩, herror⟩
    exact ⟨errno, hrefuses, herror⟩
  · rintro ⟨errno, hrefuses, herror⟩
    exact ⟨_, ⟨errno, hrefuses, rfl⟩, herror⟩

theorem AsServed.judges (h : AsServed kernel pidfd target flags result)
    (hnumbered : kernel.Numbered) : Judges kernel pidfd target flags result where
  isRace_iff := by
    rw [h.exists_iff fun error => error.isRace = true]
    constructor
    · rintro ⟨errno, hrefuses, hrace⟩
      rcases (Kernel.refuses_pidfdGetfd_iff hnumbered).mp hrefuses with
        ⟨-, rfl⟩ | ⟨hflags, hexited, -⟩ | ⟨hflags, hother, -⟩
      · exact absurd hrace (by decide)
      · exact ⟨hflags, .inl hexited⟩
      · exact ⟨hflags, .inr hother⟩
    · rintro ⟨hflags, hexited | hother⟩
      · exact ⟨.esrch, (Kernel.refuses_pidfdGetfd_iff hnumbered).mpr
          (.inr (.inl ⟨hflags, hexited, rfl⟩)), rfl⟩
      · exact ⟨.ebadf, (Kernel.refuses_pidfdGetfd_iff hnumbered).mpr
          (.inr (.inr ⟨hflags, hother, rfl⟩)), rfl⟩
  isMissingProcess_iff := by
    rw [h.exists_iff fun error => error.isMissingProcess = true]
    constructor
    · rintro ⟨errno, hrefuses, hmissing⟩
      rcases (Kernel.refuses_pidfdGetfd_iff hnumbered).mp hrefuses with
        ⟨-, rfl⟩ | ⟨hflags, hexited, -⟩ | ⟨-, -, rfl⟩
      · exact absurd hmissing (by decide)
      · exact ⟨hflags, hexited⟩
      · exact absurd hmissing (by decide)
    · rintro ⟨hflags, hexited⟩
      exact ⟨.esrch, (Kernel.refuses_pidfdGetfd_iff hnumbered).mpr
        (.inr (.inl ⟨hflags, hexited, rfl⟩)), rfl⟩
  flagged := by
    intro hflags
    rw [h]
    exact ⟨.einval, Kernel.serve_of_refuses (.cannotCopy hflags), rfl⟩

end

section

variable {host : Host}

theorem Call.asServed_copyFd (hown : host.Unhindered) (pidfd target : Int) (flags : UInt32) :
    AsServed host.kernel pidfd target flags ((copyFd pidfd target flags).run.run host).1 := by
  have hasked := hown.refusal? (.pidfdGetfd pidfd target flags)
  cases hserve : host.kernel.serve (.pidfdGetfd pidfd target flags) with
  | ok answer =>
      rw [run_copyFd_granted (Host.answer_of_ok hasked hserve)]
      exact asServed_ok hserve _
  | error errno =>
      rw [run_copyFd_rejected (Host.answer_of_error hasked hserve), SyscallError.ofErrno_code]
      exact asServed_error hserve

theorem PidFd.asServed_copyFd (hown : host.Unhindered) (pidfd : PidFd) (target : Int) :
    AsServed host.kernel pidfd.fd target 0 ((pidfd.copyFd target).run.run host).1 := by
  have hasked := hown.refusal? (.pidfdGetfd pidfd.fd target 0)
  cases hserve : host.kernel.serve (.pidfdGetfd pidfd.fd target 0) with
  | ok answer =>
      rw [run_copyFd_granted (Host.answer_of_ok hasked hserve)]
      exact asServed_ok hserve _
  | error errno =>
      rw [run_copyFd_rejected (Host.answer_of_error hasked hserve), SyscallError.ofErrno_code]
      exact asServed_error hserve

end

namespace Session

/-- **What counts as a race.** At every point of a run, whatever has been closed behind whose back,
and for every descriptor, be it one for a process or not: a failed copy counts as a race if no flags
were given and the process has exited, does not have the number, or is not there at all because the
descriptor is for something else. Only of a process that has exited a failure says that it is
missing. -/
theorem judges_run (kernel : Kernel) (hnumbered : kernel.Numbered) (steps : List Step) :
    let host := ((start kernel).run steps).host
    (∀ (pidfd target : Int) (flags : UInt32), Judges host.kernel pidfd target flags
        ((Call.copyFd pidfd target flags).run.run host).1)
      ∧ ∀ (pidfd : PidFd) (target : Int), Judges host.kernel pidfd.fd target 0
        ((pidfd.copyFd target).run.run host).1 := by
  intro host
  have hown : host.Unhindered := unhindered_run (unhindered_start kernel) steps
  have hnow : host.kernel.Numbered := numbered_run hnumbered steps
  constructor
  · intro pidfd target flags
    exact (Call.asServed_copyFd hown pidfd target flags).judges hnow
  · intro pidfd target
    exact (PidFd.asServed_copyFd hown pidfd target).judges hnow

/-- A child that has been reaped, one end of a pipe that is taken for it, and a child that has
closed what it is asked for. -/
theorem judges_run_reaped :
    let kernel := Kernel.boot 100 false
    let steps : List Step := [.spawn "child", .openPid (.child "child") 0 "process",
      .kill "child" true, .pipe "p", .wrap "p.r" (.child "child") "wrapped", .spawn "other",
      .openPid (.child "other") 0 "faster", .closeIn "other" (.number 0)]
    let host := ((start kernel).run steps).host
    kernel.Numbered ∧ host.kernel.Exited 3 ∧ host.kernel.NoPidfd 4 ∧ host.kernel.Lacks 6 0
      ∧ (∀ (pidfd target : Int) (flags : UInt32), Judges host.kernel pidfd target flags
        ((Call.copyFd pidfd target flags).run.run host).1)
      ∧ ∀ (pidfd : PidFd) (target : Int), Judges host.kernel pidfd.fd target 0
        ((pidfd.copyFd target).run.run host).1 := by
  intro kernel steps host
  have hnumbered : kernel.Numbered := Kernel.numbered_boot 100 false
  have hnow : host.kernel.Numbered := numbered_run hnumbered steps
  have hprocess : host.kernel.resource? 3 = some (.pidfd 2) := by decide
  have hnone : host.kernel.tableOf? 2 = none := by decide
  have hexited : host.kernel.Exited 3 := ⟨2, hprocess, hnow.tableOf?_eq_none_iff.mp hnone⟩
  have hpipe : host.kernel.resource? 4 = some (.pipe 0 .reading) := by decide
  have hother : host.kernel.NoPidfd 4 := by
    intro birth
    rw [hpipe]
    exact nofun
  have hfaster : host.kernel.resource? 6 = some (.pidfd 3) := by decide
  have hclosed : (host.kernel.tableOf? 3).map (fun table => table.find? 0) = some none := by decide
  obtain ⟨table, htable, hmissing⟩ := Option.map_eq_some_iff.mp hclosed
  have hlacks : host.kernel.Lacks 6 0 :=
    ⟨3, table, hfaster, hnow.tableOf?_eq_some_iff.mp htable, hmissing⟩
  exact ⟨hnumbered, hexited, hother, hlacks, judges_run kernel hnumbered steps⟩

/-- One end of a pipe is no process, so none was faster. A copy through it counts as a race. -/
theorem race_pipe :
    let session := (start (Kernel.boot 100 false)).run [.pipe "p", .wrap "p.r" .self "wrapped"]
    session.host.kernel.resource? 3 = some (.pipe 0 .reading)
      ∧ session.holder? "wrapped" = some (.pidfd (PidFd.holding ⟨3⟩ 100))
      ∧ ∃ error, (session.step (.copyFd "wrapped" (.number 0) "copy")).1 = .rejected error
        ∧ error.isRace = true :=
  ⟨rfl, rfl, _, rfl, rfl⟩

end Session

end PidOne
