import PidOne.Proofs.Ownership.Lasting
import PidOne.Proofs.PidFd.Opening

/-!
# Copying through a process descriptor

A copy succeeds if the process runs and has the number open, and what it gives is one more
descriptor for the open file of the process. Otherwise the process was faster: it has exited, or it
does not have the number. A process descriptor that was opened in a run stays for the process it was
opened for, since births are not repeated and its own number is closed by nobody else; so how a copy
goes depends on that process, at the moment of the copy, and on nothing else. It does not depend on
who goes by the process's number by then.
-/

namespace PidOne

/-- A descriptor of a process has been copied. -/
structure Copied (before : Kernel) (birth : Nat) (pid : Pid) (target : Int) (remote : RemoteFd)
    (after : Kernel) : Prop where
  sourcePid : remote.sourcePid = pid
  targetFd : remote.targetFd = target
  /-- It is for the file that the process has open. -/
  gains : ∀ table source, before.Runs birth table → table.find? target = some source →
    before.Gains remote.guard source.file after
  files : after.files = before.files

/-- Why a copy has failed. -/
structure Missed (kernel : Kernel) (birth : Nat) (error : SyscallError) : Prop where
  isRace : error.isRace = true
  running : ∀ table, kernel.Runs birth table →
    error = .kernel .pidfdGetfd .ebadf ∧ error.isMissingProcess = false
  /-- Zombies count as exited. -/
  exited : (∀ table, ¬ kernel.Runs birth table) →
    error = .kernel .pidfdGetfd .esrch ∧ error.isMissingProcess = true

/-- How a copy of a descriptor of a process goes. -/
structure Copies (host : Host) (birth : Nat) (pid : Pid) (target : Int)
    (result : Except SyscallError RemoteFd) (after : Host) : Prop where
  ok_iff : (∃ remote, result = .ok remote)
    ↔ ∃ table source, host.kernel.Runs birth table ∧ table.find? target = some source
  copied : ∀ remote, result = .ok remote → Copied host.kernel birth pid target remote after.kernel
  missed : ∀ error, result = .error error → Missed host.kernel birth error
  reaped : birth ∉ host.kernel.there →
    ∃ error, result = .error error ∧ error.isMissingProcess = true
  unchanged : ∀ error, result = .error error → after.kernel = host.kernel

/-- A birth stands for one and the same process from some point of a run on. -/
structure StandsFor (initial : Session) (earlier later : List Step) (birth : Nat) (pid : Pid) :
    Prop where
  /-- It is the one that goes by the number at this point. -/
  bears_iff : ∀ other, (initial.run earlier).host.kernel.Bears other pid ↔ other = birth
  /-- If it is there later, then it has been all along, by this number. -/
  same : ∀ between, between <+: later →
    birth ∈ (initial.run (earlier ++ later)).host.kernel.there →
      (initial.run (earlier ++ between)).host.kernel.Bears birth pid
  running : ∀ between, between <+: later →
    (∃ table, (initial.run (earlier ++ later)).host.kernel.Runs birth table) →
      ∃ table, (initial.run (earlier ++ between)).host.kernel.Runs birth table

/-! ## One copy -/

namespace PidFd

variable {host after : Host} {pidfd : PidFd} {birth : Nat} {pid : Pid} {target : Int}
  {table : FdTable} {source : Descriptor}

theorem copies_granted (hnumbered : host.kernel.Numbered) (hruns : host.kernel.Runs birth table)
    (hsource : table.find? target = some source)
    (hafter : after.kernel = (host.kernel.install ⟨source.file, true⟩).2) :
    Copies host birth pid target
      (.ok (RemoteFd.holding ⟨host.kernel.table.lowestFree⟩ pid target)) after where
  ok_iff := iff_of_true ⟨_, rfl⟩ ⟨table, source, hruns, hsource⟩
  copied := by
    intro remote hok
    obtain rfl := Except.ok.inj hok
    refine ⟨rfl, rfl, ?_, by rw [hafter]; rfl⟩
    intro found descriptor hfound hdescriptor
    obtain rfl := hnumbered.unique hruns hfound
    obtain rfl := Option.some.inj (hsource.symm.trans hdescriptor)
    rw [hafter]
    exact Kernel.gains_install host.kernel source.file _ _
  missed := nofun
  reaped := by
    intro hreaped
    exact absurd hruns.mem_there hreaped
  unchanged := nofun

theorem copies_exited (hexited : ∀ table, ¬ host.kernel.Runs birth table)
    (hafter : after.kernel = host.kernel) :
    Copies host birth pid target (.error (.kernel .pidfdGetfd .esrch)) after where
  ok_iff := by
    apply iff_of_false nofun
    rintro ⟨table, source, hruns, -⟩
    exact hexited table hruns
  copied := nofun
  missed := by
    rintro error ⟨⟩
    refine ⟨rfl, ?_, fun _ => ⟨rfl, rfl⟩⟩
    intro table hruns
    exact absurd hruns (hexited table)
  reaped := fun _ => ⟨_, rfl, rfl⟩
  unchanged := fun _ _ => hafter

theorem copies_missing (hnumbered : host.kernel.Numbered) (hruns : host.kernel.Runs birth table)
    (hmissing : table.find? target = none) (hafter : after.kernel = host.kernel) :
    Copies host birth pid target (.error (.kernel .pidfdGetfd .ebadf)) after where
  ok_iff := by
    apply iff_of_false nofun
    rintro ⟨found, source, hfound, hsource⟩
    obtain rfl := hnumbered.unique hruns hfound
    rw [hmissing] at hsource
    cases hsource
  copied := nofun
  missed := by
    rintro error ⟨⟩
    refine ⟨rfl, fun _ _ => ⟨rfl, rfl⟩, ?_⟩
    intro hexited
    exact absurd hruns (hexited table)
  reaped := by
    intro hreaped
    exact absurd hruns.mem_there hreaped
  unchanged := fun _ _ => hafter

/-- In every state, and whatever number is asked for. -/
theorem copies_copyFd (hown : host.Unhindered) (hnumbered : host.kernel.Numbered)
    (hpid : pidfd.pid = pid) (hresource : host.kernel.resource? pidfd.fd = some (.pidfd birth))
    (target : Int) :
    Copies host birth pid target ((pidfd.copyFd target).run.run host).1
      ((pidfd.copyFd target).run.run host).2 := by
  have hsame : ∀ other, (host.kernel.file? pidfd.fd).map OpenFile.resource = some (.pidfd other) →
      other = birth := by
    intro other hother
    have hboth : some (Resource.pidfd other) = some (.pidfd birth) := hother.symm.trans hresource
    cases hboth
    rfl
  have hasked := hown.refusal? (.pidfdGetfd pidfd.fd target 0)
  rcases host.kernel.grants_or_refuses (.pidfdGetfd pidfd.fd target 0) with
    ⟨returned, kernel, hgrants⟩ | ⟨errno, hrefuses⟩
  · rw [run_copyFd_granted (Host.answer_of_ok hasked (Kernel.serve_of_grants hgrants)), hpid]
    cases hgrants with
    | pidfdGetfd hfile htable hsource =>
        obtain rfl := hsame _ hfile
        exact copies_granted hnumbered (hnumbered.tableOf?_eq_some_iff.mp htable) hsource rfl
  · rw [run_copyFd_rejected (Host.answer_of_error hasked (Kernel.serve_of_refuses hrefuses)),
      SyscallError.ofErrno_code]
    cases hrefuses with
    | cannotCopy hflags => exact absurd rfl hflags
    | notPidfd hother => exact absurd hresource (hother birth)
    | notRunning hfile hnone =>
        obtain rfl := hsame _ hfile
        exact copies_exited (hnumbered.tableOf?_eq_none_iff.mp hnone) rfl
    | noTarget hfile htable hmissing =>
        obtain rfl := hsame _ hfile
        exact copies_missing hnumbered (hnumbered.tableOf?_eq_some_iff.mp htable) hmissing rfl

end PidFd

/-! ## Since it was opened -/

namespace Session

variable {kernel : Kernel} {session : Session} {ref : PidRef} {flags : UInt32} {as : String}
  {birth : Nat} {pid : Pid}

theorem numbered_run (h : kernel.Numbered) (steps : List Step) :
    ((start kernel).run steps).host.kernel.Numbered := by
  apply invariant_run _ h
  intro before request? taken given after hturn hnumbered
  exact hturn.numbered hnumbered

theorem precedes_run (session : Session) (steps : List Step) :
    session.host.kernel.Precedes (session.run steps).host.kernel := by
  induction steps generalizing session with
  | nil => exact .refl _
  | cons step steps ih =>
      obtain ⟨request?, hturn, -⟩ := turns_step session step
      rw [run_cons]
      exact hturn.precedes.trans (ih _)

theorem standsFor_run (hnumbered : kernel.Numbered) {earlier : List Step}
    (hbirth : ((start kernel).run earlier).host.kernel.birth? pid = some birth)
    (later : List Step) : StandsFor (start kernel) earlier later birth pid := by
  have hstart := numbered_run hnumbered earlier
  have hbears := hstart.birth?_eq_some_iff.mp hbirth
  -- the birth had been counted when the process was there, and so ever since
  have hcounted : ∀ between,
      birth < ((start kernel).run (earlier ++ between)).host.kernel.births := by
    intro between
    rw [run_append]
    exact Nat.lt_of_lt_of_le (hstart.below birth hbears.mem_there) (precedes_run _ between).births
  have hprecedes : ∀ between, between <+: later →
      ((start kernel).run (earlier ++ between)).host.kernel.Precedes
        ((start kernel).run (earlier ++ later)).host.kernel := by
    rintro between ⟨rest, rfl⟩
    have hrest := precedes_run ((start kernel).run (earlier ++ between)) rest
    rwa [← run_append, List.append_assoc] at hrest
  refine ⟨?_, ?_, ?_⟩
  · intro other
    constructor
    · intro hother
      exact hstart.bears_unique hother hbears
    · rintro rfl
      exact hbears
  · intro between hbetween hthere
    obtain ⟨number, hlater⟩ := Kernel.exists_bears_of_mem_there hthere
    have hnow := (hprecedes between hbetween).bears birth (hcounted between) number hlater
    -- whatever its number is now, it has it since it was there first
    have hthen := (hprecedes [] List.nil_prefix).bears birth (hcounted []) number hlater
    rw [List.append_nil] at hthen
    rwa [hstart.pid_unique hbears hthen]
  · rintro between hbetween ⟨table, hruns⟩
    exact (hprecedes between hbetween).running birth (hcounted between) table hruns

/-- What is there after a step that has opened a process descriptor. -/
theorem opened_of_made (h : (session.step (.openPid ref flags as)).1 = .made as) :
    ∃ pid birth, session.pid? ref = some pid ∧ session.host.kernel.birth? pid = some birth
      ∧ (session.step (.openPid ref flags as)).2.holder? as
        = some (.pidfd (PidFd.holding ⟨session.host.kernel.table.lowestFree⟩ pid))
      ∧ (session.step (.openPid ref flags as)).2.host.kernel
        = (session.host.kernel.openFile (Kernel.pidfdFile birth flags)).2 := by
  cases hperform : session.perform (.openPid ref flags as) with
  | none =>
      rw [step, hperform] at h
      cases h
  | some done =>
      have hstep : session.step (.openPid ref flags as) = done := by
        rw [step, hperform]
        rfl
      rw [hstep] at h ⊢
      simp only [perform, Option.bind_eq_bind, Option.bind_eq_some_iff, Option.guard_eq_some',
        Option.pure_def, Option.some.injEq] at hperform
      obtain ⟨-, -, pid, hpid, rfl⟩ := hperform
      cases hanswer : session.host.answer (.pidfdOpen pid flags) with
      | error number =>
          rw [make, act_eq (PidFd.run_openPid_rejected hanswer)] at h
          cases h
      | ok granted =>
          obtain ⟨returned, after⟩ := granted
          rw [make, act_eq (PidFd.run_openPid_granted hanswer), holder?_bind,
            Function.update_self]
          cases Kernel.grants_of_serve (Host.serve_of_answer hanswer) with
          | pidfdOpen _ _ hbirth => exact ⟨pid, _, hpid, hbirth, rfl, rfl⟩

/-- **A process descriptor gives what its process has open.** At every point of a run in which
descriptors are closed by their holders only, and for every number: a copy through a process
descriptor that a call has opened succeeds if and only if the process it was opened for has not
exited and has the number open; if it fails, then as a race, and the error says whether the process
has exited. -/
theorem copies_run (kernel : Kernel) (hnumbered : kernel.Numbered) (earlier later : List Step)
    (ref : PidRef) (flags : UInt32) (name : String) (pidfd : PidFd)
    (hclosed : ClosedByHolders (start kernel) (earlier ++ .openPid ref flags name :: later))
    (hopened : (((start kernel).run earlier).step (.openPid ref flags name)).1 = .made name)
    (hholder : ((start kernel).run (earlier ++ .openPid ref flags name :: later)).holder? name
      = some (.pidfd pidfd)) :
    ∃ pid birth, ((start kernel).run earlier).pid? ref = some pid
      ∧ StandsFor (start kernel) earlier (.openPid ref flags name :: later) birth pid
      ∧ ∀ target : Int,
        let host := ((start kernel).run (earlier ++ .openPid ref flags name :: later)).host
        Copies host birth pid target ((pidfd.copyFd target).run.run host).1
          ((pidfd.copyFd target).run.run host).2 := by
  obtain ⟨pid, birth, hpid, hbirth, hmade, hkernel⟩ := opened_of_made hopened
  refine ⟨pid, birth, hpid, standsFor_run hnumbered hbirth _, ?_⟩
  have hsplit : earlier ++ .openPid ref flags name :: later
      = earlier ++ [.openPid ref flags name] ++ later := by simp
  rw [← run_concat] at hmade hkernel
  -- the object is the one the call has made, and its number stands for what the call has opened
  obtain rfl : pidfd = PidFd.holding ⟨((start kernel).run earlier).host.kernel.table.lowestFree⟩
      pid := by
    rw [hsplit] at hholder
    exact Holder.pidfd.inj (holder?_of_lasting hmade rfl hholder)
  obtain ⟨found, hfound, hfile⟩ := (PidFd.openedFor_openFile hbirth ⟨flags⟩).file?
  obtain rfl := Option.some.inj (hbirth.symm.trans hfound)
  rw [← hkernel] at hfile
  have hsound := sound_of_holder? hclosed hholder rfl
  have hresource := (hsound.sameFile _ later hsplit hmade).2 _ (congrArg _ hfile)
  intro target
  exact PidFd.copies_copyFd (unhindered_run (unhindered_start kernel) _)
    (numbered_run hnumbered _) rfl hresource target

/-- A system that gives the number of a process that is gone to the next one. -/
def recycling : Kernel := { Kernel.boot 100 false with numbering := fun _ => 101 }

theorem numbered_recycling : recycling.Numbered := by
  obtain ⟨hdistinct, hbelow, hpids⟩ := Kernel.numbered_boot 100 false
  exact ⟨hdistinct, hbelow, hpids⟩

/-- The number of a child that is gone is given to another one, which has what is copied open. The
descriptor is still for the first. -/
theorem copies_run_recycled :
    let earlier : List Step := [.spawn "first"]
    let later : List Step := [.kill "first" true, .spawn "second"]
    let steps := earlier ++ .openPid (.child "first") 0 "process" :: later
    let pidfd := PidFd.holding ⟨3⟩ 101
    let host := ((start recycling).run steps).host
    ((start recycling).run steps).holder? "process" = some (.pidfd pidfd)
      ∧ host.kernel.birth? 101 = some 3
      ∧ ((host.kernel.tableOf? 3).bind fun table => table.find? 0).isSome = true
      ∧ ((pidfd.copyFd 0).run.run host).1 = .error (.kernel .pidfdGetfd .esrch)
      ∧ ∃ pid birth, ((start recycling).run earlier).pid? (.child "first") = some pid
        ∧ StandsFor (start recycling) earlier (.openPid (.child "first") 0 "process" :: later)
          birth pid
        ∧ ∀ target, Copies host birth pid target ((pidfd.copyFd target).run.run host).1
          ((pidfd.copyFd target).run.run host).2 := by
  intro earlier later steps pidfd host
  have hclosed : ClosedByHolders (start recycling) steps := by
    intro before ref fd hbefore
    have hmem := hbefore.subset (List.mem_append_right before (List.mem_singleton_self _))
    simp [steps, earlier, later] at hmem
  have hmade : (((start recycling).run [.spawn "first"]).step
      (.openPid (.child "first") 0 "process")).1 = .made "process" := rfl
  have hmissed : ((pidfd.copyFd 0).run.run host).1 = .error (.kernel .pidfdGetfd .esrch) := rfl
  refine ⟨by decide, by decide, by decide, hmissed, ?_⟩
  exact copies_run recycling numbered_recycling earlier later (.child "first") 0 "process" pidfd
    hclosed hmade (by decide)

end Session

end PidOne
