import PidOne.PidFd

/-!
# What acts and calls do to a host

Every call makes one request, which is either granted or rejected, be it by the kernel or before the
kernel has seen it. `Host.granted` and `Host.rejected` are the host after either, with what was told
to the trace meanwhile; for each call there is one lemma for each of the two, and nothing later
looks into a call again.

A rejected request leaves the kernel as it was. The number of the error is read before anything is
told, so it is the one the request left behind.
-/

namespace PidOne

theorem run_bind {σ α β : Type} {act : StateM σ α} {next : α → StateM σ β} {state after : σ}
    {answer : α} (h : act.run state = (answer, after)) :
    (act >>= next).run state = (next answer).run after := by
  rw [StateT.run_bind, h]
  rfl

namespace Host

/-- The host after a request that made the kernel what it is now. -/
def granted (host : Host) (request : Request) (kernel : Kernel) (told : Trace) : Host :=
  { host with kernel, requests := host.requests ++ [request], trace := host.trace ++ told }

/-- The host after a request that was rejected with a number. -/
def rejected (host : Host) (request : Request) (number : Int) (told : Trace) : Host :=
  { host with
    errno := number, requests := host.requests ++ [request], trace := host.trace ++ told }

/-- The host after something has been told. -/
def telling (host : Host) (told : Trace) : Host := { host with trace := host.trace ++ told }

/-- The host after a request with what it came to, where `told` was told meanwhile. -/
inductive Asked (host : Host) (request : Request) (told : Trace) :
    Except Errno Nat → Host → Prop where
  | granted {returned : Nat} {kernel : Kernel} (h : host.answer request = .ok (returned, kernel)) :
      Asked host request told (.ok returned) (host.granted request kernel told)
  | rejected {number : Int} (h : host.answer request = .error number) :
      Asked host request told (.error (.ofNumber number)) (host.rejected request number told)

/-- Nothing is refused but by the kernel's own rules. -/
def Unhindered (host : Host) : Prop := ∀ place, host.refusals place = none

variable (host : Host) (request : Request) (kernel : Kernel) (number : Int) (told more : Trace)

@[simp]
theorem errno_rejected : (host.rejected request number told).errno = number := by rw [rejected]

theorem telling_telling : (host.telling told).telling more = host.telling (told ++ more) := by
  simp [telling, List.append_assoc]

theorem telling_granted :
    (host.granted request kernel told).telling more
      = host.granted request kernel (told ++ more) := by
  simp [telling, granted, List.append_assoc]

theorem telling_rejected :
    (host.rejected request number told).telling more
      = host.rejected request number (told ++ more) := by
  simp [telling, rejected, List.append_assoc]

theorem granted_telling :
    (host.telling told).granted request kernel more
      = host.granted request kernel (told ++ more) := by
  simp [telling, granted, List.append_assoc]

theorem rejected_telling :
    (host.telling told).rejected request number more
      = host.rejected request number (told ++ more) := by
  simp [telling, rejected, List.append_assoc]

variable {host request told}

theorem Asked.trace {after : Host} {result : Except Errno Nat}
    (h : host.Asked request told result after) :
    after.trace = host.trace ++ told := by
  cases h with
  | granted => rfl
  | rejected => rfl

theorem Asked.refusals {after : Host} {result : Except Errno Nat}
    (h : host.Asked request told result after) :
    after.refusals = host.refusals := by
  cases h with
  | granted => rfl
  | rejected => rfl

/-! ## What a request comes to -/

section

variable {kernel : Kernel} {errno : Errno} {returned : Nat}

/-- Only the kernel grants requests. -/
theorem serve_of_answer (h : host.answer request = .ok (returned, kernel)) :
    host.kernel.serve request = .ok (returned, kernel) := by
  rw [answer] at h
  split at h
  · cases h
  · cases hserve : host.kernel.serve request with
    | error errno =>
        rw [hserve] at h
        cases h
    | ok granted =>
        rw [hserve] at h
        cases h
        rfl

theorem refusal?_of_answer (h : host.answer request = .ok (returned, kernel)) :
    host.refusal? request = none := by
  rw [answer] at h
  split at h
  · cases h
  · next hown => exact hown

theorem answer_of_ok (hown : host.refusal? request = none)
    (h : host.kernel.serve request = .ok (returned, kernel)) :
    host.answer request = .ok (returned, kernel) := by
  rw [answer, hown, h]
  rfl

theorem answer_of_error (hown : host.refusal? request = none)
    (h : host.kernel.serve request = .error errno) : host.answer request = .error errno.code := by
  rw [answer, hown, h]
  rfl

theorem Unhindered.refusal? (h : host.Unhindered) (request : Request) :
    host.refusal? request = none := by
  cases request with
  | close fd => rfl
  | _ => exact h _

end

end Host

/-! ## Acts -/

namespace Act

variable {host : Host} {request : Request} {kernel : Kernel} {number : Int} {returned : Nat}

theorem run_request_granted (h : host.answer request = .ok (returned, kernel)) :
    (Act.request request).run host = ((returned : Int), host.granted request kernel []) := by
  change Act.request request host = _
  simp [Act.request, h, Host.granted]

theorem run_request_rejected (h : host.answer request = .error number) :
    (Act.request request).run host = (-1, host.rejected request number []) := by
  change Act.request request host = _
  simp [Act.request, h, Host.rejected]

theorem run_event (event : Event) (host : Host) :
    (Act.event event).run host = ((), host.telling [.event event]) := rfl

theorem run_inSpan {α : Type} {span : Span} {body : Act α} {answer : α} {after : Host}
    (h : body.run (host.telling [.enter span]) = (answer, after)) :
    (Act.inSpan span body).run host = (answer, after.telling [.leave span]) := by
  have henter : (Act.signal (.enter span)).run host = ((), host.telling [.enter span]) := rfl
  rw [Act.inSpan, run_bind henter, run_bind h]
  rfl

end Act

namespace Unchecked

variable {host : Host} {kernel : Kernel} {number : Int} {returned : Nat}

/-- The answer is in the variable, whatever was there before. -/
theorem run_subreaper_granted (variableBefore : Int)
    (h : host.answer .getChildSubreaper = .ok (returned, kernel)) :
    (subreaper variableBefore).run host
      = (((returned : Int), if kernel.subreaper then 1 else 0),
        host.granted .getChildSubreaper kernel []) := by
  have hne : (returned : Int) ≠ -1 := by omega
  rw [subreaper, run_bind (Act.run_request_granted h), if_neg hne]
  rfl

theorem run_subreaper_rejected (variableBefore : Int)
    (h : host.answer .getChildSubreaper = .error number) :
    (subreaper variableBefore).run host
      = ((-1, variableBefore), host.rejected .getChildSubreaper number []) := by
  rw [subreaper, run_bind (Act.run_request_rejected h)]
  rfl

end Unchecked

/-! ## Calls -/

namespace Call

variable {α β : Type} {host after : Host} {error : SyscallError}

theorem run_bind_ok {call : Call α} {next : α → Call β} {value : α}
    (h : call.run.run host = (.ok value, after)) :
    (call >>= next).run.run host = (next value).run.run after := by
  rw [ExceptT.run_bind, PidOne.run_bind h]

theorem run_bind_error {call : Call α} {next : α → Call β}
    (h : call.run.run host = (.error error, after)) :
    (call >>= next).run.run host = (.error error, after) := by
  rw [ExceptT.run_bind, PidOne.run_bind h]
  rfl

theorem run_lift {act : Act α} {answer : α} (h : act.run host = (answer, after)) :
    (act : Call α).run.run host = (.ok answer, after) := by
  have hlift : (act : Call α).run = Except.ok <$> act := rfl
  rw [hlift, StateT.run_map, h]
  rfl

theorem run_lift_bind {act : Act α} {next : α → Call β} {answer : α}
    (h : act.run host = (answer, after)) :
    ((act : Call α) >>= next).run.run host = (next answer).run.run after :=
  run_bind_ok (run_lift h)

theorem run_inSpan {span : Span} {body : Call α} {result : Except SyscallError α}
    (h : body.run.run (host.telling [.enter span]) = (result, after)) :
    (Call.inSpan span body).run.run host = (result, after.telling [.leave span]) :=
  Act.run_inSpan h

theorem result_ofNat (call : Syscall) (returned : Nat) :
    Call.result call (returned : Int) = pure (returned : Int) := by
  have hne : (returned : Int) ≠ -1 := by omega
  rw [Call.result, if_pos hne]

theorem run_result_rejected (call : Syscall) (request : Request) (number : Int) (host : Host) :
    (Call.result call (-1)).run.run (host.rejected request number [])
      = (.error (.ofErrno call number),
        host.rejected request number [.event (Call.rejected call (.ofErrno call number))]) := by
  -- the number is read before the trace is told
  have herrno : Act.lastErrno.run (host.rejected request number [])
      = (number, host.rejected request number []) := rfl
  rw [Call.result, if_neg (by simp), run_lift_bind herrno, run_lift_bind (Act.run_event _ _),
    Host.telling_rejected]
  rfl

/-! Each call within its span: what it says when its request is granted, and when it is rejected. -/

variable {request : Request} {kernel : Kernel} {number : Int} {returned : Nat} {span : Span}
  {call : Syscall}

/-- What the span of a rejected call contains. -/
def toldRejected (span : Span) (call : Syscall) (number : Int) : Trace :=
  [.enter span, .event (Call.rejected call (.ofErrno call number)), .leave span]

theorem run_request_granted {next : Int → Call α}
    (h : host.answer request = .ok (returned, kernel)) :
    ((do next (← Call.result call (← Act.request request))) : Call α).run.run host
      = (next (returned : Int)).run.run (host.granted request kernel []) := by
  rw [run_lift_bind (Act.run_request_granted h), result_ofNat, pure_bind]

theorem run_request_rejected {next : Int → Call α}
    (h : host.answer request = .error number) :
    ((do next (← Call.result call (← Act.request request))) : Call α).run.run host
      = (.error (.ofErrno call number),
        host.rejected request number [.event (Call.rejected call (.ofErrno call number))]) := by
  rw [run_lift_bind (Act.run_request_rejected h),
    run_bind_error (run_result_rejected call request number host)]

theorem run_spanned_granted {next : Int → Call α} {result : Except SyscallError α}
    (h : host.answer request = .ok (returned, kernel))
    (hnext : (next (returned : Int)).run.run (host.granted request kernel [.enter span])
      = (result, after)) :
    (Call.inSpan span (do next (← Call.result call (← Act.request request)))).run.run host
      = (result, after.telling [.leave span]) := by
  refine run_inSpan ?_
  rw [run_request_granted (by exact h), Host.granted_telling, List.append_nil, hnext]

theorem run_spanned_rejected {next : Int → Call α}
    (h : host.answer request = .error number) :
    (Call.inSpan span (do next (← Call.result call (← Act.request request)))).run.run host
      = (.error (.ofErrno call number),
        host.rejected request number (toldRejected span call number)) := by
  rw [run_inSpan (run_request_rejected (by exact h)), Host.rejected_telling, Host.telling_rejected]
  rfl

end Call

/-! ## Guards -/

namespace Guard

def holding (owned : Owned) (subject : GuardSubject) (events : EventNames) : Guard :=
  ⟨some owned, owned.number, subject, events⟩

end Guard

def PidFd.holding (owned : Owned) (pid : Pid) : PidFd :=
  ⟨Guard.holding owned ⟨"pidfd", some pid⟩ eventNames, pid⟩

def RemoteFd.holding (owned : Owned) (sourcePid : Pid) (targetFd : Int) : RemoteFd :=
  ⟨Guard.holding owned ⟨"remote_fd", some sourcePid⟩ eventNames, sourcePid, targetFd⟩

theorem PidFd.run_ofOwned (owned : Owned) (pid : Pid) (host : Host) :
    (PidFd.ofOwned owned pid).run host
      = (holding owned pid, host.telling [.event (holding owned pid).guard.acquired]) := rfl

theorem RemoteFd.run_ofOwned (owned : Owned) (sourcePid : Pid) (targetFd : Int) (host : Host) :
    (RemoteFd.ofOwned owned sourcePid targetFd).run host
      = (holding owned sourcePid targetFd,
        host.telling [.event (holding owned sourcePid targetFd).guard.acquired]) := rfl

/-! ## Each call -/

section

variable {host : Host} {kernel : Kernel} {number : Int} {returned : Nat}

theorem PidFd.run_openPid_granted {pid : Pid} {flags : PidFdFlags}
    (h : host.answer (.pidfdOpen pid flags.bits) = .ok (returned, kernel)) :
    (PidFd.openPid pid flags).run.run host
      = (.ok (holding ⟨returned⟩ pid), host.granted (.pidfdOpen pid flags.bits) kernel
        [.enter (openSpan pid flags), .event (holding ⟨returned⟩ pid).guard.acquired,
          .leave (openSpan pid flags)]) := by
  have hnext := Call.run_lift (run_ofOwned ⟨returned⟩ pid
    (host.granted (.pidfdOpen pid flags.bits) kernel [.enter (openSpan pid flags)]))
  rw [Host.telling_granted] at hnext
  calc (PidFd.openPid pid flags).run.run host
      = (.ok (holding ⟨returned⟩ pid), (host.granted (.pidfdOpen pid flags.bits) kernel
          [.enter (openSpan pid flags), .event (holding ⟨returned⟩ pid).guard.acquired]).telling
          [.leave (openSpan pid flags)]) := Call.run_spanned_granted h hnext
    _ = _ := by
      rw [Host.telling_granted]
      rfl

theorem PidFd.run_openPid_rejected {pid : Pid} {flags : PidFdFlags}
    (h : host.answer (.pidfdOpen pid flags.bits) = .error number) :
    (PidFd.openPid pid flags).run.run host
      = (.error (.ofErrno .pidfdOpen number), host.rejected (.pidfdOpen pid flags.bits) number
        (Call.toldRejected (openSpan pid flags) .pidfdOpen number)) :=
  Call.run_spanned_rejected h

theorem Call.run_copyFd_granted {pidfd target : Int} {flags : UInt32}
    (h : host.answer (.pidfdGetfd pidfd target flags) = .ok (returned, kernel)) :
    (Call.copyFd pidfd target flags).run.run host
      = (.ok ⟨returned⟩, host.granted (.pidfdGetfd pidfd target flags) kernel
        [.enter (copyFdSpan pidfd target flags), .leave (copyFdSpan pidfd target flags)]) := by
  calc (Call.copyFd pidfd target flags).run.run host
      = (.ok ⟨returned⟩, (host.granted (.pidfdGetfd pidfd target flags) kernel
          [.enter (copyFdSpan pidfd target flags)]).telling
          [.leave (copyFdSpan pidfd target flags)]) := Call.run_spanned_granted h rfl
    _ = _ := by
      rw [Host.telling_granted]
      rfl

theorem Call.run_copyFd_rejected {pidfd target : Int} {flags : UInt32}
    (h : host.answer (.pidfdGetfd pidfd target flags) = .error number) :
    (Call.copyFd pidfd target flags).run.run host
      = (.error (.ofErrno .pidfdGetfd number), host.rejected (.pidfdGetfd pidfd target flags) number
        (Call.toldRejected (copyFdSpan pidfd target flags) .pidfdGetfd number)) :=
  Call.run_spanned_rejected h

theorem PidFd.run_tellUse (pidfd : PidFd) (operation : String) (host : Host) :
    (pidfd.guard.tellUse operation : Act Unit).run host
      = ((), host.telling [.event (pidfd.guard.used operation)]) := rfl

theorem PidFd.run_copyFd_granted {pidfd : PidFd} {target : Int}
    (h : host.answer (.pidfdGetfd pidfd.fd target 0) = .ok (returned, kernel)) :
    (pidfd.copyFd target).run.run host
      = (.ok (RemoteFd.holding ⟨returned⟩ pidfd.pid target),
        host.granted (.pidfdGetfd pidfd.fd target 0) kernel
          [.event (pidfd.guard.used "pidfd_getfd"), .enter (copyFdSpan pidfd.fd target 0),
            .leave (copyFdSpan pidfd.fd target 0),
            .event (RemoteFd.holding ⟨returned⟩ pidfd.pid target).guard.acquired]) := by
  have htold : (host.telling [.event (pidfd.guard.used "pidfd_getfd")]).answer
      (.pidfdGetfd pidfd.fd target 0) = .ok (returned, kernel) := h
  have hcopy := Call.run_copyFd_granted htold
  rw [Host.granted_telling] at hcopy
  -- the use is told before the span is entered, and the new guard tells of itself after it
  rw [PidFd.copyFd, Call.run_lift_bind (PidFd.run_tellUse pidfd _ host), Call.run_bind_ok hcopy,
    Call.run_lift (RemoteFd.run_ofOwned _ _ _ _), Host.telling_granted]
  rfl

theorem PidFd.run_copyFd_rejected {pidfd : PidFd} {target : Int}
    (h : host.answer (.pidfdGetfd pidfd.fd target 0) = .error number) :
    (pidfd.copyFd target).run.run host
      = (.error (.ofErrno .pidfdGetfd number), host.rejected (.pidfdGetfd pidfd.fd target 0) number
        (.event (pidfd.guard.used "pidfd_getfd")
          :: Call.toldRejected (copyFdSpan pidfd.fd target 0) .pidfdGetfd number)) := by
  have htold : (host.telling [.event (pidfd.guard.used "pidfd_getfd")]).answer
      (.pidfdGetfd pidfd.fd target 0) = .error number := h
  have hcopy := Call.run_copyFd_rejected htold
  rw [Host.rejected_telling] at hcopy
  rw [PidFd.copyFd, Call.run_lift_bind (PidFd.run_tellUse pidfd _ host), Call.run_bind_error hcopy]
  rfl

end

namespace Call

variable {host : Host} {kernel : Kernel} {number : Int} {returned : Nat} {newRoot putOld : CString}

theorem pathArgument_bytes (string : CString) : pathArgument string.bytes = pure string := by
  rw [pathArgument, string.ofBytes?_bytes]

theorem run_pivotRoot_granted
    (h : host.answer (.pivotRoot newRoot putOld) = .ok (returned, kernel)) :
    (pivotRoot newRoot.bytes putOld.bytes).run.run host
      = (.ok (), host.granted (.pivotRoot newRoot putOld) kernel
        [.enter (pivotRootSpan newRoot.bytes putOld.bytes), .event rootSwitched,
          .leave (pivotRootSpan newRoot.bytes putOld.bytes)]) := by
  rw [pivotRoot, pathArgument_bytes, pathArgument_bytes, pure_bind, pure_bind]
  refine (run_spanned_granted h (run_lift (Act.run_event _ _))).trans ?_
  rw [Host.telling_granted, Host.telling_granted]
  rfl

theorem run_pivotRoot_rejected
    (h : host.answer (.pivotRoot newRoot putOld) = .error number) :
    (pivotRoot newRoot.bytes putOld.bytes).run.run host
      = (.error (.ofErrno .pivotRoot number), host.rejected (.pivotRoot newRoot putOld) number
        (toldRejected (pivotRootSpan newRoot.bytes putOld.bytes) .pivotRoot number)) := by
  rw [pivotRoot, pathArgument_bytes, pathArgument_bytes, pure_bind, pure_bind]
  exact run_spanned_rejected h

theorem run_pathArgument_invalid {path : Path} (h : CString.ofBytes? path = none) :
    (pathArgument path).run.run host = (.error (.invalidPath path.display), host) := by
  rw [pathArgument, h]
  rfl

/-- The path that keeps a call from being made: the first of the two that has a NUL byte. -/
def Misfit (newRoot putOld path : Path) : Prop :=
  (0 : UInt8) ∈ path ∧ (path = newRoot ∨ path = putOld ∧ (0 : UInt8) ∉ newRoot)

theorem misfit_or_fit (newRoot putOld : Path) :
    (∃ path, Misfit newRoot putOld path)
    ∨ ∃ new old : CString, newRoot = new.bytes ∧ putOld = old.bytes := by
  by_cases hnew : (0 : UInt8) ∈ newRoot
  · exact .inl ⟨newRoot, hnew, .inl rfl⟩
  by_cases hold : (0 : UInt8) ∈ putOld
  · exact .inl ⟨putOld, hold, .inr ⟨rfl, hnew⟩⟩
  · exact .inr ⟨⟨newRoot, hnew⟩, ⟨putOld, hold⟩, rfl, rfl⟩

theorem run_pivotRoot_invalid {newRoot putOld path : Path} (h : Misfit newRoot putOld path) :
    (pivotRoot newRoot putOld).run.run host
      = (.error (.invalidPath path.display), host.telling
        [.enter (pivotRootSpan newRoot putOld), .leave (pivotRootSpan newRoot putOld)]) := by
  obtain ⟨hnul, hpath⟩ := h
  have hnone := CString.ofBytes?_eq_none_iff.mpr hnul
  rw [pivotRoot]
  rcases hpath with rfl | ⟨rfl, hfirst⟩
  · rw [run_inSpan (run_bind_error (run_pathArgument_invalid hnone)), Host.telling_telling]
    rfl
  · have hbytes : pathArgument newRoot = pure ⟨newRoot, hfirst⟩ := pathArgument_bytes ⟨_, hfirst⟩
    rw [hbytes, pure_bind, run_inSpan (run_bind_error (run_pathArgument_invalid hnone)),
      Host.telling_telling]
    rfl

theorem run_becomeSubreaper_granted
    (h : host.answer .setChildSubreaper = .ok (returned, kernel)) :
    becomeSubreaper.run.run host
      = (.ok (), host.granted .setChildSubreaper kernel
        [.enter becomeSubreaperSpan, .leave becomeSubreaperSpan]) := by
  calc becomeSubreaper.run.run host
      = (.ok (), (host.granted .setChildSubreaper kernel
          [.enter becomeSubreaperSpan]).telling [.leave becomeSubreaperSpan]) :=
        run_spanned_granted h rfl
    _ = _ := by
      rw [Host.telling_granted]
      rfl

theorem run_becomeSubreaper_rejected (h : host.answer .setChildSubreaper = .error number) :
    becomeSubreaper.run.run host
      = (.error (.ofErrno .setChildSubreaper number), host.rejected .setChildSubreaper number
        (toldRejected becomeSubreaperSpan .setChildSubreaper number)) :=
  run_spanned_rejected h

theorem run_isSubreaper_granted (h : host.answer .getChildSubreaper = .ok (returned, kernel)) :
    isSubreaper.run.run host
      = (.ok kernel.subreaper, host.granted .getChildSubreaper kernel []) := by
  have hflag : ((if kernel.subreaper then 1 else 0 : Int) != 0) = kernel.subreaper := by
    cases kernel.subreaper <;> rfl
  rw [isSubreaper, run_lift_bind (Unchecked.run_subreaper_granted 0 h)]
  simp only [result_ofNat, pure_bind, hflag]
  rfl

/-- There is no span for this call, so the rejection is told outside of any. -/
theorem run_isSubreaper_rejected (h : host.answer .getChildSubreaper = .error number) :
    isSubreaper.run.run host
      = (.error (.ofErrno .getChildSubreaper number), host.rejected .getChildSubreaper number
        [.event (rejected .getChildSubreaper (.ofErrno .getChildSubreaper number))]) := by
  rw [isSubreaper, run_lift_bind (Unchecked.run_subreaper_rejected 0 h),
    run_bind_error (run_result_rejected _ _ _ _)]

end Call

end PidOne
