import Mathlib.Data.List.Forall2
import PidOne.Proofs.Acting

/-!
# Checked and unchecked calls in step

An `Ask` is one of the five requests with its arguments. It can be put to the kernel by a checked
call or by the unchecked one, and a list of asks gives two histories from the same host. They stay
in step: after every ask the kernels are equal, and the answers are two ways of saying the same.

The invariant of the induction is `Host.Same`: the two hosts differ in their traces only, as checked
calls tell what they do. A checked call may read nothing of its host but what the hosts have in
common, and has to read the error number before its trace is written; `Ask.run_checked_granted` and
`Ask.run_checked_rejected` say that it does, `Ask.inStep` that this is enough for one step.
-/

namespace PidOne

inductive Ask where
  | pivotRoot (newRoot putOld : CString)
  | becomeSubreaper
  /-- The unchecked call is given a variable to store its answer in. -/
  | isSubreaper (variableBefore : Int)
  | openPid (pid : Pid) (flags : UInt32)
  | copyFd (pidfd target : Int) (flags : UInt32)
  /-- A copy through an object; the unchecked call is given its number, and no flags. -/
  | copyFdOf (pidfd : PidFd) (target : Int)

/-- What a checked call gives when it succeeds. -/
inductive Reply where
  | done
  | told (answer : Bool)
  | pidfd (pidfd : PidFd)
  | owned (owned : Owned)
  | remote (remote : RemoteFd)

/-- What an unchecked call gives. -/
structure RawReply where
  returned : Int
  stored : Option Int

namespace Ask

def syscall : Ask → Syscall
  | .pivotRoot _ _ => .pivotRoot
  | .becomeSubreaper => .setChildSubreaper
  | .isSubreaper _ => .getChildSubreaper
  | .openPid _ _ => .pidfdOpen
  | .copyFd _ _ _ => .pidfdGetfd
  | .copyFdOf _ _ => .pidfdGetfd

def request : Ask → Request
  | .pivotRoot newRoot putOld => .pivotRoot newRoot putOld
  | .becomeSubreaper => .setChildSubreaper
  | .isSubreaper _ => .getChildSubreaper
  | .openPid pid flags => .pidfdOpen pid flags
  | .copyFd pidfd target flags => .pidfdGetfd pidfd target flags
  | .copyFdOf pidfd target => .pidfdGetfd pidfd.fd target 0

def checked : Ask → Call Reply
  | .pivotRoot newRoot putOld => do
    Call.pivotRoot newRoot.bytes putOld.bytes
    return .done
  | .becomeSubreaper => do
    Call.becomeSubreaper
    return .done
  | .isSubreaper _ => do return .told (← Call.isSubreaper)
  | .openPid pid flags => do return .pidfd (← PidFd.openPid pid ⟨flags⟩)
  | .copyFd pidfd target flags => do return .owned (← Call.copyFd pidfd target flags)
  | .copyFdOf pidfd target => do return .remote (← pidfd.copyFd target)

def unchecked : Ask → Act RawReply
  | .pivotRoot newRoot putOld => do return ⟨← Unchecked.pivotRoot newRoot putOld, none⟩
  | .becomeSubreaper => do return ⟨← Unchecked.becomeSubreaper, none⟩
  | .isSubreaper variableBefore => do
    let (returned, variableAfter) ← Unchecked.subreaper variableBefore
    return ⟨returned, some variableAfter⟩
  | .openPid pid flags => do return ⟨← Unchecked.openPid pid flags, none⟩
  | .copyFd pidfd target flags => do return ⟨← Unchecked.copyFd pidfd target flags, none⟩
  | .copyFdOf pidfd target => do return ⟨← Unchecked.copyFd pidfd.fd target 0, none⟩

/-- The two say the same of an ask that succeeded: the object is one that was asked for, still has
its descriptor, and has the very number that the unchecked call returned. -/
def Agrees : Ask → Reply → RawReply → Prop
  | .pivotRoot _ _, .done, raw => raw = ⟨0, none⟩
  | .becomeSubreaper, .done, raw => raw = ⟨0, none⟩
  | .isSubreaper _, .told answer, raw => raw = ⟨0, some (if answer then 1 else 0)⟩
  | .openPid pid _, .pidfd made, raw =>
    made.pid = pid ∧ made.guard.borrow? = some made.fd ∧ raw = ⟨(made.fd : Int), none⟩
  | .copyFd _ _ _, .owned made, raw => raw = ⟨(made.number : Int), none⟩
  | .copyFdOf source target, .remote made, raw =>
    made.sourcePid = source.pid ∧ made.targetFd = target
      ∧ made.guard.borrow? = some made.fd ∧ raw = ⟨(made.fd : Int), none⟩
  | _, _, _ => False

end Ask

structure Served (α : Type) where
  before : Host
  ask : Ask
  answer : α
  after : Host

def history {α : Type} (serve : Ask → Act α) : Host → List Ask → List (Served α)
  | _, [] => []
  | host, ask :: asks =>
    let (answer, after) := (serve ask).run host
    ⟨host, ask, answer, after⟩ :: history serve after asks

/-- The hosts differ at most in what has been told. -/
structure Host.Same (host other : Host) : Prop where
  kernel : host.kernel = other.kernel
  errno : host.errno = other.errno
  requests : host.requests = other.requests
  refusals : host.refusals = other.refusals

/-- One ask, put to the kernel in the two ways. -/
structure InStep (checked : Served (Except SyscallError Reply)) (unchecked : Served RawReply) :
    Prop where
  ask : checked.ask = unchecked.ask
  same : checked.after.Same unchecked.after
  /-- The unchecked call passes on what the kernel returns. -/
  granted : ∀ returned kernel,
    unchecked.before.answer unchecked.ask.request = .ok (returned, kernel) →
    unchecked.answer.returned = returned ∧ unchecked.after.kernel = kernel
  /-- Where the request is rejected it leaves the number behind, whichever that is. -/
  rejected : ∀ number, unchecked.before.answer unchecked.ask.request = .error number →
    unchecked.answer.returned = -1 ∧ unchecked.after.errno = number
      ∧ unchecked.after.kernel = unchecked.before.kernel
  ok_iff : (∃ reply, checked.answer = .ok reply) ↔ unchecked.answer.returned ≠ -1
  agrees : ∀ reply, checked.answer = .ok reply →
    checked.ask.Agrees reply unchecked.answer ∧ 0 ≤ unchecked.answer.returned
  error_iff : ∀ error, checked.answer = .error error ↔ unchecked.answer.returned = -1
    ∧ error = .kernel checked.ask.syscall (Errno.ofNumber unchecked.after.errno)

/-! ## What an ask does to a host -/

namespace Ask

variable {ask : Ask} {host : Host} {kernel : Kernel} {number : Int} {returned : Nat}

def stored (ask : Ask) (kernel : Kernel) : Option Int :=
  match ask with
  | .isSubreaper _ => some (if kernel.subreaper then 1 else 0)
  | _ => none

theorem run_unchecked_granted (h : host.answer ask.request = .ok (returned, kernel)) :
    ask.unchecked.run host
      = (⟨returned, ask.stored kernel⟩, host.granted ask.request kernel []) := by
  have hrequest := Act.run_request_granted h
  cases ask with
  | pivotRoot newRoot putOld => exact run_bind hrequest
  | becomeSubreaper => exact run_bind hrequest
  | isSubreaper variableBefore =>
      exact run_bind (Unchecked.run_subreaper_granted variableBefore h)
  | openPid pid flags => exact run_bind hrequest
  | copyFd pidfd target flags => exact run_bind hrequest
  | copyFdOf pidfd target => exact run_bind hrequest

theorem run_unchecked_rejected (h : host.answer ask.request = .error number) :
    ∃ variableAfter, ask.unchecked.run host
      = (⟨-1, variableAfter⟩, host.rejected ask.request number []) := by
  have hrequest := Act.run_request_rejected h
  cases ask with
  | pivotRoot newRoot putOld => exact ⟨none, run_bind hrequest⟩
  | becomeSubreaper => exact ⟨none, run_bind hrequest⟩
  | isSubreaper variableBefore =>
      exact ⟨some variableBefore, run_bind (Unchecked.run_subreaper_rejected variableBefore h)⟩
  | openPid pid flags => exact ⟨none, run_bind hrequest⟩
  | copyFd pidfd target flags => exact ⟨none, run_bind hrequest⟩
  | copyFdOf pidfd target => exact ⟨none, run_bind hrequest⟩

theorem returned_pivotRoot {newRoot putOld : CString}
    (h : host.answer (.pivotRoot newRoot putOld) = .ok (returned, kernel)) : returned = 0 := by
  have hserve := Host.serve_of_answer h
  rw [Kernel.serve] at hserve
  cases hpivot : host.kernel.pivotRoot newRoot putOld with
  | error errno =>
      rw [hpivot] at hserve
      cases hserve
  | ok moved =>
      rw [hpivot] at hserve
      cases hserve
      rfl

/-- The checked call succeeds where the request is granted, and makes that one request. -/
theorem run_checked_granted (h : host.answer ask.request = .ok (returned, kernel)) :
    ∃ reply told, ask.checked.run.run host = (.ok reply, host.granted ask.request kernel told)
      ∧ ask.Agrees reply ⟨returned, ask.stored kernel⟩ := by
  cases ask with
  | pivotRoot newRoot putOld =>
      obtain rfl := returned_pivotRoot h
      exact ⟨.done, _, Call.run_bind_ok (Call.run_pivotRoot_granted h), rfl⟩
  | becomeSubreaper =>
      cases Host.serve_of_answer h
      exact ⟨.done, _, Call.run_bind_ok (Call.run_becomeSubreaper_granted h), rfl⟩
  | isSubreaper variableBefore =>
      cases Host.serve_of_answer h
      exact ⟨.told _, _, Call.run_bind_ok (Call.run_isSubreaper_granted h), rfl⟩
  | openPid pid flags =>
      exact ⟨.pidfd _, _, Call.run_bind_ok (PidFd.run_openPid_granted h), rfl, rfl, rfl⟩
  | copyFd pidfd target flags =>
      exact ⟨.owned _, _, Call.run_bind_ok (Call.run_copyFd_granted h), rfl⟩
  | copyFdOf pidfd target =>
      exact ⟨.remote _, _, Call.run_bind_ok (PidFd.run_copyFd_granted h), rfl, rfl, rfl, rfl⟩

/-- The checked call fails where the request is rejected, with the number that was left. -/
theorem run_checked_rejected (h : host.answer ask.request = .error number) :
    ∃ told, ask.checked.run.run host
      = (.error (.ofErrno ask.syscall number), host.rejected ask.request number told) := by
  cases ask with
  | pivotRoot newRoot putOld =>
      exact ⟨_, Call.run_bind_error (Call.run_pivotRoot_rejected h)⟩
  | becomeSubreaper => exact ⟨_, Call.run_bind_error (Call.run_becomeSubreaper_rejected h)⟩
  | isSubreaper variableBefore =>
      exact ⟨_, Call.run_bind_error (Call.run_isSubreaper_rejected h)⟩
  | openPid pid flags => exact ⟨_, Call.run_bind_error (PidFd.run_openPid_rejected h)⟩
  | copyFd pidfd target flags => exact ⟨_, Call.run_bind_error (Call.run_copyFd_rejected h)⟩
  | copyFdOf pidfd target => exact ⟨_, Call.run_bind_error (PidFd.run_copyFd_rejected h)⟩

end Ask

/-! ## In step -/

section

variable {host other : Host}

theorem Host.Same.granted (h : host.Same other) (request : Request) (kernel : Kernel)
    (told more : Trace) :
    (host.granted request kernel told).Same (other.granted request kernel more) where
  kernel := rfl
  errno := h.errno
  requests := congrArg (· ++ [request]) h.requests
  refusals := h.refusals

theorem Host.Same.rejected (h : host.Same other) (request : Request) (number : Int)
    (told more : Trace) :
    (host.rejected request number told).Same (other.rejected request number more) where
  kernel := h.kernel
  errno := rfl
  requests := congrArg (· ++ [request]) h.requests
  refusals := h.refusals

theorem Host.Same.answer (h : host.Same other) (request : Request) :
    host.answer request = other.answer request := by
  have hrefusal : host.refusal? request = other.refusal? request := by
    cases request with
    | close fd => rfl
    | _ => simp [Host.refusal?, h.requests, h.refusals]
  rw [Host.answer, Host.answer, hrefusal, h.kernel]

theorem Ask.inStep (h : host.Same other) (ask : Ask) :
    InStep ⟨host, ask, (ask.checked.run.run host).1, (ask.checked.run.run host).2⟩
      ⟨other, ask, (ask.unchecked.run other).1, (ask.unchecked.run other).2⟩ := by
  cases hanswer : host.answer ask.request with
  | error number =>
      have hother : other.answer ask.request = .error number := h.answer _ ▸ hanswer
      obtain ⟨told, hchecked⟩ := run_checked_rejected hanswer
      obtain ⟨variableAfter, hunchecked⟩ := run_unchecked_rejected hother
      rw [hchecked, hunchecked]
      refine ⟨rfl, h.rejected _ _ _ _, ?_, ?_, ?_, ?_, ?_⟩
      · intro returned kernel hgranted
        cases hother.symm.trans hgranted
      · intro left hleft
        cases hother.symm.trans hleft
        exact ⟨rfl, rfl, rfl⟩
      · simp
      · rintro reply ⟨⟩
      · intro error
        simp [SyscallError.ofErrno, eq_comm]
  | ok granted =>
      obtain ⟨returned, kernel⟩ := granted
      have hother : other.answer ask.request = .ok (returned, kernel) := h.answer _ ▸ hanswer
      obtain ⟨reply, told, hchecked, hagrees⟩ := run_checked_granted hanswer
      rw [hchecked, run_unchecked_granted hother]
      have hne : (returned : Int) ≠ -1 := by omega
      refine ⟨rfl, h.granted _ _ _ _, ?_, ?_, ?_, ?_, ?_⟩
      · intro number made hgranted
        cases hother.symm.trans hgranted
        exact ⟨rfl, rfl⟩
      · intro number hrejected
        cases hother.symm.trans hrejected
      · simp [hne]
      · rintro _ ⟨⟩
        exact ⟨hagrees, Int.natCast_nonneg returned⟩
      · intro error
        simp [hne]

theorem inStep_history_of_same (h : host.Same other) (asks : List Ask) :
    List.Forall₂ InStep (history (fun ask => ask.checked.run) host asks)
      (history Ask.unchecked other asks) := by
  induction asks generalizing host other with
  | nil => exact .nil
  | cons ask asks ih =>
      have hstep := ask.inStep h
      exact .cons hstep (ih hstep.same)

end

/-- **In step.** From any host, whichever requests it refuses and with whatever numbers, the checked
calls and the unchecked ones go through the same kernels, request by request, and their answers say
the same. -/
theorem inStep_history (host : Host) (asks : List Ask) :
    List.Forall₂ InStep (history (fun ask => ask.checked.run) host asks)
      (history Ask.unchecked host asks) :=
  inStep_history_of_same ⟨rfl, rfl, rfl, rfl⟩ asks

end PidOne
