import PidOne.Proofs.Guard.Telling
import PidOne.Proofs.Lockstep

/-!
# What checked calls tell

A call tells what happened in three parts: events before its span, events inside of it, and events
behind it. `told` says for every call and every answer what these are, and that is the whole of what
a call adds to a trace, whichever way it returns: because a path cannot be put to the kernel,
because its request was rejected, or because that was granted (`comesTo_run`). Everything else is
read off the three parts: where each event stands, that the span is left again, and that a rejection
by the kernel is told once, with the error that the caller is given.
-/

namespace PidOne

/-! ## Where events stand -/

namespace Trace

/-- The events of a trace, each with the spans that enclose it, the innermost first. -/
def placed (spans : List Span) : Trace → List (Event × List Span)
  | [] => []
  | .enter span :: rest => placed (span :: spans) rest
  | .event event :: rest => (event, spans) :: placed spans rest
  | .leave _ :: rest => placed (spans.drop 1) rest

def ofEvents (events : List Event) : Trace := events.map .event

/-- What is told inside of a span, if there is one. -/
def within (span? : Option Span) (inside : Trace) : Trace :=
  match span? with
  | some span => .enter span :: (inside ++ [.leave span])
  | none => inside

def around (span? : Option Span) (before inside behind : List Event) : Trace :=
  ofEvents before ++ (within span? (ofEvents inside) ++ ofEvents behind)

section

variable (span? : Option Span) (before inside behind events : List Event) (outer : List Span)
  {rest : Trace}

theorem placed_ofEvents_append (rest : Trace) :
    placed outer (ofEvents events ++ rest) = events.map (·, outer) ++ placed outer rest := by
  induction events with
  | nil => rfl
  | cons event events ih => exact congrArg ((event, outer) :: ·) ih

theorem placed_ofEvents : placed outer (ofEvents events) = events.map (·, outer) := by
  have h := placed_ofEvents_append events outer []
  rwa [List.append_nil, placed, List.append_nil] at h

theorem placed_within_append (rest : Trace) :
    placed outer (within span? (ofEvents events) ++ rest)
      = events.map (·, span?.toList ++ outer) ++ placed outer rest := by
  cases span? with
  | none => exact placed_ofEvents_append events outer rest
  | some span =>
      -- the span is left again, so what comes behind it stands where it stood
      calc placed outer (within (some span) (ofEvents events) ++ rest)
          = placed (span :: outer) (ofEvents events ++ (.leave span :: rest)) := by
            simp [within, placed]
        _ = _ := placed_ofEvents_append events (span :: outer) _

theorem placed_around :
    placed outer (around span? before inside behind)
      = before.map (·, outer) ++ (inside.map (·, span?.toList ++ outer)
        ++ behind.map (·, outer)) := by
  rw [around, placed_ofEvents_append, placed_within_append, placed_ofEvents]

theorem balanced_ofEvents_append (h : rest.Balanced) : (ofEvents events ++ rest).Balanced := by
  induction events with
  | nil => exact h
  | cons event events ih => exact .event event ih

theorem balanced_ofEvents : (ofEvents events).Balanced := by
  rw [← List.append_nil (ofEvents events)]
  exact balanced_ofEvents_append events .nil

theorem balanced_around : (around span? before inside behind).Balanced := by
  refine balanced_ofEvents_append before ?_
  cases span? with
  | none => exact balanced_ofEvents_append inside (balanced_ofEvents behind)
  | some span =>
      have h := Balanced.span span (balanced_ofEvents inside) (balanced_ofEvents behind)
      simpa [within] using h

theorem spans_append (trace rest : Trace) : spans (trace ++ rest) = trace.spans ++ rest.spans :=
  List.filterMap_append

theorem spans_ofEvents : (ofEvents events).spans = [] := by
  rw [spans, List.filterMap_eq_nil_iff]
  intro signal hmem
  obtain ⟨event, -, rfl⟩ := List.mem_map.mp hmem
  rfl

theorem spans_around : (around span? before inside behind).spans = span?.toList := by
  rw [around, spans_append, spans_append, spans_ofEvents, spans_ofEvents, List.nil_append,
    List.append_nil]
  cases span? with
  | none => exact spans_ofEvents inside
  | some span =>
      rw [within, ← List.singleton_append, spans_append, spans_append, spans_ofEvents]
      rfl

end

end Trace

/-! ## Calls and their answers -/

/-- A checked call with its arguments. -/
inductive TypedCall where
  | pivotRoot (newRoot putOld : Path)
  | becomeSubreaper
  | isSubreaper
  | openPid (pid : Pid) (flags : PidFdFlags)
  | copyFd (pidfd target : Int) (flags : UInt32)
  /-- A copy through an object. -/
  | copyFdOf (pidfd : PidFd) (target : Int)

abbrev Answer := Except SyscallError Reply

/-- The events that tell of an answer that was a rejection by the kernel. -/
def rejections {α : Type} : Except SyscallError α → List Event
  | .error (.kernel call errno) =>
    [{ message := "kernel rejected request"
       level := .debug
       target := Call.target
       fields := [⟨"op", some (.plain call.name)⟩,
         ⟨"error", some (.plain (SyscallError.kernel call errno).message)⟩] }]
  | _ => []

/-- The event of a guard that has taken a descriptor. -/
def acquisition (name : String) (pid : Pid) (fd : Nat) : Event where
  message := "descriptor acquired"
  level := .debug
  target := Guard.target
  fields := [⟨"event", some (.quoted name)⟩, ⟨"pid", some (.pid pid)⟩, ⟨"fd", some (.fd fd)⟩]

def isRejection (event : Event) : Bool := event.message = "kernel rejected request"

/-- Whether an event has this name in its field "event". -/
def isNamed (name : String) (event : Event) : Bool :=
  event.value? "event" = some (.quoted name)

@[simp]
theorem isNamed_acquisition (name other : String) (pid : Pid) (fd : Nat) :
    isNamed name (acquisition other pid fd) = decide (other = name) := by
  simp [isNamed, acquisition, Event.value?]

@[simp]
theorem isNamed_used (name operation : String) (guard : Guard) :
    isNamed name (guard.used operation) = decide ("fd_operation" = name) := by
  simp [isNamed, Guard.used, Event.value?]

@[simp]
theorem isRejection_acquisition (name : String) (pid : Pid) (fd : Nat) :
    isRejection (acquisition name pid fd) = false := by
  simp [isRejection, acquisition]

@[simp]
theorem isRejection_used (operation : String) (guard : Guard) :
    isRejection (guard.used operation) = false := by
  simp [isRejection]

@[simp]
theorem isRejection_rootSwitched : isRejection Call.rootSwitched = false := by
  simp [isRejection, Call.rootSwitched]

namespace TypedCall

def run : TypedCall → Call Reply
  | .pivotRoot newRoot putOld => do
    Call.pivotRoot newRoot putOld
    return .done
  | .becomeSubreaper => do
    Call.becomeSubreaper
    return .done
  | .isSubreaper => do return .told (← Call.isSubreaper)
  | .openPid pid flags => do return .pidfd (← PidFd.openPid pid flags)
  | .copyFd pidfd target flags => do return .owned (← Call.copyFd pidfd target flags)
  | .copyFdOf pidfd target => do return .remote (← pidfd.copyFd target)

def syscall : TypedCall → Syscall
  | .pivotRoot _ _ => .pivotRoot
  | .becomeSubreaper => .setChildSubreaper
  | .isSubreaper => .getChildSubreaper
  | .openPid _ _ => .pidfdOpen
  | .copyFd _ _ _ => .pidfdGetfd
  | .copyFdOf _ _ => .pidfdGetfd

/-- The request that a call makes; none if a path cannot be put to the kernel. -/
def request? : TypedCall → Option Request
  | .pivotRoot newRoot putOld => do
    return .pivotRoot (← CString.ofBytes? newRoot) (← CString.ofBytes? putOld)
  | .becomeSubreaper => some .setChildSubreaper
  | .isSubreaper => some .getChildSubreaper
  | .openPid pid flags => some (.pidfdOpen pid flags.bits)
  | .copyFd pidfd target flags => some (.pidfdGetfd pidfd target flags)
  | .copyFdOf pidfd target => some (.pidfdGetfd pidfd.fd target 0)

/-- The name of the span of a call, the part of the program it belongs to, and the arguments that
it shows. -/
def shown? : TypedCall → Option (String × String × List (String × FieldValue))
  | .pivotRoot newRoot putOld =>
    some ("pivot_root", Call.target,
      [("new_root", .plain newRoot.display), ("put_old", .plain putOld.display)])
  | .becomeSubreaper => some ("set_child_subreaper", Call.target, [])
  | .isSubreaper => none
  | .openPid pid flags =>
    some ("open", Call.pidfdTarget, [("pid", .pid pid), ("flags", .word flags.bits)])
  | .copyFd pidfd target flags =>
    some ("pidfd_getfd", Call.pidfdTarget,
      [("pidfd", .fd pidfd), ("targetfd", .fd target), ("flags", .word flags)])
  | .copyFdOf pidfd target =>
    some ("pidfd_getfd", Call.pidfdTarget,
      [("pidfd", .fd pidfd.fd), ("targetfd", .fd target), ("flags", .word 0)])

def span? (call : TypedCall) : Option Span :=
  call.shown?.map fun (name, target, arguments) =>
    { name, level := .debug, target
      fields := arguments.map fun (argument, value) => ⟨argument, some value⟩ }

def before : TypedCall → List Event
  | .copyFdOf pidfd _ => [pidfd.guard.used "pidfd_getfd"]
  | _ => []

/-- What is told of success inside of the span. -/
def successes : TypedCall → Answer → List Event
  | .pivotRoot _ _, .ok .done => [Call.rootSwitched]
  | .openPid pid _, .ok (.pidfd made) => [acquisition "pidfd_opened" pid made.fd]
  | _, _ => []

def behind : TypedCall → Answer → List Event
  | .copyFdOf pidfd _, .ok (.remote made) => [acquisition "remote_fd_acquired" pidfd.pid made.fd]
  | _, _ => []

def told (call : TypedCall) (answer : Answer) : Trace :=
  .around call.span? call.before (rejections answer ++ call.successes answer) (call.behind answer)

/-- The call was rejected by the kernel, with this error. -/
def Rejected (call : TypedCall) (host : Host) (error : SyscallError) : Prop :=
  ∃ request number, call.request? = some request ∧ host.answer request = .error number
    ∧ error = .kernel call.syscall (.ofNumber number)

/-- What can be relied upon in what a call told. -/
structure Faithful (call : TypedCall) (answer : Answer) (told : Trace) : Prop where
  /-- Every span that is entered is left. -/
  balanced : told.Balanced
  spans : told.spans = call.span?.toList
  /-- A rejection by the kernel is told once, inside of the span, and nothing else is told as one.
  -/
  rejected : ((told.placed []).filter fun entry => isRejection entry.1)
    = (rejections answer).map (·, call.span?.toList)
  /-- A process descriptor is told of inside of the span. -/
  opened : ∀ pid flags, call = .openPid pid flags →
    ((told.placed []).filter fun entry => isNamed "pidfd_opened" entry.1)
      = (call.successes answer).map (·, call.span?.toList)
  /-- The use of a process descriptor is told before the span and the copy behind it. -/
  copied : ∀ pidfd target, call = .copyFdOf pidfd target →
    (∃ span, call.span? = some span
      ∧ told = .event (pidfd.guard.used "pidfd_getfd") :: .enter span
        :: (Trace.ofEvents (rejections answer)
          ++ .leave span :: Trace.ofEvents (call.behind answer)))
    ∧ ((told.placed []).filter fun entry => isNamed "fd_operation" entry.1)
      = [(pidfd.guard.used "pidfd_getfd", [])]
    ∧ ((told.placed []).filter fun entry => isNamed "remote_fd_acquired" entry.1)
      = (call.behind answer).map (·, [])

/-! ## Which events are told -/

section

variable (call : TypedCall) (answer : Answer)

theorem filter_placed_told (p : Event → Bool) :
    (((call.told answer).placed []).filter fun entry => p entry.1)
      = (call.before.filter p).map (·, [])
        ++ (((rejections answer).filter p ++ (call.successes answer).filter p).map
            (·, call.span?.toList)
          ++ ((call.behind answer).filter p).map (·, [])) := by
  have hpart : ∀ (events : List Event) (spans : List Span),
      ((events.map (·, spans)).filter fun entry => p entry.1)
        = (events.filter p).map (·, spans) := fun events spans => List.filter_map
  rw [told, Trace.placed_around, List.append_nil, List.filter_append, List.filter_append, hpart,
    hpart, hpart, List.filter_append]

theorem filter_isRejection_rejections :
    (rejections answer).filter isRejection = rejections answer := by
  unfold rejections
  split <;> simp [isRejection]

theorem filter_isNamed_rejections (name : String) :
    (rejections answer).filter (isNamed name) = [] := by
  unfold rejections
  split <;> simp [isNamed, Event.value?]

theorem filter_isRejection_before : call.before.filter isRejection = [] := by
  unfold before
  split <;> simp

theorem filter_isRejection_successes : (call.successes answer).filter isRejection = [] := by
  unfold successes
  split <;> simp

theorem filter_isRejection_behind : (call.behind answer).filter isRejection = [] := by
  unfold behind
  split <;> simp

theorem faithful_told : call.Faithful answer (call.told answer) where
  balanced := Trace.balanced_around _ _ _ _
  spans := Trace.spans_around _ _ _ _
  rejected := by
    rw [filter_placed_told, filter_isRejection_before, filter_isRejection_rejections,
      filter_isRejection_successes, filter_isRejection_behind]
    simp
  opened := by
    rintro pid flags rfl
    have hnamed : (successes (.openPid pid flags) answer).filter (isNamed "pidfd_opened")
        = successes (.openPid pid flags) answer := by
      unfold successes
      split <;> simp_all
    rw [filter_placed_told, filter_isNamed_rejections, hnamed]
    simp [before, behind]
  copied := by
    rintro pidfd target rfl
    have hnamed : (behind (.copyFdOf pidfd target) answer).filter (isNamed "remote_fd_acquired")
        = behind (.copyFdOf pidfd target) answer := by
      unfold behind
      split <;> simp
    have hother : (behind (.copyFdOf pidfd target) answer).filter (isNamed "fd_operation")
        = [] := by
      unfold behind
      split <;> simp
    refine ⟨⟨_, rfl, ?_⟩, ?_, ?_⟩
    · simp [told, Trace.around, Trace.within, Trace.ofEvents, before, successes, span?, shown?]
    · rw [filter_placed_told, filter_isNamed_rejections, hother]
      simp [before, successes]
    · rw [filter_placed_told, filter_isNamed_rejections, hnamed]
      simp [before, successes]

end

/-! ## Calls on a host -/

/-- What a call comes to: its answer and the host after it. -/
inductive ComesTo (call : TypedCall) (host : Host) : Answer × Host → Prop where
  | misfit {text : String} (hrequest : call.request? = none) :
      ComesTo call host
        (.error (.invalidPath text), host.telling (call.told (.error (.invalidPath text))))
  | rejected {request : Request} {number : Int} (hrequest : call.request? = some request)
      (h : host.answer request = .error number) :
      ComesTo call host (.error (.ofErrno call.syscall number),
        host.rejected request number (call.told (.error (.ofErrno call.syscall number))))
  | granted {request : Request} {returned : Nat} {kernel : Kernel} {reply : Reply}
      (hrequest : call.request? = some request)
      (h : host.answer request = .ok (returned, kernel)) :
      ComesTo call host (.ok reply, host.granted request kernel (call.told (.ok reply)))

section

variable {newRoot putOld path : Path}

theorem request?_of_misfit (h : Call.Misfit newRoot putOld path) :
    (pivotRoot newRoot putOld).request? = none := by
  obtain ⟨hnul, rfl | ⟨rfl, -⟩⟩ := h
  · simp [request?, CString.ofBytes?_eq_none_iff.mpr hnul]
  · simp [request?, CString.ofBytes?_eq_none_iff.mpr hnul]

theorem request?_pivotRoot (new old : CString) :
    (pivotRoot new.bytes old.bytes).request? = some (.pivotRoot new old) := by
  simp [request?, CString.ofBytes?_bytes]

theorem comesTo_run (call : TypedCall) (host : Host) :
    call.ComesTo host (call.run.run.run host) := by
  cases call with
  | pivotRoot newRoot putOld =>
      rcases Call.misfit_or_fit newRoot putOld with ⟨path, hpath⟩ | ⟨new, old, rfl, rfl⟩
      · rw [run, Call.run_bind_error (Call.run_pivotRoot_invalid hpath)]
        exact .misfit (request?_of_misfit hpath)
      · cases h : host.answer (.pivotRoot new old) with
        | error number =>
            rw [run, Call.run_bind_error (Call.run_pivotRoot_rejected h)]
            exact .rejected (request?_pivotRoot new old) h
        | ok granted =>
            rw [run, Call.run_bind_ok (Call.run_pivotRoot_granted h)]
            exact .granted (request?_pivotRoot new old) h
  | becomeSubreaper =>
      cases h : host.answer .setChildSubreaper with
      | error number =>
          rw [run, Call.run_bind_error (Call.run_becomeSubreaper_rejected h)]
          exact .rejected rfl h
      | ok granted =>
          rw [run, Call.run_bind_ok (Call.run_becomeSubreaper_granted h)]
          exact .granted rfl h
  | isSubreaper =>
      cases h : host.answer .getChildSubreaper with
      | error number =>
          rw [run, Call.run_bind_error (Call.run_isSubreaper_rejected h)]
          exact .rejected rfl h
      | ok granted =>
          rw [run, Call.run_bind_ok (Call.run_isSubreaper_granted h)]
          exact .granted rfl h
  | openPid pid flags =>
      cases h : host.answer (.pidfdOpen pid flags.bits) with
      | error number =>
          rw [run, Call.run_bind_error (PidFd.run_openPid_rejected h)]
          exact .rejected rfl h
      | ok granted =>
          rw [run, Call.run_bind_ok (PidFd.run_openPid_granted h)]
          exact .granted rfl h
  | copyFd pidfd target flags =>
      cases h : host.answer (.pidfdGetfd pidfd target flags) with
      | error number =>
          rw [run, Call.run_bind_error (Call.run_copyFd_rejected h)]
          exact .rejected rfl h
      | ok granted =>
          rw [run, Call.run_bind_ok (Call.run_copyFd_granted h)]
          exact .granted rfl h
  | copyFdOf pidfd target =>
      cases h : host.answer (.pidfdGetfd pidfd.fd target 0) with
      | error number =>
          rw [run, Call.run_bind_error (PidFd.run_copyFd_rejected h)]
          exact .rejected rfl h
      | ok granted =>
          rw [run, Call.run_bind_ok (PidFd.run_copyFd_granted h)]
          exact .granted rfl h

end

variable {call : TypedCall} {host : Host} {result : Answer × Host}

theorem ComesTo.trace (h : call.ComesTo host result) :
    result.2.trace = host.trace ++ call.told result.1 := by
  cases h with
  | misfit => rfl
  | rejected => rfl
  | granted => rfl

theorem ComesTo.rejected_iff (h : call.ComesTo host result) (op : Syscall) (errno : Errno) :
    result.1 = .error (.kernel op errno) ↔ call.Rejected host (.kernel op errno) := by
  constructor
  · intro hresult
    cases h with
    | misfit => cases hresult
    | rejected hrequest h =>
        cases hresult
        exact ⟨_, _, hrequest, h, rfl⟩
    | granted => cases hresult
  · rintro ⟨request, number, hrequest, hanswer, herror⟩
    cases h with
    | misfit hnone => cases hnone.symm.trans hrequest
    | rejected hsame h =>
        cases hsame.symm.trans hrequest
        cases h.symm.trans hanswer
        exact congrArg Except.error herror.symm
    | granted hsame h =>
        cases hsame.symm.trans hrequest
        cases h.symm.trans hanswer

end TypedCall

theorem Call.run_result (call : Syscall) (returned : Int) (host : Host) :
    (Call.result call returned).run.run host
      = if returned = -1 then
          (.error (.ofErrno call host.errno),
            host.telling (.ofEvents (rejections
              (.error (.ofErrno call host.errno) : Except SyscallError Int))))
        else (.ok returned, host) := by
  by_cases h : returned = -1
  · rw [Call.result, if_neg (not_not_intro h), if_pos h]
    rfl
  · rw [Call.result, if_pos h, if_neg h]
    rfl

/-- **Faithful reports.** Whatever the state, and whichever requests are rejected with whatever
numbers, a call tells where it is, and tells of a rejection by the kernel if and only if that is the
error it returns. That is its error if and only if the kernel has rejected its request, and it then
has the call's own name and the number that the kernel left. -/
theorem faithful_run (call : TypedCall) (host : Host) :
    (∃ told, (call.run.run.run host).2.trace = host.trace ++ told
        ∧ call.Faithful (call.run.run.run host).1 told)
      ∧ ∀ op errno, (call.run.run.run host).1 = .error (.kernel op errno)
        ↔ call.Rejected host (.kernel op errno) := by
  have hcall := call.comesTo_run host
  exact ⟨⟨_, hcall.trace, call.faithful_told _⟩, hcall.rejected_iff⟩

end PidOne
