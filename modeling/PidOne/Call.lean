import PidOne.Error
import PidOne.Unchecked

/-!
# Checked calls

The unchecked calls with results in place of return values. `result` turns -1 into an error that
carries the error number the kernel left, and tells the trace. Most calls work inside a span of
their own name with their arguments as fields; the span is left on every way out.
-/

namespace PidOne

/-- A call that may fail; what it did to the host before it failed stays done. -/
abbrev Call := ExceptT SyscallError Act

namespace Call

/-- The part of the program that makes the calls. -/
def target : String := "vminit_shim::syscalls::bridge"

/-- The part of the program that handles process descriptors. -/
def pidfdTarget : String := "vminit_shim::syscalls::pidfd"

/-- Does something inside a span, which is left whether that succeeds or not. -/
def inSpan {α : Type} (span : Span) (body : Call α) : Call α :=
  ExceptT.mk (Act.inSpan span body.run)

def rejected (call : Syscall) (error : SyscallError) : Event where
  message := "kernel rejected request"
  level := .debug
  target := target
  fields := [⟨"op", some (.plain call.name)⟩, ⟨"error", some (.plain error.message)⟩]

/-- Passes on what a call returned, or the error that it left behind if that was -1. -/
def result (call : Syscall) (returned : Int) : Call Int := do
  if returned ≠ -1 then return returned
  else
    let error := SyscallError.ofErrno call (← Act.lastErrno)
    Act.event (rejected call error)
    throw error

/-- The path as a C string, unless it has a NUL byte. -/
def pathArgument (path : Path) : Call CString :=
  match CString.ofBytes? path with
  | some string => return string
  | none => throw (.invalidPath path.display)

/-- The span of a change of the root. -/
def pivotRootSpan (newRoot putOld : Path) : Span where
  name := "pivot_root"
  level := .debug
  target := target
  fields := [⟨"new_root", some (.plain newRoot.display)⟩, ⟨"put_old", some (.plain putOld.display)⟩]

def rootSwitched : Event where
  message := "root switched"
  level := .debug
  target := target
  fields := []

/-- Makes the mount at `newRoot` the root of the process, and puts the old root at `putOld`. -/
def pivotRoot (newRoot putOld : Path) : Call Unit :=
  inSpan (pivotRootSpan newRoot putOld) do
    let newRoot ← pathArgument newRoot
    let putOld ← pathArgument putOld
    let _ ← result .pivotRoot (← Unchecked.pivotRoot newRoot putOld)
    Act.event rootSwitched

def becomeSubreaperSpan : Span where
  name := "set_child_subreaper"
  level := .debug
  target := target
  fields := []

/-- Makes the process adopt orphaned descendants, for good. -/
def becomeSubreaper : Call Unit :=
  inSpan becomeSubreaperSpan do
    let _ ← result .setChildSubreaper (← Unchecked.becomeSubreaper)

def isSubreaper : Call Bool := do
  let (returned, flag) ← Unchecked.subreaper 0
  let _ ← result .getChildSubreaper returned
  return flag != 0

end Call

end PidOne
