import PidOne.Guard
import PidOne.PidFd.Flags

/-!
# Process descriptors

A process descriptor stands for one process and never for a later one with the same number. Through
it descriptors of that process are copied; a copy is a `RemoteFd`, and stays valid whatever becomes
of the process. Both keep their descriptor in a guard, which is emptied only when they are used up:
so as long as they exist, it is active.
-/

namespace PidOne

structure PidFd where
  guard : Guard
  pid : Pid
  deriving DecidableEq, Repr

/-- A guarded copy of a descriptor of another process. -/
structure RemoteFd where
  guard : Guard
  sourcePid : Pid
  targetFd : Int
  deriving DecidableEq, Repr

def copyFdSpan (pidfd target : Int) (flags : UInt32) : Span where
  name := "pidfd_getfd"
  level := .debug
  target := Call.pidfdTarget
  fields := [⟨"pidfd", some (.fd pidfd)⟩, ⟨"targetfd", some (.fd target)⟩,
    ⟨"flags", some (.word flags)⟩]

/-- Copies descriptor `target` of the process behind `pidfd`. The kernel wants no flags. -/
def Call.copyFd (pidfd target : Int) (flags : UInt32) : Call Owned :=
  Call.inSpan (copyFdSpan pidfd target flags) do
    let returned ← Call.result .pidfdGetfd (← Unchecked.copyFd pidfd target flags)
    return Owned.ofReturned returned

namespace RemoteFd

def eventNames : EventNames := ⟨"remote_fd_acquired", "remote_fd_closed", "remote_fd_error"⟩

def ofOwned (owned : Owned) (sourcePid : Pid) (targetFd : Int) : Act RemoteFd := do
  let guard ← Guard.new owned ⟨"remote_fd", some sourcePid⟩ eventNames
  return ⟨guard, sourcePid, targetFd⟩

def fd (remote : RemoteFd) : Nat := remote.guard.number

def close (remote : RemoteFd) : Act (Except GuardError Unit) := remote.guard.close

def handOut (remote : RemoteFd) : Act (Except GuardError Owned) := remote.guard.handOut

def drop (remote : RemoteFd) : Act Unit := remote.guard.drop

end RemoteFd

namespace PidFd

def eventNames : EventNames := ⟨"pidfd_opened", "pidfd_closed", "pidfd_error"⟩

/-- Takes a process descriptor from elsewhere into a guard. -/
def ofOwned (owned : Owned) (pid : Pid) : Act PidFd := do
  let guard ← Guard.new owned ⟨"pidfd", some pid⟩ eventNames
  return ⟨guard, pid⟩

def openSpan (pid : Pid) (flags : PidFdFlags) : Span where
  name := "open"
  level := .debug
  target := Call.pidfdTarget
  fields := [⟨"pid", some (.pid pid)⟩, ⟨"flags", some (.word flags.bits)⟩]

def openPid (pid : Pid) (flags : PidFdFlags) : Call PidFd :=
  Call.inSpan (openSpan pid flags) do
    let returned ← Call.result .pidfdOpen (← Unchecked.openPid pid flags.bits)
    PidFd.ofOwned (Owned.ofReturned returned) pid

def fd (pidfd : PidFd) : Nat := pidfd.guard.number

def copyFd (pidfd : PidFd) (target : Int) : Call RemoteFd := do
  (pidfd.guard.tellUse "pidfd_getfd" : Act Unit)
  let owned ← Call.copyFd pidfd.fd target 0
  RemoteFd.ofOwned owned pidfd.pid target

def close (pidfd : PidFd) : Act (Except GuardError Unit) := pidfd.guard.close

def handOut (pidfd : PidFd) : Act (Except GuardError Owned) := pidfd.guard.handOut

def drop (pidfd : PidFd) : Act Unit := pidfd.guard.drop

end PidFd

end PidOne
