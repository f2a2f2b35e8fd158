import PidOne.Host

/-!
# Unchecked calls

Each call makes one request and gives back what the kernel returned: 0 or a descriptor number, or -1
with the thread's error number set. Nothing is checked, repeated or put
into other words.
-/

namespace PidOne.Unchecked

/-- Makes `newRoot` the root and puts the old root at `putOld`. -/
def pivotRoot (newRoot putOld : CString) : Act Int := Act.request (.pivotRoot newRoot putOld)

def becomeSubreaper : Act Int := Act.request .setChildSubreaper

/-- Stores into a variable whether the calling process adopts orphans. Gives what the call returned
and the variable after it. -/
def subreaper (variableBefore : Int) : Act (Int × Int) := do
  let returned ← Act.request .getChildSubreaper
  if returned = -1 then return (returned, variableBefore)
  else
    let host ← get
    return (returned, if host.kernel.subreaper then 1 else 0)

/-- Opens a descriptor for a process; it belongs to the caller. -/
def openPid (pid : Pid) (flags : UInt32) : Act Int := Act.request (.pidfdOpen pid flags)

/-- Copies a descriptor of the process behind `pidfd`; the copy belongs to the caller. -/
def copyFd (pidfd target : Int) (flags : UInt32) : Act Int :=
  Act.request (.pidfdGetfd pidfd target flags)

def close (fd : Int) : Act Int := Act.request (.close fd)

end PidOne.Unchecked
