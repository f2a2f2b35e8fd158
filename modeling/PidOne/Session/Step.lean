import PidOne.PidFd

/-!
# Steps of a session

A session is a process that works under names: every object it makes gets a name, and later steps
say what to do with which name. A number can be given by the name of an object that has it or had it
once, and a process by the name of a child.
-/

namespace PidOne

/-- A descriptor number: the one an object has or had, or the number itself. -/
inductive FdRef where
  | object (name : String)
  | number (number : Int)
  deriving DecidableEq, Repr

/-- A process: the session's own, a child, or any number. -/
inductive PidRef where
  | self
  | child (name : String)
  | number (number : Int)
  deriving DecidableEq, Repr

/-- What is done in one step. A name after `as` is given to what the step makes. -/
inductive Step where
  /-- Makes a pipe; its ends are named after it. -/
  | pipe (as : String)
  /-- Closes a number behind the back of whatever holds it. -/
  | closeNumber (fd : FdRef)
  | isOpen (fd : FdRef)
  | sameNumber (a b : FdRef)
  | fdFlags (fd : FdRef)
  | write (fd : FdRef) (data : List UInt8)
  | read (fd : FdRef) (count : Nat)
  /-- Starts a child that waits to be killed. -/
  | spawn (as : String)
  | kill (child : String) (reap : Bool)
  /-- A child closes a number of its own. -/
  | closeIn (child : String) (fd : FdRef)
  /-- A child opens a file for itself. -/
  | openIn (child : String)
  /-- Leaves a grandchild behind that exits with a code. -/
  | orphan (code : Int)
  | guard (fd as : String) (resource : String) (events : EventNames) (pid : Option PidRef)
  | release (on : String)
  | used (on operation : String)
  | close (on : String)
  | drop (on : String)
  | handOut (on as : String)
  | info (on : String)
  | openPid (pid : PidRef) (flags : UInt32) (as : String)
  | wrap (fd : String) (pid : PidRef) (as : String)
  | copyFd (on : String) (target : FdRef) (as : String)
  | copyThrough (pidfd target : FdRef) (flags : UInt32) (as : String)
  | pivotRoot (newRoot putOld : Path)
  | becomeSubreaper
  | isSubreaper
  | openUnchecked (pid : PidRef) (flags : UInt32) (as : String)
  | copyUnchecked (pidfd target : FdRef) (flags : UInt32) (as : String)
  | pivotRootUnchecked (newRoot putOld : Path)
  | becomeSubreaperUnchecked
  | subreaperUnchecked (before : Int)
  deriving DecidableEq, Repr

inductive Holder where
  /-- A number, and nobody else to close it. -/
  | bare (fd : Nat)
  | owned (owned : Owned)
  | guard (guard : Guard)
  | pidfd (pidfd : PidFd)
  | remote (remote : RemoteFd)
  deriving DecidableEq, Repr

namespace Holder

def number : Holder → Nat
  | .bare fd => fd
  | .owned kept => kept.number
  | .guard kept => kept.number
  | .pidfd kept => kept.fd
  | .remote kept => kept.fd

/-- The number the object will close when it goes away. -/
def held? : Holder → Option Nat
  | .bare fd => some fd
  | .owned kept => some kept.number
  | .guard kept => kept.borrow?
  | .pidfd kept => kept.guard.borrow?
  | .remote kept => kept.guard.borrow?

/-- The number as one that can be taken into a guard, for objects without one. -/
def plain? : Holder → Option Owned
  | .bare fd => some ⟨fd⟩
  | .owned kept => some kept
  | _ => none

def drop : Holder → Act Unit
  | .bare fd => do
    let _ ← Unchecked.close fd
    return ()
  | .owned kept => kept.drop
  | .guard kept => kept.drop
  | .pidfd kept => kept.drop
  | .remote kept => kept.drop

end Holder

inductive Outcome where
  /-- The step names something that is not there, or a name that has been given before. -/
  | badStep
  /-- Something has been made under a name. -/
  | made (name : String)
  | done
  | told (answer : Bool)
  /-- The answer to a question about numbers. -/
  | answer (answer : Bool)
  /-- What an unchecked call returned, with the error number if it failed. -/
  | returned (value : Int) (errno : Option Errno)
  /-- What an unchecked call returned and stored. -/
  | stored (value variableAfter : Int)
  | data (bytes : List UInt8)
  | flags (cloexec nonblock : Bool)
  | rejected (error : SyscallError)
  | refused (error : GuardError)
  /-- The exit code of a grandchild, if it came to this process. -/
  | reaped (result : Except Errno Nat)
  | info (holder : Holder)
  | ended

end PidOne
