import PidOne.Errno
import PidOne.Syscall
import PidOne.Text.Quoted

/-!
# Errors

Three types of errors: a call the kernel rejected or that could not be put to it, a guard that could
not be closed, and `Failure`, which is one of these or a log that could not be set up. Each has a
message, a text for developers, a stable code and at times some help; a failure passes on those of
the error inside and names it as its source. Whoever reports an error walks from it to the errors
behind it, whatever their types.
-/

namespace PidOne

inductive SyscallError where
  | kernel (call : Syscall) (errno : Errno)
  /-- A path has a NUL byte in it, so the request was never made. -/
  | invalidPath (path : String)
  deriving DecidableEq

namespace SyscallError

/-- The error of a call that has just failed, where `number` is the thread's last error number. -/
def ofErrno (call : Syscall) (number : Int) : SyscallError := kernel call (Errno.ofNumber number)

theorem ofErrno_code (call : Syscall) (errno : Errno) :
    ofErrno call errno.code = kernel call errno := by
  rw [ofErrno, Errno.ofNumber_code]

def errno? : SyscallError → Option Errno
  | kernel _ errno => some errno
  | invalidPath _ => none

def call? : SyscallError → Option Syscall
  | kernel call _ => some call
  | invalidPath _ => none

def isMissingProcess (error : SyscallError) : Bool := error.errno? == some Errno.esrch

/-- Whether a copy failed because the other process was faster: it exited or closed the descriptor.
-/
def isRace : SyscallError → Bool
  | kernel .pidfdGetfd errno => errno == Errno.esrch || errno == Errno.ebadf
  | _ => false

/-- Whether the kernel does not know the call. -/
def isUnsupported (error : SyscallError) : Bool := error.errno? == some Errno.enosys

def message : SyscallError → String
  | kernel call errno => call.name ++ " failed: " ++ errno.display
  | invalidPath path => "Invalid path (interior NUL byte): " ++ path

def debug : SyscallError → String
  | kernel call errno => "Kernel \x7b op: " ++ call.debug ++ ", errno: " ++ errno.name ++ " \x7d"
  | invalidPath path => "InvalidPath(" ++ Text.quoted path ++ ")"

def code : SyscallError → String
  | kernel _ _ => "syscall::kernel"
  | invalidPath _ => "syscall::invalid_path"

def help : SyscallError → Option String
  | kernel _ _ => none
  | invalidPath _ => some "Paths handed to the kernel must not contain NUL bytes."

def toIoError : SyscallError → IoError
  | kernel _ errno => .os errno
  | invalidPath path => .custom .invalidInput ("path contains an interior NUL byte: " ++ path)

end SyscallError

/-- Why a guard did not do what it was asked for. -/
inductive GuardError where
  /-- Its descriptor was closed or handed out before. -/
  | alreadyReleased
  /-- The kernel reported an error when the descriptor was closed. -/
  | close (errno : Errno)
  deriving DecidableEq

namespace GuardError

def message : GuardError → String
  | alreadyReleased => "Resource already released"
  | close errno => "close failed: " ++ errno.display

def debug : GuardError → String
  | alreadyReleased => "AlreadyReleased"
  | close errno => "Close(" ++ errno.name ++ ")"

def code : GuardError → String
  | alreadyReleased => "guard::already_released"
  | close _ => "guard::close_failed"

def help : GuardError → Option String
  | alreadyReleased => some "The descriptor was closed or moved out of the guard earlier."
  | close _ => none

end GuardError

inductive Failure where
  | syscall (error : SyscallError)
  | guard (error : GuardError)
  /-- The log could not be set up. -/
  | tracing (reason : String)
  deriving DecidableEq

namespace Failure

instance : Coe SyscallError Failure := ⟨syscall⟩

instance : Coe GuardError Failure := ⟨guard⟩

def message : Failure → String
  | syscall error => "Syscall error: " ++ error.message
  | guard error => "Guard error: " ++ error.message
  | tracing reason => "Tracing setup failed: " ++ reason

def debug : Failure → String
  | syscall error => "Syscall(" ++ error.debug ++ ")"
  | guard error => "Guard(" ++ error.debug ++ ")"
  | tracing reason => "Tracing(" ++ Text.quoted reason ++ ")"

def code : Failure → String
  | syscall error => error.code
  | guard error => error.code
  | tracing _ => "shim::tracing"

def help : Failure → Option String
  | syscall error => error.help
  | guard error => error.help
  | tracing _ => some "A global subscriber is probably installed already."

def toIoError (failure : Failure) : IoError :=
  match failure with
  | syscall error => error.toIoError
  | guard (.close errno) => .os errno
  | guard .alreadyReleased | tracing _ => .custom .other failure.message

end Failure

/-- An error of any type, which is all that is known of the error behind another one. -/
inductive AnyError where
  | syscall (error : SyscallError)
  | guard (error : GuardError)
  | failure (failure : Failure)
  deriving DecidableEq

namespace AnyError

def message : AnyError → String
  | syscall error => error.message
  | guard error => error.message
  | failure error => error.message

/-- The error right behind it. -/
def source? : AnyError → Option AnyError
  | failure (.syscall error) => some (syscall error)
  | failure (.guard error) => some (guard error)
  | failure (.tracing _) | syscall _ | guard _ => none

/-- How many errors can be behind it at most. -/
def depth : AnyError → Nat
  | failure _ => 1
  | syscall _ | guard _ => 0

theorem depth_of_source? {error source : AnyError} (h : error.source? = some source) :
    source.depth < error.depth := by
  unfold source? at h
  split at h
  · cases h
    exact Nat.zero_lt_one
  · cases h
    exact Nat.zero_lt_one
  all_goals cases h

/-- All errors behind it, the nearest first. -/
def chain (error : AnyError) : List AnyError :=
  match _ : error.source? with
  | some source => source :: chain source
  | none => []
termination_by error.depth
decreasing_by exact depth_of_source? ‹error.source? = some source›

end AnyError

/-- The messages of the errors behind a failure, the nearest first. -/
def Failure.sources (failure : Failure) : List String :=
  (AnyError.failure failure).chain.map AnyError.message

end PidOne
