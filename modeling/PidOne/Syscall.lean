/-!
# System calls

The five requests an init process makes beyond the ordinary ones: it changes its root, adopts
orphans, and works with descriptors that stand for processes. Each has a name of the kernel's, for
messages, and a key, for configuration and storage.
-/

namespace PidOne

inductive Syscall where
  | pivotRoot
  | setChildSubreaper
  | getChildSubreaper
  | pidfdOpen
  /-- Copies a descriptor out of another process. -/
  | pidfdGetfd
  deriving DecidableEq, Repr

namespace Syscall

def all : List Syscall :=
  [pivotRoot, setChildSubreaper, getChildSubreaper, pidfdOpen, pidfdGetfd]

theorem mem_all (call : Syscall) : call ∈ all := by cases call <;> decide

def name : Syscall → String
  | pivotRoot => "pivot_root"
  | setChildSubreaper => "prctl(PR_SET_CHILD_SUBREAPER)"
  | getChildSubreaper => "prctl(PR_GET_CHILD_SUBREAPER)"
  | pidfdOpen => "pidfd_open"
  | pidfdGetfd => "pidfd_getfd"

def key : Syscall → String
  | pivotRoot => "pivot_root"
  | setChildSubreaper => "set_child_subreaper"
  | getChildSubreaper => "get_child_subreaper"
  | pidfdOpen => "pidfd_open"
  | pidfdGetfd => "pidfd_getfd"

def debug : Syscall → String
  | pivotRoot => "PivotRoot"
  | setChildSubreaper => "SetChildSubreaper"
  | getChildSubreaper => "GetChildSubreaper"
  | pidfdOpen => "PidfdOpen"
  | pidfdGetfd => "PidfdGetfd"

def ofKey? (key : String) : Option Syscall := all.find? fun call => call.key == key

theorem ofKey?_key (call : Syscall) : ofKey? call.key = some call := by
  cases call <;> decide

/-! Numbers of the calls that have no wrapper in the C library; `pivotRootNumber` is that of
x86-64. -/

def pivotRootNumber : Nat := 155

def pidfdOpenNumber : Nat := 434

def pidfdGetfdNumber : Nat := 438

end Syscall

end PidOne
