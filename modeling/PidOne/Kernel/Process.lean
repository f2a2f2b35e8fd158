import PidOne.Kernel.FdTable

/-!
# Processes

A process is known by its birth: births are counted, and no two processes share one. The number that
a process goes by in calls is its own only until it has been reaped; then the number may be given to
another process. A process that was killed is a zombie, without descriptors, until its parent reaps
it; then it no longer exists.
-/

namespace PidOne

/-- A process number as the C interface has it; those of real processes are positive. -/
abbrev Pid := Int

inductive ProcessState where
  | running
  | zombie
  deriving DecidableEq, Repr

structure Process where
  /-- How many processes there were before this one. -/
  birth : Nat
  pid : Pid
  state : ProcessState
  table : FdTable
  deriving DecidableEq, Repr

namespace Process

def isRunning (process : Process) : Bool := process.state == .running

def kill (process : Process) : Process := { process with state := .zombie, table := .empty }

/-- The process with a change made to its descriptors, of which a zombie has none. -/
def alter (process : Process) (change : FdTable → FdTable) : Process :=
  if process.isRunning then { process with table := change process.table } else process

variable (process : Process) (change : FdTable → FdTable)

@[simp]
theorem birth_alter : (process.alter change).birth = process.birth := by
  unfold alter
  split <;> rfl

@[simp]
theorem pid_alter : (process.alter change).pid = process.pid := by
  unfold alter
  split <;> rfl

@[simp]
theorem isRunning_alter : (process.alter change).isRunning = process.isRunning := by
  unfold alter
  split <;> rfl

variable {process}

theorem alter_of_zombie (h : process.isRunning = false) : process.alter change = process := by
  simp [alter, h]

end Process

/-- A child as its parent knows it. -/
structure Child where
  birth : Nat
  pid : Pid
  deriving DecidableEq, Repr

end PidOne
