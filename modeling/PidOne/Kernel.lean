import PidOne.Kernel.Pipe
import PidOne.Kernel.Process
import PidOne.Mount.Layout
import PidOne.Mount.Pivot

/-!
# The kernel

What the kernel knows of one process and those around it: the process's descriptors, the other
processes with theirs, the files open anywhere, the pipes, whether the process adopts orphans, and
its mounts. Every function here is one system call. A call that fails changes nothing, which its
type says: the new kernel is part of the answer of a successful call only.

Copies of a descriptor share one open file, and with it whether reads and writes block; whether a
descriptor is closed on execution belongs to the descriptor. A pipe has a reader or a writer as long
as any process holds a descriptor for that end.

Two choices that a running system makes are parameters: `numbering`, which numbers processes are
given, and `opensThreads`, which of the flags of later versions there are. The rest is idealised as
follows. The calling process is privileged towards all others, and only mounts can be denied to it.
There is no limit to how many descriptors and files are open, and no call fails for want of memory.
A process has one thread, so no number stands for a thread alone. All processes are in one namespace
of numbers. A close that finds its number succeeds. Other processes do nothing but what the calling
one has them do. A request that is refused for reasons of another kind, by a filter or a limit, is
refused by the host, not here.
-/

namespace PidOne

inductive Side where
  | reading
  | writing
  deriving DecidableEq, Repr

inductive Resource where
  | stream
  /-- One end of a pipe, known by its index. -/
  | pipe (index : Nat) (side : Side)
  /-- A process, known by its birth: its number may come to stand for another one. -/
  | pidfd (birth : Nat)
  deriving DecidableEq, Repr

/-- An open file, shared by all descriptors that are copies of each other. -/
structure OpenFile where
  resource : Resource
  nonblock : Bool
  deriving DecidableEq, Repr

structure Kernel where
  pid : Pid
  /-- The birth of the calling process. -/
  birth : Nat
  table : FdTable
  /-- All other processes that have not been reaped. -/
  others : List Process
  /-- Every file opened so far; descriptors refer to them by index. -/
  files : List OpenFile
  pipes : List Pipe
  /-- Whether the calling process adopts orphaned descendants. -/
  subreaper : Bool
  /-- How many processes there have been. -/
  births : Nat
  /-- The number for the process of a birth. -/
  numbering : Nat → Pid
  mounts : MountSpace
  /-- Whether the calling process may change mounts. -/
  mayMount : Bool
  /-- Whether there is a flag to open process descriptors for threads, as since Linux 6.9. -/
  opensThreads : Bool

/-- A request to the kernel and what goes with it. -/
inductive Request where
  | pivotRoot (newRoot putOld : CString)
  | setChildSubreaper
  | getChildSubreaper
  | pidfdOpen (pid : Pid) (flags : UInt32)
  | pidfdGetfd (pidfd target : Int) (flags : UInt32)
  | close (fd : Int)

namespace Kernel

def standardStreams : FdTable :=
  ⟨[some ⟨0, false⟩, some ⟨1, false⟩, some ⟨2, false⟩]⟩

/-- A process with nothing but its standard streams, beside process 1. Its children are numbered on
from its own number. -/
def boot (pid : Pid) (mayMount : Bool) : Kernel where
  pid := pid
  birth := 1
  table := standardStreams
  others := if pid = 1 then [] else [⟨0, 1, .running, standardStreams⟩]
  files := [⟨.stream, false⟩, ⟨.stream, false⟩, ⟨.stream, false⟩]
  pipes := []
  subreaper := false
  births := 2
  numbering birth := pid + birth - 1
  mounts := .initial
  mayMount := mayMount
  opensThreads := true

/-! ## Looking things up -/

/-- The process that a number stands for now, be it a zombie. -/
def birth? (kernel : Kernel) (pid : Pid) : Option Nat :=
  if pid = kernel.pid then some kernel.birth
  else (kernel.others.find? fun process => process.pid == pid).map Process.birth

/-- Whether there is a process with the number, be it a zombie. -/
def hasProcess (kernel : Kernel) (pid : Pid) : Bool := (kernel.birth? pid).isSome

def other? (kernel : Kernel) (birth : Nat) : Option Process :=
  kernel.others.find? fun process => process.birth == birth

/-- The descriptors of a process that is running. -/
def tableOf? (kernel : Kernel) (birth : Nat) : Option FdTable :=
  if birth = kernel.birth then some kernel.table
  else
    match kernel.other? birth with
    | some process => if process.isRunning then some process.table else none
    | none => none

/-- The open file under a number of the calling process. -/
def file? (kernel : Kernel) (fd : Int) : Option OpenFile :=
  match kernel.table.find? fd with
  | some descriptor => kernel.files[descriptor.file]?
  | none => none

/-- Whether the number is in use in the calling process. -/
def isOpen (kernel : Kernel) (fd : Int) : Bool := (kernel.table.find? fd).isSome

/-- Whether any process holds a descriptor for the end of a pipe. -/
def hasEnd (kernel : Kernel) (index : Nat) (side : Side) : Bool :=
  let holds := fun table : FdTable => table.anyFile fun file =>
    (kernel.files[file]?.map OpenFile.resource) == some (.pipe index side)
  holds kernel.table || kernel.others.any fun process => holds process.table

/-! ## Descriptors -/

/-- Gives the lowest free number to a descriptor. -/
def install (kernel : Kernel) (descriptor : Descriptor) : Nat × Kernel :=
  (kernel.table.lowestFree, { kernel with table := kernel.table.insert descriptor })

/-- Opens a file that is closed on execution. -/
def openFile (kernel : Kernel) (file : OpenFile) : Nat × Kernel :=
  { kernel with files := kernel.files ++ [file] }.install ⟨kernel.files.length, true⟩

def close (kernel : Kernel) (fd : Int) : Except Errno Kernel :=
  if kernel.isOpen fd then .ok { kernel with table := kernel.table.erase fd.toNat }
  else .error .ebadf

/-- `O_NONBLOCK`, for descriptors that do not block. -/
def nonblockBit : UInt32 := 2048

/-- `PIDFD_THREAD`, for descriptors of a thread. -/
def threadBit : UInt32 := 128

/-- The flags there are for process descriptors. -/
def openBits (kernel : Kernel) : UInt32 :=
  if kernel.opensThreads then nonblockBit ||| threadBit else nonblockBit

/-- Opens a descriptor for the process that has a number now, a zombie included. Flags are checked
first. Where it is opened for a thread, that is the only one of the process. -/
def pidfdOpen (kernel : Kernel) (pid : Pid) (flags : UInt32) : Except Errno (Nat × Kernel) :=
  if flags &&& ~~~kernel.openBits ≠ 0 then .error .einval
  else if pid ≤ 0 then .error .einval
  else
    match kernel.birth? pid with
    | none => .error .esrch
    | some birth => .ok (kernel.openFile ⟨.pidfd birth, flags &&& nonblockBit ≠ 0⟩)

/-- Copies descriptor `target` of the process behind `pidfd`. Flags are checked first; a process
that has exited has no descriptors, which is told apart from one that does not have this one. -/
def pidfdGetfd (kernel : Kernel) (pidfd target : Int) (flags : UInt32) :
    Except Errno (Nat × Kernel) :=
  if flags ≠ 0 then .error .einval
  else
    match (kernel.file? pidfd).map OpenFile.resource with
    | some (.pidfd birth) =>
      match kernel.tableOf? birth with
      | none => .error .esrch
      | some table =>
        match table.find? target with
        | none => .error .ebadf
        | some descriptor => .ok (kernel.install ⟨descriptor.file, true⟩)
    | _ => .error .ebadf

/-- Makes a pipe whose ends do not block; the end for reading gets its number first. -/
def pipe (kernel : Kernel) : Nat × Nat × Kernel :=
  let index := kernel.pipes.length
  let (reader, kernel) :=
    { kernel with pipes := kernel.pipes ++ [Pipe.empty] }.openFile ⟨.pipe index .reading, true⟩
  let (writer, kernel) := kernel.openFile ⟨.pipe index .writing, true⟩
  (reader, writer, kernel)

/-- Writes to a pipe; gives the number of bytes it took in. -/
def write (kernel : Kernel) (fd : Int) (data : List UInt8) : Except Errno (Nat × Kernel) :=
  match (kernel.file? fd).map OpenFile.resource with
  | some (.pipe index .writing) =>
    if data.isEmpty then .ok (0, kernel)
    else if !kernel.hasEnd index .reading then .error .epipe
    else
      match kernel.pipes[index]? with
      | none => .error .ebadf
      | some pipe =>
        match pipe.write data with
        | (0, _) => .error .eagain
        | (count, written) =>
          .ok (count, { kernel with pipes := kernel.pipes.set index written })
  | _ => .error .ebadf

/-- Reads at most `count` bytes from a pipe; no bytes are its end. -/
def read (kernel : Kernel) (fd : Int) (count : Nat) : Except Errno (List UInt8 × Kernel) :=
  match (kernel.file? fd).map OpenFile.resource with
  | some (.pipe index .reading) =>
    match kernel.pipes[index]? with
    | none => .error .ebadf
    | some pipe =>
      if count = 0 then .ok ([], kernel)
      else if pipe.isEmpty then
        if kernel.hasEnd index .writing then .error .eagain else .ok ([], kernel)
      else
        let (bytes, left) := pipe.read count
        .ok (bytes, { kernel with pipes := kernel.pipes.set index left })
  | _ => .error .ebadf

/-! ## Processes -/

/-- Starts a child with a copy of the calling process's descriptors, if the number for it is free.
-/
def fork (kernel : Kernel) : Except Errno (Child × Kernel) :=
  let child : Child := ⟨kernel.births, kernel.numbering kernel.births⟩
  if child.pid ≤ 0 || kernel.hasProcess child.pid then .error .eagain
  else
    .ok (child, { kernel with
      others := kernel.others ++ [⟨child.birth, child.pid, .running, kernel.table⟩]
      births := kernel.births + 1 })

/-- Does something to one of the other processes. -/
def change (kernel : Kernel) (birth : Nat) (change : Process → Process) : Kernel :=
  { kernel with
    others := kernel.others.map fun process =>
      if process.birth = birth then change process else process }

/-- Kills a process, which stays as a zombie. -/
def kill (kernel : Kernel) (birth : Nat) : Kernel := kernel.change birth Process.kill

/-- Lets go of a zombie. -/
def reap (kernel : Kernel) (birth : Nat) : Kernel :=
  { kernel with
    others := kernel.others.filter fun process => process.birth != birth || process.isRunning }

/-- Another process closes a descriptor of its own. -/
def closeIn (kernel : Kernel) (birth fd : Nat) : Kernel :=
  kernel.change birth fun process => process.alter fun table => table.erase fd

/-- Another process opens a file for itself. -/
def openIn (kernel : Kernel) (birth : Nat) : Kernel :=
  let opened : Kernel := { kernel with files := kernel.files ++ [⟨.stream, false⟩] }
  opened.change birth fun process =>
    process.alter fun table => table.insert ⟨kernel.files.length, true⟩

/-- Whether orphaned descendants come to the calling process: process 1 need not ask for them. -/
def adopts (kernel : Kernel) : Bool := kernel.subreaper || kernel.pid == 1

/-- Starts a child and a grandchild, of which the child exits first and the grandchild with `code`,
of which a byte is kept. Gives it if the grandchild came to the calling process to be reaped. -/
def orphan (kernel : Kernel) (code : Int) : Except Errno Nat × Kernel :=
  let kernel := { kernel with births := kernel.births + 2 }
  (if kernel.adopts then .ok (code % 256).toNat else .error .echild, kernel)

/-! ## Mounts -/

/-- Gives the process a mount space of its own, if it may change mounts. -/
def unshareMounts (kernel : Kernel) : Except Errno Kernel :=
  if !kernel.mayMount then .error .eperm
  else .ok { kernel with mounts := kernel.mounts.applyAll MountSpace.privateLayout }

/-- Does one step of laying out mounts, if the process may. -/
def arrange (kernel : Kernel) (step : MountStep) : Except Errno Kernel :=
  if step.isMounting && !kernel.mayMount then .error .eperm
  else (kernel.mounts.apply step).map fun mounts => { kernel with mounts }

/-! ## Requests -/

/-- Moves the root mount, if the process may. -/
def pivotRoot (kernel : Kernel) (newRoot putOld : CString) : Except Errno Kernel :=
  if !kernel.mayMount then .error .eperm
  else
    match kernel.mounts.pivotRoot (CString.readBack newRoot.memory)
        (CString.readBack putOld.memory) with
    | .error errno => .error errno
    | .ok mounts => .ok { kernel with mounts }

/-- Serves a request: what the call returns when it succeeds, and the kernel after it. -/
def serve (kernel : Kernel) : Request → Except Errno (Nat × Kernel)
  | .pivotRoot newRoot putOld => (kernel.pivotRoot newRoot putOld).map fun kernel => (0, kernel)
  | .setChildSubreaper => .ok (0, { kernel with subreaper := true })
  | .getChildSubreaper => .ok (0, kernel)
  | .pidfdOpen pid flags => kernel.pidfdOpen pid flags
  | .pidfdGetfd pidfd target flags => kernel.pidfdGetfd pidfd target flags
  | .close fd => (kernel.close fd).map fun kernel => (0, kernel)

end Kernel

end PidOne
