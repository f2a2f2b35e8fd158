import PidOne.Call

/-!
# Guards

An `Owned` descriptor is the right to close a number, once. A guard holds that right and says what
becomes of it: it tells the trace when it takes the descriptor and when it has closed it. The right
is given up before the number is closed, so whatever the kernel answers, a guard closes its number
or hands it out exactly once, and never tries again.

What a guard needs of its surroundings is in `Closes`, so that it can be followed through every
answer that closing may have.
-/

namespace PidOne

structure Owned where
  number : Nat
  deriving DecidableEq, Repr

/-- Surroundings in which numbers are closed and events are told. -/
class Closes (m : Type → Type) extends Monad m where
  close : Nat → m (Except Errno Unit)
  event : Event → m Unit

instance : Closes Act where
  close fd := do
    let returned ← Unchecked.close fd
    if returned ≠ -1 then return .ok ()
    else return .error (Errno.ofNumber (← Act.lastErrno))
  event := Act.event

namespace Owned

/-- Takes over a number that the kernel has just returned. -/
def ofReturned (returned : Int) : Owned := ⟨returned.toNat⟩

/-- Closes the number and does not ask how that went. -/
def drop {m : Type → Type} [Closes m] (owned : Owned) : m Unit := do
  let _ ← Closes.close owned.number
  return ()

end Owned

structure GuardSubject where
  resource : String
  /-- The process it has to do with. -/
  pid : Option Pid
  deriving DecidableEq, Repr

structure EventNames where
  opened : String
  closed : String
  error : String
  deriving DecidableEq, Repr

/-- A descriptor that is closed at the latest when the guard goes away. -/
structure Guard where
  /-- The right to close the number, until it has been used or handed out. -/
  held : Option Owned
  number : Nat
  subject : GuardSubject
  events : EventNames
  deriving DecidableEq, Repr

namespace Guard

/-- The part of the program that keeps descriptors. -/
def target : String := "vminit_shim::core::guard::fd"

def isActive (guard : Guard) : Bool := guard.held.isSome

/-- The number for use, while the guard has it. -/
def borrow? (guard : Guard) : Option Nat := guard.held.map Owned.number

def emptied (guard : Guard) : Guard := { guard with held := none }

/-! ## Events -/

def pidField (guard : Guard) : Field := ⟨"pid", guard.subject.pid.map FieldValue.pid⟩

def fdField (guard : Guard) : Field := ⟨"fd", some (.fd guard.number)⟩

def resourceField (guard : Guard) : Field := ⟨"resource", some (.quoted guard.subject.resource)⟩

def acquired (guard : Guard) : Event where
  message := "descriptor acquired"
  level := .debug
  target := target
  fields := [⟨"event", some (.quoted guard.events.opened)⟩, guard.pidField, guard.fdField]

def used (guard : Guard) (operation : String) : Event where
  message := "descriptor used"
  level := .debug
  target := target
  fields := [⟨"event", some (.quoted "fd_operation")⟩, guard.resourceField, guard.fdField,
    ⟨"operation", some (.quoted operation)⟩]

def closed (guard : Guard) : Event where
  message := "descriptor closed"
  level := .debug
  target := target
  fields := [⟨"event", some (.quoted guard.events.closed)⟩, guard.pidField, guard.fdField,
    ⟨"lifetime_micros", some .duration⟩]

def closeFailed (guard : Guard) (error : GuardError) : Event where
  message := "descriptor close failed"
  level := .error
  target := target
  fields := [⟨"event", some (.quoted guard.events.error)⟩, guard.resourceField, guard.pidField,
    guard.fdField, ⟨"error", some (.plain error.message)⟩]

/-! ## Operations -/

variable {m : Type → Type} [Closes m]

def new (owned : Owned) (subject : GuardSubject) (events : EventNames) : m Guard := do
  let guard : Guard := ⟨some owned, owned.number, subject, events⟩
  Closes.event guard.acquired
  return guard

def tellUse (guard : Guard) (operation : String) : m Unit :=
  Closes.event (guard.used operation)

/-- Closes the descriptor now. The guard is empty afterwards, also when closing failed. -/
def release (guard : Guard) : m (Except GuardError Unit × Guard) :=
  match guard.held with
  | none => return (.error .alreadyReleased, guard)
  | some owned => do
    match ← Closes.close owned.number with
    | .error errno => return (.error (.close errno), guard.emptied)
    | .ok () =>
      Closes.event guard.closed
      return (.ok (), guard.emptied)

/-- Lets the guard go: closes the descriptor if it still has it, and tells the trace if that fails.
-/
def drop (guard : Guard) : m Unit := do
  if guard.isActive then
    match ← guard.release with
    | (.error error, left) => Closes.event (left.closeFailed error)
    | (.ok (), _) => return ()
  else return ()

/-- Closes the descriptor and lets the guard go. -/
def close (guard : Guard) : m (Except GuardError Unit) := do
  let (result, left) ← guard.release
  left.drop
  return result

/-- Hands the descriptor out and lets the guard go. -/
def handOut (guard : Guard) : m (Except GuardError Owned) := do
  let result := match guard.held with
    | some owned => .ok owned
    | none => .error .alreadyReleased
  guard.emptied.drop
  return result

end Guard

end PidOne
