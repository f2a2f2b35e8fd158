import PidOne.Errno.Table

/-!
# Error numbers

An `Errno` is a number the table has a row for, or 0, which stands for every other number: a number
the table does not know is not kept. So `ofNumber` is the identity on known numbers and `unknown`
elsewhere.
-/

namespace PidOne

/-- Whether the table has a row for the number. -/
def Errno.Known (number : Nat) : Prop :=
  (Errno.entries.any fun entry => entry.code == number) = true

instance (number : Nat) : Decidable (Errno.Known number) :=
  inferInstanceAs (Decidable (_ = true))

/-- An error number with a row in the table. -/
structure Errno where
  code : Nat
  known : Errno.Known code

namespace Errno

instance : DecidableEq Errno := fun a b =>
  if h : a.code = b.code then
    isTrue (by cases a; cases b; cases h; rfl)
  else
    isFalse fun heq => h (congrArg code heq)

/-- Stands for every number without a row of its own. -/
def unknown : Errno := ⟨0, by decide⟩

def eperm : Errno := ⟨1, by decide⟩

def enoent : Errno := ⟨2, by decide⟩

def esrch : Errno := ⟨3, by decide⟩

def ebadf : Errno := ⟨9, by decide⟩

def echild : Errno := ⟨10, by decide⟩

def eagain : Errno := ⟨11, by decide⟩

def ebusy : Errno := ⟨16, by decide⟩

def eexist : Errno := ⟨17, by decide⟩

def enotdir : Errno := ⟨20, by decide⟩

def einval : Errno := ⟨22, by decide⟩

def epipe : Errno := ⟨32, by decide⟩

def enametoolong : Errno := ⟨36, by decide⟩

def enosys : Errno := ⟨38, by decide⟩

def eloop : Errno := ⟨40, by decide⟩

/-- The error a thread's last error number means. -/
def ofNumber (number : Int) : Errno :=
  if h : Known number.toNat then ⟨number.toNat, h⟩ else unknown

def entry (errno : Errno) : Entry :=
  match h : entries.find? fun entry => entry.code == errno.code with
  | some entry => entry
  | none => absurd errno.known (by
      simpa [Known, List.any_eq_true, List.find?_eq_none] using h)

def name (errno : Errno) : String := errno.entry.name

/-- The constant and what it means: `EPERM: Operation not permitted`. -/
def display (errno : Errno) : String := errno.entry.name ++ ": " ++ errno.entry.text

theorem ofNumber_code (errno : Errno) : ofNumber errno.code = errno := by
  have h : Known (errno.code : Int).toNat := errno.known
  simp [ofNumber, errno.known]

end Errno

/-- Failure of input or output as other programs see it: an error number of the operating system, or
a message of this library under a portable kind. -/
inductive IoError where
  | os (errno : Errno)
  | custom (kind : ErrorKind) (message : String)
  deriving DecidableEq

namespace IoError

def kind : IoError → ErrorKind
  | os errno => errno.entry.kind
  | custom kind _ => kind

/-- The operating system's number, if there is one. -/
def number : IoError → Option Nat
  | os errno => some errno.code
  | custom _ _ => none

def display : IoError → String
  | os errno => errno.entry.message ++ " (os error " ++ toString errno.code ++ ")"
  | custom _ message => message

end IoError

end PidOne
