import Mathlib.Data.List.Nodup
import PidOne.Error

/-!
# Telling errors by their messages

A message begins with words for the kind of error it is about and goes on with what is particular to
this one. Some of that is text from outside, a path or the reason why a log could not be set up, and
may look like any message. But none of the first words are the beginning of others, so where they
end is decided before such a text comes, and two messages that are the same have the same first
words and go on in the same way. An error number is told by its name, which ends at the first colon.
-/

namespace PidOne

/-- None of the texts begins another one. -/
def PrefixFree {α : Type} (heading : α → String) : Prop :=
  ∀ a b, (heading a).toList <+: (heading b).toList → a = b

theorem prefix_or_prefix_of_append_eq {s t x y : String} (h : s ++ x = t ++ y) :
    s.toList <+: t.toList ∨ t.toList <+: s.toList := by
  have hlists : s.toList ++ x.toList = t.toList ++ y.toList := by
    rw [← String.toList_append, h, String.toList_append]
  apply List.prefix_or_prefix_of_prefix (List.prefix_append s.toList x.toList)
  rw [hlists]
  exact List.prefix_append _ _

/-- What stands behind such a text can be taken off again, whatever it is. -/
theorem PrefixFree.append_eq_iff {α : Type} {heading : α → String} (hfree : PrefixFree heading)
    {a b : α} {x y : String} : heading a ++ x = heading b ++ y ↔ a = b ∧ x = y := by
  constructor
  · intro h
    have hsame : a = b := by
      rcases prefix_or_prefix_of_append_eq h with hab | hba
      · exact hfree a b hab
      · exact (hfree b a hba).symm
    subst hsame
    exact ⟨rfl, (String.append_right_inj _).mp h⟩
  · rintro ⟨rfl, rfl⟩
    rfl

/-! ## Error numbers -/

namespace Errno

variable {a b : Errno}

theorem entry_mem (errno : Errno) : errno.entry ∈ entries := by
  unfold entry
  split
  · next found hfound => exact List.mem_of_find?_eq_some hfound
  · next hnone => exact absurd errno.known (by simpa [Known] using hnone)

theorem code_entry (errno : Errno) : errno.entry.code = errno.code := by
  unfold entry
  split
  · next found hfound =>
    have hcode := List.find?_some hfound
    exact beq_iff_eq.mp hcode
  · next hnone => exact absurd errno.known (by simpa [Known] using hnone)

theorem nodup_names : (entries.map Entry.name).Nodup := by decide +kernel

theorem name_eq_iff : a.name = b.name ↔ a = b := by
  constructor
  · intro h
    have hentry : a.entry = b.entry :=
      List.inj_on_of_nodup_map nodup_names a.entry_mem b.entry_mem h
    have hcode : a.code = b.code := by rw [← code_entry, hentry, code_entry]
    cases a
    cases b
    cases hcode
    rfl
  · rintro rfl
    rfl

theorem colon_notMem_name (errno : Errno) : ':' ∉ errno.name.toList := by
  have hall : ∀ entry ∈ entries, ':' ∉ entry.name.toList := by decide +kernel
  exact hall errno.entry errno.entry_mem

/-- A name that goes on after a colon would have this colon in it. -/
theorem prefixFree_name : PrefixFree fun errno : Errno => errno.name ++ ":" := by
  intro a b h
  rw [String.toList_append, String.toList_append] at h
  rcases List.prefix_concat_iff.mp h with heq | hshorter
  · exact name_eq_iff.mp (String.toList_inj.mp (List.append_cancel_right heq))
  · refine absurd (hshorter.subset ?_) b.colon_notMem_name
    exact List.mem_append_right _ List.mem_cons_self

theorem display_eq_iff : a.display = b.display ↔ a = b := by
  have hdisplay : ∀ errno : Errno,
      errno.display = (errno.name ++ ":") ++ (" " ++ errno.entry.text) := by
    intro errno
    simp only [display, name, String.append_assoc]
    rfl
  constructor
  · intro h
    rw [hdisplay, hdisplay] at h
    exact (prefixFree_name.append_eq_iff.mp h).1
  · rintro rfl
    rfl

end Errno

/-! ## Errors of system calls -/

namespace SyscallError

variable {a b : SyscallError}

/-- The first words of the error of a call, or of one that was never made. -/
def heading : Option Syscall → String
  | some call => call.name ++ " failed: "
  | none => "Invalid path (interior NUL byte): "

def detail : SyscallError → String
  | kernel _ errno => errno.display
  | invalidPath path => path

theorem message_eq (error : SyscallError) :
    error.message = heading error.call? ++ error.detail := by
  cases error with
  | kernel => rfl
  | invalidPath => rfl

theorem prefixFree_heading : PrefixFree heading := by
  have hmem : ∀ call? : Option Syscall, call? ∈ none :: Syscall.all.map some := by
    intro call?
    cases call? with
    | none => exact List.mem_cons_self
    | some call => exact List.mem_cons_of_mem _ (List.mem_map_of_mem call.mem_all)
  have hall : ∀ a ∈ none :: Syscall.all.map some, ∀ b ∈ none :: Syscall.all.map some,
      (heading a).toList <+: (heading b).toList → a = b := by
    decide +kernel
  intro a b
  exact hall a (hmem a) b (hmem b)

theorem eq_of_call?_of_detail (hcall : a.call? = b.call?) (hdetail : a.detail = b.detail) :
    a = b := by
  cases a with
  | kernel call errno =>
      cases b with
      | kernel other errno' =>
          obtain rfl := Option.some.inj hcall
          rw [Errno.display_eq_iff.mp hdetail]
      | invalidPath => cases hcall
  | invalidPath path =>
      cases b with
      | kernel => cases hcall
      | invalidPath path' =>
          obtain rfl : path = path' := hdetail
          rfl

theorem message_eq_iff : a.message = b.message ↔ a = b := by
  constructor
  · intro h
    rw [message_eq, message_eq, prefixFree_heading.append_eq_iff] at h
    exact eq_of_call?_of_detail h.1 h.2
  · rintro rfl
    rfl

end SyscallError

/-! ## Errors of guards -/

namespace GuardError

variable {a b : GuardError}

theorem message_close_ne (errno : Errno) : (close errno).message ≠ alreadyReleased.message := by
  intro h
  have hend : alreadyReleased.message = alreadyReleased.message ++ "" := by
    rw [String.append_empty]
  rw [hend] at h
  rcases prefix_or_prefix_of_append_eq h with hclose | hreleased
  · exact absurd hclose (by decide)
  · exact absurd hreleased (by decide)

theorem message_eq_iff : a.message = b.message ↔ a = b := by
  constructor
  · intro h
    cases a with
    | alreadyReleased =>
        cases b with
        | alreadyReleased => rfl
        | close errno => exact absurd h.symm (message_close_ne errno)
    | close errno =>
        cases b with
        | alreadyReleased => exact absurd h (message_close_ne errno)
        | close other => rw [Errno.display_eq_iff.mp ((String.append_right_inj _).mp h)]
  · rintro rfl
    rfl

end GuardError

/-! ## Failures -/

namespace Failure

variable {a b : Failure}

/-- What a failure is of, whatever it holds. -/
inductive Kind where
  | syscall
  | guard
  | tracing
  deriving DecidableEq

def kind : Failure → Kind
  | syscall _ => .syscall
  | guard _ => .guard
  | tracing _ => .tracing

def Kind.heading : Kind → String
  | syscall => "Syscall error: "
  | guard => "Guard error: "
  | tracing => "Tracing setup failed: "

def detail : Failure → String
  | syscall error => error.message
  | guard error => error.message
  | tracing reason => reason

theorem message_eq (failure : Failure) :
    failure.message = failure.kind.heading ++ failure.detail := by
  cases failure with
  | syscall => rfl
  | guard => rfl
  | tracing => rfl

theorem prefixFree_heading : PrefixFree Kind.heading := by
  intro a b
  cases a <;> cases b <;> decide

theorem eq_of_kind_of_detail (hkind : a.kind = b.kind) (hdetail : a.detail = b.detail) : a = b := by
  cases a with
  | syscall error =>
      cases b with
      | syscall other => rw [SyscallError.message_eq_iff.mp hdetail]
      | guard | tracing => cases hkind
  | guard error =>
      cases b with
      | guard other => rw [GuardError.message_eq_iff.mp hdetail]
      | syscall | tracing => cases hkind
  | tracing reason =>
      cases b with
      | tracing other =>
          obtain rfl : reason = other := hdetail
          rfl
      | syscall | guard => cases hkind

end Failure

/-- **A message identifies its error.** Of errors of system calls, of guards and of failures: two of
them have the same message only if they are the same, whatever texts they hold. -/
theorem message_identifies :
    (∀ a b : SyscallError, a.message = b.message ↔ a = b)
      ∧ (∀ a b : GuardError, a.message = b.message ↔ a = b)
      ∧ ∀ a b : Failure, a.message = b.message ↔ a = b := by
  refine ⟨fun a b => SyscallError.message_eq_iff, fun a b => GuardError.message_eq_iff, ?_⟩
  intro a b
  constructor
  · intro h
    rw [Failure.message_eq, Failure.message_eq, Failure.prefixFree_heading.append_eq_iff] at h
    exact Failure.eq_of_kind_of_detail h.1 h.2
  · rintro rfl
    rfl

end PidOne
