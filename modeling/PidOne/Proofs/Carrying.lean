import PidOne.Proofs.Guard.Once
import PidOne.Proofs.Reporting

/-!
# What becomes of error numbers

The number that a failed call leaves behind goes through every error unchanged if it is one that has
a name: into the error itself, into the portable error made of it, directly or by way of a failure,
and likewise for a guard that could not be closed. All other numbers are lost. They all become 0, so
two calls that failed for different reasons may give equal errors. Which numbers have names is read
off the table once, and all else follows from what one conversion keeps.
-/

namespace PidOne

namespace Errno

/-- The numbers that have names: those up to 133, without the two that are not in use. -/
def Named (number : Int) : Prop := 0 < number ∧ number ≤ 133 ∧ number ≠ 41 ∧ number ≠ 58

instance (number : Int) : Decidable (Named number) := inferInstanceAs (Decidable (_ ∧ _))

/-- What is left of a number in an error. -/
def kept (number : Int) : Nat := if Named number then number.toNat else 0

theorem codes_entries :
    entries.map Entry.code = (List.range 134).filter fun code => code != 41 && code != 58 := by
  decide +kernel

theorem known_iff {code : Nat} : Known code ↔ code ≤ 133 ∧ code ≠ 41 ∧ code ≠ 58 := by
  have hmem : Known code ↔ code ∈ entries.map Entry.code := by
    simp [Known, List.any_eq_true]
  rw [hmem, codes_entries, List.mem_filter, List.mem_range, Bool.and_eq_true, bne_iff_ne,
    bne_iff_ne, Nat.lt_succ_iff]

theorem known_toNat_iff {number : Int} : Known number.toNat ↔ Named number ∨ number ≤ 0 := by
  rw [known_iff, Named]
  omega

/-- **What a conversion keeps of a number.** -/
theorem code_ofNumber (number : Int) : (ofNumber number).code = kept number := by
  unfold ofNumber kept
  by_cases hnamed : Named number
  · rw [if_pos hnamed, dif_pos (known_toNat_iff.mpr (.inl hnamed))]
  · rw [if_neg hnamed]
    split
    · next hknown =>
      have hnegative := (known_toNat_iff.mp hknown).resolve_left hnamed
      exact Int.toNat_of_nonpos hnegative
    · rfl

theorem kept_of_named {number : Int} (h : Named number) : (kept number : Int) = number := by
  rw [kept, if_pos h]
  exact Int.toNat_of_nonneg (Int.le_of_lt h.1)

theorem kept_eq_zero_iff {number : Int} : kept number = 0 ↔ ¬ Named number := by
  constructor
  · intro hzero hnamed
    have hkept := kept_of_named hnamed
    rw [hzero] at hkept
    exact absurd hnamed.1 (by omega)
  · intro hunnamed
    exact if_neg hunnamed

/-- Two numbers are told apart unless neither has a name. -/
theorem kept_eq_iff {first second : Int} :
    kept first = kept second ↔ first = second ∨ ¬ Named first ∧ ¬ Named second := by
  constructor
  · intro h
    by_cases hfirst : Named first
    · have hsecond : Named second := by
        by_contra hunnamed
        rw [kept_eq_zero_iff.mpr hunnamed, kept_eq_zero_iff] at h
        exact h hfirst
      left
      rw [← kept_of_named hfirst, ← kept_of_named hsecond, h]
    · rw [kept_eq_zero_iff.mpr hfirst, eq_comm, kept_eq_zero_iff] at h
      exact .inr ⟨hfirst, h⟩
  · rintro (rfl | ⟨hfirst, hsecond⟩)
    · rfl
    · rw [kept_eq_zero_iff.mpr hfirst, kept_eq_zero_iff.mpr hsecond]

theorem ofNumber_eq_iff {first second : Int} :
    ofNumber first = ofNumber second ↔ first = second ∨ ¬ Named first ∧ ¬ Named second := by
  rw [← kept_eq_iff, ← code_ofNumber, ← code_ofNumber]
  constructor
  · intro h
    rw [h]
  · intro h
    rw [← ofNumber_code (ofNumber first), h, ofNumber_code]

end Errno

/-! ## Errors -/

/-- A number that a failed call has left behind is carried as `kept`. -/
structure Carries (call : Syscall) (number : Int) (kept : Nat) : Prop where
  checked : ∀ host : Host, host.errno = number →
    ((Call.result call (-1)).run.run host).1 = .error (.ofErrno call number)
  errno? : (SyscallError.ofErrno call number).errno?.map Errno.code = some kept
  toIoError : (SyscallError.ofErrno call number).toIoError.number = some kept
  throughFailure : (Failure.syscall (.ofErrno call number)).toIoError.number = some kept
  /-- A guard whose close has left the number behind returns an error that carries it, too. -/
  released : ∀ (guard : Guard) (script : Script), guard.isActive = true →
    script.answers script.closes.length = some number → ∃ errno,
      ((guard.release : Scripted _).run script).1.1 = .error (.close errno)
        ∧ errno = Errno.ofNumber number ∧ errno.code = kept
        ∧ (Failure.guard (.close errno)).toIoError.number = some kept

theorem carries_kept (call : Syscall) (number : Int) :
    Carries call number (Errno.kept number) where
  checked := by
    intro host herrno
    rw [Call.run_result, if_pos rfl, herrno]
  errno? := congrArg some (Errno.code_ofNumber number)
  toIoError := congrArg some (Errno.code_ofNumber number)
  throughFailure := congrArg some (Errno.code_ofNumber number)
  released := by
    intro guard script hactive hanswer
    obtain ⟨owned, hheld⟩ := Option.isSome_iff_exists.mp hactive
    have hnext : script.answer = .error (Errno.ofNumber number) := by
      rw [Script.answer, hanswer]
    have hshut : ((guard.shut owned.number : Scripted _).run script).1
        = .error (.close (Errno.ofNumber number)) := by
      rw [(Guard.run_shut guard owned.number script).1, hnext]
      rfl
    have hcode := Errno.code_ofNumber number
    refine ⟨_, ?_, rfl, hcode, congrArg some hcode⟩
    rw [Guard.release_of_held hheld, StateT.run_bind]
    exact hshut

/-- **Numbers are carried if they have names.** Whatever number a failed call has left behind, all
errors carry it if it has a name and carry 0 if it has none; and errors of one kind tell it apart
from any other number, unless neither of the two has a name. -/
theorem carries_number (call : Syscall) (number : Int) :
    Carries call number (if Errno.Named number then number.toNat else 0)
      ∧ (∀ other, SyscallError.ofErrno call number = SyscallError.ofErrno call other
        ↔ number = other ∨ ¬ Errno.Named number ∧ ¬ Errno.Named other)
      ∧ ∀ other, GuardError.close (Errno.ofNumber number) = .close (Errno.ofNumber other)
        ↔ number = other ∨ ¬ Errno.Named number ∧ ¬ Errno.Named other := by
  refine ⟨carries_kept call number, ?_, ?_⟩
  · intro other
    rw [SyscallError.ofErrno, SyscallError.ofErrno, SyscallError.kernel.injEq,
      Errno.ofNumber_eq_iff]
    exact and_iff_right rfl
  · intro other
    rw [GuardError.close.injEq, Errno.ofNumber_eq_iff]

/-- A number the kernel has for operations that are not supported has no name. It is lost, and the
error is the one that an unused number gives. -/
theorem lost_unsupported :
    (SyscallError.ofErrno .pidfdGetfd 524).errno?.map Errno.code = some 0
      ∧ (SyscallError.ofErrno .pidfdGetfd 524).toIoError.number = some 0
      ∧ SyscallError.ofErrno .pidfdGetfd 524 = SyscallError.ofErrno .pidfdGetfd 41 := by
  decide +kernel

end PidOne
