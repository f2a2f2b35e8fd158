import PidOne.Proofs.Acting
import PidOne.Proofs.Text.Lossy

/-!
# Handing paths over

The kernel reads a path up to the first NUL byte, so a path with such a byte in it cannot be handed
over. A change of the root with such a path is refused before anything is asked of the kernel, and
the error shows the path that is to blame. In all other cases there is one request, and what the
kernel reads back from memory are the bytes of the two paths, in their order. Whether the bytes are
UTF-8 matters for what is shown and for nothing else.
-/

namespace PidOne

/-- An error shows a text for a path that has a NUL byte. -/
structure Path.Blames (path : Path) (error : SyscallError) (text : String) : Prop where
  invalid : error = .invalidPath text
  /-- Each ill-formed part is shown as U+FFFD, and there is no other way to show the path. -/
  shown_iff : ∀ chars, Utf8.Shown path chars ↔ chars = text.toList
  nuls : text.toList.count '\x00' = path.count 0
  utf8 : ∀ valid, path = Utf8.encode valid → text = valid
  noErrno : error.errno? = none
  noCall : error.call? = none

/-- How a change of the root deals with its two paths. -/
structure HandsOver (host : Host) (newRoot putOld : Path) (result : Except SyscallError Unit)
    (after : Host) : Prop where
  invalid_iff : (∃ text, result = .error (.invalidPath text))
    ↔ (0 : UInt8) ∈ newRoot ∨ (0 : UInt8) ∈ putOld
  blames : ∀ path, Call.Misfit newRoot putOld path →
    ∃ error text, result = .error error ∧ path.Blames error text
  /-- Nothing is asked, and nothing is told but that the call was made. -/
  unasked : (0 : UInt8) ∈ newRoot ∨ (0 : UInt8) ∈ putOld →
    after.kernel = host.kernel ∧ after.requests = host.requests
      ∧ after.trace = host.trace
        ++ [.enter (Call.pivotRootSpan newRoot putOld), .leave (Call.pivotRootSpan newRoot putOld)]
  asked : (0 : UInt8) ∉ newRoot → (0 : UInt8) ∉ putOld → ∃ new old : CString,
    after.requests = host.requests ++ [.pivotRoot new old]
      ∧ CString.readBack new.memory = newRoot ∧ CString.readBack old.memory = putOld

variable {host after : Host} {newRoot putOld path : Path} {result : Except SyscallError Unit}

theorem Path.blames_display (path : Path) :
    path.Blames (.invalidPath path.display) path.display where
  invalid := rfl
  shown_iff := by
    intro chars
    exact Utf8.shown_iff
  nuls := (Utf8.shown_lossy path).count_nul
  utf8 := by
    rintro valid rfl
    exact Utf8.lossy_encode valid
  noErrno := rfl
  noCall := rfl

namespace Call

/-- Of two paths one at most is to blame. -/
theorem Misfit.unique {other : Path} (h : Misfit newRoot putOld path)
    (hother : Misfit newRoot putOld other) : path = other := by
  obtain ⟨hnul, rfl | ⟨rfl, hfirst⟩⟩ := h
  · obtain ⟨-, rfl | ⟨-, hother⟩⟩ := hother
    · rfl
    · exact absurd hnul hother
  · obtain ⟨hother, rfl | ⟨rfl, -⟩⟩ := hother
    · exact absurd hother hfirst
    · rfl

theorem exists_misfit_iff :
    (∃ path, Misfit newRoot putOld path) ↔ (0 : UInt8) ∈ newRoot ∨ (0 : UInt8) ∈ putOld := by
  constructor
  · rintro ⟨path, hnul, rfl | ⟨rfl, -⟩⟩
    · exact .inl hnul
    · exact .inr hnul
  · intro hnul
    rcases misfit_or_fit newRoot putOld with hmisfit | ⟨new, old, rfl, rfl⟩
    · exact hmisfit
    · exact absurd hnul (not_or.mpr ⟨new.no_nul, old.no_nul⟩)

theorem handsOver_of_misfit (h : Misfit newRoot putOld path) :
    HandsOver host newRoot putOld (.error (.invalidPath path.display))
      (host.telling
        [.enter (pivotRootSpan newRoot putOld), .leave (pivotRootSpan newRoot putOld)]) where
  invalid_iff := by
    apply iff_of_true
    · exact ⟨path.display, rfl⟩
    · exact exists_misfit_iff.mp ⟨path, h⟩
  blames := by
    intro other hother
    obtain rfl := h.unique hother
    exact ⟨_, _, rfl, path.blames_display⟩
  unasked := by
    intro hnul
    exact ⟨rfl, rfl, rfl⟩
  asked := by
    intro hnew hold
    exact absurd (exists_misfit_iff.mp ⟨path, h⟩) (not_or.mpr ⟨hnew, hold⟩)

theorem handsOver_of_fit {new old : CString}
    (hrequests : after.requests = host.requests ++ [.pivotRoot new old])
    (hresult : ∀ text, result ≠ .error (.invalidPath text)) :
    HandsOver host new.bytes old.bytes result after := by
  have hfit : ¬ ((0 : UInt8) ∈ new.bytes ∨ (0 : UInt8) ∈ old.bytes) :=
    not_or.mpr ⟨new.no_nul, old.no_nul⟩
  exact {
    invalid_iff := by
      apply iff_of_false
      · rintro ⟨text, hinvalid⟩
        exact hresult text hinvalid
      · exact hfit
    blames := by
      intro path hmisfit
      exact absurd (exists_misfit_iff.mp ⟨path, hmisfit⟩) hfit
    unasked := by
      intro hnul
      exact absurd hnul hfit
    asked := by
      intro hnew hold
      exact ⟨new, old, hrequests, new.readBack_memory, old.readBack_memory⟩ }

/-- **Paths are handed over as they are or not at all.** Of any two byte strings and in any state:
the call is refused for a path if and only if one of them has a NUL byte, the first that has one is
shown, with all its NULs, and the kernel is not asked; otherwise it is asked once, with both. -/
theorem handsOver_pivotRoot (host : Host) (newRoot putOld : Path) :
    HandsOver host newRoot putOld ((pivotRoot newRoot putOld).run.run host).1
      ((pivotRoot newRoot putOld).run.run host).2 := by
  rcases misfit_or_fit newRoot putOld with ⟨path, hmisfit⟩ | ⟨new, old, rfl, rfl⟩
  · rw [run_pivotRoot_invalid hmisfit]
    exact handsOver_of_misfit hmisfit
  cases hanswer : host.answer (.pivotRoot new old) with
  | error number =>
      rw [run_pivotRoot_rejected hanswer]
      exact handsOver_of_fit rfl nofun
  | ok granted =>
      rw [run_pivotRoot_granted hanswer]
      exact handsOver_of_fit rfl nofun

end Call

end PidOne
