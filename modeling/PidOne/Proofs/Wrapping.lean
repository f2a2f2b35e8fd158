import PidOne.Error

/-!
# Errors inside failures

A failure that has an error inside says of itself what that error says, behind a few words, and the
walk to what caused the failure finds the error and nothing after it. A portable error has room for
a number or for a text. It gets the number if there is one in the failure, and it does not matter
whether it is made of the error itself or of the failure; otherwise it gets the whole text.
-/

namespace PidOne

namespace AnyError

def code : AnyError → String
  | syscall error => error.code
  | guard error => error.code
  | failure error => error.code

def help : AnyError → Option String
  | syscall error => error.help
  | guard error => error.help
  | failure error => error.help

variable {error source : AnyError}

theorem chain_of_source? (h : error.source? = some source) :
    error.chain = source :: source.chain := by
  rw [chain]
  split
  · next found hfound =>
    rw [h] at hfound
    cases hfound
    rfl
  · next hnone =>
    rw [h] at hnone
    cases hnone

theorem chain_of_no_source (h : error.source? = none) : error.chain = [] := by
  rw [chain]
  split
  · next found hfound =>
    rw [h] at hfound
    cases hfound
  · rfl

/-- Nothing is behind an error that is behind another one. -/
theorem source?_of_source? (h : error.source? = some source) : source.source? = none := by
  unfold source? at h
  split at h
  · cases h
    rfl
  · cases h
    rfl
  all_goals cases h

/-- The walk to what caused an error is over after one step at most. -/
theorem chain_eq_source? (error : AnyError) : error.chain = error.source?.toList := by
  cases h : error.source? with
  | none => exact chain_of_no_source h
  | some source =>
      rw [chain_of_source? h, chain_of_no_source (source?_of_source? h)]
      rfl

end AnyError

/-- A failure with an error inside that it shows behind a few words. -/
structure Failure.Wraps (failure : Failure) (inner : AnyError) (lead : String) : Prop where
  code : failure.code = inner.code
  help : failure.help = inner.help
  chain : (AnyError.failure failure).chain = [inner]
  sources : failure.sources = [inner.message]
  message : failure.message = lead ++ inner.message

namespace Failure

/-- The failures that have an error number in them. -/
inductive HasErrno : Failure → Errno → Prop where
  | kernel (call : Syscall) (errno : Errno) : HasErrno (.syscall (.kernel call errno)) errno
  | close (errno : Errno) : HasErrno (.guard (.close errno)) errno

/-- The failures that have none, each with the text it is about. -/
inductive HasText : Failure → String → Prop where
  | invalidPath (path : String) : HasText (.syscall (.invalidPath path)) path
  | alreadyReleased : HasText (.guard .alreadyReleased) GuardError.alreadyReleased.message
  | tracing (reason : String) : HasText (.tracing reason) reason

/-- What is left of a failure in a portable error. -/
structure Converts (failure : Failure) : Prop where
  number_iff : ∀ number, failure.toIoError.number = some number
    ↔ ∃ errno, failure.HasErrno errno ∧ errno.code = number
  unnumbered_iff : failure.toIoError.number = none ↔ ∃ text, failure.HasText text
  shown : ∀ text, failure.HasText text → ∃ lead, failure.toIoError.display = lead ++ text

variable {failure : Failure} {inner : AnyError} {lead text : String} {errno : Errno}

theorem wraps_of_source? (hsource : (AnyError.failure failure).source? = some inner)
    (hcode : failure.code = inner.code) (hhelp : failure.help = inner.help)
    (hmessage : failure.message = lead ++ inner.message) : failure.Wraps inner lead := by
  have hchain : (AnyError.failure failure).chain = [inner] := by
    rw [AnyError.chain_eq_source?, hsource]
    rfl
  have hsources : failure.sources = [inner.message] := by
    rw [sources, hchain]
    rfl
  exact ⟨hcode, hhelp, hchain, hsources, hmessage⟩

theorem HasErrno.toIoError (h : failure.HasErrno errno) : failure.toIoError = .os errno := by
  cases h with
  | kernel => rfl
  | close => rfl

/-- The text stands at the end of what a portable error displays. -/
theorem HasText.toIoError (h : failure.HasText text) :
    ∃ kind lead, failure.toIoError = .custom kind (lead ++ text) := by
  cases h with
  | invalidPath => exact ⟨.invalidInput, "path contains an interior NUL byte: ", rfl⟩
  | alreadyReleased => exact ⟨.other, "Guard error: ", rfl⟩
  | tracing => exact ⟨.other, "Tracing setup failed: ", rfl⟩

theorem hasErrno_or_hasText (failure : Failure) :
    (∃ errno, failure.HasErrno errno) ∨ ∃ text, failure.HasText text := by
  rcases failure with (⟨call, errno⟩ | path) | (_ | errno) | reason
  · exact .inl ⟨errno, .kernel call errno⟩
  · exact .inr ⟨path, .invalidPath path⟩
  · exact .inr ⟨_, .alreadyReleased⟩
  · exact .inl ⟨errno, .close errno⟩
  · exact .inr ⟨reason, .tracing reason⟩

theorem number_of_hasErrno (h : failure.HasErrno errno) :
    failure.toIoError.number = some errno.code := by
  rw [h.toIoError]
  rfl

theorem number_of_hasText (h : failure.HasText text) : failure.toIoError.number = none := by
  obtain ⟨kind, lead, hcustom⟩ := h.toIoError
  rw [hcustom]
  rfl

theorem converts (failure : Failure) : failure.Converts where
  number_iff := by
    intro number
    constructor
    · intro hnumber
      rcases failure.hasErrno_or_hasText with ⟨errno, herrno⟩ | ⟨text, htext⟩
      · rw [number_of_hasErrno herrno] at hnumber
        exact ⟨errno, herrno, Option.some.inj hnumber⟩
      · rw [number_of_hasText htext] at hnumber
        cases hnumber
    · rintro ⟨errno, herrno, rfl⟩
      exact number_of_hasErrno herrno
  unnumbered_iff := by
    constructor
    · intro hnumber
      rcases failure.hasErrno_or_hasText with ⟨errno, herrno⟩ | htext
      · rw [number_of_hasErrno herrno] at hnumber
        cases hnumber
      · exact htext
    · rintro ⟨text, htext⟩
      exact number_of_hasText htext
  shown := by
    intro text htext
    obtain ⟨kind, lead, hcustom⟩ := htext.toIoError
    refine ⟨lead, ?_⟩
    rw [hcustom]
    rfl

/-- **A failure loses nothing of the error inside it.** Of every error in a failure the code, the
help and the message stay what they are, and the error is all that is behind the failure. A portable
error is the same whether a failure was made first or not, has a number exactly if the failure has
one in it, which is that number, and displays the text of the failure otherwise. -/
theorem keeps_inner :
    (∀ error : SyscallError, Wraps error (.syscall error) "Syscall error: "
      ∧ (error : Failure).toIoError = error.toIoError)
      ∧ (∀ error : GuardError, Wraps error (.guard error) "Guard error: ")
      ∧ ∀ failure : Failure, failure.Converts := by
  refine ⟨?_, ?_, converts⟩
  · intro error
    exact ⟨wraps_of_source? rfl rfl rfl rfl, rfl⟩
  · intro error
    exact wraps_of_source? rfl rfl rfl rfl

end Failure

end PidOne
