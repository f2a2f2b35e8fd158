import PidOne.Proofs.Kernel.Living
import PidOne.Proofs.Session.Sharing

/-!
# Adopting orphans

Whether the process adopts orphans is a bit of the kernel. One request sets it and none clears it,
so the bit is the history of the run: after any steps it is what it was before, or set if one of the
steps has asked for it. That is shown request by request, then deed by deed, then along the run. The
steps that look at the bit are answered out of it, so they tell the history. Orphans also come to
process 1 of a namespace, where they have nowhere else to go, and the bit does not say so.
-/

namespace PidOne

/-- Requests that make the process adopt orphans. -/
def Request.adopts : Request → Bool
  | .setChildSubreaper => true
  | _ => false

/-- Steps that make the process adopt orphans. -/
def Step.adopts : Step → Bool
  | .becomeSubreaper | .becomeSubreaperUnchecked => true
  | _ => false

variable {host after : Host} {request : Request} {told : Trace}

/-! ## Requests -/

namespace Kernel

variable {kernel after : Kernel} {returned : Nat}

theorem subreaper_serve (h : kernel.serve request = .ok (returned, after)) :
    after.subreaper = (kernel.subreaper || request.adopts) := by
  cases grants_of_serve h with
  | setChildSubreaper => exact (Bool.or_true _).symm
  | _ => exact (Bool.or_false _).symm

theorem subreaper_write {fd : Int} {data : List UInt8} {count : Nat}
    (h : kernel.write fd data = .ok (count, after)) : after.subreaper = kernel.subreaper := by
  obtain ⟨pipes, rfl⟩ := pipes_of_write h
  rfl

theorem subreaper_read {fd : Int} {count : Nat} {bytes : List UInt8}
    (h : kernel.read fd count = .ok (bytes, after)) : after.subreaper = kernel.subreaper := by
  obtain ⟨pipes, rfl⟩ := pipes_of_read h
  rfl

end Kernel

/-- The kernel itself never rejects it. -/
theorem Host.adopts_of_answer_error {number : Int} (hown : host.refusal? request = none)
    (h : host.answer request = .error number) : request.adopts = false := by
  cases request with
  | setChildSubreaper =>
      rw [answer, hown] at h
      cases h
  | _ => rfl

theorem Host.Asked.subreaper {result : Except Errno Nat} (hown : host.refusal? request = none)
    (h : host.Asked request told result after) :
    after.kernel.subreaper = (host.kernel.subreaper || request.adopts) := by
  cases h with
  | granted h => exact Kernel.subreaper_serve (serve_of_answer h)
  | rejected h =>
      rw [adopts_of_answer_error hown h, Bool.or_false]
      rfl

theorem Guard.Parts.subreaper {guard : Guard} {silent : Bool} {result : Except GuardError Unit}
    (h : guard.Parts silent host result after) :
    after.kernel.subreaper = host.kernel.subreaper := by
  rcases h.asked with rfl | ⟨fd, told, answer, hasked⟩
  · rfl
  · rw [hasked.subreaper rfl]
    exact Bool.or_false _

/-! ## Steps -/

namespace Step

variable {step : Step}

theorem adopts_of_looks (h : step.looks = true) : step.adopts = false := by
  cases step with
  | becomeSubreaper => cases h
  | becomeSubreaperUnchecked => cases h
  | _ => rfl

theorem adopts_of_makes? {name : String} (h : step.makes? = some name) : step.adopts = false := by
  cases step with
  | becomeSubreaper => cases h
  | becomeSubreaperUnchecked => cases h
  | _ => rfl

theorem adopts_iff :
    step.adopts = true ↔ step = .becomeSubreaper ∨ step = .becomeSubreaperUnchecked := by
  cases step <;> simp [adopts]

end Step

namespace Session

variable {before after session : Session} {step : Step} {outcome : Outcome} {kernel : Kernel}
  {steps : List Step}

theorem Puts.adopts (h : before.Puts step request) : request.adopts = step.adopts := by
  cases h <;> rfl

theorem adopts_of_perform_eq_none (h : before.perform step = none) : step.adopts = false := by
  cases step with
  | becomeSubreaper => cases h
  | becomeSubreaperUnchecked => cases h
  | _ => rfl

theorem Stirs.subreaper (h : before.Stirs step outcome kernel) :
    kernel.subreaper = before.host.kernel.subreaper ∧ step.adopts = false := by
  cases h with
  | wrote _ h => exact ⟨Kernel.subreaper_write h, rfl⟩
  | readOff _ h => exact ⟨Kernel.subreaper_read h, rfl⟩
  | forked h =>
      rw [(Kernel.forks_of_fork h).after]
      exact ⟨rfl, rfl⟩
  | _ => exact ⟨rfl, rfl⟩

/-- **The bit after a step.** -/
theorem Deed.subreaper (hown : before.host.Unhindered) (h : Deed before step outcome after) :
    after.host.kernel.subreaper = (before.host.kernel.subreaper || step.adopts) := by
  have hkept : after.host.kernel.subreaper = before.host.kernel.subreaper → step.adopts = false →
      after.host.kernel.subreaper = (before.host.kernel.subreaper || step.adopts) := by
    intro hsame hnone
    rw [hsame, hnone, Bool.or_false]
  cases h with
  | ignored h => exact hkept rfl (adopts_of_perform_eq_none h)
  | noted h => exact hkept rfl (Step.adopts_of_looks h)
  | stirred h => exact hkept h.subreaper.1 h.subreaper.2
  | piped => exact hkept rfl rfl
  | asked hputs h =>
      rw [← hputs.adopts]
      exact h.subreaper (hown.refusal? _)
  | misfit => exact hkept rfl rfl
  | opened hputs h =>
      rw [← hputs.adopts]
      exact Kernel.subreaper_serve (Host.serve_of_answer h)
  | tookIn hmove => exact hkept rfl (Step.adopts_of_makes? (Step.makes?_of_move? hmove))
  | used => exact hkept rfl rfl
  | released _ h => exact hkept h.subreaper rfl
  | closed _ _ h => exact hkept h.subreaper rfl
  | dropped _ _ h => exact hkept h.subreaper rfl
  | closedPlain hstep _ _ h =>
      have hnone : step.adopts = false := by
        rcases hstep with rfl | rfl <;> rfl
      exact hkept ((h.subreaper rfl).trans (Bool.or_false _)) hnone
  | handedOut => exact hkept rfl rfl
  | keptBack => exact hkept rfl rfl

theorem subreaper_step (hown : session.host.Unhindered) (step : Step) :
    (session.step step).2.host.kernel.subreaper
      = (session.host.kernel.subreaper || step.adopts) :=
  (deed_step session step).subreaper hown

/-- **The bit is the history of the run.** -/
theorem subreaper_run (hown : session.host.Unhindered) (steps : List Step) :
    (session.run steps).host.kernel.subreaper
      = (session.host.kernel.subreaper || steps.any Step.adopts) := by
  induction steps generalizing session with
  | nil => exact (Bool.or_false _).symm
  | cons step steps ih =>
      have hnext : (session.step step).2.host.Unhindered := unhindered_run hown [step]
      rw [run_cons, ih hnext, subreaper_step hown, List.any_cons, Bool.or_assoc]

theorem pid_run (kernel : Kernel) (steps : List Step) :
    ((start kernel).run steps).host.kernel.pid = kernel.pid := by
  apply invariant_run (P := fun later => later.pid = kernel.pid) _ rfl
  intro before request? taken given after hturn hpid
  rw [hturn.pid_eq, hpid]

/-! ## The answers -/

theorem step_isSubreaper (hown : session.host.Unhindered) :
    (session.step .isSubreaper).1 = .told session.host.kernel.subreaper := by
  have hanswer : session.host.answer .getChildSubreaper = .ok (0, session.host.kernel) :=
    Host.answer_of_ok (hown.refusal? _) rfl
  have hperform := congrArg some
    (@call_of_ok session _ _ Outcome.told _ _ (Call.run_isSubreaper_granted hanswer))
  rw [Session.step, perform, hperform]
  rfl

theorem step_subreaperUnchecked (hown : session.host.Unhindered) (variableBefore : Int) :
    (session.step (.subreaperUnchecked variableBefore)).1
      = .stored 0 (if session.host.kernel.subreaper then 1 else 0) := by
  have hanswer : session.host.answer .getChildSubreaper = .ok (0, session.host.kernel) :=
    Host.answer_of_ok (hown.refusal? _) rfl
  rw [Session.step, perform, act_eq (Unchecked.run_subreaper_granted variableBefore hanswer)]
  rfl

theorem step_orphan (session : Session) (code : Int) :
    (session.step (.orphan code)).1
      = .reaped (if session.host.kernel.subreaper || session.host.kernel.pid == 1
        then .ok (code % 256).toNat else .error .echild) := rfl

theorem answer_setChildSubreaper (hown : session.host.Unhindered) :
    session.host.answer .setChildSubreaper
      = .ok (0, { session.host.kernel with subreaper := true }) :=
  Host.answer_of_ok (hown.refusal? _) rfl

theorem step_becomeSubreaper (hown : session.host.Unhindered) :
    session.step .becomeSubreaper = (.done, { session with
      host := session.host.granted .setChildSubreaper
        { session.host.kernel with subreaper := true }
        [.enter Call.becomeSubreaperSpan, .leave Call.becomeSubreaperSpan] }) := by
  have hperform := congrArg some (@call_of_ok session _ _ (fun () => .done) () _
    (Call.run_becomeSubreaper_granted (answer_setChildSubreaper hown)))
  rw [Session.step, perform, hperform]
  rfl

theorem step_becomeSubreaperUnchecked (hown : session.host.Unhindered) :
    session.step .becomeSubreaperUnchecked = (.returned 0 none, { session with
      host := session.host.granted .setChildSubreaper
        { session.host.kernel with subreaper := true } [] }) := by
  rw [Session.step, perform, uncheckedCall, Unchecked.becomeSubreaper,
    act_eq (Act.run_request_granted (answer_setChildSubreaper hown))]
  rfl

/-! ## The result -/

/-- What `flag` decides at one point of a run of the process with this number. -/
structure Adopts (pid : Pid) (session : Session) (flag : Bool) : Prop where
  told : (session.step .isSubreaper).1 = .told flag
  /-- The unchecked call stores the same, whatever the variable held. -/
  stored : ∀ variableBefore, (session.step (.subreaperUnchecked variableBefore)).1
    = .stored 0 (if flag then 1 else 0)
  /-- An orphan comes to this process, with what is kept of its own exit code, or it does not come
  at all. -/
  orphaned : ∀ code, (session.step (.orphan code)).1
    = .reaped (if flag || pid == 1 then .ok (code % 256).toNat else .error .echild)
  lasts : flag = true → ∀ later, ((session.run later).step .isSubreaper).1 = .told true
  /-- Asking once more succeeds and changes nothing in the kernel, nor any object or name. -/
  repeated : flag = true → ∀ step, step.adopts = true →
    (session.step step).1 = (if step = .becomeSubreaper then .done else .returned 0 none)
      ∧ (session.step step).2 = { session with host := (session.step step).2.host }
      ∧ (session.step step).2.host.kernel = session.host.kernel

theorem adopts_of_subreaper (hown : session.host.Unhindered) :
    Adopts session.host.kernel.pid session session.host.kernel.subreaper where
  told := step_isSubreaper hown
  stored := step_subreaperUnchecked hown
  orphaned := step_orphan session
  lasts := by
    intro hflag later
    rw [step_isSubreaper (unhindered_run hown later), subreaper_run hown, hflag, Bool.true_or]
  repeated := by
    intro hflag step hadopts
    have hsame : { session.host.kernel with subreaper := true } = session.host.kernel := by
      rw [← hflag]
    rcases Step.adopts_iff.mp hadopts with rfl | rfl
    · rw [step_becomeSubreaper hown]
      exact ⟨rfl, rfl, hsame⟩
    · rw [step_becomeSubreaperUnchecked hown]
      exact ⟨rfl, rfl, hsame⟩

/-- **Orphans are adopted from the first time on that a step asks for it,** by the checked call or
the unchecked one, whatever else is done and however it ends; every answer says so. Orphans come to
the process from then on and, unless it is process 1, not before. -/
theorem adoptsOrphans_run (kernel : Kernel) (hclear : kernel.subreaper = false)
    (steps : List Step) :
    Adopts kernel.pid ((start kernel).run steps)
      (decide (.becomeSubreaper ∈ steps ∨ .becomeSubreaperUnchecked ∈ steps)) := by
  have hstart := unhindered_start kernel
  have hhistory : ((start kernel).run steps).host.kernel.subreaper
      = decide (.becomeSubreaper ∈ steps ∨ .becomeSubreaperUnchecked ∈ steps) := by
    rw [subreaper_run hstart, show (start kernel).host.kernel.subreaper = false from hclear,
      Bool.false_or, Bool.eq_iff_iff, List.any_eq_true, decide_eq_true_iff]
    simp only [Step.adopts_iff]
    constructor
    · rintro ⟨step, hmem, rfl | rfl⟩
      · exact .inl hmem
      · exact .inr hmem
    · rintro (hmem | hmem)
      · exact ⟨_, hmem, .inl rfl⟩
      · exact ⟨_, hmem, .inr rfl⟩
  rw [← hhistory, ← pid_run kernel steps]
  exact adopts_of_subreaper (unhindered_run hstart steps)

/-- The process asks by the unchecked call, behind an orphan that it missed and a close that failed.
-/
theorem adoptsOrphans_run_late :
    let kernel := Kernel.boot 100 false
    let steps : List Step := [.spawn "child", .orphan 7, .closeNumber (.number 9)]
    kernel.subreaper = false
      ∧ Adopts 100 ((start kernel).run steps) false
      ∧ Adopts 100 ((start kernel).run (steps ++ [.becomeSubreaperUnchecked, .kill "child" true]))
        true := by
  intro kernel steps
  exact ⟨rfl, adoptsOrphans_run kernel rfl steps, adoptsOrphans_run kernel rfl _⟩

/-- Orphans come to process 1 though it has never asked for them and says so; and what an orphan
exits with does not all come to whoever reaps it. -/
theorem comes_unasked :
    let first := start (Kernel.boot 1 false)
    let asked := (start (Kernel.boot 100 false)).run [.becomeSubreaper]
    (first.step .isSubreaper).1 = .told false
      ∧ (first.step (.orphan 7)).1 = .reaped (.ok 7)
      ∧ (asked.step .isSubreaper).1 = .told true
      ∧ (asked.step (.orphan 256)).1 = .reaped (.ok 0) :=
  ⟨rfl, rfl, rfl, rfl⟩

end Session

end PidOne
