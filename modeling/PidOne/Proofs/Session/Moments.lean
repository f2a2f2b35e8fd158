import PidOne.Proofs.Guard.Telling
import PidOne.Proofs.Session.Whole
import PidOne.Session.Report

/-!
# Moments of a run

A moment is a step with what was there before and after it. The events told and the requests made in
it are read off the trace and the list of requests. Two guards may have the same number and the same
names for their events, so the events do not say whose they are; the step does. An object tells that
it has acquired its descriptor in the step that makes it, and all else in steps that work on it.
-/

namespace PidOne

/-- The object whose guard tells an event in a step. -/
def Step.teller? (step : Step) (event : Event) : Option String :=
  if event.message = "descriptor acquired" then step.makes? else step.on?

/-- The objects that a step works through, and the operation. -/
def Step.uses : Step → List (String × String)
  | .used on operation => [(on, operation)]
  | .copyFd on _ _ => [(on, "pidfd_getfd")]
  | _ => []

structure Moment where
  before : Session
  step : Step
  outcome : Outcome
  after : Session

namespace Session

/-- What guards have told since an earlier session. -/
def told (session earlier : Session) : List Event := (session.since earlier).ofGuards

/-- The requests made since an earlier session. -/
def asked (session earlier : Session) : List Request :=
  session.host.requests.drop earlier.host.requests.length

def moments (session : Session) : List Step → List Moment
  | [] => []
  | step :: steps =>
    ⟨session, step, (session.step step).1, (session.step step).2⟩
      :: (session.step step).2.moments steps

variable {before after session : Session} {told : Trace} {requests : List Request}

theorem told_of_trace (h : after.host.trace = before.host.trace ++ told) :
    after.told before = told.ofGuards := by
  rw [Session.told, since, h, List.drop_left]

theorem asked_of_requests (h : after.host.requests = before.host.requests ++ requests) :
    after.asked before = requests := by
  rw [asked, h, List.drop_left]

theorem asked_of_host (h : after.host = before.host) : after.asked before = [] := by
  refine asked_of_requests ?_
  rw [h, List.append_nil]

theorem moments_append (session : Session) (steps more : List Step) :
    session.moments (steps ++ more) = session.moments steps ++ (session.run steps).moments more := by
  induction steps generalizing session with
  | nil => rfl
  | cons step steps ih =>
      have hrun : session.run (step :: steps) = (session.step step).2.run steps := rfl
      rw [List.cons_append, moments, moments, ih, hrun, List.cons_append]

/-- Each moment of a run is one step after a part of the run. -/
theorem mem_moments_iff {moment : Moment} {steps : List Step} :
    moment ∈ session.moments steps ↔ ∃ earlier step later, steps = earlier ++ step :: later
      ∧ moment = ⟨session.run earlier, step, ((session.run earlier).step step).1,
        ((session.run earlier).step step).2⟩ := by
  induction steps generalizing session with
  | nil => simp [moments]
  | cons step steps ih =>
      rw [moments, List.mem_cons, ih]
      constructor
      · rintro (rfl | ⟨earlier, next, later, rfl, rfl⟩)
        · exact ⟨[], step, steps, rfl, rfl⟩
        · exact ⟨step :: earlier, next, later, rfl, rfl⟩
      · rintro ⟨earlier, next, later, hsteps, rfl⟩
        cases earlier with
        | nil =>
            cases hsteps
            exact .inl rfl
        | cons first earlier =>
            cases hsteps
            exact .inr ⟨earlier, next, later, rfl, rfl⟩

end Session

namespace Moment

/-- What the guard of an object tells. -/
def tells (moment : Moment) (name : String) : List Event :=
  (moment.after.told moment.before).filter fun event => moment.step.teller? event = some name

/-- The uses that are made of an object. -/
def uses (moment : Moment) (name : String) : List String :=
  if (moment.before.perform moment.step).isSome then
    (moment.step.uses.filter fun use => use.1 = name).map Prod.snd
  else []

/-- The kernel's answer to a request. -/
def answer (moment : Moment) (request : Request) : Except Errno Unit :=
  (moment.before.host.kernel.serve request).map fun _ => ()

/-- The requests that are made to let an object go, with the kernel's answers. -/
def closings (moment : Moment) (name : String) : List Guard.Closing :=
  if moment.step.letsGo? = some name then
    (moment.after.asked moment.before).map fun request =>
      ⟨moment.step = .drop name, moment.answer request⟩
  else []

/-- The guard of an object is made. -/
def Makes (moment : Moment) (name : String) (guard : Guard) : Prop :=
  moment.before.guard? name = none ∧ moment.after.guard? name = some guard

end Moment

end PidOne
