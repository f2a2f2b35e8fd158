import PidOne.Proofs.Session.Chronicle
import PidOne.Proofs.Session.Sharing

/-!
# An object is touched by its own steps only

Objects share a descriptor table, and after a close behind a holder's back two of them may share a
number; but what a session knows of an object is changed by the steps that work on it, and by no
others, whatever these come to. Of its own steps, one empties a guard, three use the object up, and
the others leave it as it is. So what an object tells of itself stays from the time it is made, also
behind a release: only whether it has its descriptor changes, and that tells whether there is a
number to borrow.
-/

namespace PidOne

/-- What an object with a guard tells of itself, whether or not it has its descriptor. -/
structure Traits where
  number : Nat
  subject : GuardSubject
  /-- The process that a process descriptor stands for, or that a descriptor was copied from. -/
  process : Option Pid
  /-- The number that a copied descriptor has in its process. -/
  target : Option Int
  deriving DecidableEq, Repr

namespace Holder

def traits? : Holder → Option Traits
  | .guard kept => some ⟨kept.number, kept.subject, none, none⟩
  | .pidfd kept => some ⟨kept.fd, kept.guard.subject, some kept.pid, none⟩
  | .remote kept => some ⟨kept.fd, kept.guard.subject, some kept.sourcePid, some kept.targetFd⟩
  | _ => none

theorem plain?_of_guard? {holder : Holder} {guard : Guard} (h : holder.guard? = some guard) :
    holder.plain? = none := by
  cases holder with
  | bare fd => cases h
  | owned kept => cases h
  | _ => rfl

end Holder

/-- What is left of an object by a step that works on it. -/
def Step.leaves : Step → Holder → Option Holder
  | .release _, .guard kept => some (.guard kept.emptied)
  | .close _, _ | .drop _, _ | .handOut _ _, _ => none
  | _, holder => some holder

theorem Step.traits?_of_leaves {step : Step} {holder left : Holder} {guard : Guard}
    (h : step.leaves holder = some left) (hguard : holder.guard? = some guard) :
    left.traits? = holder.traits? ∧ ∃ kept, left.guard? = some kept := by
  unfold leaves at h
  split at h
  · cases h
    exact ⟨rfl, _, rfl⟩
  · cases h
  · cases h
  · cases h
  · cases h
    exact ⟨rfl, guard, hguard⟩

theorem Guard.borrow?_of_whole {guard : Guard}
    (h : ∀ owned, guard.held = some owned → owned.number = guard.number) :
    guard.borrow? = if guard.isActive then some guard.number else none := by
  cases hheld : guard.held with
  | none => rw [borrow?, isActive, hheld]; rfl
  | some owned =>
      rw [borrow?, isActive, hheld, Option.map_some, h owned hheld]
      rfl

namespace Session

variable {before after session : Session} {step : Step} {outcome : Outcome} {name : String}
  {holder : Holder} {guard : Guard} {steps later : List Step}

theorem given_of_holder? (hnamed : session.Named) (hholder : session.holder? name = some holder) :
    session.numbers.lookup name ≠ none := by
  intro hfree
  rw [hnamed name hfree] at hholder
  cases hholder

/-! ## One step -/

theorem Deed.others (h : Deed before step outcome after) (hnamed : before.Named)
    (hholder : before.holder? name = some holder) (hguard : holder.guard? = some guard)
    (hon : step.on? ≠ some name) : after.holder? name = some holder := by
  have hfollows : before.Follows name guard :=
    follows_of_guard? (by rw [guard?_of_holder? hholder, hguard])
  have hborn : before.numbers.lookup name = none → after.numbers.lookup name = none := fun hfree =>
    absurd hfree (given_of_holder? hnamed hholder)
  rw [(h.apart hon hborn hfollows).2, hholder]

theorem Deed.own (h : Deed before step outcome after) (hnamed : before.Named)
    (hholder : before.holder? name = some holder) (hguard : holder.guard? = some guard)
    (hon : step.on? = some name) :
    after.holder? name = some holder ∨ after.holder? name = step.leaves holder := by
  have hplain : ∀ {other : Holder} {owned : Owned}, before.holder? name = some other →
      other.plain? ≠ some owned := by
    intro other owned hother hplain
    rw [hholder] at hother
    cases hother
    rw [Holder.plain?_of_guard? hguard] at hplain
    cases hplain
  cases h with
  | piped => cases hon
  | opened _ _ _ hfree =>
      have hne := hnamed.ne_of_lookup hholder (lookup_of_isFree hfree)
      exact .inl ((holder?_bind_of_ne hne _ _).trans hholder)
  | tookIn hmove _ hother htaken =>
      -- what is taken in has no guard
      rcases Step.on?_of_move? hmove with hnone | hsome
      · rw [hnone] at hon
        cases hon
      · rw [hsome] at hon
        cases hon
        exact absurd htaken (hplain hother)
  | @released on kept _ host hkept =>
      cases hon
      have hthere : ({ before with host } : Session).holder? name = some (.guard kept) := hkept
      rw [hholder] at hkept
      cases hkept
      right
      rw [holder?_replace hthere, Function.update_self]
      rfl
  | closed =>
      cases hon
      exact .inr (holder?_remove_self before _)
  | dropped =>
      cases hon
      exact .inr (holder?_remove_self before _)
  | closedPlain hstep hother htaken =>
      rcases hstep with rfl | rfl
      · cases hon
        exact absurd htaken (hplain hother)
      · cases hon
        exact absurd htaken (hplain hother)
  | handedOut hfree =>
      cases hon
      have hne := hnamed.ne_of_lookup hholder (lookup_of_isFree hfree)
      exact .inr ((holder?_bind_of_ne hne _ _).trans (holder?_remove_self before _))
  | keptBack =>
      cases hon
      exact .inr (holder?_remove_self before _)
  | _ => exact .inl hholder

/-- **What one step makes of an object with a guard.** -/
theorem holder?_step (hnamed : session.Named) (hholder : session.holder? name = some holder)
    (hguard : holder.guard? = some guard) (step : Step) :
    (session.step step).2.holder? name = some holder
      ∨ step.on? = some name ∧ (session.step step).2.holder? name = step.leaves holder := by
  have hdeed := deed_step session step
  by_cases hon : step.on? = some name
  · rcases hdeed.own hnamed hholder hguard hon with hsame | hleft
    · exact .inl hsame
    · exact .inr ⟨hon, hleft⟩
  · exact .inl (hdeed.others hnamed hholder hguard hon)

/-! ## Runs -/

theorem named_step (hnamed : session.Named) (step : Step) : (session.step step).2.Named :=
  (change_step session step).named hnamed

theorem holder?_run_of_others (hnamed : session.Named)
    (hholder : session.holder? name = some holder) (hguard : holder.guard? = some guard)
    (hothers : ∀ step ∈ later, step.on? ≠ some name) :
    (session.run later).holder? name = some holder := by
  induction later generalizing session with
  | nil => exact hholder
  | cons step later ih =>
      obtain ⟨hfirst, hrest⟩ := List.forall_mem_cons.mp hothers
      rw [run_cons]
      exact ih (named_step hnamed step)
        ((deed_step session step).others hnamed hholder hguard hfirst) hrest

theorem Made.gone {other : String} (h : Made before other holder after)
    (hgiven : before.numbers.lookup name ≠ none) (hnone : before.holder? name = none) :
    after.numbers.lookup name ≠ none ∧ after.holder? name = none := by
  have hne : name ≠ other := by
    rintro rfl
    exact hgiven h.free
  refine ⟨?_, by rw [h.holder?, Function.update_of_ne hne, hnone]⟩
  rw [h.numbers, lookup_cons_eq, if_neg hne]
  exact hgiven

/-- A name that has been given is not given again. -/
theorem Change.gone (h : Change before step outcome after)
    (hgiven : before.numbers.lookup name ≠ none) (hnone : before.holder? name = none) :
    after.holder? name = none := by
  cases h with
  | kept h => rw [h.holder?, hnone]
  | made h => exact (h.gone hgiven hnone).2
  | madeTwo first second =>
      obtain ⟨hgiven, hnone⟩ := first.gone hgiven hnone
      exact (second.gone hgiven hnone).2
  | @letGo other _ h =>
      obtain ⟨left, hholder⟩ := h.holder?
      have hne : name ≠ other := by
        rintro rfl
        exact h.there hnone
      rw [hholder, Function.update_of_ne hne, hnone]
  | @moved other new _ _ h =>
      obtain ⟨made, -, hholder⟩ := h.holder?
      have hne : name ≠ new := by
        rintro rfl
        exact hgiven h.free
      rw [hholder, Function.update_of_ne hne, Function.update_apply, hnone, ite_self]
  | closedBehind _ _ h => rw [h.holder?, hnone]

theorem given_step (hgiven : session.numbers.lookup name ≠ none) (step : Step) :
    (session.step step).2.numbers.lookup name ≠ none := fun hfree =>
  hgiven (lookup_of_suffix (numbers_of_change (change_step session step)) hfree)

/-- An object that is gone does not come back under its name. -/
theorem holder?_run_of_gone (hgiven : session.numbers.lookup name ≠ none)
    (hnone : session.holder? name = none) : (session.run later).holder? name = none := by
  induction later generalizing session with
  | nil => exact hnone
  | cons step later ih =>
      rw [run_cons]
      exact ih (given_step hgiven step) ((change_step session step).gone hgiven hnone)

/-- **Whatever is done, an object with a guard keeps its traits until it is gone.** -/
theorem traits?_run (hnamed : session.Named) (hholder : session.holder? name = some holder)
    (hguard : holder.guard? = some guard) :
    (session.run later).holder? name = none
      ∨ ∃ left, (session.run later).holder? name = some left ∧ left.traits? = holder.traits? := by
  induction later generalizing session holder guard with
  | nil => exact .inr ⟨holder, hholder, rfl⟩
  | cons step later ih =>
      rw [run_cons]
      have hafter := named_step hnamed step
      rcases holder?_step hnamed hholder hguard step with hsame | ⟨-, hleft⟩
      · exact ih hafter hsame hguard
      cases hleaves : step.leaves holder with
      | none =>
          -- it is used up, and its name is not given again
          rw [hleaves] at hleft
          have hgiven := given_of_holder? hnamed hholder
          exact .inl (holder?_run_of_gone (given_step hgiven step) hleft)
      | some left =>
          rw [hleaves] at hleft
          obtain ⟨htraits, kept, hkept⟩ := Step.traits?_of_leaves hleaves hguard
          rcases ih hafter hleft hkept with hgone | ⟨last, hlast, heq⟩
          · exact .inl hgone
          · exact .inr ⟨last, hlast, heq.trans htraits⟩

/-- **Objects stand apart.** At every point of every run, numbers closed behind the backs of their
holders included: steps that work on other things leave an object with a guard as it is, however
they end; a step that works on the object leaves it as it is, or empties the guard, or uses the
object up; what the object tells of itself stays as long as it is there; and there is a number to
borrow exactly where the guard is active, the one that the guard has. -/
theorem standsApart_run (kernel : Kernel) (steps : List Step) :
    let session := (start kernel).run steps
    ∀ name holder guard, session.holder? name = some holder → holder.guard? = some guard →
      (∀ later, (∀ step ∈ later, step.on? ≠ some name) →
        (session.run later).holder? name = some holder)
      ∧ (∀ step, (session.step step).2.holder? name = some holder
        ∨ step.on? = some name ∧ (session.step step).2.holder? name = step.leaves holder)
      ∧ (∀ later, (session.run later).holder? name = none
        ∨ ∃ left, (session.run later).holder? name = some left ∧ left.traits? = holder.traits?)
      ∧ guard.borrow? = if guard.isActive then some guard.number else none := by
  intro session name holder guard hholder hguard
  have hnamed : session.Named := named_run kernel steps
  have hwhole : holder.Whole := allWhole_run kernel steps name holder hholder
  refine ⟨fun later => holder?_run_of_others hnamed hholder hguard,
    holder?_step hnamed hholder hguard, fun later => traits?_run hnamed hholder hguard, ?_⟩
  exact Guard.borrow?_of_whole fun owned => Holder.number_of_whole hwhole hguard

/-- Two process descriptors share a number after one of them has been closed behind its back.
Closing the other one leaves it as it is. -/
theorem standsApart_run_shared :
    let session := (start (.boot 100 false)).run [.openPid .self 0 "first",
      .closeNumber (.object "first"), .openPid .self 0 "second"]
    let first := PidFd.holding ⟨3⟩ 100
    session.holder? "first" = some (.pidfd first) ∧ session.held? "second" = some 3
      ∧ (session.run [.close "second"]).holder? "first" = some (.pidfd first)
      ∧ first.guard.borrow? = some 3 := by
  intro session first
  have hholder : session.holder? "first" = some (.pidfd first) := by decide
  obtain ⟨hothers, -, -, hborrow⟩ :=
    standsApart_run (.boot 100 false) _ "first" (.pidfd first) first.guard hholder rfl
  exact ⟨hholder, by decide, hothers [.close "second"] (by decide), hborrow⟩

end Session

end PidOne
