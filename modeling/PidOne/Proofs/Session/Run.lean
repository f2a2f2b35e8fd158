import Mathlib.Data.List.Infix
import PidOne.Proofs.Session.Change

/-!
# Runs of a session

A run is a session after any number of steps. A number that is open at the end of a run either was
open all along, and then the process had it before the run, or it was free at some point of the run
and has been made since. This is told by the descriptor table alone: it does not depend on what the
session knows of its objects.
-/

namespace PidOne.Session

def run (session : Session) (steps : List Step) : Session :=
  steps.foldl (fun session step => (session.step step).2) session

def Open (session : Session) (fd : Nat) : Prop := session.host.kernel.isOpen fd = true

instance (session : Session) (fd : Nat) : Decidable (session.Open fd) :=
  inferInstanceAs (Decidable (_ = true))

/-- The number has been open at every point of a run. -/
def OpenThroughout (initial : Session) (steps : List Step) (fd : Nat) : Prop :=
  ∀ earlier, earlier <+: steps → (initial.run earlier).Open fd

/-- The number is open at the end of a run, on a descriptor made in the run: at some point it was
free. -/
def MadeDuring (initial : Session) (steps : List Step) (fd : Nat) : Prop :=
  (initial.run steps).Open fd ∧ ∃ earlier, earlier <+: steps ∧ ¬ (initial.run earlier).Open fd

variable {session initial : Session} {steps : List Step} {step : Step} {fd : Nat}

theorem open_iff : session.Open fd ↔ session.table.get? fd ≠ none := by
  rw [Open, Kernel.isOpen_ofNat, Option.isSome_iff_ne_none]
  rfl

theorem run_concat (session : Session) (steps : List Step) (step : Step) :
    session.run (steps ++ [step]) = ((session.run steps).step step).2 := by
  rw [run, List.foldl_append]
  rfl

theorem run_append (session : Session) (steps more : List Step) :
    session.run (steps ++ more) = (session.run steps).run more := by
  rw [run, List.foldl_append]
  rfl

/-- What is refused whatever it asks for is fixed from the start. -/
theorem refusals_step (session : Session) (step : Step) :
    (session.step step).2.host.refusals = session.host.refusals :=
  (deed_step session step).refusals

theorem refusals_run (session : Session) (steps : List Step) :
    (session.run steps).host.refusals = session.host.refusals := by
  induction steps using List.reverseRecOn with
  | nil => rfl
  | append_singleton steps step ih => rw [run_concat, refusals_step, ih]

theorem unhindered_run (h : session.host.Unhindered) (steps : List Step) :
    (session.run steps).host.Unhindered := by
  rw [Host.Unhindered, refusals_run]
  exact h

theorem unhindered_start (kernel : Kernel) : (start kernel).host.Unhindered := fun _ => rfl

theorem named_start (kernel : Kernel) : (start kernel).Named := fun _ _ => rfl

theorem named_run (kernel : Kernel) (steps : List Step) : ((start kernel).run steps).Named := by
  induction steps using List.reverseRecOn with
  | nil => exact named_start kernel
  | append_singleton steps step ih =>
      rw [run_concat]
      exact (change_step _ step).named ih

theorem madeDuring_iff :
    MadeDuring initial steps fd
      ↔ (initial.run steps).Open fd ∧ ¬ OpenThroughout initial steps fd := by
  simp only [MadeDuring, OpenThroughout, not_forall, exists_prop]

theorem openThroughout_concat :
    OpenThroughout initial (steps ++ [step]) fd
      ↔ OpenThroughout initial steps fd ∧ (initial.run (steps ++ [step])).Open fd := by
  constructor
  · intro h
    exact ⟨fun earlier hearlier => h earlier (hearlier.trans (List.prefix_append _ _)),
      h _ (List.prefix_refl _)⟩
  · rintro ⟨h, hopen⟩ earlier hearlier
    rcases List.prefix_concat_iff.mp hearlier with rfl | hearlier
    · exact hopen
    · exact h earlier hearlier

end PidOne.Session
