import PidOne.Proofs.Acting
import PidOne.Proofs.Guard.Life

/-!
# Closed or handed out, once

Over its whole life a guard gives its descriptor up exactly once: it asks the kernel to close the
number, or it hands the descriptor to its owner. The right to close is taken out of the guard before
the kernel is asked, so the answer plays no part in it, and a close that failed is not tried again.

The induction is on the calls. Until the first release the guard is as it was made, and the
script's next answer is still the one it had at the beginning; from then on the guard is empty, and
an empty guard asks for nothing more (`run_live_of_empty`).
-/

namespace PidOne.Guard

/-- What the life of a guard comes to that has `owned` at its beginning: the state of its
surroundings is `script` before and `after` behind it. -/
structure Life.SettledOnce (owned : Owned) (script after : Script) (life : Life) : Prop where
  /-- One close or one descriptor for the owner, and not both. -/
  once : ∃ closes, after.closes = script.closes ++ closes
    ∧ closes.length + life.handedOut.length = 1 ∧ ∀ fd ∈ closes, fd = owned.number
  handedOut : ∀ out ∈ life.handedOut, out = owned
  /-- The first attempt is answered by the kernel if it is one to close, and succeeds if it is one
  to hand out; all later ones come too late. -/
  attempts : life.attempts
    <+: (if life.handedOut = [] then script.answer.mapError GuardError.close else .ok ())
      :: List.replicate life.attempts.length (.error .alreadyReleased)
  active : life.guards.Pairwise fun earlier later =>
    later.isActive = true → earlier.isActive = true
  number : ∀ guard ∈ life.guards, guard.number = owned.number

variable {guard : Guard} {owned : Owned}

theorem run_shut (guard : Guard) (fd : Nat) (script : Script) :
    ((guard.shut fd : Scripted _).run script).1 = script.answer.mapError GuardError.close
      ∧ ((guard.shut fd : Scripted _).run script).2.closes = script.closes ++ [fd] := by
  have hclose : ((Closes.close fd : Scripted _).run script)
      = (script.answer, { script with closes := script.closes ++ [fd] }) := rfl
  unfold shut
  rw [StateT.run_bind, hclose]
  cases script.answer with
  | error errno => exact ⟨rfl, rfl⟩
  | ok done => exact ⟨rfl, rfl⟩

/-- Nothing that is done with an empty guard closes a number or hands one out. -/
theorem run_live_of_empty (h : guard.held = none) (uses : List Use) (ending : Ending)
    (script : Script) :
    let result := (guard.live uses ending : Scripted Life).run script
    result.2.closes = script.closes ∧ result.1.handedOut = []
      ∧ (∀ attempt ∈ result.1.attempts, attempt = .error .alreadyReleased)
      ∧ ∀ later ∈ result.1.guards, later = guard := by
  induction uses generalizing script with
  | nil =>
      cases ending with
      | close =>
          rw [live, close_of_empty h]
          exact ⟨rfl, rfl, fun _ => List.eq_of_mem_singleton, fun _ => List.eq_of_mem_singleton⟩
      | handOut =>
          rw [live, handOut_of_empty h]
          exact ⟨rfl, rfl, fun _ => List.eq_of_mem_singleton, fun _ => List.eq_of_mem_singleton⟩
      | drop =>
          rw [live, drop_of_empty h, pure_bind]
          exact ⟨rfl, rfl, fun _ hmem => absurd hmem List.not_mem_nil,
            fun _ => List.eq_of_mem_singleton⟩
  | cons use uses ih =>
      cases use with
      | release =>
          obtain ⟨hcloses, hout, hattempts, hguards⟩ := ih script
          simp only [live, release_of_empty h, pure_bind, StateT.run_bind]
          refine ⟨hcloses, hout, ?_, ?_⟩
          · rintro attempt (_ | ⟨_, hmem⟩)
            · rfl
            · exact hattempts attempt hmem
          · rintro later (_ | ⟨_, hmem⟩)
            · rfl
            · exact hguards later hmem
      | tellUse operation =>
          obtain ⟨hcloses, hout, hattempts, hguards⟩ :=
            ih { script with events := script.events ++ [guard.used operation] }
          refine ⟨hcloses, hout, hattempts, ?_⟩
          rintro later (_ | ⟨_, hmem⟩)
          · rfl
          · exact hguards later hmem
      | observe =>
          obtain ⟨hcloses, hout, hattempts, hguards⟩ := ih script
          refine ⟨hcloses, hout, hattempts, ?_⟩
          rintro later (_ | ⟨_, hmem⟩)
          · rfl
          · exact hguards later hmem

/-- A call that leaves a guard with its descriptor adds nothing to what its life comes to. -/
theorem Life.SettledOnce.cons {script after : Script} {life : Life}
    (hlife : life.SettledOnce owned script after) (h : guard.held = some owned)
    (hnumber : guard.number = owned.number) :
    { life with guards := guard :: life.guards }.SettledOnce owned script after where
  once := hlife.once
  handedOut := hlife.handedOut
  attempts := hlife.attempts
  active := List.pairwise_cons.mpr ⟨fun _ _ _ => isActive_of_held h, hlife.active⟩
  number := List.forall_mem_cons.mpr ⟨hnumber, hlife.number⟩

theorem Life.SettledOnce.of_events {script after : Script} {life : Life} {events : List Event}
    (hlife : life.SettledOnce owned { script with events := events } after) :
    life.SettledOnce owned script after :=
  ⟨hlife.once, hlife.handedOut, hlife.attempts, hlife.active, hlife.number⟩

/-- A life in which the number is closed once, and the guard is empty ever after. -/
theorem settledOnce_of_closed {script after : Script} {guards : List Guard}
    {attempts : List (Except GuardError Unit)} (h : guard.held = some owned)
    (hnumber : guard.number = owned.number)
    (hcloses : after.closes = script.closes ++ [owned.number])
    (hguards : ∀ later ∈ guards, later = guard.emptied)
    (hattempts : attempts <+: script.answer.mapError GuardError.close
      :: List.replicate attempts.length (.error .alreadyReleased)) :
    Life.SettledOnce owned script after ⟨guard :: guards, attempts, []⟩ where
  once := ⟨[owned.number], hcloses, rfl, fun _ => List.eq_of_mem_singleton⟩
  handedOut := fun _ hmem => absurd hmem List.not_mem_nil
  attempts := hattempts
  active := by
    refine List.pairwise_cons.mpr ⟨fun _ _ _ => isActive_of_held h, ?_⟩
    refine List.pairwise_of_forall_mem_list fun _ _ later hmem hactive => ?_
    rw [hguards later hmem, isActive_of_empty (held_emptied guard)] at hactive
    cases hactive
  number := by
    refine List.forall_mem_cons.mpr ⟨hnumber, fun later hmem => ?_⟩
    rw [hguards later hmem, number_emptied, hnumber]

theorem settledOnce_of_handedOut {script after : Script}
    (hnumber : guard.number = owned.number) (hcloses : after.closes = script.closes) :
    Life.SettledOnce owned script after ⟨[guard], [.ok ()], [owned]⟩ where
  once := ⟨[], by simpa using hcloses, rfl, fun _ hmem => absurd hmem List.not_mem_nil⟩
  handedOut := fun _ => List.eq_of_mem_singleton
  attempts := List.prefix_append [Except.ok ()] [Except.error GuardError.alreadyReleased]
  active := List.pairwise_singleton _ guard
  number := List.forall_mem_singleton.mpr hnumber

/-- A release is the one close there is, and what follows it is the life of an empty guard. -/
theorem settledOnce_release (h : guard.held = some owned) (hnumber : guard.number = owned.number)
    (uses : List Use) (ending : Ending) (script : Script) :
    let result := (guard.live (.release :: uses) ending : Scripted Life).run script
    result.1.SettledOnce owned script result.2 := by
  obtain ⟨hanswer, hclosed⟩ := run_shut guard owned.number script
  obtain ⟨⟨answer, closed⟩, hshut⟩ :
    ∃ result, (guard.shut owned.number : Scripted _).run script = result := ⟨_, rfl⟩
  obtain ⟨hcloses, hout, hattempts, hguards⟩ := run_live_of_empty (held_emptied guard) uses ending
    closed
  obtain ⟨⟨life, after⟩, hrest⟩ :
    ∃ result, (guard.emptied.live uses ending : Scripted Life).run closed = result := ⟨_, rfl⟩
  have hrun : (guard.live (.release :: uses) ending : Scripted Life).run script
      = (⟨guard :: life.guards, answer :: life.attempts, life.handedOut⟩, after) := by
    rw [live, release_of_held h, bind_assoc, run_bind hshut, pure_bind, run_bind hrest]
    rfl
  simp only [hshut, hrest] at *
  subst hanswer
  rw [hrun, hout]
  refine settledOnce_of_closed h hnumber (hcloses.trans hclosed) hguards ?_
  refine (List.prefix_cons_inj _).mpr ?_
  rw [List.length_cons, List.replicate_succ', ← List.eq_replicate_of_mem hattempts]
  exact List.prefix_append _ _

theorem settledOnce_of_held (h : guard.held = some owned) (hnumber : guard.number = owned.number)
    (uses : List Use) (ending : Ending) (script : Script) :
    let result := (guard.live uses ending : Scripted Life).run script
    result.1.SettledOnce owned script result.2 := by
  induction uses generalizing script with
  | nil =>
      obtain ⟨hanswer, hclosed⟩ := run_shut guard owned.number script
      obtain ⟨⟨answer, closed⟩, hshut⟩ :
        ∃ result, (guard.shut owned.number : Scripted _).run script = result := ⟨_, rfl⟩
      rw [hshut] at hanswer hclosed
      subst hanswer
      cases ending with
      | close =>
          rw [live, close_of_held h, run_bind hshut]
          exact settledOnce_of_closed h hnumber hclosed (fun _ hmem => absurd hmem List.not_mem_nil)
            (List.prefix_append [_] _)
      | handOut =>
          rw [live, handOut_of_held h]
          exact settledOnce_of_handedOut hnumber rfl
      | drop =>
          rw [live, drop_of_held h, bind_assoc, run_bind hshut]
          cases script.answer with
          | error errno =>
              exact settledOnce_of_closed h hnumber hclosed
                (fun _ hmem => absurd hmem List.not_mem_nil) List.nil_prefix
          | ok done =>
              exact settledOnce_of_closed h hnumber hclosed
                (fun _ hmem => absurd hmem List.not_mem_nil) List.nil_prefix
  | cons use uses ih =>
      cases use with
      | release => exact settledOnce_release h hnumber uses ending script
      | tellUse operation =>
          have hrest := ih { script with events := script.events ++ [guard.used operation] }
          exact hrest.of_events.cons h hnumber
      | observe => exact (ih script).cons h hnumber

/-- **Closed or handed out, once.** Whatever is done with a guard, in whatever order, and whatever
the kernel answers, the guard gives its descriptor up exactly once. -/
theorem settledOnce_wholeLife (owned : Owned) (subject : GuardSubject) (events : EventNames)
    (uses : List Use) (ending : Ending) (script : Script) :
    let result := (wholeLife owned subject events uses ending : Scripted Life).run script
    result.1.SettledOnce owned script result.2 := by
  have hnew : (Guard.new owned subject events : Scripted Guard).run script
      = (⟨some owned, owned.number, subject, events⟩, { script with events := script.events
          ++ [acquired ⟨some owned, owned.number, subject, events⟩] }) := rfl
  rw [wholeLife, run_bind hnew]
  exact (settledOnce_of_held rfl rfl uses ending _).of_events

end PidOne.Guard
