import PidOne.Proofs.Ownership.Exclusive
import PidOne.Proofs.Session.Apart

/-!
# Process descriptors last

A process descriptor, and a descriptor copied through one, has no way to be released and stay: its
guard can only be emptied by using the object up. So as long as the object is there it is the very
one that was made, with an active guard, whatever becomes of its number; closing it never finds it
released, and handing its descriptor out never fails.

That its number is open is another matter, since the number may be closed behind its back. Where
descriptors are closed by their holders only, the table has kept the entry under the number from the
time the object was made, so the number may be borrowed for as long as the object is there.
-/

namespace PidOne

namespace Holder

/-- The guard of an object that is there only while its guard is active. -/
def inner? : Holder → Option Guard
  | .pidfd kept => some kept.guard
  | .remote kept => some kept.guard
  | _ => none

variable {holder : Holder} {guard : Guard}

theorem guard?_of_inner? (h : holder.inner? = some guard) : holder.guard? = some guard := by
  cases holder with
  | pidfd kept => exact h
  | remote kept => exact h
  | _ => cases h

theorem held_of_inner? (h : holder.inner? = some guard) (hwhole : holder.Whole) :
    guard.held = some ⟨holder.number⟩ := by
  cases holder with
  | pidfd kept =>
      cases h
      rw [show kept = _ from hwhole]
      rfl
  | remote kept =>
      cases h
      rw [show kept = _ from hwhole]
      rfl
  | _ => cases h

theorem held?_of_inner? (h : holder.inner? = some guard) (hwhole : holder.Whole) :
    holder.held? = some holder.number := by
  rw [Session.held?_of_guard? (guard?_of_inner? h), Guard.borrow?_of_held (held_of_inner? h hwhole)]

theorem leaves_of_inner? (h : holder.inner? = some guard) (step : Step) :
    step.leaves holder = some holder ∨ step.leaves holder = none := by
  cases holder with
  | pidfd kept => cases step <;> first | exact .inl rfl | exact .inr rfl
  | remote kept => cases step <;> first | exact .inl rfl | exact .inr rfl
  | _ => cases h

end Holder

namespace Session

variable {before after session : Session} {step : Step} {outcome : Outcome} {name as : String}
  {holder made : Holder} {guard : Guard} {owned : Owned} {fd : Nat} {old : Nat → Prop}
  {kernel : Kernel} {steps earlier later : List Step}

/-! ## Since it was made -/

theorem Made.stays {other : String} {another : Holder} (h : Made before other another after)
    (hnamed : before.Named) (hholder : before.holder? name = some holder) :
    after.holder? name = some holder := by
  rw [h.holder?, Function.update_of_ne (hnamed.ne_of_lookup hholder h.free), hholder]

/-- What is under a name stays, or it is gone, or a guard is left of it. -/
theorem Change.stays (h : Change before step outcome after) (hnamed : before.Named)
    (hholder : before.holder? name = some holder) (hmade : after.holder? name = some made) :
    made = holder ∨ ∃ guard, made = .guard guard := by
  have hsame : after.holder? name = some holder → made = holder := fun hafter =>
    Option.some.inj (hmade.symm.trans hafter)
  cases h with
  | kept h => exact .inl (hsame (h.holder? ▸ hholder))
  | made h => exact .inl (hsame (h.stays hnamed hholder))
  | madeTwo first second =>
      exact .inl (hsame (second.stays (first.named hnamed) (first.stays hnamed hholder)))
  | @letGo other _ h =>
      obtain ⟨left, hafter⟩ := h.holder?
      rw [hafter, Function.update_apply] at hmade hsame
      split at hmade
      · cases left with
        | none => cases hmade
        | some kept =>
            cases hmade
            exact .inr ⟨_, rfl⟩
      · next hne => exact .inl (hsame (by rw [if_neg hne, hholder]))
  | @moved source new _ _ h =>
      obtain ⟨another, -, hafter⟩ := h.holder?
      have hne := hnamed.ne_of_lookup hholder h.free
      rw [hafter, Function.update_of_ne hne, Function.update_apply] at hmade hsame
      split at hmade
      · cases hmade
      · next hother => exact .inl (hsame (by rw [if_neg hother, hholder]))
  | closedBehind _ _ h => exact .inl (hsame (h.holder? ▸ hholder))

/-- **An object has been there unchanged since the step that made it.** -/
theorem exists_making (kernel : Kernel) (steps : List Step)
    (hholder : ((start kernel).run steps).holder? name = some holder)
    (hinner : holder.inner? = some guard) :
    ∃ earlier step later, steps = earlier ++ step :: later
      ∧ ((start kernel).run earlier).holder? name = none
      ∧ ∀ between, between <+: later →
        ((start kernel).run (earlier ++ step :: between)).holder? name = some holder := by
  induction steps using List.reverseRecOn with
  | nil => cases hholder
  | append_singleton steps step ih =>
      -- the last step has made it, or it was there before as it is now
      cases hbefore : ((start kernel).run steps).holder? name with
      | none =>
          refine ⟨steps, step, [], rfl, hbefore, fun between hbetween => ?_⟩
          rwa [List.prefix_nil.mp hbetween]
      | some before =>
          have hafter := hholder
          rw [run_concat] at hafter
          obtain rfl : holder = before := by
            rcases (change_step _ step).stays (named_run kernel steps) hbefore hafter with
              hsame | ⟨kept, rfl⟩
            · exact hsame
            · cases hinner
          obtain ⟨earlier, first, later, rfl, hnone, hsince⟩ := ih hbefore
          refine ⟨earlier, first, later ++ [step], ?_, hnone, fun between hbetween => ?_⟩
          · rw [List.append_assoc, List.cons_append]
          rcases List.prefix_concat_iff.mp hbetween with rfl | hbetween
          · rwa [List.append_assoc, List.cons_append] at hholder
          · exact hsince between hbetween

/-! ## Closing and handing out -/

theorem step_close (hholder : session.holder? name = some holder)
    (hguard : holder.guard? = some guard) :
    ∃ result after, guard.Parts false session.host result after
      ∧ session.step (.close name)
        = (guardOutcome result, { session.remove name with host := after }) := by
  obtain ⟨result, after, hrun, hparts⟩ := guard.parts_close (session.remove name).host
  have hclose : session.closeHolder name holder
      = (guardOutcome result, { session.remove name with host := after }) := by
    cases holder with
    | bare fd => cases hguard
    | owned kept => cases hguard
    | guard kept =>
        cases hguard
        rw [closeHolder, act_eq hrun]
    | pidfd kept =>
        cases hguard
        rw [closeHolder, PidFd.close, act_eq hrun]
    | remote kept =>
        cases hguard
        rw [closeHolder, RemoteFd.close, act_eq hrun]
  refine ⟨result, after, hparts, ?_⟩
  rw [step, perform, hholder]
  exact hclose

theorem step_handOut (hfree : session.isFree as = true)
    (hholder : session.holder? name = some holder) (hinner : holder.inner? = some guard)
    (hheld : guard.held = some owned) :
    session.step (.handOut name as) = (.made as, (session.remove name).bind as (.owned owned)) := by
  have hrun : (guard.handOut : Act _).run (session.remove name).host
      = (.ok owned, (session.remove name).host) := by
    rw [Guard.run_handOut, hheld]
    rfl
  cases holder with
  | pidfd kept =>
      cases hinner
      rw [step, perform, hholder]
      simp [hfree, handOut, PidFd.handOut, act_eq hrun]
  | remote kept =>
      cases hinner
      rw [step, perform, hholder]
      simp [hfree, handOut, RemoteFd.handOut, act_eq hrun]
  | _ => cases hinner

/-! ## The entry of the table -/

/-- A number that is held before and after a step, and not closed behind its holder's back, keeps
its entry. -/
theorem Change.get?_of_held (h : Change before step outcome after)
    (haccounts : Accounts before.table before.held? old) (hbefore : before.held? name = some fd)
    (hafter : after.held? name = some fd)
    (hclosed : ∀ ref, step = .closeNumber ref → before.number? ref ≠ some (fd : Int)) :
    after.table.get? fd = before.table.get? fd := by
  have hopen := haccounts.open_of_held hbefore
  cases h with
  | kept h => rw [h.table]
  | made h => exact h.get?_of_open hopen
  | madeTwo first second =>
      have hbetween := first.get?_of_open hopen
      rw [second.get?_of_open (hbetween ▸ hopen), hbetween]
  | @letGo other _ h =>
      have hne : name ≠ other := by
        rintro rfl
        rw [h.held?_eq, Function.update_self] at hafter
        cases hafter
      exact ((h.alone haccounts).others name hne).2 fd hbefore
  | moved _ h => rw [h.table_eq]
  | @closedBehind ref closed hstep hnumber h =>
      have hfd : fd ≠ closed := by
        rintro rfl
        exact hclosed ref hstep hnumber
      rw [h.table, FdTable.get?_erase, if_neg hfd]

theorem ClosedByHolders.ne_number? (h : ClosedByHolders (start kernel) (earlier ++ step :: later))
    (hheld : ((start kernel).run earlier).held? name = some fd) (ref : FdRef)
    (hstep : step = .closeNumber ref) :
    ((start kernel).run earlier).number? ref ≠ some (fd : Int) := by
  subst hstep
  intro hnumber
  have haccounts := accounts_run (h.of_earlier (List.prefix_append earlier _))
  refine h earlier ref fd ?_ hnumber (madeDuring_of_held haccounts hheld)
  exact (List.prefix_append_right_inj earlier).mpr (List.prefix_append [_] later)

theorem holder?_step_of_inner? (hnamed : session.Named)
    (hholder : session.holder? name = some holder) (hinner : holder.inner? = some guard)
    (step : Step) :
    (session.step step).2.holder? name = some holder
      ∨ (session.step step).2.holder? name = none := by
  rcases holder?_step hnamed hholder (Holder.guard?_of_inner? hinner) step with hsame | ⟨-, hleft⟩
  · exact .inl hsame
  · rw [hleft]
    exact Holder.leaves_of_inner? hinner step

/-- An object that is there at the end of a run has been there after each step. -/
theorem holder?_of_later (hholder : ((start kernel).run earlier).holder? name = some holder)
    (hinner : holder.inner? = some guard)
    (hlater : ((start kernel).run (earlier ++ step :: later)).holder? name = some made) :
    ((start kernel).run (earlier ++ [step])).holder? name = some holder := by
  have hnamed := named_run kernel earlier
  rw [run_concat]
  rcases holder?_step_of_inner? hnamed hholder hinner step with hsame | hgone
  · exact hsame
  · -- what is gone does not come back
    have hgiven := given_step (given_of_holder? hnamed hholder) step
    rw [run_append, run_cons, holder?_run_of_gone hgiven hgone] at hlater
    cases hlater

theorem holder?_of_lasting (hholder : ((start kernel).run earlier).holder? name = some holder)
    (hinner : holder.inner? = some guard)
    (hnow : ((start kernel).run (earlier ++ later)).holder? name = some made) : made = holder := by
  induction later generalizing earlier with
  | nil =>
      rw [List.append_nil, hholder] at hnow
      exact (Option.some.inj hnow).symm
  | cons step later ih =>
      have hafter := holder?_of_later hholder hinner hnow
      rw [← List.concat_append, List.concat_eq_append] at hnow
      exact ih hafter hnow

/-- From one point of a run to a later one, an object that is still there has kept its entry. -/
theorem get?_of_lasting (h : ClosedByHolders (start kernel) (earlier ++ later))
    (hholder : ((start kernel).run earlier).holder? name = some holder)
    (hinner : holder.inner? = some guard)
    (hnow : ((start kernel).run (earlier ++ later)).holder? name = some holder) :
    ((start kernel).run (earlier ++ later)).table.get? holder.number
      = ((start kernel).run earlier).table.get? holder.number := by
  induction later generalizing earlier with
  | nil => rw [List.append_nil]
  | cons step later ih =>
      have hwhole : holder.Whole := allWhole_run kernel earlier name holder hholder
      have hheld := Holder.held?_of_inner? hinner hwhole
      have hbefore : ((start kernel).run earlier).held? name = some holder.number := by
        rw [held?_of_holder? hholder, hheld]
      have haccounts := accounts_run (h.of_earlier (List.prefix_append earlier _))
      have hchange := change_step ((start kernel).run earlier) step
      have hclosed := h.ne_number? hbefore
      have hafter := holder?_of_later hholder hinner hnow
      rw [← List.concat_append, List.concat_eq_append] at h hnow ⊢
      rw [ih h hafter hnow]
      rw [run_concat] at hafter ⊢
      refine hchange.get?_of_held haccounts hbefore ?_ hclosed
      rw [held?_of_holder? hafter, hheld]

/-! ## The result -/

/-- What holds of a process descriptor, or a copied one, whatever is closed behind its back. -/
structure Active (initial : Session) (steps : List Step) (name : String) (holder : Holder)
    (guard : Guard) : Prop where
  active : guard.isActive = true
  borrow? : guard.borrow? = some holder.number
  /-- It is what it was made as, so it has the number it was made with. -/
  made : ∃ earlier step later, steps = earlier ++ step :: later
    ∧ (initial.run earlier).holder? name = none
    ∧ ∀ between, between <+: later →
      (initial.run (earlier ++ step :: between)).holder? name = some holder
  closes : ((initial.run steps).step (.close name)).1 ≠ .refused .alreadyReleased
  handsOut : ∀ as, (initial.run steps).isFree as = true →
    ((initial.run steps).step (.handOut name as)).1 = .made as
      ∧ ((initial.run steps).step (.handOut name as)).2.holder? as
        = some (.owned ⟨holder.number⟩)

/-- What holds of its number where descriptors are closed by their holders only. -/
structure Sound (initial : Session) (steps : List Step) (name : String) (holder : Holder) :
    Prop where
  isOpen : (initial.run steps).Open holder.number
  /-- Under the number is the same open file as at every point since the object was made. -/
  sameFile : ∀ earlier later, steps = earlier ++ later →
    (initial.run earlier).holder? name = some holder →
      (initial.run steps).table.get? holder.number = (initial.run earlier).table.get? holder.number
        ∧ ∀ resource, (initial.run earlier).host.kernel.resource? holder.number = some resource →
          (initial.run steps).host.kernel.resource? holder.number = some resource
  closes : ((initial.run steps).step (.close name)).1 = .done

theorem active_of_holder? (kernel : Kernel) (steps : List Step)
    (hholder : ((start kernel).run steps).holder? name = some holder)
    (hinner : holder.inner? = some guard) : Active (start kernel) steps name holder guard := by
  have hwhole : holder.Whole := allWhole_run kernel steps name holder hholder
  have hheld := Holder.held_of_inner? hinner hwhole
  refine ⟨Guard.isActive_of_held hheld, Guard.borrow?_of_held hheld,
    exists_making kernel steps hholder hinner, ?_, fun as hfree => ?_⟩
  · obtain ⟨result, after, hparts, hclose⟩ := step_close hholder (Holder.guard?_of_inner? hinner)
    rw [hclose]
    intro houtcome
    cases result with
    | ok value => cases houtcome
    | error error =>
        cases houtcome
        obtain ⟨hempty, -⟩ := hparts.of_alreadyReleased
        rw [hheld] at hempty
        cases hempty
  · rw [step_handOut hfree hholder hinner hheld, holder?_bind, Function.update_self]
    exact ⟨rfl, rfl⟩

theorem sound_of_holder? (h : ClosedByHolders (start kernel) steps)
    (hholder : ((start kernel).run steps).holder? name = some holder)
    (hinner : holder.inner? = some guard) : Sound (start kernel) steps name holder := by
  have hwhole : holder.Whole := allWhole_run kernel steps name holder hholder
  have hheld : ((start kernel).run steps).held? name = some holder.number := by
    rw [held?_of_holder? hholder, Holder.held?_of_inner? hinner hwhole]
  have hopen := open_iff.mpr ((accounts_run h).open_of_held hheld)
  refine ⟨hopen, ?_, ?_⟩
  · rintro earlier later rfl hbefore
    have htable := get?_of_lasting h hbefore hinner hholder
    refine ⟨htable, fun resource => ?_⟩
    have hfiles := files_run ((start kernel).run earlier) later
    rw [← run_append] at hfiles
    exact resource?_stays hfiles htable
  · obtain ⟨result, after, hparts, hclose⟩ := step_close hholder (Holder.guard?_of_inner? hinner)
    rw [hclose]
    have hborrow := Guard.borrow?_of_held (Holder.held_of_inner? hinner hwhole)
    exact guardOutcome_of_open hparts hborrow hopen

/-- **A process descriptor that is there is active.** So is a copied one, at every point of every
run, numbers closed behind the backs of their holders included: it is what it was made as, closing
it does not find it released, and its descriptor can be handed out. Where descriptors are closed by
their holders only its number is open on the file it was made with, and closing it succeeds. -/
theorem staysActive_run (kernel : Kernel) (steps : List Step) (name : String) (holder : Holder)
    (guard : Guard) (hholder : ((start kernel).run steps).holder? name = some holder)
    (hinner : holder.inner? = some guard) :
    Active (start kernel) steps name holder guard
      ∧ (ClosedByHolders (start kernel) steps → Sound (start kernel) steps name holder) :=
  ⟨active_of_holder? kernel steps hholder hinner, fun h => sound_of_holder? h hholder hinner⟩

/-- A copy is sound, and still active after its number has been closed behind its back. -/
theorem staysActive_run_copy :
    let initial := start (.boot 100 false)
    let steps : List Step := [.openPid .self 0 "process", .copyFd "process" (.number 1) "copy"]
    let copy := RemoteFd.holding ⟨4⟩ 100 1
    (initial.run steps).holder? "copy" = some (.remote copy)
      ∧ Sound initial steps "copy" (.remote copy)
      ∧ Active initial (steps ++ [.closeNumber (.object "copy")]) "copy" (.remote copy)
        copy.guard := by
  intro initial steps copy
  have hholder : (initial.run steps).holder? "copy" = some (.remote copy) := by decide
  have hclosed : ClosedByHolders initial steps := by
    intro earlier ref fd hearlier
    have hmem := hearlier.subset (List.mem_append_right earlier (List.mem_singleton_self _))
    simp [steps] at hmem
  refine ⟨hholder, (staysActive_run _ steps _ _ copy.guard hholder rfl).2 hclosed, ?_⟩
  exact (staysActive_run _ _ "copy" (.remote copy) copy.guard (by decide) rfl).1

end Session

end PidOne
