import PidOne.Proofs.Ownership.NoLeak

/-!
# Every descriptor has one holder

As long as descriptors made in a run are closed by their holders only, objects and descriptors
belong together one to one: every descriptor made in the run and still open is held by one object,
and no object holds anything else. So an object that is let go closes its own descriptor, which is
open, and no other; and an object that is made of another one goes on with the same descriptor.

The invariant is `Accounts`. A close by number is allowed where it hits a number that was open
before the run or is free: then no object holds it.
-/

namespace PidOne.Session

/-- Numbers are closed directly only where nothing made in the run is open on them. -/
def ClosedByHolders (initial : Session) (steps : List Step) : Prop :=
  ∀ earlier ref, ∀ fd : Nat, earlier ++ [.closeNumber ref] <+: steps →
    (initial.run earlier).number? ref = some (fd : Int) → ¬ MadeDuring initial earlier fd

/-- The name under which an object goes on after a step: another one may have been made of it. -/
def follow (session : Session) (name : String) (step : Step) : String :=
  match step.move? with
  | some (old, new) => if old = name ∧ (session.perform step).isSome then new else name
  | none => name

/-- The name under which an object goes on after some steps. -/
def heir (session : Session) (name : String) : List Step → String
  | [] => name
  | step :: steps => (session.step step).2.heir (session.follow name step) steps

/-- In one of the steps the object is let go, under the name it has by then. -/
def LetGoDuring (session : Session) (name : String) : List Step → Prop
  | [] => False
  | step :: steps => step.letsGo? = some name ∧ (session.perform step).isSome = true
    ∨ (session.step step).2.LetGoDuring (session.follow name step) steps

/-- An object has closed what it held and nothing else. -/
structure LetGoAlone (before : Session) (name : String) (outcome : Outcome) (after : Session) :
    Prop where
  granted : ∀ fd, before.held? name = some fd →
    before.host.kernel.serve (.close fd) = .ok (0, after.host.kernel)
      ∧ after.host.requests = before.host.requests ++ [.close fd]
      ∧ (outcome = .done ∨ outcome = .returned 0 none)
  empty : before.held? name = none →
    after.host.kernel = before.host.kernel ∧ after.host.requests = before.host.requests
  gone : after.held? name = none
  others : ∀ other, other ≠ name → after.holder? other = before.holder? other
    ∧ ∀ fd, before.held? other = some fd → after.table.get? fd = before.table.get? fd

/-- How objects and descriptors belong together at the end of a run. -/
structure Exclusive (initial : Session) (steps : List Step) : Prop where
  injective : ∀ name other fd, (initial.run steps).held? name = some fd →
    (initial.run steps).held? other = some fd → name = other
  image : ∀ fd, (∃ name, (initial.run steps).held? name = some fd) ↔ MadeDuring initial steps fd
  letGo : ∀ step name outcome after, step.letsGo? = some name →
    (initial.run steps).perform step = some (outcome, after) →
      LetGoAlone (initial.run steps) name outcome after
  /-- Taking an object into another one, or handing its descriptor out. -/
  moved : ∀ step old new fd outcome after, step.move? = some (old, new) →
    (initial.run steps).held? old = some fd →
      (initial.run steps).perform step = some (outcome, after) →
        Moved (initial.run steps) old new fd outcome after
  /-- However often an object has been made into another one, it has its number and its open file
  until it is let go. -/
  followed : ∀ earlier later, steps = earlier ++ later → ∀ name fd,
    (initial.run earlier).held? name = some fd → ¬ (initial.run earlier).LetGoDuring name later →
      (initial.run steps).held? ((initial.run earlier).heir name later) = some fd
        ∧ (initial.run steps).table.get? fd = (initial.run earlier).table.get? fd

variable {before after : Session} {step : Step} {outcome : Outcome} {name : String} {fd : Nat}
  {old : Nat → Prop} {kernel : Kernel} {steps : List Step}

/-! ## What a change keeps -/

theorem Made.accounts {holder : Holder} (h : Made before name holder after)
    (hnamed : before.Named) (hold : ∀ fd, old fd → before.table.get? fd ≠ none)
    (haccounts : Accounts before.table before.held? old) :
    Accounts after.table after.held? old := by
  obtain ⟨descriptor, htable⟩ := h.table
  rw [htable, h.held?_eq]
  refine haccounts.insert (held?_of_none (hnamed _ h.free)) (fun hlowest => ?_) descriptor
  exact hold _ hlowest before.table.get?_lowestFree

theorem Made.get?_of_open {holder : Holder} (h : Made before name holder after)
    (hopen : before.table.get? fd ≠ none) : after.table.get? fd = before.table.get? fd := by
  obtain ⟨descriptor, htable⟩ := h.table
  rw [htable, FdTable.get?_insert, if_neg (ne_lowestFree hopen)]

theorem Change.accounts (h : Change before step outcome after) (hnamed : before.Named)
    (hold : ∀ fd, old fd → before.table.get? fd ≠ none)
    (hclosed : ∀ ref, ∀ fd : Nat, step = .closeNumber ref → before.number? ref = some (fd : Int) →
      ∀ name, before.held? name ≠ some fd)
    (haccounts : Accounts before.table before.held? old) :
    Accounts after.table after.held? old := by
  cases h with
  | kept h =>
      rw [h.table, held?_eq h.holder?]
      exact haccounts
  | made h => exact h.accounts hnamed hold haccounts
  | madeTwo first second =>
      refine second.accounts (first.named hnamed) (fun fd hfd => ?_)
        (first.accounts hnamed hold haccounts)
      rw [first.get?_of_open (hold fd hfd)]
      exact hold fd hfd
  | letGo _ h =>
      rw [h.table_eq, h.held?_eq]
      exact haccounts.letGo _
  | moved _ h =>
      rw [h.table_eq, h.held?_eq]
      exact haccounts.move h.held (held?_of_none (hnamed _ h.free))
  | closedBehind hstep hnumber h =>
      rw [h.table, held?_eq h.holder?]
      exact haccounts.erase (hclosed _ _ hstep hnumber)

theorem LetGo.alone (h : LetGo before name outcome after)
    (haccounts : Accounts before.table before.held? old) :
    LetGoAlone before name outcome after where
  granted := by
    intro fd hheld
    have hopen : before.host.kernel.isOpen fd = true :=
      open_iff.mpr (haccounts.open_of_held hheld)
    have hkernel := h.closed.kernel
    have hrequests := h.closed.requests
    rw [hheld] at hkernel hrequests
    refine ⟨?_, hrequests, h.outcome fd hheld hopen⟩
    rw [hkernel, Kernel.serve_close_open hopen]
    rfl
  empty := by
    intro hheld
    have hkernel := h.closed.kernel
    have hrequests := h.closed.requests
    rw [hheld] at hkernel hrequests
    exact ⟨hkernel, by simpa using hrequests⟩
  gone := by rw [h.held?_eq, Function.update_self]
  others := by
    intro other hne
    obtain ⟨left, hholder⟩ := h.holder?
    refine ⟨by rw [hholder, Function.update_of_ne hne], fun fd hother => ?_⟩
    rw [h.table_eq]
    cases hheld : before.held? name with
    | none => rfl
    | some closed =>
        have hfd : fd ≠ closed := by
          rintro rfl
          exact hne (haccounts.injective hother hheld)
        rw [Option.elim_some, FdTable.get?_erase, if_neg hfd]

/-! ## Following an object -/

theorem Made.keeps {other : String} {holder : Holder} (h : Made before other holder after)
    (hnamed : before.Named) (hopen : before.table.get? fd ≠ none)
    (hheld : before.held? name = some fd) :
    after.held? name = some fd ∧ after.table.get? fd = before.table.get? fd := by
  have hne : name ≠ other := by
    rintro rfl
    rw [held?_of_none (hnamed _ h.free)] at hheld
    cases hheld
  exact ⟨by rwa [h.held?_eq, Function.update_of_ne hne], h.get?_of_open hopen⟩

/-- An object keeps its descriptor where it is not let go or made into another one. -/
theorem Change.keeps (h : Change before step outcome after) (hnamed : before.Named)
    (haccounts : Accounts before.table before.held? old) (hheld : before.held? name = some fd)
    (hstay : step.letsGo? ≠ some name) (hmove : ∀ new, step.move? ≠ some (name, new))
    (hclosed : ∀ ref, step = .closeNumber ref → before.number? ref ≠ some (fd : Int)) :
    after.held? name = some fd ∧ after.table.get? fd = before.table.get? fd := by
  have hopen := haccounts.open_of_held hheld
  cases h with
  | kept h => exact ⟨by rwa [held?_eq h.holder?], by rw [h.table]⟩
  | made h => exact h.keeps hnamed hopen hheld
  | madeTwo first second =>
      obtain ⟨hfirst, htable⟩ := first.keeps hnamed hopen hheld
      obtain ⟨hsecond, htable'⟩ := second.keeps (first.named hnamed) (by rwa [htable]) hfirst
      exact ⟨hsecond, htable'.trans htable⟩
  | @letGo other hstep h =>
      have hne : name ≠ other := by
        rintro rfl
        rcases hstep with hstep | hempty
        · exact hstay hstep
        · rw [hempty] at hheld
          cases hheld
      obtain ⟨hsame, htable⟩ := (h.alone haccounts).others name hne
      exact ⟨by rwa [held?, hsame], htable fd hheld⟩
  | @moved other new moved hstep h =>
      have hother : name ≠ other := by
        rintro rfl
        exact hmove new hstep
      have hnew : name ≠ new := by
        rintro rfl
        rw [held?_of_none (hnamed _ h.free)] at hheld
        cases hheld
      refine ⟨?_, by rw [h.table_eq]⟩
      rwa [h.held?_eq, Function.update_of_ne hnew, Function.update_of_ne hother]
  | @closedBehind ref closed hstep hnumber h =>
      have hfd : fd ≠ closed := by
        rintro rfl
        exact hclosed ref hstep hnumber
      exact ⟨by rwa [held?_eq h.holder?], by rw [h.table, FdTable.get?_erase, if_neg hfd]⟩

theorem moved_of_perform {new : String} (hmove : step.move? = some (name, new))
    (hheld : before.held? name = some fd) (h : before.perform step = some (outcome, after)) :
    Moved before name new fd outcome after := by
  rcases move_of_perform hmove h with ⟨number, hmoved⟩ | ⟨hempty, _⟩
  · have hnumber : number = fd := Option.some.inj (hmoved.held.symm.trans hheld)
    rwa [hnumber] at hmoved
  · rw [hempty] at hheld
    cases hheld

theorem follow_of_not_understood (h : before.perform step = none) :
    before.follow name step = name := by
  rw [follow]
  split
  · rw [if_neg (by simp [h])]
  · rfl

theorem follow_of_stay (h : ∀ new, step.move? ≠ some (name, new)) :
    before.follow name step = name := by
  rw [follow]
  split
  · next source new hmove =>
    refine if_neg fun hboth => h new ?_
    rw [hmove, hboth.1]
  · rfl

theorem follow_of_move {new : String} (hmove : step.move? = some (name, new))
    (h : before.perform step = some (outcome, after)) : before.follow name step = new := by
  rw [follow, hmove]
  exact if_pos ⟨rfl, by rw [h, Option.isSome_some]⟩

theorem held?_follow (hnamed : before.Named)
    (haccounts : Accounts before.table before.held? old) (hheld : before.held? name = some fd)
    (hstay : ¬ (step.letsGo? = some name ∧ (before.perform step).isSome = true))
    (hclosed : ∀ ref, step = .closeNumber ref → before.number? ref ≠ some (fd : Int)) :
    (before.step step).2.held? (before.follow name step) = some fd
      ∧ (before.step step).2.table.get? fd = before.table.get? fd := by
  rw [Session.step]
  cases hperform : before.perform step with
  | none =>
      rw [follow_of_not_understood hperform]
      exact ⟨hheld, rfl⟩
  | some result =>
      obtain ⟨outcome, after⟩ := result
      by_cases hmove : ∃ new, step.move? = some (name, new)
      · obtain ⟨new, hmove⟩ := hmove
        have hmoved := moved_of_perform hmove hheld hperform
        rw [follow_of_move hmove hperform]
        refine ⟨?_, by rw [Option.getD_some, hmoved.table_eq]⟩
        rw [Option.getD_some, hmoved.held?_eq, Function.update_self]
      · rw [follow_of_stay (not_exists.mp hmove)]
        refine (deed_of_perform hperform).change.keeps hnamed haccounts hheld ?_ (not_exists.mp hmove)
          hclosed
        exact fun hlets => hstay ⟨hlets, by rw [hperform, Option.isSome_some]⟩

/-! ## Runs -/

theorem accounts_start (kernel : Kernel) :
    Accounts (start kernel).table (start kernel).held? (OpenThroughout (start kernel) []) where
  covers := covers_start kernel
  injective := nofun
  open_of_held := nofun
  not_old := nofun

theorem madeDuring_of_held
    (h : Accounts ((start kernel).run steps).table ((start kernel).run steps).held?
      (OpenThroughout (start kernel) steps))
    (hheld : ((start kernel).run steps).held? name = some fd) :
    MadeDuring (start kernel) steps fd :=
  madeDuring_iff.mpr ⟨open_iff.mpr (h.open_of_held hheld), h.not_old hheld⟩

theorem ClosedByHolders.of_earlier {initial : Session} {earlier : List Step}
    (h : ClosedByHolders initial steps) (hearlier : earlier <+: steps) :
    ClosedByHolders initial earlier :=
  fun first ref fd hfirst => h first ref fd (hfirst.trans hearlier)

theorem accounts_run (h : ClosedByHolders (start kernel) steps) :
    Accounts ((start kernel).run steps).table ((start kernel).run steps).held?
      (OpenThroughout (start kernel) steps) := by
  induction steps using List.reverseRecOn with
  | nil => exact accounts_start kernel
  | append_singleton steps step ih =>
      have haccounts := ih (h.of_earlier (List.prefix_append _ _))
      have hafter := (change_step _ step).accounts (named_run kernel steps)
        (fun fd hold => open_iff.mp (hold steps (List.prefix_refl _))) ?_ haccounts
      · rw [← run_concat] at hafter
        refine hafter.mono fun fd hopen => ?_
        rw [openThroughout_concat, and_iff_left (open_iff.mpr hopen)]
      · rintro ref fd rfl hnumber name hheld
        exact h steps ref fd (List.prefix_refl _) hnumber (madeDuring_of_held haccounts hheld)

theorem held?_heir {earlier later : List Step}
    (h : ClosedByHolders (start kernel) (earlier ++ later))
    (hheld : ((start kernel).run earlier).held? name = some fd)
    (hstay : ¬ ((start kernel).run earlier).LetGoDuring name later) :
    ((start kernel).run (earlier ++ later)).held? (((start kernel).run earlier).heir name later)
        = some fd
      ∧ ((start kernel).run (earlier ++ later)).table.get? fd
        = ((start kernel).run earlier).table.get? fd := by
  induction later generalizing earlier name with
  | nil =>
      rw [List.append_nil]
      exact ⟨hheld, rfl⟩
  | cons step later ih =>
      obtain ⟨hnow, hlater⟩ := not_or.mp hstay
      have haccounts := accounts_run (h.of_earlier (List.prefix_append earlier _))
      have hclosed : ∀ ref, step = .closeNumber ref →
          ((start kernel).run earlier).number? ref ≠ some (fd : Int) := by
        rintro ref rfl hnumber
        refine h earlier ref fd ?_ hnumber (madeDuring_of_held haccounts hheld)
        exact (List.prefix_append_right_inj earlier).mpr (List.prefix_append [_] later)
      obtain ⟨hstep, htable⟩ := held?_follow (named_run kernel earlier) haccounts hheld hnow hclosed
      rw [← run_concat] at hstep hlater htable
      rw [← List.concat_append, List.concat_eq_append] at h ⊢
      obtain ⟨hend, htable'⟩ := ih h hstep hlater
      rw [heir, ← run_concat]
      exact ⟨hend, htable'.trans htable⟩

/-- **Every descriptor has one holder.** Of every kernel and every run in which what is made is
closed by its holders only. -/
theorem exclusive_run (h : ClosedByHolders (start kernel) steps) :
    Exclusive (start kernel) steps := by
  have haccounts := accounts_run h
  refine ⟨fun _ _ _ => haccounts.injective, fun fd => ⟨?_, held_of_madeDuring⟩, ?_, ?_, ?_⟩
  · rintro ⟨name, hheld⟩
    exact madeDuring_of_held haccounts hheld
  · intro step name outcome after hstep hperform
    exact (letGo_of_perform hstep hperform).alone haccounts
  · intro step source new fd outcome after hmove hheld hperform
    exact moved_of_perform hmove hheld hperform
  · rintro earlier later rfl name fd hheld hstay
    exact held?_heir h hheld hstay

theorem closedByHolders_cons {initial : Session} {ref : FdRef}
    (h : ∀ ref, Step.closeNumber ref ∉ steps) :
    ClosedByHolders initial (.closeNumber ref :: steps) := by
  intro earlier ref fd hearlier _ hmade
  cases earlier with
  | nil =>
      obtain ⟨hopen, before, hbefore, hfree⟩ := hmade
      rw [List.prefix_nil.mp hbefore] at hfree
      exact hfree hopen
  | cons first earlier =>
      obtain ⟨_, hrest⟩ := List.cons_prefix_cons.mp hearlier
      exact h ref (hrest.subset (List.mem_append_right _ (List.mem_singleton_self _)))

/-- The process closes its standard input, and the number comes back under a process descriptor that
is handed out and taken in again. -/
theorem exclusive_run_input :
    let initial := start (.boot 100 false)
    let steps : List Step := [.closeNumber (.number 0), .openPid .self 0 "made",
      .handOut "made" "plain", .openPid .self 0 "other", .wrap "plain" .self "again"]
    ClosedByHolders initial steps ∧ (initial.run steps).held? "again" = some 0
      ∧ (initial.run steps).held? "other" = some 3 ∧ Exclusive initial steps := by
  intro initial steps
  have hclosed : ClosedByHolders initial steps := closedByHolders_cons (by simp)
  exact ⟨hclosed, by decide, by decide, exclusive_run hclosed⟩

end PidOne.Session
