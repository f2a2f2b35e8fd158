import PidOne.Proofs.Ownership.Accounts
import PidOne.Proofs.Session.Run

/-!
# No descriptor is lost

Whatever is done in a run, and whatever numbers are closed behind the backs of their holders, every
descriptor made in the run has the number of an object that will still close it. So when all objects
have been dropped, in any order, the process has no descriptor but those it had all along.

The invariant is `Covers`, where the old numbers are those that have been open throughout the run.
It speaks of numbers and not of who made what: after a close behind its holder's back a number may
come back under a second object, and then it is the first of the two to go that closes it.
-/

namespace PidOne.Session

variable {before after session : Session} {step : Step} {outcome : Outcome} {name : String}
  {old : Nat → Prop} {kernel : Kernel} {steps : List Step}

/-! ## What a change keeps -/

theorem Made.covers {holder : Holder} (h : Made before name holder after) (hnamed : before.Named)
    (hcovers : Covers before.table before.held? old) : Covers after.table after.held? old := by
  obtain ⟨descriptor, htable⟩ := h.table
  rw [htable, h.held?_eq]
  exact hcovers.insert (held?_of_none (hnamed _ h.free)) descriptor

theorem Change.covers (h : Change before step outcome after) (hnamed : before.Named)
    (hcovers : Covers before.table before.held? old) : Covers after.table after.held? old := by
  cases h with
  | kept h =>
      rw [h.table, held?_eq h.holder?]
      exact hcovers
  | made h => exact h.covers hnamed hcovers
  | madeTwo first second => exact second.covers (first.named hnamed) (first.covers hnamed hcovers)
  | letGo _ h =>
      rw [h.table_eq, h.held?_eq]
      exact hcovers.letGo _
  | moved _ h =>
      rw [h.table_eq, h.held?_eq]
      exact hcovers.move h.held (held?_of_none (hnamed _ h.free))
  | closedBehind _ _ h =>
      rw [h.table, held?_eq h.holder?]
      exact hcovers.erase _

/-! ## Runs -/

theorem covers_start (kernel : Kernel) :
    Covers (start kernel).table (start kernel).held? (OpenThroughout (start kernel) []) := by
  intro fd hopen
  refine .inr fun earlier hearlier => ?_
  rw [List.prefix_nil.mp hearlier]
  exact open_iff.mpr hopen

theorem covers_run (kernel : Kernel) (steps : List Step) :
    Covers ((start kernel).run steps).table ((start kernel).run steps).held?
      (OpenThroughout (start kernel) steps) := by
  induction steps using List.reverseRecOn with
  | nil => exact covers_start kernel
  | append_singleton steps step ih =>
      have hcovers := (change_step _ step).covers (named_run kernel steps) ih
      rw [← run_concat] at hcovers
      exact hcovers.mono fun fd hold hopen => openThroughout_concat.mpr ⟨hold, open_iff.mpr hopen⟩

theorem held_of_madeDuring {fd : Nat} (h : MadeDuring (start kernel) steps fd) :
    ∃ name, ((start kernel).run steps).held? name = some fd := by
  obtain ⟨hopen, hmade⟩ := madeDuring_iff.mp h
  rcases covers_run kernel steps fd (open_iff.mp hopen) with hheld | hold
  · exact hheld
  · exact absurd hold hmade

/-! ## Dropping -/

theorem held?_drop (session : Session) (name : String) :
    (session.step (.drop name)).2.held? = Function.update session.held? name none := by
  cases hholder : session.holder? name with
  | none =>
      rw [step, perform, hholder]
      exact (Function.update_eq_self_iff.mpr (held?_of_none hholder).symm).symm
  | some holder =>
      have hdrop : session.perform (.drop name)
          = some (.done, ((session.remove name).act holder.drop).2) := by
        rw [perform, hholder]
        rfl
      rw [step, hdrop]
      exact (letGo_of_perform rfl hdrop).held?_eq

theorem held?_run_drop (session : Session) (names : List String) :
    (session.run (names.map .drop)).held? name
      = if name ∈ names then none else session.held? name := by
  induction names generalizing session with
  | nil => rfl
  | cons first names ih =>
      change ((session.step (.drop first)).2.run (names.map .drop)).held? name = _
      rw [ih, held?_drop, Function.update_apply]
      by_cases hname : name = first
      · simp [hname]
      · simp [hname]

theorem dropName_eq (session : Session) (name : String) :
    session.dropName name = (session.step (.drop name)).2 := by
  rw [dropName, step, perform]
  cases session.holder? name with
  | none => rfl
  | some holder => rfl

/-- At the end the objects are dropped in the order of their names. -/
theorem finish_eq_run (session : Session) :
    session.finish = session.run (session.names.map .drop) := by
  rw [finish, run, List.foldl_map]
  refine congrArg (List.foldl · session session.names) ?_
  funext session name
  exact dropName_eq session name

theorem mem_holders_of_held? (h : session.held? name ≠ none) :
    name ∈ session.holders.map Prod.fst := by
  rw [held?] at h
  cases hholder : session.holder? name with
  | none =>
      rw [hholder] at h
      exact absurd rfl h
  | some holder =>
      rw [holder?, List.lookup_eq_some_iff] at hholder
      obtain ⟨front, back, hholders, _⟩ := hholder
      rw [hholders]
      simp

theorem mem_names_of_held? (h : session.held? name ≠ none) : name ∈ session.names :=
  List.mem_mergeSort.mpr (mem_holders_of_held? h)

/-! ## The result -/

/-- At the end of a run no descriptor is lost. -/
structure NoLeak (initial : Session) (steps : List Step) : Prop where
  covered : ∀ fd, MadeDuring initial steps fd → ∃ name, (initial.run steps).held? name = some fd
  /-- After everything that holds a number has been dropped, in any order, nothing is open that was
  made in the run. -/
  dropped : ∀ names : List String,
    (∀ name, (initial.run steps).held? name ≠ none → name ∈ names) →
      ∀ fd, ¬ MadeDuring initial (steps ++ names.map .drop) fd
  finished : ∀ fd, (initial.run steps).finish.Open fd → OpenThroughout initial steps fd

theorem not_madeDuring_of_dropped (kernel : Kernel) (steps : List Step) (names : List String)
    (hnames : ∀ name, ((start kernel).run steps).held? name ≠ none → name ∈ names) (fd : Nat) :
    ¬ MadeDuring (start kernel) (steps ++ names.map .drop) fd := by
  intro hmade
  obtain ⟨name, hheld⟩ := held_of_madeDuring hmade
  rw [run_append, held?_run_drop] at hheld
  split at hheld
  · cases hheld
  · next hname =>
    refine hname (hnames name fun hnone => ?_)
    rw [hnone] at hheld
    cases hheld

/-- **No descriptor is lost.** Of every kernel and every run, whatever numbers are closed behind the
backs of their holders. -/
theorem noLeak_run (kernel : Kernel) (steps : List Step) : NoLeak (start kernel) steps where
  covered := fun _ => held_of_madeDuring
  dropped := not_madeDuring_of_dropped kernel steps
  finished := by
    intro fd hopen earlier hearlier
    rw [finish_eq_run, ← run_append] at hopen
    have hkept := not_madeDuring_of_dropped kernel steps _ (fun _ => mem_names_of_held?) fd
    rw [madeDuring_iff, not_and_not_right] at hkept
    exact hkept hopen earlier (hearlier.trans (List.prefix_append _ _))

/-- A number is closed behind the back of the object that was made with it and comes back under
another one. Both hold it, and dropping both leaves nothing behind. -/
theorem noLeak_run_shared :
    let initial := start (.boot 100 false)
    let steps : List Step := [.openPid .self 0 "first", .closeNumber (.object "first"),
      .openPid .self 0 "second"]
    (initial.run steps).held? "first" = some 3 ∧ (initial.run steps).held? "second" = some 3
      ∧ MadeDuring initial steps 3
      ∧ ∀ fd, ¬ MadeDuring initial (steps ++ ["second", "first"].map .drop) fd := by
  intro initial steps
  refine ⟨by decide, by decide, ⟨by decide, [], List.nil_prefix, by decide⟩, ?_⟩
  refine (noLeak_run (.boot 100 false) steps).dropped _ fun name hheld => ?_
  have hholders : (initial.run steps).holders.map Prod.fst = ["second", "first"] := by decide
  exact hholders ▸ mem_holders_of_held? hheld

end PidOne.Session
