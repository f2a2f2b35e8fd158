import PidOne.Proofs.Session.Moments

/-!
# What guards tell in a run

The events that the guard of an object tells in a run are those of one life, as `Guard.Tells` has
it, wherever the guard is: in an object of its own, in a process descriptor or in a copied one. The
run is cut at the step that makes the object. Before, nothing has the name. After it, one step adds
what `Adds` says, where a guard that has its descriptor has one attempt to close it left, and any
other none: what is left and what has been made come to no more than one.
-/

namespace PidOne

namespace Step

section

variable (step : Step) (guard : Guard) (operation : String) (error : GuardError)

@[simp]
theorem teller?_acquired : step.teller? guard.acquired = step.makes? := by simp [teller?]

@[simp]
theorem teller?_used : step.teller? (guard.used operation) = step.on? := by simp [teller?]

@[simp]
theorem teller?_closed : step.teller? guard.closed = step.on? := by simp [teller?]

@[simp]
theorem teller?_closeFailed : step.teller? (guard.closeFailed error) = step.on? := by
  simp [teller?]

end

variable {step : Step} {name : String}

theorem uses_of_move? {old new : String} (h : step.move? = some (old, new)) : step.uses = [] := by
  cases step with
  | guard fd as => rfl
  | wrap fd pid as => rfl
  | handOut on as => rfl
  | _ => cases h

theorem on?_of_uses {operation : String} (h : (name, operation) ∈ step.uses) :
    step.on? = some name := by
  cases step with
  | used on operation => cases List.mem_singleton.mp h; rfl
  | copyFd on target as => cases List.mem_singleton.mp h; rfl
  | _ => cases h

theorem uses_of_letsGo? (h : step.letsGo? = some name) : step.uses = [] := by
  cases step with
  | release on => rfl
  | close on => rfl
  | drop on => rfl
  | _ => cases h

end Step

namespace Session

variable {before after session : Session} {step : Step} {outcome : Outcome} {name : String}
  {guard : Guard} {holder : Holder}

/-- The object is gone, or its guard is this one, with or without its descriptor. -/
def Follows (session : Session) (name : String) (guard : Guard) : Prop :=
  ∀ holder, session.holder? name = some holder →
    ∃ kept, holder.guard? = some kept ∧ (kept = guard ∨ kept = guard.emptied)

/-- How many attempts to close its number an object has left. -/
def budget (session : Session) (name : String) : Nat := (session.held? name).toList.length

/-- What a moment adds to what the guard of an object has told. -/
structure Adds (moment : Moment) (name : String) (guard : Guard) : Prop where
  goes : guard.Goes (moment.uses name) (moment.closings name) (moment.tells name)
  spent : (moment.closings name).length + moment.after.budget name ≤ moment.before.budget name
  follows : moment.after.Follows name guard
  idle : moment.before.holder? name = none → moment.uses name = []
  number : moment.step.letsGo? = some name →
    ∀ request ∈ moment.after.asked moment.before, request = .close guard.number
  returned : ∀ errno, ⟨false, .error errno⟩ ∈ moment.closings name →
    moment.outcome = .refused (.close errno)

/-! ## Steps that have nothing to do with the object -/

theorem ne_of_free {other : String} (hfree : before.numbers.lookup other = none)
    (hgiven : after.numbers.lookup other ≠ none)
    (hborn : before.numbers.lookup name = none → after.numbers.lookup name = none) :
    name ≠ other := by
  rintro rfl
  exact hgiven (hborn hfree)

/-- Nothing has been told by the guard of the object. -/
def Silent (before : Session) (step : Step) (after : Session) (name : String) : Prop :=
  ∀ event ∈ after.told before, step.teller? event ≠ some name

theorem silent_of_trace {told : Trace} (htrace : after.host.trace = before.host.trace ++ told)
    (h : ∀ event ∈ told.ofGuards, step.teller? event ≠ some name) :
    Silent before step after name := by
  rw [Silent, told_of_trace htrace]
  exact h

theorem silent_of_trace_eq (h : after.host.trace = before.host.trace) :
    Silent before step after name := by
  have htrace : after.host.trace = before.host.trace ++ [] := by rw [h, List.append_nil]
  exact silent_of_trace htrace nofun

theorem teller?_of_use? {event : Event} (h : event ∈ (before.use? step).toList) :
    step.teller? event = step.on? := by
  cases step with
  | used on operation =>
      obtain ⟨kept, -, rfl⟩ := Option.map_eq_some_iff.mp (Option.mem_toList.mp h)
      exact Step.teller?_used _ kept operation
  | copyFd on target as =>
      obtain ⟨kept, -, rfl⟩ := Option.map_eq_some_iff.mp (Option.mem_toList.mp h)
      exact Step.teller?_used _ kept _
  | _ => cases h

theorem teller?_of_report {event : Event} {closings : List Guard.Closing}
    (h : event ∈ closings.flatMap guard.report) : step.teller? event = step.on? := by
  obtain ⟨closing, -, hreport⟩ := List.mem_flatMap.mp h
  rcases Guard.mem_report_iff.mp hreport with ⟨-, rfl⟩ | ⟨errno, -, rfl⟩
  · exact Step.teller?_closed step guard
  · exact Step.teller?_closeFailed step guard _

theorem silent_of_parts {silent : Bool} {result : Except GuardError Unit} {kept : Guard}
    (h : kept.Parts silent before.host result after.host) (hon : step.on? ≠ some name) :
    Silent before step after name := by
  obtain ⟨told, htrace, htold⟩ := h.trace
  refine silent_of_trace htrace fun event hmem => ?_
  rw [htold] at hmem
  rwa [teller?_of_report hmem]

theorem ne_of_plain {other : String} {owned : Owned} (hfollows : before.Follows name guard)
    (hholder : before.holder? other = some holder) (hplain : holder.plain? = some owned) :
    name ≠ other := by
  rintro rfl
  obtain ⟨kept, hguard, -⟩ := hfollows holder hholder
  cases holder with
  | bare fd => cases hguard
  | owned kept => cases hguard
  | _ => cases hplain

theorem Deed.apart (h : Deed before step outcome after) (hon : step.on? ≠ some name)
    (hborn : before.numbers.lookup name = none → after.numbers.lookup name = none)
    (hfollows : before.Follows name guard) :
    Silent before step after name ∧ after.holder? name = before.holder? name := by
  cases h with
  | ignored => exact ⟨silent_of_trace_eq rfl, rfl⟩
  | noted => exact ⟨silent_of_trace_eq rfl, rfl⟩
  | stirred => exact ⟨silent_of_trace_eq rfl, rfl⟩
  | @piped as hreader hwriter =>
      have hne : name ≠ writerName as :=
        ne_of_free (lookup_of_isFree hwriter) (lookup_cons_self_ne _ _ _) hborn
      have hne' : name ≠ readerName as := by
        refine ne_of_free (lookup_of_isFree hreader) ?_ hborn
        change List.lookup _ ((_, _) :: (_, _) :: _) ≠ none
        rw [lookup_cons_eq, if_neg (writerName_ne_readerName as).symm]
        exact lookup_cons_self_ne _ _ _
      refine ⟨silent_of_trace_eq rfl, ?_⟩
      rw [holder?_bind_of_ne hne, holder?_bind_of_ne hne']
      rfl
  | asked _ h htold =>
      refine ⟨silent_of_trace h.trace fun event hmem => ?_, rfl⟩
      rw [htold] at hmem
      rwa [teller?_of_use? hmem]
  | misfit htold =>
      refine ⟨silent_of_trace rfl ?_, rfl⟩
      rw [htold]
      exact nofun
  | opened _ _ hmakes hfree _ _ htold =>
      have hne := ne_of_free (lookup_of_isFree hfree) (lookup_cons_self_ne _ _ _) hborn
      refine ⟨silent_of_trace rfl fun event hmem => ?_, holder?_bind_of_ne hne _ _⟩
      rw [htold, List.mem_append] at hmem
      rcases hmem with huse | hacquired
      · rwa [teller?_of_use? huse]
      · obtain ⟨made, -, rfl⟩ := List.mem_map.mp hacquired
        rw [Step.teller?_acquired, hmakes]
        exact fun heq => hne (Option.some.inj heq).symm
  | tookIn hmove hfree hholder hplain =>
      have hne := ne_of_free (lookup_of_isFree hfree) (lookup_cons_self_ne _ _ _) hborn
      refine ⟨silent_of_trace rfl fun event hmem => ?_, ?_⟩
      · obtain rfl : event = _ := by simpa using hmem
        rw [Step.teller?_acquired, Step.makes?_of_move? hmove]
        exact fun heq => hne (Option.some.inj heq).symm
      · rw [holder?_bind_of_ne hne]
        exact holder?_remove_of_ne (ne_of_plain hfollows hholder hplain) before
  | used hholder =>
      refine ⟨silent_of_trace rfl fun event hmem => ?_, rfl⟩
      obtain rfl : event = _ := by simpa using hmem
      rwa [Step.teller?_used]
  | @released on kept result host hholder h =>
      have hthere : ({ before with host } : Session).holder? on = some (.guard kept) := hholder
      refine ⟨silent_of_parts h hon, ?_⟩
      rw [holder?_replace hthere, Function.update_of_ne fun heq => hon (congrArg some heq.symm)]
      rfl
  | closed hholder hguard h =>
      refine ⟨silent_of_parts h hon, ?_⟩
      exact holder?_remove_of_ne (fun heq => hon (congrArg some heq.symm)) before
  | dropped hholder hguard h =>
      refine ⟨silent_of_parts h hon, ?_⟩
      exact holder?_remove_of_ne (fun heq => hon (congrArg some heq.symm)) before
  | closedPlain _ hholder hplain h =>
      refine ⟨silent_of_trace h.trace nofun, ?_⟩
      exact holder?_remove_of_ne (ne_of_plain hfollows hholder hplain) before
  | handedOut hfree =>
      have hne := ne_of_free (lookup_of_isFree hfree) (lookup_cons_self_ne _ _ _) hborn
      refine ⟨silent_of_trace_eq rfl, ?_⟩
      rw [holder?_bind_of_ne hne]
      exact holder?_remove_of_ne (fun heq => hon (congrArg some heq.symm)) before
  | keptBack =>
      refine ⟨silent_of_trace_eq rfl, ?_⟩
      exact holder?_remove_of_ne (fun heq => hon (congrArg some heq.symm)) before

/-! ## Steps that work on the object -/

theorem Follows.of_holder? (h : before.Follows name guard)
    (hafter : after.holder? name = before.holder? name) :
    after.Follows name guard := by
  intro holder hholder
  exact h holder (hafter ▸ hholder)

theorem follows_of_none (h : session.holder? name = none) : session.Follows name guard := by
  intro holder hholder
  rw [h] at hholder
  cases hholder

theorem budget_of_none (h : session.held? name = none) : session.budget name = 0 := by
  rw [budget, h]
  rfl

theorem adds_of_silent (hsilent : Silent before step after name)
    (huses : (before.perform step).isSome → ∀ operation, (name, operation) ∉ step.uses)
    (hgo : step.letsGo? ≠ some name ∨ after.asked before = [])
    (hspent : after.budget name ≤ before.budget name) (hfollows : after.Follows name guard) :
    Adds ⟨before, step, outcome, after⟩ name guard := by
  have htells : Moment.tells ⟨before, step, outcome, after⟩ name = [] := by
    rw [Moment.tells, List.filter_eq_nil_iff]
    intro event hmem
    rw [decide_eq_true_eq]
    exact hsilent event hmem
  have hnone : Moment.uses ⟨before, step, outcome, after⟩ name = [] := by
    rw [Moment.uses]
    split
    · next hunderstood =>
      rw [List.map_eq_nil_iff, List.filter_eq_nil_iff]
      rintro ⟨on, operation⟩ hmem
      rw [decide_eq_true_eq]
      rintro rfl
      exact huses hunderstood operation hmem
    · rfl
  have hclosings : Moment.closings ⟨before, step, outcome, after⟩ name = [] := by
    rw [Moment.closings]
    split
    · next hletsGo =>
      rw [List.map_eq_nil_iff]
      exact hgo.resolve_left (not_not_intro hletsGo)
    · rfl
  refine ⟨?_, ?_, hfollows, fun _ => hnone, ?_, ?_⟩
  · rw [htells, hnone, hclosings]
    exact guard.goes_nil
  · rw [hclosings]
    simpa using hspent
  · intro hletsGo request hmem
    rw [hgo.resolve_left (not_not_intro hletsGo)] at hmem
    cases hmem
  · intro errno hmem
    rw [hclosings] at hmem
    cases hmem

theorem budget_of_holder? (h : after.holder? name = before.holder? name) :
    after.budget name = before.budget name := by
  rw [budget, budget, held?, held?, h]

theorem Deed.adds_apart (h : Deed before step outcome after) (hon : step.on? ≠ some name)
    (hborn : before.numbers.lookup name = none → after.numbers.lookup name = none)
    (hfollows : before.Follows name guard) : Adds ⟨before, step, outcome, after⟩ name guard := by
  obtain ⟨hsilent, hholder⟩ := h.apart hon hborn hfollows
  have huses : ∀ operation, (name, operation) ∉ step.uses := by
    intro operation hmem
    exact hon (Step.on?_of_uses hmem)
  have hgo : step.letsGo? ≠ some name := fun hletsGo => hon (Step.on?_of_letsGo? hletsGo)
  exact adds_of_silent hsilent (fun _ => huses) (.inl hgo) (budget_of_holder? hholder).le
    (hfollows.of_holder? hholder)

/-- A step that is not understood adds nothing, whatever it names. -/
theorem adds_of_ignored (h : before.perform step = none) (hfollows : before.Follows name guard) :
    Adds ⟨before, step, outcome, before⟩ name guard := by
  refine adds_of_silent (silent_of_trace_eq rfl) ?_ (.inr (asked_of_host rfl)) le_rfl hfollows
  rw [h]
  nofun

theorem adds_use {operation : String} {told : Trace}
    (huses : step.uses = [(name, operation)]) (hgo : step.letsGo? = none)
    (hunderstood : (before.perform step).isSome)
    (htrace : after.host.trace = before.host.trace ++ told)
    (htold : (told.ofGuards.filter fun event => step.teller? event = some name)
      = [guard.used operation])
    (hthere : before.holder? name ≠ none) (hholder : after.holder? name = before.holder? name)
    (hfollows : before.Follows name guard) : Adds ⟨before, step, outcome, after⟩ name guard := by
  have htells : Moment.tells ⟨before, step, outcome, after⟩ name = [guard.used operation] := by
    rw [Moment.tells, told_of_trace htrace, htold]
  have hmade : Moment.uses ⟨before, step, outcome, after⟩ name = [operation] := by
    rw [Moment.uses, if_pos hunderstood, huses]
    simp
  have hclosings : Moment.closings ⟨before, step, outcome, after⟩ name = [] := by
    have hne : step.letsGo? ≠ some name := by simp [hgo]
    rw [Moment.closings, if_neg hne]
  refine ⟨?_, ?_, hfollows.of_holder? hholder, fun hnone => absurd hnone hthere, ?_, ?_⟩
  · rw [htells, hmade, hclosings]
    exact guard.goes_use operation
  · rw [hclosings]
    simpa using (budget_of_holder? hholder).le
  · intro hletsGo
    cases hgo.symm.trans hletsGo
  · intro errno hmem
    rw [hclosings] at hmem
    cases hmem

theorem adds_parts {silent : Bool} {kept : Guard} {result : Except GuardError Unit}
    (hgo : step.letsGo? = some name) (hsilent : decide (step = .drop name) = silent)
    (hsame : kept = guard ∨ kept = guard.emptied)
    (hnumber : ∀ owned, kept.held = some owned → owned.number = kept.number)
    (hbefore : before.held? name = kept.borrow?)
    (hparts : kept.Parts silent before.host result after.host)
    (houtcome : silent = false → outcome = guardOutcome result)
    (hafter : after.held? name = none) (hfollows : after.Follows name guard) :
    Adds ⟨before, step, outcome, after⟩ name guard := by
  obtain ⟨told, htrace, htold⟩ := hparts.trace
  have hasked := asked_of_requests hparts.requests
  have htells : Moment.tells ⟨before, step, outcome, after⟩ name
      = (kept.attempts silent before.host).flatMap kept.report := by
    rw [Moment.tells, told_of_trace htrace, htold, List.filter_eq_self]
    intro event hmem
    rw [decide_eq_true_eq, teller?_of_report hmem]
    exact Step.on?_of_letsGo? hgo
  have huses : Moment.uses ⟨before, step, outcome, after⟩ name = [] := by
    rw [Moment.uses, Step.uses_of_letsGo? hgo]
    simp
  have hclosings : Moment.closings ⟨before, step, outcome, after⟩ name
      = kept.attempts silent before.host := by
    rw [Moment.closings, if_pos hgo, hasked, List.map_map, Guard.attempts, hsilent]
    rfl
  have hreport : kept.report = guard.report := by
    rcases hsame with rfl | rfl <;> rfl
  refine ⟨?_, ?_, hfollows, fun _ => huses, ?_, ?_⟩
  · rw [htells, huses, hclosings, hreport]
    exact guard.goes_report _
  · rw [hclosings, Guard.length_attempts, budget_of_none hafter, budget, hbefore]
    exact le_rfl
  · intro _ request hmem
    rw [hasked, List.mem_map] at hmem
    obtain ⟨owned, hheld, rfl⟩ := hmem
    have hkept : kept.number = guard.number := by
      rcases hsame with rfl | rfl <;> rfl
    rw [hnumber owned (Option.mem_toList.mp hheld), hkept]
  · intro errno hmem
    rw [hclosings] at hmem
    have hfalse : silent = false := by
      obtain ⟨owned, -, howned⟩ := List.mem_map.mp hmem
      exact congrArg Guard.Closing.byDrop howned
    rw [houtcome hfalse, hparts.answer hmem]
    rfl

theorem Follows.same (h : before.Follows name guard) (hholder : before.holder? name = some holder)
    {kept : Guard} (hguard : holder.guard? = some kept) : kept = guard ∨ kept = guard.emptied := by
  obtain ⟨found, hfound, hsame⟩ := h holder hholder
  cases hguard.symm.trans hfound
  exact hsame

/-- The object goes away with its guard. -/
theorem adds_removed {silent : Bool} {kept : Guard} {result : Except GuardError Unit}
    (hgo : step.letsGo? = some name) (hsilent : decide (step = .drop name) = silent)
    (hfollows : before.Follows name guard) (hwhole : holder.Whole)
    (hholder : before.holder? name = some holder) (hguard : holder.guard? = some kept)
    (hparts : kept.Parts silent before.host result after.host)
    (houtcome : silent = false → outcome = guardOutcome result)
    (hafter : after.holder? name = none) : Adds ⟨before, step, outcome, after⟩ name guard := by
  have hnumber : ∀ owned, kept.held = some owned → owned.number = kept.number :=
    fun owned => Holder.number_of_whole hwhole hguard
  have hbefore : before.held? name = kept.borrow? :=
    (held?_of_holder? hholder).trans (held?_of_guard? hguard)
  exact adds_parts hgo hsilent (hfollows.same hholder hguard) hnumber hbefore hparts houtcome
    (held?_of_none hafter) (follows_of_none hafter)

theorem used_eq {kept : Guard} (h : kept = guard ∨ kept = guard.emptied) (operation : String) :
    kept.used operation = guard.used operation := by
  rcases h with rfl | rfl <;> rfl

/-- A copy through the process descriptor is a use of it, whether it succeeds or not. -/
theorem use?_copyFd {on as : String} {target : FdRef} {pidfd : PidFd}
    (hfollows : before.Follows on guard) (hholder : before.holder? on = some (.pidfd pidfd)) :
    before.use? (.copyFd on target as) = some (guard.used "pidfd_getfd") := by
  have hguard := guard?_of_holder? hholder
  rw [use?, hguard]
  exact congrArg some (used_eq (hfollows.same hholder rfl) _)

theorem adds_gone (huses : step.uses = []) (hhost : after.host = before.host)
    (hafter : after.holder? name = none) : Adds ⟨before, step, outcome, after⟩ name guard := by
  refine adds_of_silent (silent_of_trace_eq (congrArg Host.trace hhost)) ?_
    (.inr (asked_of_host hhost)) ?_ (follows_of_none hafter)
  · rw [huses]
    nofun
  · rw [budget_of_none (held?_of_none hafter)]
    exact Nat.zero_le _

theorem Deed.adds_on (h : Deed before step outcome after) (hunderstood : before.perform step ≠ none)
    (hon : step.on? = some name) (hnamed : before.Named) (hwhole : before.AllWhole)
    (hfollows : before.Follows name guard) : Adds ⟨before, step, outcome, after⟩ name guard := by
  have hperformed : (before.perform step).isSome := Option.isSome_iff_ne_none.mpr hunderstood
  cases h with
  | ignored h => exact absurd h hunderstood
  | noted hlooks => cases hon.symm.trans (Step.on?_of_looks hlooks)
  | stirred h => cases h <;> cases hon
  | piped => cases hon
  | asked hputs h htold =>
      cases hputs with
      | @copyFd on as ref pidfd target hholder =>
          cases hon
          rw [use?_copyFd hfollows hholder] at htold
          refine adds_use rfl rfl hperformed h.trace ?_ (by simp [hholder]) rfl hfollows
          rw [htold]
          simp [Step.on?]
      | _ => cases hon
  | misfit => cases hon
  | @opened _ request returned kernel told as made hputs _ hmakes hfree _ _ htold =>
      cases hputs with
      | @copyFd on new ref pidfd target hholder =>
          cases hon
          cases hmakes
          have hne : name ≠ as := hnamed.ne_of_lookup hholder (lookup_of_isFree hfree)
          rw [use?_copyFd hfollows hholder] at htold
          refine adds_use rfl rfl hperformed rfl ?_ (by simp [hholder])
            (holder?_bind_of_ne hne _ _) hfollows
          have hother : (made.guard?.toList.map Guard.acquired).filter
              (fun event => (Step.copyFd name ref as).teller? event = some name) = [] := by
            rw [List.filter_eq_nil_iff]
            intro event hmem
            obtain ⟨kept, -, rfl⟩ := List.mem_map.mp hmem
            simpa [Step.makes?] using hne.symm
          rw [htold, List.filter_append, hother]
          simp [Step.on?]
      | _ => cases hon
  | tookIn hmove _ hholder hplain =>
      rcases Step.on?_of_move? hmove with hnone | hold
      · cases hnone.symm.trans hon
      · cases hold.symm.trans hon
        exact absurd rfl (ne_of_plain hfollows hholder hplain)
  | @used on operation kept hholder =>
      cases hon
      refine adds_use rfl rfl hperformed rfl ?_ (by simp [hholder]) rfl hfollows
      rw [used_eq (hfollows.same hholder rfl)]
      simp [Step.on?]
  | @released on kept result host hholder hparts =>
      cases hon
      have hthere : ({ before with host } : Session).holder? name = some (.guard kept) := hholder
      have hafter := holder?_replace hthere (.guard kept.emptied)
      refine adds_parts rfl (by simp) (hfollows.same hholder rfl)
        (fun owned => Holder.number_of_whole (hwhole _ _ hholder) rfl) (held?_of_holder? hholder)
        hparts (fun _ => rfl) ?_ ?_
      · rw [held?_update hafter, Function.update_self]
        rfl
      · intro holder hleft
        rw [hafter, Function.update_self] at hleft
        cases hleft
        refine ⟨kept.emptied, rfl, .inr ?_⟩
        rcases hfollows.same hholder rfl with rfl | rfl <;> rfl
  | @closed on holder kept result host hholder hguard hparts =>
      cases hon
      exact adds_removed rfl (by simp) hfollows (hwhole _ _ hholder) hholder hguard hparts
        (fun _ => rfl) (holder?_remove_self before name)
  | @dropped on holder kept result host hholder hguard hparts =>
      cases hon
      exact adds_removed rfl (by simp) hfollows (hwhole _ _ hholder) hholder hguard hparts
        nofun (holder?_remove_self before name)
  | closedPlain hstep hholder hplain =>
      rcases hstep with rfl | rfl
      · cases hon
        exact absurd rfl (ne_of_plain hfollows hholder hplain)
      · cases hon
        exact absurd rfl (ne_of_plain hfollows hholder hplain)
  | @handedOut on new holder kept owned hfree hholder hguard hheld =>
      cases hon
      have hne : name ≠ new := hnamed.ne_of_lookup hholder (lookup_of_isFree hfree)
      refine adds_gone rfl rfl ?_
      rw [holder?_bind_of_ne hne]
      exact holder?_remove_self before name
  | keptBack =>
      cases hon
      exact adds_gone rfl rfl (holder?_remove_self before name)

/-- One step adds what it should, unless it is the one that makes the object. -/
theorem adds_step (hnamed : session.Named) (hwhole : session.AllWhole)
    (hborn : session.numbers.lookup name = none →
      (session.step step).2.numbers.lookup name = none)
    (hfollows : session.Follows name guard) :
    Adds ⟨session, step, (session.step step).1, (session.step step).2⟩ name guard := by
  cases hperform : session.perform step with
  | none =>
      have hstep : session.step step = (.badStep, session) := by
        rw [Session.step, hperform, Option.getD_none]
      rw [hstep]
      exact adds_of_ignored hperform hfollows
  | some result =>
      have hdeed := deed_step session step
      by_cases hon : step.on? = some name
      · exact hdeed.adds_on (by simp [hperform]) hon hnamed hwhole hfollows
      · exact hdeed.adds_apart hon hborn hfollows

/-! ## The step that makes the object -/

/-- A guard that appears in a step has its descriptor and tells that it has acquired it. -/
structure Born (before : Session) (step : Step) (after : Session) (name : String) (guard : Guard) :
    Prop where
  free : before.numbers.lookup name = none
  given : after.numbers.lookup name ≠ none
  makes : step.makes? = some name
  uses : ∀ operation, (name, operation) ∉ step.uses
  told : ((after.told before).filter fun event => step.teller? event = some name)
    = [guard.acquired]
  held : guard.borrow? = some guard.number

theorem guard?_remove_eq_none (h : session.guard? name = none) (other : String) :
    (session.remove other).guard? name = none := by
  rw [guard?_remove, Function.update_apply, h, ite_self]

theorem guard?_bind_eq_none {other : String} (h : session.guard? name = none)
    (hholder : holder.guard? = none) : (session.bind other holder).guard? name = none := by
  rw [guard?_bind, Function.update_apply, h, hholder, ite_self]

theorem use?_of_free {event : Event} (hnone : before.guard? name = none)
    (h : event ∈ (before.use? step).toList) : step.teller? event ≠ some name := by
  rw [teller?_of_use? h]
  intro hon
  cases step with
  | used on operation =>
      cases hon
      rw [use?, hnone] at h
      cases h
  | copyFd on target as =>
      cases hon
      rw [use?, hnone] at h
      cases h
  | _ => cases h

theorem Puts.on?_ne {request : Request} (h : before.Puts step request)
    (hfree : before.holder? name = none) : step.on? ≠ some name := by
  intro hon
  cases h with
  | copyFd hholder =>
      cases hon
      rw [hfree] at hholder
      cases hholder
  | _ => cases hon

theorem tells_of_trace {told : Trace} {events : List Event}
    (htrace : after.host.trace = before.host.trace ++ told)
    (h : (told.ofGuards.filter fun event => step.teller? event = some name) = events) :
    ((after.told before).filter fun event => step.teller? event = some name) = events := by
  rw [told_of_trace htrace]
  exact h

theorem Deed.born (h : Deed before step outcome after) (hnamed : before.Named)
    (hnone : before.guard? name = none) (hsome : after.guard? name = some guard) :
    Born before step after name guard := by
  -- all other deeds leave no guard where there was none
  have hfalse : after.guard? name = none → Born before step after name guard := by
    intro hleft
    rw [hleft] at hsome
    cases hsome
  cases h with
  | ignored => exact hfalse hnone
  | noted => exact hfalse hnone
  | stirred => exact hfalse hnone
  | piped => exact hfalse (guard?_bind_eq_none (guard?_bind_eq_none hnone rfl) rfl)
  | asked => exact hfalse hnone
  | misfit => exact hfalse hnone
  | @opened _ request returned kernel told as holder hputs h hmakes hfree hheld hwhole htold =>
      by_cases heq : name = as
      · subst heq
        rw [guard?_bind, Function.update_self] at hsome
        have hlookup := lookup_of_isFree hfree
        have huse : (before.use? step).toList.filter
            (fun event => step.teller? event = some name) = [] := by
          rw [List.filter_eq_nil_iff]
          intro event hmem
          simpa using use?_of_free hnone hmem
        refine ⟨hlookup, lookup_cons_self_ne _ _ _, hmakes, ?_, tells_of_trace rfl ?_,
          Holder.borrow?_of_whole hwhole hsome hheld⟩
        · intro operation hmem
          exact hputs.on?_ne (hnamed _ hlookup) (Step.on?_of_uses hmem)
        · rw [htold, List.filter_append, huse, hsome]
          simp [hmakes]
      · refine hfalse ?_
        rw [guard?_bind, Function.update_of_ne heq]
        exact hnone
  | @tookIn _ old new holder made owned kept hmove hfree hholder hplain hguard hheld hwhole =>
      by_cases heq : name = new
      · subst heq
        rw [guard?_bind, Function.update_self, hguard] at hsome
        cases hsome
        have hmakes := Step.makes?_of_move? hmove
        refine ⟨lookup_of_isFree hfree, lookup_cons_self_ne _ _ _, hmakes, ?_,
          tells_of_trace rfl ?_, Holder.borrow?_of_whole hwhole hguard hheld⟩
        · rw [Step.uses_of_move? hmove]
          nofun
        · simp [hmakes]
      · refine hfalse ?_
        rw [guard?_bind, Function.update_of_ne heq]
        exact guard?_remove_eq_none hnone _
  | used => exact hfalse hnone
  | @released on kept result host hholder =>
      have hthere : ({ before with host } : Session).holder? on = some (.guard kept) := hholder
      have hne : name ≠ on := by
        rintro rfl
        rw [guard?_of_holder? hholder] at hnone
        cases hnone
      refine hfalse ?_
      rw [Session.guard?, holder?_replace hthere, Function.update_of_ne hne]
      exact hnone
  | closed => exact hfalse (guard?_remove_eq_none hnone _)
  | dropped => exact hfalse (guard?_remove_eq_none hnone _)
  | closedPlain => exact hfalse (guard?_remove_eq_none hnone _)
  | handedOut => exact hfalse (guard?_bind_eq_none (guard?_remove_eq_none hnone _) rfl)
  | keptBack => exact hfalse (guard?_remove_eq_none hnone _)

end Session

end PidOne
