import PidOne.Proofs.Session.Telling

/-!
# The chronicle of a run

Every guard made in a run tells of its life as `Guard.Tells` has it, and no event is told by anybody
else. A name is given once, so a guard is known by the name of its object: what the guard tells is
what is told under that name in all of the run.
-/

namespace PidOne

namespace Session

variable {session : Session} {name : String} {guard : Guard} {moments : List Moment}
  {moment : Moment} {steps : List Step}

/-- What the guard made under a name tells in a run, and what it asks for. -/
structure Chronicled (run : List Moment) (name : String) (guard : Guard) : Prop where
  tells : guard.Tells (run.flatMap (·.uses name)) (run.flatMap (·.closings name))
    (run.flatMap (·.tells name))
  /-- Each event behind the first is told in the step that it is about. -/
  prompt : ∀ moment ∈ run, moment.before.guard? name ≠ none →
    guard.Goes (moment.uses name) (moment.closings name) (moment.tells name)
  number : guard.borrow? = some guard.number
  closes : ∀ moment ∈ run, moment.step.letsGo? = some name →
    ∀ request ∈ moment.after.asked moment.before, request = .close guard.number
  /-- A close that fails otherwise than by dropping is the caller's answer. -/
  returned : ∀ moment ∈ run, ∀ errno, ⟨false, .error errno⟩ ∈ moment.closings name →
    moment.outcome = .refused (.close errno)
  handOut : ∀ moment ∈ run, ∀ as, moment.step = .handOut name as →
    moment.before.guard? name ≠ none → moment.tells name = []
  inactive : ∀ moment ∈ run, moment.step = .drop name → moment.before.held? name = none →
    moment.tells name = []
  pidfd : ∀ moment ∈ run, ∀ pidfd, moment.after.holder? name = some (.pidfd pidfd) →
    pidfd.guard = guard ∧ guard.events = ⟨"pidfd_opened", "pidfd_closed", "pidfd_error"⟩
      ∧ guard.subject = ⟨"pidfd", some pidfd.pid⟩
  remote : ∀ moment ∈ run, ∀ remote, moment.after.holder? name = some (.remote remote) →
    remote.guard = guard
      ∧ guard.events = ⟨"remote_fd_acquired", "remote_fd_closed", "remote_fd_error"⟩
      ∧ guard.subject = ⟨"remote_fd", some remote.sourcePid⟩

/-! ## Adding up -/

theorem goes_flatMap (h : ∀ moment ∈ moments, Adds moment name guard) :
    guard.Goes (moments.flatMap (·.uses name)) (moments.flatMap (·.closings name))
      (moments.flatMap (·.tells name)) := by
  induction moments with
  | nil => exact guard.goes_nil
  | cons moment moments ih =>
      obtain ⟨hfirst, hrest⟩ := List.forall_mem_cons.mp h
      exact hfirst.goes.append (ih hrest)

theorem length_closings (h : ∀ moment ∈ session.moments steps, Adds moment name guard) :
    ((session.moments steps).flatMap (·.closings name)).length + (session.run steps).budget name
      ≤ session.budget name := by
  induction steps generalizing session with
  | nil => exact (Nat.zero_add _).le
  | cons step steps ih =>
      rw [moments] at h
      obtain ⟨hfirst, hrest⟩ := List.forall_mem_cons.mp h
      have hmore := ih hrest
      have hspent : _ + (session.step step).2.budget name ≤ session.budget name := hfirst.spent
      have hrun : session.run (step :: steps) = (session.step step).2.run steps := rfl
      rw [moments, List.flatMap_cons, List.length_append, hrun]
      omega

theorem numbers_of_change {before after : Session} {step : Step} {outcome : Outcome}
    (h : Change before step outcome after) : before.numbers <:+ after.numbers := by
  cases h with
  | kept h => rw [h.numbers]
  | made h => rw [h.numbers]; exact List.suffix_cons _ _
  | madeTwo first second =>
      rw [second.numbers, first.numbers]
      exact (List.suffix_cons _ _).trans (List.suffix_cons _ _)
  | letGo _ h => rw [h.numbers]
  | moved _ h =>
      obtain ⟨number, hnumbers⟩ := h.numbers
      rw [hnumbers]
      exact List.suffix_cons _ _
  | closedBehind _ _ h => rw [h.numbers]

theorem numbers_run (session : Session) (steps : List Step) :
    session.numbers <:+ (session.run steps).numbers := by
  induction steps using List.reverseRecOn with
  | nil => exact List.suffix_refl _
  | append_singleton steps step ih =>
      rw [run_concat]
      exact ih.trans (numbers_of_change (change_step _ step))

theorem lookup_of_suffix {α : Type} {entries more : List (String × α)} (h : entries <:+ more)
    (hnone : more.lookup name = none) : entries.lookup name = none := by
  obtain ⟨first, rfl⟩ := h
  rw [List.lookup_append, Option.or_eq_none_iff] at hnone
  exact hnone.2

theorem adds_moments (hnamed : session.Named) (hwhole : session.AllWhole)
    (hgiven : session.numbers.lookup name ≠ none) (hfollows : session.Follows name guard) :
    ∀ moment ∈ session.moments steps, Adds moment name guard := by
  induction steps generalizing session with
  | nil => exact fun moment hmem => absurd hmem List.not_mem_nil
  | cons step steps ih =>
      have hdeed := deed_step session step
      have hborn : session.numbers.lookup name = none →
          (session.step step).2.numbers.lookup name = none := fun hnone => absurd hnone hgiven
      have hstep : Adds ⟨session, step, (session.step step).1, (session.step step).2⟩ name guard :=
        adds_step hnamed hwhole hborn hfollows
      have hnumbers := numbers_of_change hdeed.change
      rw [moments]
      refine List.forall_mem_cons.mpr ⟨hstep, ih (hdeed.change.named hnamed) (hdeed.allWhole hwhole)
        (fun hnone => hgiven (lookup_of_suffix hnumbers hnone)) hstep.follows⟩

/-- Before the object is made, every step adds what it should, and that is nothing. -/
theorem adds_moments_of_free (hnamed : session.Named) (hwhole : session.AllWhole)
    (hfree : (session.run steps).numbers.lookup name = none) :
    ∀ moment ∈ session.moments steps,
      Adds moment name guard ∧ moment.before.holder? name = none := by
  induction steps generalizing session with
  | nil => exact fun moment hmem => absurd hmem List.not_mem_nil
  | cons step steps ih =>
      have hdeed := deed_step session step
      have hrun : session.run (step :: steps) = (session.step step).2.run steps := rfl
      rw [hrun] at hfree
      have hafter : (session.step step).2.numbers.lookup name = none :=
        lookup_of_suffix (numbers_run _ steps) hfree
      have hbefore := hnamed name (lookup_of_suffix (numbers_of_change hdeed.change) hafter)
      have hstep : Adds ⟨session, step, (session.step step).1, (session.step step).2⟩ name guard :=
        adds_step hnamed hwhole (fun _ => hafter) (follows_of_none hbefore)
      rw [moments]
      exact List.forall_mem_cons.mpr ⟨⟨hstep, hbefore⟩,
        ih (hdeed.change.named hnamed) (hdeed.allWhole hwhole) hfree⟩

theorem Adds.tells_eq_nil (h : Adds moment name guard) (huses : moment.uses name = [])
    (hclosings : moment.closings name = []) : moment.tells name = [] := by
  have hgoes := h.goes
  rw [huses, hclosings] at hgoes
  refine List.eq_nil_iff_forall_not_mem.mpr fun event hmem => ?_
  simpa using hgoes.mem_iff.mp hmem

theorem Adds.closings_eq_nil (h : Adds moment name guard)
    (hheld : moment.before.held? name = none) : moment.closings name = [] := by
  have hspent := h.spent
  rw [budget_of_none hheld] at hspent
  exact List.eq_nil_of_length_eq_zero (by omega)

theorem flatMap_of_free
    (h : ∀ moment ∈ moments, Adds moment name guard ∧ moment.before.holder? name = none) :
    moments.flatMap (·.uses name) = [] ∧ moments.flatMap (·.closings name) = []
      ∧ moments.flatMap (·.tells name) = [] := by
  have hquiet : ∀ moment ∈ moments, moment.uses name = [] ∧ moment.closings name = []
      ∧ moment.tells name = [] := by
    intro moment hmem
    obtain ⟨hadds, hnone⟩ := h moment hmem
    have huses := hadds.idle hnone
    have hclosings := hadds.closings_eq_nil (held?_of_none hnone)
    exact ⟨huses, hclosings, hadds.tells_eq_nil huses hclosings⟩
  exact ⟨List.flatMap_eq_nil_iff.mpr fun moment hmem => (hquiet moment hmem).1,
    List.flatMap_eq_nil_iff.mpr fun moment hmem => (hquiet moment hmem).2.1,
    List.flatMap_eq_nil_iff.mpr fun moment hmem => (hquiet moment hmem).2.2⟩

theorem Born.quiet {before after : Session} {step : Step} (h : Born before step after name guard)
    (outcome : Outcome) :
    Moment.uses ⟨before, step, outcome, after⟩ name = []
      ∧ Moment.closings ⟨before, step, outcome, after⟩ name = []
      ∧ Moment.tells ⟨before, step, outcome, after⟩ name = [guard.acquired] := by
  refine ⟨?_, ?_, h.told⟩
  · rw [Moment.uses]
    split
    · rw [List.map_eq_nil_iff, List.filter_eq_nil_iff]
      rintro ⟨on, operation⟩ hmem
      rw [decide_eq_true_eq]
      rintro rfl
      exact h.uses operation hmem
    · rfl
  · have hne : step.letsGo? ≠ some name := by simp [Step.letsGo?_of_makes? h.makes]
    rw [Moment.closings, if_neg hne]

theorem follows_of_guard? (h : session.guard? name = some guard) : session.Follows name guard := by
  intro holder hholder
  rw [guard?_of_holder? hholder] at h
  exact ⟨guard, h, .inl rfl⟩

theorem budget_le_one (session : Session) (name : String) : session.budget name ≤ 1 := by
  rw [budget]
  cases session.held? name <;> simp

theorem whole_of_mem_moments {kernel : Kernel} (hmem : moment ∈ (start kernel).moments steps) :
    moment.after.AllWhole := by
  obtain ⟨earlier, step, later, -, rfl⟩ := mem_moments_iff.mp hmem
  rw [← run_concat]
  exact allWhole_run kernel (earlier ++ [step])

theorem Follows.eq_of_active {holder : Holder} {kept : Guard} (h : session.Follows name guard)
    (hholder : session.holder? name = some holder) (hguard : holder.guard? = some kept)
    (hactive : kept.isActive = true) : kept = guard := by
  refine (h.same hholder hguard).resolve_right ?_
  rintro rfl
  cases hactive

theorem pidfd_of_follows {pidfd : PidFd} (h : session.Follows name guard)
    (hwhole : session.AllWhole) (hholder : session.holder? name = some (.pidfd pidfd)) :
    pidfd.guard = guard ∧ guard.events = ⟨"pidfd_opened", "pidfd_closed", "pidfd_error"⟩
      ∧ guard.subject = ⟨"pidfd", some pidfd.pid⟩ := by
  have hpidfd : pidfd = PidFd.holding ⟨pidfd.fd⟩ pidfd.pid := hwhole name _ hholder
  have hactive : pidfd.guard.isActive = true := by rw [hpidfd]; rfl
  obtain rfl := h.eq_of_active hholder rfl hactive
  exact ⟨rfl, by rw [hpidfd]; rfl, by rw [hpidfd]; rfl⟩

theorem remote_of_follows {remote : RemoteFd} (h : session.Follows name guard)
    (hwhole : session.AllWhole) (hholder : session.holder? name = some (.remote remote)) :
    remote.guard = guard
      ∧ guard.events = ⟨"remote_fd_acquired", "remote_fd_closed", "remote_fd_error"⟩
      ∧ guard.subject = ⟨"remote_fd", some remote.sourcePid⟩ := by
  have hremote : remote = RemoteFd.holding ⟨remote.fd⟩ remote.sourcePid remote.targetFd :=
    hwhole name _ hholder
  have hactive : remote.guard.isActive = true := by rw [hremote]; rfl
  obtain rfl := h.eq_of_active hholder rfl hactive
  exact ⟨rfl, by rw [hremote]; rfl, by rw [hremote]; rfl⟩

/-! ## The result -/

/-- The moment in which the object is made, or one that adds what it should. -/
def Settled (moment : Moment) (name : String) (guard : Guard) : Prop :=
  moment.Makes name guard ∧ Born moment.before moment.step moment.after name guard
    ∨ Adds moment name guard

theorem Settled.follows (h : Settled moment name guard) : moment.after.Follows name guard := by
  rcases h with ⟨hmakes, -⟩ | hadds
  · exact follows_of_guard? hmakes.2
  · exact hadds.follows

theorem chronicled_of_settled {run : List Moment}
    (hsettled : ∀ moment ∈ run, Settled moment name guard)
    (hwhole : ∀ moment ∈ run, moment.after.AllWhole)
    (hnumber : guard.borrow? = some guard.number)
    (htells : guard.Tells (run.flatMap (·.uses name)) (run.flatMap (·.closings name))
      (run.flatMap (·.tells name))) : Chronicled run name guard where
  tells := htells
  number := hnumber
  prompt moment hmem hthere := by
    rcases hsettled moment hmem with ⟨hmakes, -⟩ | hadds
    · exact absurd hmakes.1 hthere
    · exact hadds.goes
  closes moment hmem hgo := by
    rcases hsettled moment hmem with ⟨-, hborn⟩ | hadds
    · rw [Step.letsGo?_of_makes? hborn.makes] at hgo
      cases hgo
    · exact hadds.number hgo
  returned moment hmem errno herror := by
    rcases hsettled moment hmem with ⟨-, hborn⟩ | hadds
    · rw [(hborn.quiet moment.outcome).2.1] at herror
      cases herror
    · exact hadds.returned errno herror
  handOut moment hmem as hstep hthere := by
    rcases hsettled moment hmem with ⟨hmakes, -⟩ | hadds
    · exact absurd hmakes.1 hthere
    · refine hadds.tells_eq_nil ?_ ?_
      · simp [Moment.uses, hstep, Step.uses]
      · simp [Moment.closings, hstep, Step.letsGo?]
  inactive moment hmem hstep hheld := by
    rcases hsettled moment hmem with ⟨-, hborn⟩ | hadds
    · have hmakes := hborn.makes
      rw [hstep] at hmakes
      cases hmakes
    · refine hadds.tells_eq_nil ?_ (hadds.closings_eq_nil hheld)
      simp [Moment.uses, hstep, Step.uses]
  pidfd moment hmem _ hholder :=
    pidfd_of_follows (hsettled moment hmem).follows (hwhole moment hmem) hholder
  remote moment hmem _ hholder :=
    remote_of_follows (hsettled moment hmem).follows (hwhole moment hmem) hholder

/-- A run that is cut at the step that makes an object. -/
theorem chronicled_cut (kernel : Kernel) (earlier later : List Step) (step : Step)
    (hnone : ((start kernel).run earlier).guard? name = none)
    (hsome : (((start kernel).run earlier).step step).2.guard? name = some guard) :
    Chronicled ((start kernel).moments (earlier ++ step :: later)) name guard := by
  have hdeed := deed_step ((start kernel).run earlier) step
  have hnamed := named_run kernel earlier
  have hborn := hdeed.born hnamed hnone hsome
  have hbefore : ∀ moment ∈ (start kernel).moments earlier,
      Adds moment name guard ∧ moment.before.holder? name = none :=
    adds_moments_of_free (named_start kernel) (allWhole_run kernel []) hborn.free
  have hafter : ∀ moment ∈ (((start kernel).run earlier).step step).2.moments later,
      Adds moment name guard :=
    adds_moments (hdeed.change.named hnamed) (hdeed.allWhole (allWhole_run kernel earlier))
      hborn.given (follows_of_guard? hsome)
  have honce := (Nat.le_add_right _ _).trans ((length_closings hafter).trans (budget_le_one _ name))
  obtain ⟨huses, hclosings, htells⟩ := flatMap_of_free hbefore
  obtain ⟨hborn_uses, hborn_closings, hborn_tells⟩ :=
    hborn.quiet (((start kernel).run earlier).step step).1
  refine chronicled_of_settled ?_ (fun moment => whole_of_mem_moments) hborn.held ?_
  · intro moment hmem
    rw [moments_append, List.mem_append, moments, List.mem_cons] at hmem
    rcases hmem with hmem | rfl | hmem
    · exact .inr (hbefore moment hmem).1
    · exact .inl ⟨⟨hnone, hsome⟩, hborn⟩
    · exact .inr (hafter moment hmem)
  · simp only [moments_append, moments, List.flatMap_append, List.flatMap_cons, huses, hclosings,
      htells, hborn_uses, hborn_closings, hborn_tells]
    exact (goes_flatMap hafter).tells honce

/-! ## Nobody else tells anything -/

theorem exists_birth (kernel : Kernel) (steps : List Step)
    (h : ((start kernel).run steps).guard? name ≠ none) :
    ∃ birth ∈ (start kernel).moments steps, ∃ made, birth.Makes name made := by
  induction steps using List.reverseRecOn with
  | nil => exact absurd rfl h
  | append_singleton steps step ih =>
      rw [moments_append]
      by_cases hbefore : ((start kernel).run steps).guard? name = none
      · obtain ⟨made, hmade⟩ := Option.ne_none_iff_exists'.mp h
        rw [run_concat] at hmade
        exact ⟨_, List.mem_append_right _ (List.mem_singleton_self _), made, hbefore, hmade⟩
      · obtain ⟨birth, hmem, hmakes⟩ := ih hbefore
        exact ⟨birth, List.mem_append_left _ hmem, hmakes⟩

variable {before after : Session} {step : Step} {outcome : Outcome} {event : Event}

theorem Deed.trace (h : Deed before step outcome after) :
    before.host.trace <+: after.host.trace := by
  cases h with
  | asked _ h => exact ⟨_, h.trace.symm⟩
  | misfit => exact List.prefix_append _ _
  | opened => exact List.prefix_append _ _
  | tookIn => exact List.prefix_append _ _
  | used => exact List.prefix_append _ _
  | released _ h =>
      obtain ⟨told, htrace, -⟩ := h.trace
      exact ⟨told, htrace.symm⟩
  | closed _ _ h =>
      obtain ⟨told, htrace, -⟩ := h.trace
      exact ⟨told, htrace.symm⟩
  | dropped _ _ h =>
      obtain ⟨told, htrace, -⟩ := h.trace
      exact ⟨told, htrace.symm⟩
  | closedPlain _ _ _ h => exact ⟨_, h.trace.symm⟩
  | _ => exact List.prefix_refl _

theorem ofGuards_run (session : Session) (steps : List Step) :
    (session.run steps).host.trace.ofGuards = session.host.trace.ofGuards
      ++ (session.moments steps).flatMap fun moment => moment.after.told moment.before := by
  induction steps generalizing session with
  | nil => exact (List.append_nil _).symm
  | cons step steps ih =>
      obtain ⟨told, htold⟩ := (deed_step session step).trace
      have hrun : session.run (step :: steps) = (session.step step).2.run steps := rfl
      rw [hrun, ih, moments, List.flatMap_cons, told_of_trace htold.symm, ← htold,
        Trace.ofGuards_append, List.append_assoc]

/-- The guard that tells an event was there before the step or is there after it. -/
def ToldBy (before : Session) (step : Step) (after : Session) (event : Event) : Prop :=
  ∃ name, step.teller? event = some name
    ∧ (before.guard? name ≠ none ∨ after.guard? name ≠ none)

theorem toldBy_of_use? (h : event ∈ (before.use? step).toList) :
    ToldBy before step after event := by
  cases step with
  | used on operation =>
      obtain ⟨kept, hguard, -⟩ := Option.map_eq_some_iff.mp (Option.mem_toList.mp h)
      exact ⟨on, teller?_of_use? h, .inl (by simp [hguard])⟩
  | copyFd on target as =>
      obtain ⟨kept, hguard, -⟩ := Option.map_eq_some_iff.mp (Option.mem_toList.mp h)
      exact ⟨on, teller?_of_use? h, .inl (by simp [hguard])⟩
  | _ => cases h

theorem toldBy_of_parts {silent : Bool} {result : Except GuardError Unit} {holder : Holder}
    (hon : step.on? = some name) (hholder : before.holder? name = some holder)
    (hguard : holder.guard? = some guard) (h : guard.Parts silent before.host result after.host)
    (hmem : event ∈ after.told before) : ToldBy before step after event := by
  obtain ⟨told, htrace, htold⟩ := h.trace
  rw [told_of_trace htrace, htold] at hmem
  refine ⟨name, (teller?_of_report hmem).trans hon, .inl ?_⟩
  rw [guard?_of_holder? hholder, hguard]
  exact Option.some_ne_none guard

theorem mem_ofGuards {told : Trace} (htrace : after.host.trace = before.host.trace ++ told)
    (hmem : event ∈ after.told before) : event ∈ told.ofGuards := by
  rwa [told_of_trace htrace] at hmem

theorem not_mem_told (htrace : after.host.trace = before.host.trace) :
    event ∉ after.told before := by
  intro hmem
  have hnil : after.host.trace = before.host.trace ++ [] := by rw [htrace, List.append_nil]
  exact absurd (mem_ofGuards hnil hmem) List.not_mem_nil

theorem Deed.toldBy (h : Deed before step outcome after) (hmem : event ∈ after.told before) :
    ToldBy before step after event := by
  cases h with
  | ignored => exact absurd hmem (not_mem_told rfl)
  | noted => exact absurd hmem (not_mem_told rfl)
  | stirred => exact absurd hmem (not_mem_told rfl)
  | piped => exact absurd hmem (not_mem_told rfl)
  | asked _ h htold =>
      have htold := htold ▸ mem_ofGuards h.trace hmem
      exact toldBy_of_use? htold
  | misfit htold =>
      have htold := htold ▸ mem_ofGuards rfl hmem
      cases htold
  | @opened _ request returned kernel told as holder hputs h hmakes hfree hheld hwhole htold =>
      have htold := htold ▸ mem_ofGuards rfl hmem
      rcases List.mem_append.mp htold with huse | hacquired
      · exact toldBy_of_use? huse
      · obtain ⟨made, hguard, rfl⟩ := List.mem_map.mp hacquired
        have hmade : holder.guard? = some made := Option.mem_toList.mp hguard
        refine ⟨as, by rw [Step.teller?_acquired, hmakes], .inr ?_⟩
        rw [guard?_bind, Function.update_self, hmade]
        exact Option.some_ne_none made
  | @tookIn _ old new holder made owned kept hmove hfree hholder hplain hguard =>
      have htold := mem_ofGuards rfl hmem
      obtain rfl : event = kept.acquired := by simpa using htold
      refine ⟨new, by rw [Step.teller?_acquired, Step.makes?_of_move? hmove], .inr ?_⟩
      rw [guard?_bind, Function.update_self, hguard]
      exact Option.some_ne_none kept
  | @used on operation kept hholder =>
      have htold := mem_ofGuards rfl hmem
      obtain rfl : event = kept.used operation := by simpa using htold
      refine ⟨on, Step.teller?_used _ kept operation, .inl ?_⟩
      rw [guard?_of_holder? hholder]
      exact Option.some_ne_none kept
  | released hholder h => exact toldBy_of_parts rfl hholder rfl h hmem
  | closed hholder hguard h => exact toldBy_of_parts rfl hholder hguard h hmem
  | dropped hholder hguard h => exact toldBy_of_parts rfl hholder hguard h hmem
  | closedPlain _ _ _ h =>
      have htold := mem_ofGuards h.trace hmem
      cases htold
  | handedOut => exact absurd hmem (not_mem_told rfl)
  | keptBack => exact absurd hmem (not_mem_told rfl)

/-- Every event in a run is told by a guard that has been made in it. -/
theorem exists_teller (kernel : Kernel) (steps : List Step)
    (hmem : moment ∈ (start kernel).moments steps)
    (htold : event ∈ moment.after.told moment.before) :
    ∃ name, event ∈ moment.tells name
      ∧ ∃ birth ∈ (start kernel).moments steps, ∃ made, birth.Makes name made := by
  obtain ⟨earlier, step, later, rfl, rfl⟩ := mem_moments_iff.mp hmem
  obtain ⟨name, hteller, hthere⟩ := (deed_step _ step).toldBy htold
  have hguard : ∃ part, part <+: earlier ++ step :: later
      ∧ ((start kernel).run part).guard? name ≠ none := by
    rcases hthere with hbefore | hafter
    · exact ⟨earlier, List.prefix_append _ _, hbefore⟩
    · refine ⟨earlier ++ [step], ⟨later, ?_⟩, ?_⟩
      · rw [List.append_assoc, List.singleton_append]
      · rwa [run_concat]
  obtain ⟨part, ⟨rest, hrest⟩, hpart⟩ := hguard
  obtain ⟨birth, hbirth, hmakes⟩ := exists_birth kernel part hpart
  refine ⟨name, List.mem_filter.mpr ⟨htold, decide_eq_true hteller⟩, birth, ?_, hmakes⟩
  rw [← hrest, moments_append]
  exact List.mem_append_left _ hbirth

/-- **What guards tell.** Every guard made in a run tells that it has acquired its descriptor, then
of every use, and at most once of closing it, wherever the guard is and whatever is done to the
numbers behind its back; and nobody else tells anything. The same holds of a guard by itself where
closing fails with any error number there is. -/
theorem chronicled_run (kernel : Kernel) (steps : List Step) :
    let run := (start kernel).moments steps
    (∀ birth ∈ run, ∀ name guard, birth.Makes name guard → Chronicled run name guard)
      ∧ ((start kernel).run steps).host.trace.ofGuards
        = run.flatMap (fun moment => moment.after.told moment.before)
      ∧ (∀ moment ∈ run, ∀ event ∈ moment.after.told moment.before, ∃ name,
        event ∈ moment.tells name ∧ ∃ birth ∈ run, ∃ guard, birth.Makes name guard)
      ∧ ∀ owned subject events uses ending script,
        let guard : Guard := ⟨some owned, owned.number, subject, events⟩
        let result := (Guard.wholeLife owned subject events uses ending :
          Scripted Guard.Life).run script
        ∃ asked told, result.1.Chronicled guard uses script result.2 asked told := by
  intro run
  refine ⟨?_, ?_, ?_, Guard.chronicled_wholeLife⟩
  · intro birth hmem name guard hmakes
    obtain ⟨earlier, step, later, rfl, rfl⟩ := mem_moments_iff.mp hmem
    exact chronicled_cut kernel earlier later step hmakes.1 hmakes.2
  · have hall := ofGuards_run (start kernel) steps
    have hstart : (start kernel).host.trace.ofGuards = [] := rfl
    rwa [hstart, List.nil_append] at hall
  · intro moment hmem event htold
    exact exists_teller kernel steps hmem htold

end Session

end PidOne
