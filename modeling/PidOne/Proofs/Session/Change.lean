import PidOne.Proofs.Kernel.Granting
import PidOne.Proofs.Session.Inversion

/-!
# What a step does to ownership

Of all that steps do, four things touch ownership: an object is made around a descriptor that has
just been made, an object is let go, an object gives its descriptor to another one that is made of
it, or a number is closed behind the back of its holder. All else leaves the descriptor table and
the objects as they were. `Change` lists these, with everything they do to the two, and every deed
is one of them. Nothing about ownership looks into a step again.
-/

namespace PidOne

namespace Session

/-- Neither the table nor the objects have changed. -/
structure Kept (before after : Session) : Prop where
  table : after.table = before.table
  holder? : after.holder? = before.holder?
  numbers : after.numbers = before.numbers

/-- A descriptor has been made, and an object that holds it. -/
structure Made (before : Session) (name : String) (holder : Holder) (after : Session) : Prop where
  free : before.numbers.lookup name = none
  held : holder.held? = some before.table.lowestFree
  table : ∃ descriptor, after.table = before.table.insert descriptor
  holder? : after.holder? = Function.update before.holder? name (some holder)
  numbers : after.numbers = (name, holder.number) :: before.numbers

/-- An object has been let go. It is gone, or it is a guard that has been released and is still
there, empty. -/
structure LetGo (before : Session) (name : String) (outcome : Outcome) (after : Session) :
    Prop where
  closed : before.host.Closed (before.held? name) after.host
  there : before.holder? name ≠ none
  holder? : ∃ left : Option Guard, after.holder?
    = Function.update before.holder? name (left.map fun guard => .guard guard.emptied)
  numbers : after.numbers = before.numbers
  outcome : ∀ fd, before.held? name = some fd → before.host.kernel.isOpen fd = true →
    outcome = .done ∨ outcome = .returned 0 none

/-- An object has given its descriptor to another one, which the kernel does not know of. -/
structure Moved (before : Session) (old new : String) (fd : Nat) (outcome : Outcome)
    (after : Session) : Prop where
  kernel : after.host.kernel = before.host.kernel
  free : before.numbers.lookup new = none
  held : before.held? old = some fd
  holder? : ∃ made : Holder, made.held? = some fd
    ∧ after.holder? = Function.update (Function.update before.holder? old none) new (some made)
  numbers : ∃ number, after.numbers = (new, number) :: before.numbers
  outcome : outcome = .made new

/-- A number has been closed that is open, and its holder if it has one still counts on it. -/
structure ClosedBehind (before : Session) (fd : Nat) (after : Session) : Prop where
  table : after.table = before.table.erase fd
  holder? : after.holder? = before.holder?
  numbers : after.numbers = before.numbers

/-- What a step can come to for the table and the objects. -/
inductive Change (before : Session) (step : Step) (outcome : Outcome) (after : Session) :
    Prop where
  | kept (h : Kept before after)
  | made {name : String} {holder : Holder} (h : Made before name holder after)
  | madeTwo {name other : String} {holder next : Holder} {between : Session}
      (first : Made before name holder between) (second : Made between other next after)
  /-- An object without a descriptor may also go when it is asked to hand it out. -/
  | letGo {name : String} (hstep : step.letsGo? = some name ∨ before.held? name = none)
      (h : LetGo before name outcome after)
  | moved {old new : String} {fd : Nat} (hstep : step.move? = some (old, new))
      (h : Moved before old new fd outcome after)
  | closedBehind {ref : FdRef} {fd : Nat} (hstep : step = .closeNumber ref)
      (hnumber : before.number? ref = some (fd : Int)) (h : ClosedBehind before fd after)

variable {before after : Session} {step : Step} {outcome : Outcome} {name : String} {α : Type}

theorem Kept.refl (session : Session) : Kept session session := ⟨rfl, rfl, rfl⟩

theorem Kept.host {host : Host} (h : host.kernel.table = before.table) :
    Kept before { before with host } := ⟨h, rfl, rfl⟩

theorem Made.held?_eq {holder : Holder} (h : Made before name holder after) :
    after.held? = Function.update before.held? name (some before.table.lowestFree) := by
  rw [held?_update h.holder?, Option.bind_some, h.held]

theorem LetGo.table_eq (h : LetGo before name outcome after) :
    after.table = (before.held? name).elim before.table before.table.erase := by
  rw [table, h.closed.kernel]
  cases before.held? name with
  | none => rfl
  | some fd => rfl

theorem LetGo.held?_eq (h : LetGo before name outcome after) :
    after.held? = Function.update before.held? name none := by
  obtain ⟨left, hholder⟩ := h.holder?
  rw [held?_update hholder]
  cases left with
  | none => rfl
  | some guard => rfl

theorem Moved.table_eq {old new : String} {fd : Nat} (h : Moved before old new fd outcome after) :
    after.table = before.table :=
  congrArg Kernel.table h.kernel

theorem Moved.held?_eq {old new : String} {fd : Nat} (h : Moved before old new fd outcome after) :
    after.held? = Function.update (Function.update before.held? old none) new (some fd) := by
  obtain ⟨made, hmade, hholder⟩ := h.holder?
  rw [← holder?_remove] at hholder
  rw [held?_update hholder, held?_update (holder?_remove before old), Option.bind_some, hmade,
    Option.bind_none]

/-! Every object still has a name that has been given. -/

theorem Made.named {holder : Holder} (h : Made before name holder after) (hnamed : before.Named) :
    after.Named := by
  intro other hfree
  rw [h.numbers, lookup_cons_eq] at hfree
  split at hfree
  · cases hfree
  · next hne =>
    rw [h.holder?, Function.update_of_ne hne]
    exact hnamed other hfree

theorem Change.named (h : Change before step outcome after) (hnamed : before.Named) :
    after.Named := by
  cases h with
  | kept h =>
      intro other hfree
      rw [h.holder?]
      exact hnamed other (h.numbers ▸ hfree)
  | made h => exact h.named hnamed
  | madeTwo first second => exact second.named (first.named hnamed)
  | letGo _ h =>
      intro other hfree
      rw [h.numbers] at hfree
      obtain ⟨left, hholder⟩ := h.holder?
      rw [hholder, Function.update_apply]
      split
      · next heq => exact absurd (hnamed other hfree) (heq ▸ h.there)
      · exact hnamed other hfree
  | @moved source new fd _ h =>
      intro other hfree
      obtain ⟨number, hnumbers⟩ := h.numbers
      obtain ⟨made, _, hholder⟩ := h.holder?
      rw [hnumbers, lookup_cons_eq] at hfree
      split at hfree
      · cases hfree
      · next hne =>
        rw [hholder, Function.update_of_ne hne, Function.update_apply]
        split
        · rfl
        · exact hnamed other hfree
  | closedBehind _ _ h =>
      intro other hfree
      rw [h.holder?]
      exact hnamed other (h.numbers ▸ hfree)

/-! ## Requests -/

variable {request : Request} {returned : Nat} {kernel : Kernel}

/-- A step that makes an object of what it is returned asks for a descriptor. -/
theorem Puts.installs (h : before.Puts step request) (hmakes : step.makes? = some name)
    (hanswer : before.host.answer request = .ok (returned, kernel)) :
    before.host.kernel.Installs returned kernel := by
  have hserve := Host.serve_of_answer hanswer
  cases h with
  | openPid => exact Kernel.installs_pidfdOpen hserve
  | openUnchecked => exact Kernel.installs_pidfdOpen hserve
  | copyFd => exact Kernel.installs_pidfdGetfd hserve
  | copyThrough => exact Kernel.installs_pidfdGetfd hserve
  | copyUnchecked => exact Kernel.installs_pidfdGetfd hserve
  | _ => cases hmakes

/-- A step that makes nothing asks for a close, or leaves the table alone. -/
theorem Puts.closes_or_table_eq (h : before.Puts step request) (hmakes : step.makes? = none)
    (hanswer : before.host.answer request = .ok (returned, kernel)) :
    (∃ ref fd, step = .closeNumber ref ∧ before.number? ref = some fd ∧ request = .close fd)
      ∨ kernel.table = before.table := by
  have hserve := Host.serve_of_answer hanswer
  cases h with
  | closeNumber hfd => exact .inl ⟨_, _, rfl, hfd, rfl⟩
  | pivotRoot => exact .inr (Kernel.table_pivotRoot hserve)
  | pivotRootUnchecked => exact .inr (Kernel.table_pivotRoot hserve)
  | becomeSubreaper => cases hserve; exact .inr rfl
  | becomeSubreaperUnchecked => cases hserve; exact .inr rfl
  | isSubreaper => cases hserve; exact .inr rfl
  | subreaperUnchecked => cases hserve; exact .inr rfl
  | _ => cases hmakes

/-! ## Each deed -/

variable {holder : Holder} {host : Host}

theorem Stirs.table_eq (h : before.Stirs step outcome kernel) : kernel.table = before.table := by
  cases h with
  | wrote _ h => exact Kernel.table_write h
  | readOff _ h => exact Kernel.table_read h
  | forked h => rw [(Kernel.forks_of_fork h).after]; rfl
  | killed child birth => rfl
  | reaped child birth => rfl
  | closedIn child ref birth fd => rfl
  | openedIn child birth number => rfl
  | orphaned code => rfl

theorem made_bind (hfree : before.numbers.lookup name = none)
    (hheld : holder.held? = some returned)
    (h : before.host.kernel.Installs returned host.kernel) :
    Made before name holder (({ before with host } : Session).bind name holder) where
  free := hfree
  held := hheld.trans (congrArg some h.1)
  table := h.2
  holder? := holder?_bind _ _ _
  numbers := rfl

theorem change_pipe {as : String} (hreader : before.isFree (readerName as) = true)
    (hwriter : before.isFree (writerName as) = true) :
    Change before step outcome
      (((before.withKernel before.host.kernel.pipe.2.2).bind (readerName as)
        (.bare before.host.kernel.pipe.1)).bind (writerName as)
        (.bare before.host.kernel.pipe.2.1)) := by
  obtain ⟨between, hfirst, hsecond⟩ := before.host.kernel.installs_pipe
  have hmade : Made before (readerName as) (.bare before.host.kernel.pipe.1)
      ((before.withKernel between).bind (readerName as) (.bare before.host.kernel.pipe.1)) :=
    made_bind (lookup_of_isFree hreader) rfl hfirst
  refine .madeTwo hmade (made_bind ?_ rfl hsecond)
  -- the name of the reading end has just been given
  change List.lookup _ ((_, _) :: before.numbers) = none
  rw [lookup_cons_eq, if_neg (writerName_ne_readerName as)]
  exact lookup_of_isFree hwriter

theorem change_asked {told : Trace} {result : Except Errno Nat}
    (hputs : before.Puts step request) (h : before.host.Asked request told result host)
    (hmakes : ∀ returned, result = .ok returned → step.makes? = none) :
    Change before step outcome { before with host } := by
  cases h with
  | rejected h => exact .kept (.host rfl)
  | granted h =>
      rcases hputs.closes_or_table_eq (hmakes _ rfl) h with ⟨ref, fd, hstep, hfd, rfl⟩ | htable
      · cases hopen : before.host.kernel.isOpen fd with
        | false =>
            rw [Host.answer_close_free hopen] at h
            cases h
        | true =>
            obtain ⟨number, rfl⟩ := Kernel.eq_ofNat_of_isOpen hopen
            rw [Host.answer_close_open hopen] at h
            cases h
            exact .closedBehind hstep hfd ⟨rfl, rfl, rfl⟩
      · exact .kept (.host htable)

theorem letGo_remove (hholder : before.holder? name = some holder)
    (hclosed : before.host.Closed holder.held? host)
    (houtcome : ∀ fd, holder.held? = some fd → before.host.kernel.isOpen fd = true →
      outcome = .done ∨ outcome = .returned 0 none) :
    LetGo before name outcome { before.remove name with host } where
  closed := by rwa [held?_of_holder? hholder]
  there := by simp [hholder]
  holder? := ⟨none, holder?_remove before name⟩
  numbers := rfl
  outcome := by rwa [held?_of_holder? hholder]

theorem held?_of_guard? {guard : Guard} (h : holder.guard? = some guard) :
    holder.held? = guard.borrow? := by
  cases holder with
  | bare fd => cases h
  | owned kept => cases h
  | guard kept => cases h; rfl
  | pidfd kept => cases h; rfl
  | remote kept => cases h; rfl

theorem held?_of_plain? {owned : Owned} (h : holder.plain? = some owned) :
    holder.held? = some owned.number := by
  cases holder with
  | bare fd => cases h; rfl
  | owned kept => cases h; rfl
  | guard kept => cases h
  | pidfd kept => cases h
  | remote kept => cases h

theorem guardOutcome_of_open {guard : Guard} {silent : Bool} {result : Except GuardError Unit}
    {fd : Nat} (h : guard.Parts silent before.host result host) (hheld : guard.borrow? = some fd)
    (hopen : before.host.kernel.isOpen fd = true) : guardOutcome result = .done := by
  cases h with
  | empty hempty =>
      rw [Guard.borrow?_of_empty hempty] at hheld
      cases hheld
  | closed => rfl
  | failed hown hfree =>
      rw [Guard.borrow?_of_held hown] at hheld
      cases hheld
      rw [hfree] at hopen
      cases hopen

theorem moved_bind {new : String} {fd : Nat} {made : Holder}
    (hkernel : host.kernel = before.host.kernel) (hfree : before.isFree new = true)
    (hheld : before.held? name = some fd) (hmade : made.held? = some fd) :
    Moved before name new fd (.made new)
      (({ before.remove name with host } : Session).bind new made) where
  kernel := hkernel
  free := lookup_of_isFree hfree
  held := hheld
  holder? := ⟨made, hmade, by
    rw [holder?_bind, ← holder?_remove]
    rfl⟩
  numbers := ⟨made.number, rfl⟩
  outcome := rfl

/-! ## Deeds as changes -/

theorem letGo_closed {guard : Guard} {result : Except GuardError Unit}
    (hholder : before.holder? name = some holder) (hguard : holder.guard? = some guard)
    (h : guard.Parts false before.host result host) :
    LetGo before name (guardOutcome result) { before.remove name with host } := by
  have hheld := held?_of_guard? hguard
  refine letGo_remove hholder (hheld ▸ h.closing) fun fd hfd hopen => .inl ?_
  exact guardOutcome_of_open h (hheld ▸ hfd) hopen

theorem letGo_dropped {guard : Guard} {result : Except GuardError Unit}
    (hholder : before.holder? name = some holder) (hguard : holder.guard? = some guard)
    (h : guard.Parts true before.host result host) :
    LetGo before name .done { before.remove name with host } :=
  letGo_remove hholder (held?_of_guard? hguard ▸ h.closing) fun _ _ _ => .inl rfl

theorem letGo_released {guard : Guard} {result : Except GuardError Unit}
    (hholder : before.holder? name = some (.guard guard))
    (h : guard.Parts false before.host result host) :
    LetGo before name (guardOutcome result)
      (({ before with host } : Session).replace name (.guard guard.emptied)) where
  closed := by
    rw [held?_of_holder? hholder]
    exact h.closing
  there := by simp [hholder]
  holder? := by
    have hthere : ({ before with host } : Session).holder? name = some (.guard guard) := hholder
    exact ⟨some guard, holder?_replace hthere _⟩
  numbers := rfl
  outcome := by
    intro fd hheld hopen
    rw [held?_of_holder? hholder] at hheld
    exact .inl (guardOutcome_of_open h hheld hopen)

theorem letGo_closedPlain {owned : Owned} {result : Except Errno Nat}
    (hholder : before.holder? name = some holder) (hplain : holder.plain? = some owned)
    (h : before.host.Asked (.close owned.number) [] result host)
    (houtcome : outcome = .done ∨ outcome = .returning result) :
    LetGo before name outcome { before.remove name with host } := by
  have hheld := held?_of_plain? hplain
  refine letGo_remove hholder (hheld ▸ h.closing) fun fd hfd hopen => ?_
  cases hheld.symm.trans hfd
  rcases houtcome with rfl | rfl
  · exact .inl rfl
  · cases h with
    | granted h =>
        rw [Host.answer_close_open hopen] at h
        cases h
        exact .inr rfl
    | rejected h =>
        rw [Host.answer_close_open hopen] at h
        cases h

theorem moved_tookIn {new : String} {made : Holder} {owned : Owned} {told : Trace}
    (hfree : before.isFree new = true) (hholder : before.holder? name = some holder)
    (hplain : holder.plain? = some owned) (hmade : made.held? = some owned.number) :
    Moved before name new owned.number (.made new)
      (({ before.remove name with host := before.host.telling told } : Session).bind new made) :=
  moved_bind rfl hfree ((held?_of_holder? hholder).trans (held?_of_plain? hplain)) hmade

theorem moved_handedOut {new : String} {guard : Guard} {owned : Owned}
    (hfree : before.isFree new = true) (hholder : before.holder? name = some holder)
    (hguard : holder.guard? = some guard) (hheld : guard.held = some owned) :
    Moved before name new owned.number (.made new)
      ((before.remove name).bind new (.owned owned)) := by
  refine moved_bind rfl hfree ?_ rfl
  rw [held?_of_holder? hholder, held?_of_guard? hguard, Guard.borrow?_of_held hheld]

/-- A guard without a descriptor is used up for nothing. -/
theorem letGo_keptBack {guard : Guard} (hholder : before.holder? name = some holder)
    (hguard : holder.guard? = some guard) (hempty : guard.held = none) :
    before.held? name = none ∧ LetGo before name outcome (before.remove name) := by
  have hnone : holder.held? = none := by
    rw [held?_of_guard? hguard, Guard.borrow?_of_empty hempty]
  refine ⟨(held?_of_holder? hholder).trans hnone, letGo_remove hholder ?_ ?_⟩
  · rw [hnone]
    exact .empty _
  · rw [hnone]
    exact nofun

theorem Deed.change (h : Deed before step outcome after) : Change before step outcome after := by
  cases h with
  | ignored => exact .kept (.refl before)
  | noted => exact .kept (.refl before)
  | stirred h => exact .kept ⟨h.table_eq, rfl, rfl⟩
  | piped hreader hwriter => exact change_pipe hreader hwriter
  | asked hputs h _ _ hmakes => exact change_asked hputs h hmakes
  | misfit => exact .kept (.host rfl)
  | opened hputs h hmakes hfree hheld =>
      exact .made (made_bind (lookup_of_isFree hfree) hheld (hputs.installs hmakes h))
  | tookIn hmove hfree hholder hplain _ hheld =>
      exact .moved hmove (moved_tookIn hfree hholder hplain hheld)
  | used => exact .kept (.host rfl)
  | released hholder h => exact .letGo (.inl rfl) (letGo_released hholder h)
  | closed hholder hguard h => exact .letGo (.inl rfl) (letGo_closed hholder hguard h)
  | dropped hholder hguard h => exact .letGo (.inl rfl) (letGo_dropped hholder hguard h)
  | closedPlain hstep hholder hplain h houtcome =>
      refine .letGo (.inl ?_) (letGo_closedPlain hholder hplain h houtcome)
      rcases hstep with rfl | rfl <;> rfl
  | handedOut hfree hholder hguard hheld =>
      exact .moved rfl (moved_handedOut hfree hholder hguard hheld)
  | keptBack hholder hguard hempty =>
      obtain ⟨hnone, hgone⟩ := letGo_keptBack hholder hguard hempty
      exact .letGo (.inr hnone) hgone

theorem refusals_parts {guard : Guard} {silent : Bool} {result : Except GuardError Unit}
    (h : guard.Parts silent before.host result host) : host.refusals = before.host.refusals := by
  rcases h.asked with rfl | ⟨fd, told, answer, hasked⟩
  · rfl
  · exact hasked.refusals

theorem Deed.refusals (h : Deed before step outcome after) :
    after.host.refusals = before.host.refusals := by
  cases h with
  | asked _ h => exact h.refusals
  | released _ h => exact refusals_parts h
  | closed _ _ h => exact refusals_parts h
  | dropped _ _ h => exact refusals_parts h
  | closedPlain _ _ _ h => exact h.refusals
  | _ => rfl

theorem change_step (session : Session) (step : Step) :
    Change session step (session.step step).1 (session.step step).2 :=
  (deed_step session step).change

/-! Where the step stands for one of the changes, the deed can be no other. -/

theorem Deed.letGo (h : Deed before step outcome after) (hstep : step.letsGo? = some name)
    (hunderstood : before.perform step ≠ none) : LetGo before name outcome after := by
  cases h with
  | ignored h => exact absurd h hunderstood
  | noted h => rw [Step.looks_of_letsGo? hstep] at h; cases h
  | stirred h => cases h <;> cases hstep
  | asked hputs => cases hputs <;> cases hstep
  | opened hputs => cases hputs <;> cases hstep
  | tookIn h => rw [Step.move?_of_letsGo? hstep] at h; cases h
  | released hholder h => cases hstep; exact letGo_released hholder h
  | closed hholder hguard h => cases hstep; exact letGo_closed hholder hguard h
  | dropped hholder hguard h => cases hstep; exact letGo_dropped hholder hguard h
  | closedPlain hclose hholder hplain h houtcome =>
      rcases hclose with rfl | rfl
      · cases hstep; exact letGo_closedPlain hholder hplain h houtcome
      · cases hstep; exact letGo_closedPlain hholder hplain h houtcome
  | _ => cases hstep

/-- A step that makes one object of another takes over its descriptor, or uses up an object that
has none. -/
theorem Deed.moved {old new : String} (h : Deed before step outcome after)
    (hstep : step.move? = some (old, new)) (hunderstood : before.perform step ≠ none) :
    (∃ fd, Moved before old new fd outcome after)
      ∨ before.held? old = none ∧ LetGo before old outcome after := by
  cases h with
  | ignored h => exact absurd h hunderstood
  | noted h => rw [Step.looks_of_move? hstep] at h; cases h
  | stirred h => cases h <;> cases hstep
  | asked hputs => cases hputs <;> cases hstep
  | opened hputs => cases hputs <;> cases hstep
  | tookIn hmove hfree hholder hplain _ hheld =>
      cases hmove.symm.trans hstep
      exact .inl ⟨_, moved_tookIn hfree hholder hplain hheld⟩
  | handedOut hfree hholder hguard hheld =>
      cases hstep
      exact .inl ⟨_, moved_handedOut hfree hholder hguard hheld⟩
  | keptBack hholder hguard hempty =>
      cases hstep
      exact .inr (letGo_keptBack hholder hguard hempty)
  | closedPlain hclose => rcases hclose with rfl | rfl <;> cases hstep
  | _ => cases hstep

theorem letGo_of_perform (hstep : step.letsGo? = some name)
    (h : before.perform step = some (outcome, after)) : LetGo before name outcome after :=
  (deed_of_perform h).letGo hstep (by simp [h])

theorem move_of_perform {old new : String} (hstep : step.move? = some (old, new))
    (h : before.perform step = some (outcome, after)) :
    (∃ fd, Moved before old new fd outcome after)
      ∨ before.held? old = none ∧ LetGo before old outcome after :=
  (deed_of_perform h).moved hstep (by simp [h])

end Session

end PidOne
