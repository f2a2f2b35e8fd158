import PidOne.Proofs.Kernel.Pipes
import PidOne.Proofs.Session.Moments

/-!
# Copies share what they are copies of

A descriptor and its copies, in whichever process they are, are for one open file, so what is read
and written through any of them is the same stream of bytes; but each goes away on its own. Every
step is a turn of the kernel, and what holds of turns is carried over to runs by induction: bytes
are neither lost nor made up nor put in another order, and a descriptor is there until its own
number is closed, whatever becomes of those it shares its file with.
-/

namespace PidOne

/-- Steps that bytes are read or written in. -/
def Step.transfers : Step → Bool
  | .write _ _ | .read _ _ => true
  | _ => false

theorem Step.transfers_of_move? {step : Step} {old new : String}
    (h : step.move? = some (old, new)) : step.transfers = false := by
  cases step with
  | guard fd as => rfl
  | wrap fd pid as => rfl
  | handOut on as => rfl
  | _ => cases h

theorem Outcome.Reports.ne_made {outcome : Outcome} {result : Except Errno Nat} {as : String}
    (h : outcome.Reports result) : outcome ≠ .made as := by
  intro houtcome
  cases h with
  | returning => cases result <;> cases houtcome
  | _ => cases houtcome

namespace Session

/-- What a reference stands for. -/
def resource? (session : Session) (ref : FdRef) : Option Resource :=
  (session.number? ref).bind session.host.kernel.resource?

end Session

namespace Moment

/-- The bytes that have been read from a pipe. -/
def taken (moment : Moment) (index : Nat) : List UInt8 :=
  match moment.step, moment.outcome with
  | .read ref _, .data bytes =>
    if moment.before.resource? ref = some (.pipe index .reading) then bytes else []
  | _, _ => []

/-- The bytes that have been written into a pipe, as far as they were accepted. -/
def given (moment : Moment) (index : Nat) : List UInt8 :=
  match moment.step, moment.outcome with
  | .write ref data, .returned count none =>
    if moment.before.resource? ref = some (.pipe index .writing) then data.take count.toNat else []
  | _, _ => []

end Moment

namespace Session

variable {before after session : Session} {step : Step} {outcome : Outcome} {request : Request}
  {name : String} {guard : Guard}

/-! ## Every step is a turn of the kernel -/

theorem still_of_step (h : step.transfers = false) :
    Moment.taken ⟨before, step, outcome, after⟩ = Kernel.nothing
      ∧ Moment.given ⟨before, step, outcome, after⟩ = Kernel.nothing := by
  cases step with
  | write ref data => cases h
  | read ref count => cases h
  | _ => exact ⟨rfl, rfl⟩

theorem still_of_outcome (hread : ∀ bytes, outcome ≠ .data bytes)
    (hwrite : ∀ count, outcome ≠ .returned count none) :
    Moment.taken ⟨before, step, outcome, after⟩ = Kernel.nothing
      ∧ Moment.given ⟨before, step, outcome, after⟩ = Kernel.nothing := by
  constructor
  · funext index
    rw [Moment.taken]
    split
    · next heq => exact absurd heq (hread _)
    · rfl
  · funext index
    rw [Moment.given]
    split
    · next heq => exact absurd heq (hwrite _)
    · rfl

theorem Puts.transfers (h : before.Puts step request) : step.transfers = false := by
  cases h <;> rfl

/-- A step is a turn of the kernel, with the requests it has made and the bytes it has moved. -/
def Turns (moment : Moment) : Prop :=
  ∃ request?, moment.before.host.kernel.Turn request? moment.taken moment.given
      moment.after.host.kernel
    ∧ moment.after.host.requests = moment.before.host.requests ++ request?.toList

theorem turns_still (hstep : step.transfers = false) (request? : Option Request)
    (h : before.host.kernel.Turn request? Kernel.nothing Kernel.nothing after.host.kernel)
    (hrequests : after.host.requests = before.host.requests ++ request?.toList) :
    Turns ⟨before, step, outcome, after⟩ := by
  obtain ⟨htaken, hgiven⟩ := @still_of_step before after step outcome hstep
  refine ⟨request?, ?_, hrequests⟩
  rw [htaken, hgiven]
  exact h

theorem turns_kept (hstep : step.transfers = false)
    (hkernel : after.host.kernel = before.host.kernel)
    (hrequests : after.host.requests = before.host.requests) :
    Turns ⟨before, step, outcome, after⟩ := by
  refine turns_still hstep none ?_ ?_
  · rw [hkernel]
    exact .kept none
  · rw [hrequests, Option.toList_none, List.append_nil]

theorem turns_asked {told : Trace} {result : Except Errno Nat} (hstep : step.transfers = false)
    (h : before.host.Asked request told result after.host) :
    Turns ⟨before, step, outcome, after⟩ := by
  obtain ⟨host, hhost⟩ : ∃ host, after.host = host := ⟨_, rfl⟩
  rw [hhost] at h
  cases h with
  | granted h =>
      refine turns_still hstep (some request) ?_ ?_
      · rw [hhost]
        exact .served (Host.serve_of_answer h)
      · rw [hhost]
        rfl
  | rejected h =>
      refine turns_still hstep (some request) ?_ ?_
      · rw [hhost]
        exact .kept _
      · rw [hhost]
        rfl

theorem turns_parts {silent : Bool} {result : Except GuardError Unit}
    (hstep : step.transfers = false)
    (h : guard.Parts silent before.host result after.host) :
    Turns ⟨before, step, outcome, after⟩ := by
  rcases h.asked with hhost | ⟨fd, told, answer, hasked⟩
  · exact turns_kept hstep (congrArg Host.kernel hhost) (congrArg Host.requests hhost)
  · exact turns_asked hstep hasked

theorem resource?_of_number? {ref : FdRef} {fd : Int} (h : session.number? ref = some fd) :
    session.resource? ref = session.host.kernel.resource? fd := by
  rw [resource?, h, Option.bind_some]

theorem turns_stirred {kernel : Kernel} (h : before.Stirs step outcome kernel)
    (hkernel : after.host.kernel = kernel) (hrequests : after.host.requests = before.host.requests) :
    Turns ⟨before, step, outcome, after⟩ := by
  have hnone : after.host.requests = before.host.requests ++ (none : Option Request).toList := by
    rw [hrequests, Option.toList_none, List.append_nil]
  cases h with
  | @wrote ref fd data count _ hnumber h =>
      have hgiven : Moment.given ⟨before, .write ref data, .returned count none, after⟩
          = before.host.kernel.givenBy fd (data.take count) := by
        funext index
        rw [Kernel.givenBy, ← resource?_of_number? hnumber]
        rfl
      refine ⟨none, ?_, hnone⟩
      rw [hgiven, hkernel]
      exact .wrote h
  | @readOff ref fd count bytes _ hnumber h =>
      have htaken : Moment.taken ⟨before, .read ref count, .data bytes, after⟩
          = before.host.kernel.takenBy fd bytes := by
        funext index
        rw [Kernel.takenBy, ← resource?_of_number? hnumber]
        rfl
      refine ⟨none, ?_, hnone⟩
      rw [htaken, hkernel]
      exact .readOff h
  | forked h =>
      refine turns_still rfl none ?_ hnone
      rw [hkernel]
      exact .forked h
  | killed child birth =>
      refine turns_still rfl none ?_ hnone
      rw [hkernel]
      exact .killed birth
  | reaped child birth =>
      refine turns_still rfl none ?_ hnone
      rw [hkernel]
      exact .reaped birth
  | closedIn child ref birth fd =>
      refine turns_still rfl none ?_ hnone
      rw [hkernel]
      exact .closedIn birth fd
  | openedIn child birth number =>
      refine turns_still rfl none ?_ hnone
      rw [hkernel]
      exact .openedIn birth
  | orphaned code =>
      refine turns_still rfl none ?_ hnone
      rw [hkernel]
      exact .orphaned code

theorem Deed.turns (h : Deed before step outcome after) : Turns ⟨before, step, outcome, after⟩ := by
  cases h with
  | ignored =>
      obtain ⟨htaken, hgiven⟩ :=
        @still_of_outcome before before step .badStep (fun _ => nofun) (fun _ => nofun)
      refine ⟨none, ?_, (List.append_nil _).symm⟩
      rw [htaken, hgiven]
      exact .kept none
  | noted _ hnote =>
      have hread : ∀ bytes, outcome ≠ .data bytes := by
        rintro bytes rfl
        cases hnote
      have hwrite : ∀ count, outcome ≠ .returned count none := by
        rintro count rfl
        cases hnote
      obtain ⟨htaken, hgiven⟩ := @still_of_outcome before before step outcome hread hwrite
      refine ⟨none, ?_, (List.append_nil _).symm⟩
      rw [htaken, hgiven]
      exact .kept none
  | stirred h => exact turns_stirred h rfl rfl
  | piped => exact turns_still rfl none .piped (List.append_nil _).symm
  | asked hputs h => exact turns_asked hputs.transfers h
  | misfit => exact turns_kept rfl rfl rfl
  | opened hputs h =>
      exact turns_still hputs.transfers (some _) (.served (Host.serve_of_answer h)) rfl
  | tookIn hmove => exact turns_kept (Step.transfers_of_move? hmove) rfl rfl
  | used => exact turns_kept rfl rfl rfl
  | released _ h => exact turns_parts rfl h
  | closed _ _ h => exact turns_parts rfl h
  | dropped _ _ h => exact turns_parts rfl h
  | closedPlain hstep _ _ h =>
      have hstill : step.transfers = false := by
        rcases hstep with rfl | rfl <;> rfl
      exact turns_asked hstill h
  | handedOut => exact turns_kept rfl rfl rfl
  | keptBack => exact turns_kept rfl rfl rfl

/-! ## Runs -/

variable {steps : List Step} {fd : Nat} {kernel : Kernel}

theorem run_cons (session : Session) (step : Step) (steps : List Step) :
    session.run (step :: steps) = (session.step step).2.run steps := rfl

theorem turns_step (session : Session) (step : Step) :
    Turns ⟨session, step, (session.step step).1, (session.step step).2⟩ :=
  (deed_step session step).turns

theorem files_run (session : Session) (steps : List Step) :
    session.host.kernel.files <+: (session.run steps).host.kernel.files := by
  induction steps generalizing session with
  | nil => exact List.prefix_refl _
  | cons step steps ih =>
      obtain ⟨request?, hturn, -⟩ := turns_step session step
      exact hturn.files.trans (ih _)

theorem requests_run (session : Session) (steps : List Step) :
    session.host.requests <+: (session.run steps).host.requests := by
  induction steps generalizing session with
  | nil => exact List.prefix_refl _
  | cons step steps ih =>
      obtain ⟨request?, -, hrequests⟩ := turns_step session step
      exact (hrequests ▸ List.prefix_append _ _).trans (ih _)

/-- What every turn of the kernel keeps is kept by every run. -/
theorem invariant_run {P : Kernel → Prop}
    (hturn : ∀ before request? taken given after,
      Kernel.Turn before request? taken given after → P before → P after)
    (h : P kernel) (steps : List Step) : P ((start kernel).run steps).host.kernel := by
  induction steps using List.reverseRecOn with
  | nil => exact h
  | append_singleton steps step ih =>
      obtain ⟨request?, hlast, -⟩ := turns_step ((start kernel).run steps) step
      rw [run_concat]
      exact hturn _ _ _ _ _ hlast ih

theorem zombiesBare_run (h : kernel.ZombiesBare) (steps : List Step) :
    ((start kernel).run steps).host.kernel.ZombiesBare := by
  apply invariant_run _ h
  intro before request? taken given after hturn hbare
  exact hturn.zombiesBare hbare

theorem buffered_run (session : Session) (steps : List Step) (index : Nat) :
    (session.moments steps).flatMap (·.taken index)
        ++ (session.run steps).host.kernel.buffered index
      = session.host.kernel.buffered index ++ (session.moments steps).flatMap (·.given index) := by
  induction steps generalizing session with
  | nil => exact (List.append_nil _).symm
  | cons step steps ih =>
      let next := (session.step step).2
      let first : Moment := ⟨session, step, (session.step step).1, next⟩
      let taken := (next.moments steps).flatMap (·.taken index)
      let given := (next.moments steps).flatMap (·.given index)
      obtain ⟨request?, hturn, -⟩ := turns_step session step
      -- what the first step leaves in the pipe is what the others begin with
      have hfirst : first.taken index ++ next.host.kernel.buffered index
          = session.host.kernel.buffered index ++ first.given index := hturn.buffered index
      calc first.taken index ++ taken ++ (next.run steps).host.kernel.buffered index
          = first.taken index ++ (taken ++ (next.run steps).host.kernel.buffered index) :=
            List.append_assoc _ _ _
        _ = first.taken index ++ (next.host.kernel.buffered index ++ given) := by rw [ih next]
        _ = session.host.kernel.buffered index ++ first.given index ++ given := by
            rw [← List.append_assoc, hfirst]
        _ = session.host.kernel.buffered index ++ (first.given index ++ given) :=
            List.append_assoc _ _ _

theorem stays_run {descriptor : Descriptor} (hopen : session.table.get? fd = some descriptor)
    (hclose : .close fd ∉ (session.run steps).asked session) :
    (session.run steps).table.get? fd = some descriptor := by
  induction steps generalizing session with
  | nil => exact hopen
  | cons step steps ih =>
      obtain ⟨request?, hturn, hrequests⟩ := turns_step session step
      -- what is asked in the first step comes before what is asked later, and neither is this close
      obtain ⟨more, hmore⟩ := requests_run (session.step step).2 steps
      have hlater : (session.run (step :: steps)).asked (session.step step).2 = more :=
        asked_of_requests hmore.symm
      have hall : (session.run (step :: steps)).asked session = request?.toList ++ more := by
        refine asked_of_requests ?_
        rw [run_cons, ← hmore, hrequests, List.append_assoc]
      rw [hall, List.mem_append, not_or] at hclose
      have hother : request? ≠ some (.close fd) := by
        rintro rfl
        exact hclose.1 List.mem_cons_self
      refine ih (hturn.stays hopen hother) ?_
      rw [← run_cons, hlater]
      exact hclose.2

theorem resource?_stays {later : Kernel} {resource : Resource}
    (hfiles : kernel.files <+: later.files) (htable : later.table.get? fd = kernel.table.get? fd)
    (h : kernel.resource? fd = some resource) : later.resource? fd = some resource := by
  rw [Kernel.resource?, Kernel.file?, FdTable.find?_ofNat] at h ⊢
  rw [htable]
  cases hget : kernel.table.get? fd with
  | none =>
      rw [hget] at h
      cases h
  | some descriptor =>
      rw [hget] at h
      obtain ⟨file, hfound, rfl⟩ := Option.map_eq_some_iff.mp h
      have hfile : kernel.files[descriptor.file]? = some file := hfound
      obtain ⟨more, hmore⟩ := hfiles
      have hlt := (List.getElem?_eq_some_iff.mp hfile).1
      have hlater : later.files[descriptor.file]? = some file := by
        rw [← hmore, List.getElem?_append_left hlt, hfile]
      exact congrArg (Option.map OpenFile.resource) hlater

/-! ## Copies -/

theorem Puts.unique {pidfd target : Int} {flags : UInt32}
    (h : before.Puts step (.pidfdGetfd pidfd target flags)) (hother : before.Puts step request) :
    request = .pidfdGetfd pidfd target flags := by
  cases h with
  | copyFd hholder htarget =>
      cases hother with
      | copyFd hholder' htarget' =>
          cases hholder.symm.trans hholder'
          cases htarget.symm.trans htarget'
          rfl
  | copyThrough hpidfd htarget =>
      cases hother with
      | copyThrough hpidfd' htarget' =>
          cases hpidfd.symm.trans hpidfd'
          cases htarget.symm.trans htarget'
          rfl
  | copyUnchecked hpidfd htarget =>
      cases hother with
      | copyUnchecked hpidfd' htarget' =>
          cases hpidfd.symm.trans hpidfd'
          cases htarget.symm.trans htarget'
          rfl

/-- A step that copies makes nothing in another way. -/
theorem Deed.opened_of_copy {pidfd target : Int} {flags : UInt32} {as : String}
    (h : Deed before step outcome after)
    (hputs : before.Puts step (.pidfdGetfd pidfd target flags)) (houtcome : outcome = .made as) :
    ∃ returned, before.host.kernel.serve (.pidfdGetfd pidfd target flags)
        = .ok (returned, after.host.kernel) ∧ after.held? as = some returned := by
  cases h with
  | @opened _ _ returned kernel told _ holder hother h hmakes hfree hheld =>
      cases houtcome
      cases hputs.unique hother
      refine ⟨returned, Host.serve_of_answer h, ?_⟩
      rw [held?_update (holder?_bind _ _ _), Function.update_self]
      exact hheld
  | noted _ hnote =>
      rw [houtcome] at hnote
      cases hnote
  | asked _ _ _ hreports => exact absurd houtcome hreports.ne_made
  | stirred h => cases h <;> cases hputs
  | closedPlain hstep =>
      rcases hstep with rfl | rfl <;> cases hputs
  | tookIn hmove =>
      cases hputs <;> cases hmove
  | ignored => cases houtcome
  | misfit => cases houtcome
  | _ => cases hputs

/-! ## Reading -/

theorem step_read {ref : FdRef} {fd : Int} {index count : Nat} {side : Side}
    (hnumber : session.number? ref = some fd)
    (hresource : session.host.kernel.resource? fd = some (.pipe index side)) :
    (session.step (.read ref count)).1 = match session.host.kernel.read fd count with
      | .error errno => .returned (-1) (some errno)
      | .ok (bytes, _) => .data bytes := by
  have hforeign : session.isForeign fd = false := by
    rw [Kernel.resource?] at hresource
    rw [isForeign, hresource]
  simp only [Session.step, perform, hnumber, hforeign, Option.bind_eq_bind, Option.bind_some,
    Bool.not_false, guard_true]
  cases session.host.kernel.read fd count with
  | error errno => rfl
  | ok answer => rfl

theorem data_nil_iff {ref : FdRef} {index count : Nat} {pipe : Pipe}
    (hresource : session.resource? ref = some (.pipe index .reading))
    (hpipe : session.host.kernel.pipes[index]? = some pipe) (hcount : count ≠ 0)
    (hzombies : session.host.kernel.ZombiesBare) :
    (session.step (.read ref count)).1 = .data []
      ↔ session.host.kernel.buffered index = []
        ∧ ¬ session.host.kernel.EndOpen index .writing := by
  obtain ⟨fd, hnumber, hfd⟩ := Option.bind_eq_some_iff.mp hresource
  rw [step_read hnumber hfd, ← Kernel.read_eq_nil_iff hfd hpipe hcount hzombies]
  cases session.host.kernel.read fd count with
  | error errno => simp
  | ok answer =>
      obtain ⟨bytes, kernel⟩ := answer
      simp

/-! ## The result -/

/-- What copies of descriptors have to do with each other in a run. -/
structure SharesPipes (kernel : Kernel) (steps : List Step) : Prop where
  /-- A copy is a new descriptor for the file that the source process has under the number; the
  source may be this process, a child, or any other that is running. -/
  copied : ∀ moment ∈ (start kernel).moments steps, ∀ pidfd target flags as,
    moment.before.Puts moment.step (.pidfdGetfd pidfd target flags) → moment.outcome = .made as →
    ∃ birth table source fd, moment.before.host.kernel.resource? pidfd = some (.pidfd birth)
      ∧ moment.before.host.kernel.tableOf? birth = some table ∧ table.find? target = some source
      ∧ moment.before.table.get? fd = none
      ∧ moment.after.table.get? fd = some ⟨source.file, true⟩
      ∧ moment.after.held? as = some fd
  /-- It is there, and for the same thing, until a request is made to close its own number. -/
  independent : ∀ earlier later, steps = earlier ++ later → ∀ fd descriptor,
    ((start kernel).run earlier).table.get? fd = some descriptor →
    .close (fd : Nat) ∉ ((start kernel).run steps).asked ((start kernel).run earlier) →
    ((start kernel).run steps).table.get? fd = some descriptor
      ∧ ∀ resource, ((start kernel).run earlier).host.kernel.resource? fd = some resource →
        ((start kernel).run steps).host.kernel.resource? fd = some resource
  /-- What is read from a pipe through any descriptor, and what is left in it, is what was in it and
  what was written through any descriptor, in this order. -/
  conserved : ∀ index, ((start kernel).moments steps).flatMap (·.taken index)
      ++ ((start kernel).run steps).host.kernel.buffered index
    = kernel.buffered index ++ ((start kernel).moments steps).flatMap (·.given index)
  delivered : ∀ index, kernel.buffered index = [] →
    ((start kernel).moments steps).flatMap (·.taken index)
      <+: ((start kernel).moments steps).flatMap (·.given index)
  /-- A reader is told of the end when nothing is left and no process that runs can write. -/
  ended : ∀ moment ∈ (start kernel).moments steps, ∀ ref count index pipe,
    moment.step = .read ref count → count ≠ 0 →
    moment.before.resource? ref = some (.pipe index .reading) →
    moment.before.host.kernel.pipes[index]? = some pipe →
    (moment.outcome = .data [] ↔ moment.before.host.kernel.buffered index = []
      ∧ ¬ moment.before.host.kernel.EndOpen index .writing)
  /-- A copy that is let go is open no more, and nothing else has changed. -/
  gone : ∀ moment ∈ (start kernel).moments steps, ∀ name fd, moment.step.letsGo? = some name →
    moment.outcome ≠ .badStep → moment.before.held? name = some fd →
    moment.after.host.kernel = moment.before.host.kernel.without fd
      ∧ moment.after.table.get? fd = none

theorem copied_of_mem_moments {moment : Moment} {pidfd target : Int} {flags : UInt32} {as : String}
    (hmem : moment ∈ session.moments steps)
    (hputs : moment.before.Puts moment.step (.pidfdGetfd pidfd target flags))
    (houtcome : moment.outcome = .made as) :
    ∃ birth table source fd, moment.before.host.kernel.resource? pidfd = some (.pidfd birth)
      ∧ moment.before.host.kernel.tableOf? birth = some table ∧ table.find? target = some source
      ∧ moment.before.table.get? fd = none
      ∧ moment.after.table.get? fd = some ⟨source.file, true⟩
      ∧ moment.after.held? as = some fd := by
  obtain ⟨earlier, step, later, -, rfl⟩ := mem_moments_iff.mp hmem
  obtain ⟨returned, hserve, hheld⟩ := (deed_step _ step).opened_of_copy hputs houtcome
  obtain ⟨birth, table, source, hresource, htable, hsource, hfree, hopen⟩ :=
    Kernel.copied_pidfdGetfd hserve
  exact ⟨birth, table, source, returned, hresource, htable, hsource, hfree, hopen, hheld⟩

theorem gone_of_mem_moments {moment : Moment} (hmem : moment ∈ session.moments steps)
    (hgo : moment.step.letsGo? = some name) (hunderstood : moment.outcome ≠ .badStep)
    (hheld : moment.before.held? name = some fd) :
    moment.after.host.kernel = moment.before.host.kernel.without fd
      ∧ moment.after.table.get? fd = none := by
  obtain ⟨earlier, step, later, -, rfl⟩ := mem_moments_iff.mp hmem
  have hperform : (session.run earlier).perform step ≠ none := by
    intro hnone
    refine hunderstood ?_
    simp [Session.step, hnone]
  have hkernel := ((deed_step (session.run earlier) step).letGo hgo hperform).closed.kernel
  rw [hheld, Option.elim_some] at hkernel
  refine ⟨hkernel, ?_⟩
  rw [table, hkernel, Kernel.without, FdTable.get?_erase, if_pos rfl]

/-- **Copies share one stream and go away one by one.** -/
theorem sharesPipes_run (kernel : Kernel) (hzombies : kernel.ZombiesBare) (steps : List Step) :
    SharesPipes kernel steps where
  copied _ hmem _ _ _ _ hputs houtcome := copied_of_mem_moments hmem hputs houtcome
  independent := by
    rintro earlier later rfl fd descriptor hopen hclose
    rw [run_append] at hclose ⊢
    have hstays := stays_run hopen hclose
    refine ⟨hstays, fun resource hresource => ?_⟩
    exact resource?_stays (files_run _ later) (hstays.trans hopen.symm) hresource
  conserved := buffered_run (start kernel) steps
  delivered := by
    intro index hempty
    have hall := buffered_run (start kernel) steps index
    have hstart : (start kernel).host.kernel.buffered index = [] := hempty
    rw [hstart, List.nil_append] at hall
    exact ⟨_, hall⟩
  ended := by
    intro moment hmem ref count index pipe hstep hcount hresource hpipe
    obtain ⟨earlier, step, later, -, rfl⟩ := mem_moments_iff.mp hmem
    obtain rfl : step = .read ref count := hstep
    exact data_nil_iff hresource hpipe hcount (zombiesBare_run hzombies earlier)
  gone _ hmem _ _ hgo hunderstood hheld := gone_of_mem_moments hmem hgo hunderstood hheld

theorem zombiesBare_boot (pid : Pid) (mayMount : Bool) :
    (Kernel.boot pid mayMount).ZombiesBare := by
  intro process hmem hzombie
  rw [Kernel.boot] at hmem
  split at hmem
  · cases hmem
  · obtain rfl := List.mem_singleton.mp hmem
    cases hzombie

/-- The writing end of a pipe is copied and closed. Only when the copy is gone too is there nobody
left to write. -/
theorem sharesPipes_run_copy :
    let kernel := Kernel.boot 100 false
    let steps : List Step := [.pipe "p", .openPid .self 0 "self fd",
      .copyFd "self fd" (.object "p.w") "copy", .drop "p.w", .drop "copy"]
    kernel.ZombiesBare
      ∧ ((start kernel).run (steps.take 4)).host.kernel.hasEnd 0 .writing = true
      ∧ ((start kernel).run steps).host.kernel.hasEnd 0 .writing = false
      ∧ SharesPipes kernel (steps ++ [.read (.object "p.r") 9]) := by
  intro kernel steps
  have hzombies : kernel.ZombiesBare := zombiesBare_boot 100 false
  exact ⟨hzombies, by decide, by decide, sharesPipes_run kernel hzombies _⟩

end Session

end PidOne
