import PidOne.Proofs.Guard.Closing
import PidOne.Proofs.Guard.Once

/-!
# What a guard tells of its life

A guard first tells that it has its descriptor, then of every use, and of the one attempt to close
it at most once: when that has succeeded, or when it has failed and nobody else will hear of it.
`Tells` says so of all the events of one guard, given the uses that were made of it and the attempts
to close that it made.

The first event apart, what is told part by part adds up (`Goes`), so it is enough to look at one
step at a time.
-/

namespace PidOne

/-- The value of a field of an event, if the field has one. -/
def Event.value? (event : Event) (name : String) : Option FieldValue :=
  (event.fields.find? fun field => field.name = name).bind Field.value

namespace Guard

def isUse (event : Event) : Bool := event.message = "descriptor used"

/-- An attempt of a guard to close its number. -/
structure Closing where
  byDrop : Bool
  answer : Except Errno Unit

/-- What a guard tells of an attempt to close. Where the caller is given the error, nothing. -/
def report (guard : Guard) : Closing → List Event
  | ⟨_, .ok ()⟩ => [guard.closed]
  | ⟨true, .error errno⟩ => [guard.closeFailed (.close errno)]
  | ⟨false, .error _⟩ => []

/-- The name that an event has in its field "event". -/
def eventName (guard : Guard) (event : Event) : String :=
  if event = guard.acquired then guard.events.opened
  else if isUse event then "fd_operation"
  else if event.level = .error then guard.events.error
  else guard.events.closed

/-- What can be read off an event that a guard has told. -/
structure Voiced (guard : Guard) (event : Event) : Prop where
  target : event.target = target
  name : event.value? "event" = some (.quoted (guard.eventName event))
  fd : event.value? "fd" = some (.fd guard.number)
  pid : isUse event = false → event.value? "pid" = guard.subject.pid.map .pid
  level : event.level = .debug ∨ event.level = .error

/-- The events of one guard, of which the uses and the attempts to close are known. -/
structure Tells (guard : Guard) (uses : List String) (closings : List Closing)
    (events : List Event) : Prop where
  /-- The descriptor is acquired once and first. Behind that come the uses, each once and in their
  order, and among them what is told of the attempts to close. -/
  grammar : ∃ rest, events = guard.acquired :: rest ∧ guard.acquired ∉ rest
    ∧ rest.filter isUse = uses.map guard.used
    ∧ (rest.filter fun event => !isUse event) = closings.flatMap guard.report
  once : closings.length ≤ 1
  /-- The guard tells that it has closed its number if and only if it has. -/
  closed : guard.closed ∈ events ↔ ∃ closing ∈ closings, closing.answer = .ok ()
  /-- It tells of an error if and only if it was dropped and its close failed, and shows the message
  of the error of that close. -/
  failed : ∀ event, event ∈ events ∧ event.level = .error
    ↔ ∃ errno, ⟨true, .error errno⟩ ∈ closings ∧ event = guard.closeFailed (.close errno)
      ∧ event.value? "error" = some (.plain (GuardError.close errno).message)
  voiced : ∀ event ∈ events, guard.Voiced event

/-- The events behind the first one. -/
structure Goes (guard : Guard) (uses : List String) (closings : List Closing)
    (rest : List Event) : Prop where
  uses : rest.filter isUse = uses.map guard.used
  reports : (rest.filter fun event => !isUse event) = closings.flatMap guard.report

/-! ## One event -/

section

variable (guard : Guard) (operation : String) (error : GuardError) (errno : Errno)

@[simp]
theorem message_acquired : guard.acquired.message = "descriptor acquired" := rfl

@[simp]
theorem message_used : (guard.used operation).message = "descriptor used" := rfl

@[simp]
theorem message_closed : guard.closed.message = "descriptor closed" := rfl

@[simp]
theorem message_closeFailed :
    (guard.closeFailed error).message = "descriptor close failed" := rfl

@[simp]
theorem isUse_used : isUse (guard.used operation) = true := by simp [isUse]

@[simp]
theorem isUse_closed : isUse guard.closed = false := by simp [isUse]

@[simp]
theorem isUse_closeFailed : isUse (guard.closeFailed error) = false := by simp [isUse]

theorem ne_of_message {event other : Event} (h : event.message ≠ other.message) : event ≠ other :=
  fun heq => h (congrArg Event.message heq)

theorem used_ne_acquired : guard.used operation ≠ guard.acquired := ne_of_message (by simp)

theorem closed_ne_acquired : guard.closed ≠ guard.acquired := ne_of_message (by simp)

theorem closeFailed_ne_acquired : guard.closeFailed error ≠ guard.acquired :=
  ne_of_message (by simp)

theorem closed_ne_closeFailed : guard.closed ≠ guard.closeFailed error := ne_of_message (by simp)

theorem voiced_acquired : guard.Voiced guard.acquired where
  target := rfl
  name := by
    rw [eventName, if_pos rfl]
    rfl
  fd := rfl
  pid _ := rfl
  level := .inl rfl

theorem voiced_used : guard.Voiced (guard.used operation) where
  target := rfl
  name := by
    rw [eventName, if_neg (used_ne_acquired guard operation), if_pos (isUse_used guard operation)]
    rfl
  fd := rfl
  pid h := by
    rw [isUse_used] at h
    cases h
  level := .inl rfl

theorem voiced_closed : guard.Voiced guard.closed where
  target := rfl
  name := by
    have hlevel : guard.closed.level ≠ .error := nofun
    rw [eventName, if_neg guard.closed_ne_acquired, isUse_closed, if_neg Bool.false_ne_true,
      if_neg hlevel]
    rfl
  fd := rfl
  pid _ := rfl
  level := .inl rfl

theorem voiced_closeFailed : guard.Voiced (guard.closeFailed (.close errno)) where
  target := rfl
  name := by
    have hlevel : (guard.closeFailed (.close errno)).level = .error := rfl
    rw [eventName, if_neg (guard.closeFailed_ne_acquired _), isUse_closeFailed,
      if_neg Bool.false_ne_true, if_pos hlevel]
    rfl
  fd := rfl
  pid _ := rfl
  level := .inr rfl

end

variable {guard : Guard} {uses more : List String} {closings later : List Closing}
  {rest behind : List Event} {event : Event} {closing : Closing}

theorem mem_report_iff : event ∈ guard.report closing
    ↔ closing.answer = .ok () ∧ event = guard.closed
      ∨ ∃ errno, closing = ⟨true, .error errno⟩ ∧ event = guard.closeFailed (.close errno) := by
  obtain ⟨byDrop, answer⟩ := closing
  cases answer with
  | ok done => simp [report]
  | error errno => cases byDrop <;> simp [report]

theorem isUse_of_mem_report (h : event ∈ guard.report closing) : isUse event = false := by
  rcases mem_report_iff.mp h with ⟨-, rfl⟩ | ⟨errno, -, rfl⟩
  · exact isUse_closed guard
  · exact isUse_closeFailed guard _

/-! ## Events behind the first one -/

theorem goes_nil (guard : Guard) : guard.Goes [] [] [] := ⟨rfl, rfl⟩

theorem goes_use (guard : Guard) (operation : String) :
    guard.Goes [operation] [] [guard.used operation] := by
  constructor <;> simp

theorem goes_report (guard : Guard) (closings : List Closing) :
    guard.Goes [] closings (closings.flatMap guard.report) := by
  have huse : ∀ event ∈ closings.flatMap guard.report, isUse event = false := by
    intro event hmem
    obtain ⟨closing, -, hreport⟩ := List.mem_flatMap.mp hmem
    exact isUse_of_mem_report hreport
  constructor
  · rw [List.map_nil, List.filter_eq_nil_iff]
    intro event hmem
    simp [huse event hmem]
  · rw [List.filter_eq_self]
    intro event hmem
    simp [huse event hmem]

theorem Goes.append (h : guard.Goes uses closings rest) (hmore : guard.Goes more later behind) :
    guard.Goes (uses ++ more) (closings ++ later) (rest ++ behind) where
  uses := by rw [List.filter_append, List.map_append, h.uses, hmore.uses]
  reports := by rw [List.filter_append, List.flatMap_append, h.reports, hmore.reports]

theorem Goes.mem_iff (h : guard.Goes uses closings rest) :
    event ∈ rest ↔ (∃ operation ∈ uses, event = guard.used operation)
      ∨ ∃ closing ∈ closings, event ∈ guard.report closing := by
  have hsplit : event ∈ rest ↔ event ∈ rest.filter isUse
      ∨ event ∈ rest.filter fun event => !isUse event := by
    cases huse : isUse event <;> simp [List.mem_filter, huse]
  rw [hsplit, h.uses, h.reports, List.mem_map, List.mem_flatMap]
  simp [eq_comm]

theorem Goes.voiced (h : guard.Goes uses closings rest) (hmem : event ∈ rest) :
    guard.Voiced event := by
  rcases h.mem_iff.mp hmem with ⟨operation, -, rfl⟩ | ⟨closing, -, hreport⟩
  · exact voiced_used guard operation
  · rcases mem_report_iff.mp hreport with ⟨-, rfl⟩ | ⟨errno, -, rfl⟩
    · exact voiced_closed guard
    · exact voiced_closeFailed guard errno

theorem Goes.acquired_not_mem (h : guard.Goes uses closings rest) : guard.acquired ∉ rest := by
  intro hmem
  rcases h.mem_iff.mp hmem with ⟨operation, -, heq⟩ | ⟨closing, -, hreport⟩
  · exact used_ne_acquired guard operation heq.symm
  · rcases mem_report_iff.mp hreport with ⟨-, heq⟩ | ⟨errno, -, heq⟩
    · exact closed_ne_acquired guard heq.symm
    · exact closeFailed_ne_acquired guard _ heq.symm

theorem Goes.closed_mem_iff (h : guard.Goes uses closings rest) :
    guard.closed ∈ rest ↔ ∃ closing ∈ closings, closing.answer = .ok () := by
  rw [h.mem_iff]
  constructor
  · rintro (⟨operation, -, heq⟩ | ⟨closing, hmem, hreport⟩)
    · have huse := isUse_used guard operation
      rw [← heq, isUse_closed] at huse
      cases huse
    · rcases mem_report_iff.mp hreport with ⟨hanswer, -⟩ | ⟨errno, -, heq⟩
      · exact ⟨closing, hmem, hanswer⟩
      · exact absurd heq (closed_ne_closeFailed guard _)
  · rintro ⟨closing, hmem, hanswer⟩
    exact .inr ⟨closing, hmem, mem_report_iff.mpr (.inl ⟨hanswer, rfl⟩)⟩

theorem Goes.error_mem_iff (h : guard.Goes uses closings rest) :
    event ∈ rest ∧ event.level = .error
      ↔ ∃ errno, ⟨true, .error errno⟩ ∈ closings ∧ event = guard.closeFailed (.close errno) := by
  rw [h.mem_iff]
  constructor
  · rintro ⟨⟨operation, -, rfl⟩ | ⟨closing, hmem, hreport⟩, hlevel⟩
    · cases hlevel
    · rcases mem_report_iff.mp hreport with ⟨-, rfl⟩ | ⟨errno, rfl, rfl⟩
      · cases hlevel
      · exact ⟨errno, hmem, rfl⟩
  · rintro ⟨errno, hmem, rfl⟩
    exact ⟨.inr ⟨_, hmem, mem_report_iff.mpr (.inr ⟨errno, rfl, rfl⟩)⟩, rfl⟩

/-! ## All events of a guard -/

theorem Goes.tells (h : guard.Goes uses closings rest) (honce : closings.length ≤ 1) :
    guard.Tells uses closings (guard.acquired :: rest) where
  grammar := ⟨rest, rfl, h.acquired_not_mem, h.uses, h.reports⟩
  once := honce
  closed := by
    rw [List.mem_cons, or_iff_right guard.closed_ne_acquired]
    exact h.closed_mem_iff
  failed event := by
    have hrest : event ∈ guard.acquired :: rest ∧ event.level = .error
        ↔ event ∈ rest ∧ event.level = .error := by
      rw [List.mem_cons]
      constructor
      · rintro ⟨rfl | hmem, hlevel⟩
        · cases hlevel
        · exact ⟨hmem, hlevel⟩
      · rintro ⟨hmem, hlevel⟩
        exact ⟨.inr hmem, hlevel⟩
    rw [hrest, h.error_mem_iff]
    constructor
    · rintro ⟨errno, hmem, rfl⟩
      exact ⟨errno, hmem, rfl, rfl⟩
    · rintro ⟨errno, hmem, hevent, -⟩
      exact ⟨errno, hmem, hevent⟩
  voiced := List.forall_mem_cons.mpr ⟨voiced_acquired guard, fun _ hmem => h.voiced hmem⟩

theorem Goes.of_emptied (h : guard.emptied.Goes uses closings rest) :
    guard.Goes uses closings rest :=
  ⟨h.uses, h.reports⟩

/-! ## On a host -/

section

/-- The attempt that a guard makes to close its number, if it has its descriptor. -/
def attempts (guard : Guard) (byDrop : Bool) (host : Host) : List Closing :=
  guard.held.toList.map fun owned =>
    ⟨byDrop, (host.kernel.serve (.close owned.number)).map fun _ => ()⟩

variable {silent : Bool} {host after : Host} {result : Except GuardError Unit}

theorem Parts.trace (h : guard.Parts silent host result after) :
    ∃ told, after.trace = host.trace ++ told
      ∧ told.ofGuards = (guard.attempts silent host).flatMap guard.report := by
  cases h with
  | empty hempty =>
      rw [attempts, hempty]
      exact ⟨[], (List.append_nil _).symm, rfl⟩
  | closed hheld hopen =>
      rw [attempts, hheld, Option.toList_some, List.map_singleton, Kernel.serve_close_open hopen]
      exact ⟨_, rfl, rfl⟩
  | failed hheld hfree =>
      rw [attempts, hheld, Option.toList_some, List.map_singleton, Kernel.serve_close_free hfree]
      refine ⟨_, rfl, ?_⟩
      cases silent with
      | true => rfl
      | false => rfl

theorem Parts.requests (h : guard.Parts silent host result after) :
    after.requests = host.requests ++ guard.held.toList.map fun owned => .close owned.number := by
  cases h with
  | empty hempty => rw [hempty, Option.toList_none, List.map_nil, List.append_nil]
  | closed hheld => rw [hheld]; rfl
  | failed hheld => rw [hheld]; rfl

/-- The error of a failing attempt is the guard's answer. -/
theorem Parts.answer {byDrop : Bool} {errno : Errno} (h : guard.Parts silent host result after)
    (hmem : ⟨byDrop, .error errno⟩ ∈ guard.attempts silent host) :
    result = .error (.close errno) := by
  cases h with
  | empty hempty =>
      rw [attempts, hempty] at hmem
      cases hmem
  | closed hheld hopen =>
      rw [attempts, hheld, Option.toList_some, List.map_singleton,
        Kernel.serve_close_open hopen] at hmem
      cases List.mem_singleton.mp hmem
  | failed hheld hfree =>
      rw [attempts, hheld, Option.toList_some, List.map_singleton,
        Kernel.serve_close_free hfree] at hmem
      cases List.mem_singleton.mp hmem
      rfl

theorem length_attempts (guard : Guard) (byDrop : Bool) (host : Host) :
    (guard.attempts byDrop host).length = guard.borrow?.toList.length := by
  cases hheld : guard.held with
  | none => simp [attempts, borrow?, hheld]
  | some owned => simp [attempts, borrow?, hheld]

end

/-! ## A whole life

Here the kernel's answers are those of a script, so a close may fail with any error number.
-/

def Use.operation? : Use → Option String
  | .tellUse operation => some operation
  | _ => none

/-- What the life of a guard adds to the closes and events of its surroundings. A close was made by
dropping the guard if the owner has made no attempt to give the descriptor up. -/
structure Life.Told (guard : Guard) (uses : List Use) (script after : Script) (life : Life)
    (asked : List Nat) (rest : List Event) : Prop where
  closes : after.closes = script.closes ++ asked
  events : after.events = script.events ++ rest
  once : asked.length ≤ 1
  goes : guard.Goes (uses.filterMap Use.operation?)
    (asked.map fun _ => ⟨life.attempts.isEmpty, script.answer⟩) rest
  /-- Where the owner has made an attempt, the owner is given the error. -/
  returned : ∀ errno, script.answer = .error errno → asked ≠ [] → life.attempts ≠ [] →
    .error (.close errno) ∈ life.attempts

/-- The script after an attempt of a guard to close a number. -/
def afterShut (guard : Guard) (fd : Nat) (byDrop : Bool) (script : Script) : Script :=
  { script with
    closes := script.closes ++ [fd]
    events := script.events ++ guard.report ⟨byDrop, script.answer⟩ }

section

variable {script after : Script} {life : Life} {asked : List Nat} {owned : Owned}
  {behind : List Use}

theorem Life.Told.quiet (guard : Guard) (script : Script) (attempts : List (Except GuardError Unit))
    (handedOut : List Owned) :
    Life.Told guard [] script script ⟨[guard], attempts, handedOut⟩ [] [] where
  closes := (List.append_nil _).symm
  events := (List.append_nil _).symm
  once := Nat.zero_le 1
  goes := guard.goes_nil
  returned := fun _ _ hnone => absurd rfl hnone

theorem Life.Told.use {operation : String}
    (h : life.Told guard behind { script with events := script.events ++ [guard.used operation] }
      after asked rest) :
    Life.Told guard (.tellUse operation :: behind) script after
      { life with guards := guard :: life.guards } asked (guard.used operation :: rest) where
  closes := h.closes
  events := by rw [h.events, List.append_assoc, List.singleton_append]
  once := h.once
  goes := (guard.goes_use operation).append h.goes
  returned := h.returned

theorem Life.Told.observe (h : life.Told guard behind script after asked rest) :
    Life.Told guard (.observe :: behind) script after
      { life with guards := guard :: life.guards } asked rest :=
  ⟨h.closes, h.events, h.once, h.goes, h.returned⟩

/-- A release that is the first attempt makes the one close there is. -/
theorem Life.Told.release {fd : Nat}
    (h : life.Told guard.emptied behind (guard.afterShut fd false script) after [] rest) :
    Life.Told guard (.release :: behind) script after
      ⟨guard :: life.guards, script.answer.mapError GuardError.close :: life.attempts,
        life.handedOut⟩ [fd] (guard.report ⟨false, script.answer⟩ ++ rest) where
  closes := by rw [h.closes, List.append_nil, afterShut]
  events := by rw [h.events, afterShut, List.append_assoc]
  once := Nat.le_refl 1
  goes := by
    have hreport := guard.goes_report [⟨false, script.answer⟩]
    rw [List.flatMap_singleton] at hreport
    exact hreport.append h.goes.of_emptied
  returned := by
    intro errno herror _ _
    rw [herror]
    exact List.mem_cons_self

/-- The one close there is, made with the last call. -/
theorem Life.Told.shut {attempts : List (Except GuardError Unit)} (guard : Guard) (fd : Nat)
    (script : Script)
    (hattempts : ∀ errno, script.answer = .error errno → attempts ≠ [] →
      .error (.close errno) ∈ attempts) :
    Life.Told guard [] script (guard.afterShut fd attempts.isEmpty script)
      ⟨[guard], attempts, []⟩ [fd] (guard.report ⟨attempts.isEmpty, script.answer⟩) where
  closes := rfl
  events := rfl
  once := Nat.le_refl 1
  goes := by
    have hreport := guard.goes_report [⟨attempts.isEmpty, script.answer⟩]
    rwa [List.flatMap_singleton] at hreport
  returned := fun errno herror _ hmade => hattempts errno herror hmade

theorem run_shut_script (guard : Guard) (fd : Nat) (script : Script) :
    (guard.shut fd : Scripted _).run script
      = (script.answer.mapError GuardError.close, guard.afterShut fd false script) := by
  have hclose : ((Closes.close fd : Scripted _).run script)
      = (script.answer, { script with closes := script.closes ++ [fd] }) := rfl
  rw [Guard.shut, run_bind hclose, afterShut]
  cases script.answer with
  | error errno =>
      rw [report, List.append_nil]
      rfl
  | ok done => rfl

theorem run_drop_script (h : guard.held = some owned) (script : Script) :
    (guard.drop : Scripted Unit).run script
      = ((), guard.afterShut owned.number true script) := by
  rw [drop_of_held h, run_bind (run_shut_script guard owned.number script), afterShut, afterShut]
  cases script.answer with
  | error errno =>
      have hsilent : guard.report ⟨false, .error errno⟩ = [] := rfl
      rw [hsilent, List.append_nil]
      rfl
  | ok done => rfl

theorem told_live_of_empty (h : guard.held = none) (behind : List Use) (ending : Ending)
    (script : Script) :
    let result := (guard.live behind ending : Scripted Life).run script
    ∃ rest, result.1.Told guard behind script result.2 [] rest := by
  induction behind generalizing script with
  | nil =>
      refine ⟨[], ?_⟩
      cases ending with
      | close =>
          rw [live, close_of_empty h]
          exact .quiet guard script _ []
      | handOut =>
          rw [live, handOut_of_empty h]
          exact .quiet guard script _ []
      | drop =>
          rw [live, drop_of_empty h, pure_bind]
          exact .quiet guard script [] []
  | cons use behind ih =>
      cases use with
      | release =>
          obtain ⟨rest, hrest⟩ := ih script
          simp only [live, release_of_empty h, pure_bind, StateT.run_bind]
          exact ⟨rest, hrest.closes, hrest.events, hrest.once, hrest.goes,
            fun _ _ hnone => absurd rfl hnone⟩
      | tellUse operation =>
          obtain ⟨rest, hrest⟩ := ih { script with events := script.events ++ [guard.used operation] }
          exact ⟨_, hrest.use⟩
      | observe =>
          obtain ⟨rest, hrest⟩ := ih script
          exact ⟨rest, hrest.observe⟩

theorem told_live_of_held (h : guard.held = some owned) (behind : List Use) (ending : Ending)
    (script : Script) :
    let result := (guard.live behind ending : Scripted Life).run script
    ∃ asked rest, result.1.Told guard behind script result.2 asked rest := by
  induction behind generalizing script with
  | nil =>
      cases ending with
      | close =>
          rw [live, close_of_held h, run_bind (run_shut_script guard owned.number script)]
          have hreturned : ∀ errno, script.answer = .error errno →
              [script.answer.mapError GuardError.close] ≠ [] →
              .error (.close errno) ∈ [script.answer.mapError GuardError.close] := by
            intro errno herror _
            rw [herror]
            exact List.mem_singleton_self _
          exact ⟨_, _, .shut guard owned.number script hreturned⟩
      | handOut =>
          rw [live, handOut_of_held h]
          exact ⟨[], [], .quiet guard script _ _⟩
      | drop =>
          rw [live, run_bind (run_drop_script h script)]
          exact ⟨_, _, .shut guard owned.number script fun _ _ hnone => absurd rfl hnone⟩
  | cons use behind ih =>
      cases use with
      | release =>
          -- no close has been made yet, so the answer is the one the script began with
          have hempty := told_live_of_empty (held_emptied guard) behind ending
            (guard.afterShut owned.number false script)
          obtain ⟨rest, hrest⟩ := hempty
          rw [live, release_of_held h, bind_assoc,
            run_bind (run_shut_script guard owned.number script), pure_bind]
          exact ⟨_, _, hrest.release⟩
      | tellUse operation =>
          obtain ⟨asked, rest, hrest⟩ :=
            ih { script with events := script.events ++ [guard.used operation] }
          exact ⟨asked, _, hrest.use⟩
      | observe =>
          obtain ⟨asked, rest, hrest⟩ := ih script
          exact ⟨asked, rest, hrest.observe⟩

/-- What the whole life of a guard adds to the closes and events around it, the first event
included. -/
structure Life.Chronicled (guard : Guard) (uses : List Use) (script after : Script) (life : Life)
    (asked : List Nat) (told : List Event) : Prop where
  closes : after.closes = script.closes ++ asked
  events : after.events = script.events ++ told
  tells : guard.Tells (uses.filterMap Use.operation?)
    (asked.map fun _ => ⟨life.attempts.isEmpty, script.answer⟩) told
  returned : ∀ errno, script.answer = .error errno → asked ≠ [] → life.attempts ≠ [] →
    .error (.close errno) ∈ life.attempts

/-- Whatever the kernel answers to a close. -/
theorem chronicled_wholeLife (owned : Owned) (subject : GuardSubject) (events : EventNames)
    (behind : List Use) (ending : Ending) (script : Script) :
    let guard : Guard := ⟨some owned, owned.number, subject, events⟩
    let result := (wholeLife owned subject events behind ending : Scripted Life).run script
    ∃ asked told, result.1.Chronicled guard behind script result.2 asked told := by
  intro guard
  have hnew : (Guard.new owned subject events : Scripted Guard).run script
      = (guard, { script with events := script.events ++ [guard.acquired] }) := rfl
  have hheld : guard.held = some owned := rfl
  rw [wholeLife, run_bind hnew]
  obtain ⟨asked, rest, h⟩ := told_live_of_held hheld behind ending
    { script with events := script.events ++ [guard.acquired] }
  refine ⟨asked, guard.acquired :: rest, h.closes, ?_, h.goes.tells ?_, h.returned⟩
  · rw [h.events, List.append_assoc, List.singleton_append]
  · rw [List.length_map]
    exact h.once

end

end Guard

end PidOne
