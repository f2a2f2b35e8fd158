import PidOne.Log.Logger

/-!
# Setting up the log

A process may try to set up its log any number of times, and logs in between. The first
configuration with a good filter is the one that counts: what the logger was set up with is never
changed afterwards, by a later attempt or by what is logged. An attempt that fails leaves it alone
as well, and how it fails says whether its own filter was at fault. One kind of bad filter is not
reported at all but stops the program: one that would be cut inside a character.
-/

namespace PidOne.Log

/-- What happens to a journal. -/
inductive Move where
  | setUp (config : Config)
  | record (trace : Trace)

namespace Logger

/-- What the logger was set up with. -/
def settings (logger : Logger) : Filter × Bool := (logger.filter, logger.json)

theorem settings_follow (logger : Logger) (signal : Signal) :
    (logger.follow signal).2.settings = logger.settings := by
  cases signal with
  | enter span => rfl
  | event event =>
      rw [follow]
      split
      · rfl
      · rfl
  | leave span =>
      rw [follow]
      split
      · rfl
      · rfl

theorem settings_followAll (logger : Logger) (trace : Trace) :
    (logger.followAll trace).2.settings = logger.settings := by
  induction trace generalizing logger with
  | nil => rfl
  | cons signal rest ih => exact (ih _).trans (settings_follow logger signal)

end Logger

namespace Journal

def settings? (journal : Journal) : Option (Filter × Bool) := journal.logger.map Logger.settings

def move (journal : Journal) : Move → Journal
  | .setUp config => (journal.setUp config).2
  | .record trace => journal.record trace

def run (journal : Journal) (moves : List Move) : Journal := moves.foldl move journal

/-- What the attempts to set up the log come to. -/
def results (journal : Journal) : List Move → List (Except SetUpError Unit)
  | [] => []
  | .setUp config :: moves =>
    (journal.setUp config).1 :: (journal.move (.setUp config)).results moves
  | .record trace :: moves => (journal.move (.record trace)).results moves

variable {journal : Journal} {config : Config} {known : Filter × Bool}

theorem settings?_eq_none_iff : journal.settings? = none ↔ journal.logger = none :=
  Option.map_eq_none_iff

theorem settings?_record (journal : Journal) (trace : Trace) :
    (journal.record trace).settings? = journal.settings? := by
  unfold record
  split
  · rfl
  · next logger hlogger =>
    rw [settings?, settings?, hlogger]
    exact congrArg some (logger.settings_followAll trace)

/-! ## One attempt -/

/-- What an attempt to set up the log can come to. -/
inductive Attempt (journal : Journal) (config : Config) :
    Except SetUpError Unit → Journal → Prop where
  | refused {error : DirectiveError} (h : Filter.read config.filter = .error (.refused error)) :
      Attempt journal config (.error (.refused (Logger.badFilter config.filter error))) journal
  | crashed (h : Filter.read config.filter = .error .splitCharacter) :
      Attempt journal config (.error .crash) journal
  | late {filter : Filter} {logger : Logger} (h : Filter.read config.filter = .ok filter)
      (hlogger : journal.logger = some logger) :
      Attempt journal config (.error (.refused Logger.alreadySet))
        { journal with logger := some (logger.keep filter) }
  | installed {filter : Filter} {after : Journal} (h : Filter.read config.filter = .ok filter)
      (hnone : journal.logger = none) (hsettings : after.settings? = some (filter, config.json)) :
      Attempt journal config (.ok ()) after

theorem attempt_setUp (journal : Journal) (config : Config) :
    Attempt journal config (journal.setUp config).1 (journal.setUp config).2 := by
  unfold setUp
  split
  · next error hread => exact .refused hread
  · next hread => exact .crashed hread
  · next filter hread =>
    split
    · next logger hlogger => exact .late hread hlogger
    · next hnone =>
      apply Attempt.installed hread hnone
      rw [settings?_record]
      rfl

namespace Attempt

variable {result : Except SetUpError Unit} {after : Journal}

theorem ok_iff (h : Attempt journal config result after) :
    result = .ok () ↔ (∃ filter, Filter.read config.filter = .ok filter)
      ∧ journal.settings? = none := by
  rw [settings?_eq_none_iff]
  cases h with
  | refused h => simp [h]
  | crashed h => simp [h]
  | late h hlogger => simp [hlogger]
  | installed h hnone => simp [h, hnone]

theorem crash_iff (h : Attempt journal config result after) :
    result = .error .crash ↔ Filter.read config.filter = .error .splitCharacter := by
  cases h with
  | refused h => simp [h]
  | crashed h => simp [h]
  | late h => simp [h]
  | installed h => simp [h]

/-- What is told of a bad filter begins differently from what is told of a late attempt. -/
theorem told (h : Attempt journal config result after) {failure : Failure}
    (hresult : result = .error (.refused failure)) :
    ∃ text, failure = .tracing text
      ∧ ("bad filter ".toList <+: text.toList
        ↔ ∃ error, Filter.read config.filter = .error (.refused error)) := by
  cases h with
  | refused h =>
      cases hresult
      refine ⟨_, rfl, iff_of_true ?_ ⟨_, h⟩⟩
      rw [String.toList_append, String.toList_append, String.toList_append, List.append_assoc,
        List.append_assoc]
      exact List.prefix_append _ _
  | crashed h => cases hresult
  | late h =>
      cases hresult
      refine ⟨_, rfl, iff_of_false (by decide) ?_⟩
      rintro ⟨error, hread⟩
      rw [h] at hread
      cases hread
  | installed h => cases hresult

/-- A failure changes nothing but up to which level the logger looks at signals at all. -/
theorem kept (h : Attempt journal config result after) (hresult : result ≠ .ok ()) :
    ∃ ceiling : Logger → LevelFilter, after = { journal with
      logger := journal.logger.map fun logger => { logger with ceiling := ceiling logger } } := by
  cases h with
  | refused => exact ⟨Logger.ceiling, by simp⟩
  | crashed => exact ⟨Logger.ceiling, by simp⟩
  | @late filter logger h hlogger =>
      refine ⟨fun logger => logger.filter.ceiling.max filter.ceiling, ?_⟩
      rw [hlogger]
      rfl
  | installed => exact absurd rfl hresult

theorem settings?_of_failed (h : Attempt journal config result after) (hresult : result ≠ .ok ()) :
    after.settings? = journal.settings? := by
  obtain ⟨ceiling, rfl⟩ := h.kept hresult
  rw [settings?, Option.map_map]
  rfl

theorem installs (h : Attempt journal config result after) (hresult : result = .ok ()) :
    ∃ filter, Filter.read config.filter = .ok filter
      ∧ after.settings? = some (filter, config.json) := by
  cases h with
  | installed h _ hsettings => exact ⟨_, h, hsettings⟩
  | _ => cases hresult

end Attempt

/-! ## Any number of attempts -/

theorem settings?_move_of_some (h : journal.settings? = some known) (move : Move) :
    (journal.move move).settings? = some known := by
  cases move with
  | setUp config =>
      have hattempt := attempt_setUp journal config
      have hfailed : (journal.setUp config).1 ≠ .ok () := by
        intro hok
        rw [(hattempt.ok_iff.mp hok).2] at h
        cases h
      exact (hattempt.settings?_of_failed hfailed).trans h
  | record trace => exact (settings?_record journal trace).trans h

/-- What the logger was set up with is never changed. -/
theorem settings?_run_of_some (h : journal.settings? = some known) (moves : List Move) :
    (journal.run moves).settings? = some known := by
  induction moves generalizing journal with
  | nil => exact h
  | cons move moves ih => exact ih (settings?_move_of_some h move)

/-- There is no logger as long as no attempt has succeeded. -/
theorem settings?_run_eq_none_iff (journal : Journal) (moves : List Move) :
    (journal.run moves).settings? = none
      ↔ journal.settings? = none ∧ .ok () ∉ journal.results moves := by
  induction moves generalizing journal with
  | nil => simp [run, results]
  | cons move moves ih =>
      refine (ih (journal.move move)).trans ?_
      cases move with
      | record trace =>
          rw [Journal.move, settings?_record]
          exact Iff.rfl
      | setUp config =>
          have hattempt := attempt_setUp journal config
          rw [results, List.mem_cons, not_or, ← and_assoc, ← ne_eq, ne_comm]
          refine and_congr_left fun _ => ?_
          by_cases hok : (journal.setUp config).1 = .ok ()
          · obtain ⟨filter, -, hsettings⟩ := hattempt.installs hok
            simp [Journal.move, hsettings, hok]
          · simp [Journal.move, hattempt.settings?_of_failed hok, hok]

/-! ## The result -/

/-- What the next attempt to set up the log comes to after all that has happened to a journal. -/
structure SetsUpOnce (journal : Journal) (earlier : List Move) (config : Config) : Prop where
  /-- It succeeds if the filter is good and it is the first to do so. -/
  ok_iff : ((journal.run earlier).setUp config).1 = .ok ()
    ↔ (∃ filter, Filter.read config.filter = .ok filter) ∧ journal.logger = none
      ∧ .ok () ∉ journal.results earlier
  crash_iff : ((journal.run earlier).setUp config).1 = .error .crash
    ↔ Filter.read config.filter = .error .splitCharacter
  /-- What is told of any other failure. -/
  told : ∀ failure, ((journal.run earlier).setUp config).1 = .error (.refused failure) →
    ∃ text, failure = .tracing text
      ∧ ("bad filter ".toList <+: text.toList
        ↔ ∃ error, Filter.read config.filter = .error (.refused error))
  /-- A failure leaves the logger as it was set up, and what has been logged. All it may do is make
  the logger look at more signals. -/
  kept : ((journal.run earlier).setUp config).1 ≠ .ok () →
    ((journal.run earlier).setUp config).2.settings? = (journal.run earlier).settings?
      ∧ ∃ ceiling : Logger → LevelFilter,
        ((journal.run earlier).setUp config).2 = { journal.run earlier with
          logger := (journal.run earlier).logger.map fun logger =>
            { logger with ceiling := ceiling logger } }
  /-- The one that succeeds decides for good. -/
  lasts : ((journal.run earlier).setUp config).1 = .ok () →
    ∃ filter, Filter.read config.filter = .ok filter ∧
      ∀ later, (((journal.run earlier).setUp config).2.run later).settings?
        = some (filter, config.json)
  /-- A logger that was there from the beginning stays, too. -/
  given : ∀ known, journal.settings? = some known → (journal.run earlier).settings? = some known

/-- **The log is set up once.** Of all attempts the first with a good filter succeeds, unless there
was a logger before; no other one changes what is logged or how. A bad filter is told as such at any
time, but for one that would be cut inside a character: that stops the program. -/
theorem setsUpOnce (journal : Journal) (earlier : List Move) (config : Config) :
    SetsUpOnce journal earlier config := by
  have hattempt := attempt_setUp (journal.run earlier) config
  exact {
    ok_iff := by
      rw [hattempt.ok_iff, settings?_run_eq_none_iff, settings?_eq_none_iff]
    crash_iff := hattempt.crash_iff
    told := fun _ hresult => hattempt.told hresult
    kept := fun hresult => ⟨hattempt.settings?_of_failed hresult, hattempt.kept hresult⟩
    lasts := by
      intro hok
      obtain ⟨filter, hread, hsettings⟩ := hattempt.installs hok
      exact ⟨filter, hread, settings?_run_of_some hsettings⟩
    given := fun _ hsettings => settings?_run_of_some hsettings earlier }

/-- An attempt that comes late and has a bad filter besides. The wide blank in front shifts the cuts
by more than it is read as, and one of them falls inside it. -/
theorem crash_wideBlank :
    ((empty.run [.setUp ⟨"warn", false⟩]).setUp ⟨"\u3000a[b", false⟩).1 = .error .crash := by
  have hpieces : "\u3000a[b".splitOn "," = ["\u3000a[b"] := by
    simp +decide [String.splitOn, String.splitOnAux]
  have hread : Filter.read "\u3000a[b" = .error .splitCharacter := by
    rw [Filter.read, Directive.readAll, hpieces]
    rfl
  exact (attempt_setUp _ _).crash_iff.mpr hread

end Journal

end PidOne.Log
