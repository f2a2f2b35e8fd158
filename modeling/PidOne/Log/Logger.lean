import PidOne.Config
import PidOne.Error
import PidOne.Log.Entry

/-!
# Loggers

A process has at most one logger, the one that the first configuration with a good filter sets up;
it keeps it from then on. The logger follows the trace: it knows which of the entered spans are
enabled and up to which level they enable what is inside them, and makes an entry of every enabled
event and of every enabled span that ends.

Signals above a ceiling are not even looked at. The ceiling is the one of the logger's filter, but a
configuration that comes too late still raises it to that of its own filter.
-/

namespace PidOne.Log

structure Entered where
  span : Span
  enabled : Bool
  /-- Up to which level everything inside is enabled, if any directive is about the span. -/
  limit : Option LevelFilter
  deriving DecidableEq, Repr

inductive SetUpError where
  | refused (failure : Failure)
  /-- The program stops, because the filter would be cut inside a character. -/
  | crash
  deriving DecidableEq

structure Logger where
  filter : Filter
  json : Bool
  /-- The most verbose level that is looked at. -/
  ceiling : LevelFilter
  /-- The spans entered and not left, the innermost first. -/
  entered : List Entered
  deriving DecidableEq, Repr

namespace Logger

/-- The part of the program that sets up logging. -/
def target : String := "vminit_shim::monitoring::tracer"

def initialized (json : Bool) : Event where
  message := if json then "Structured tracing initialized with JSON output"
    else "Structured tracing initialized"
  level := .info
  target := target
  fields := []

def badFilter (filter : String) (error : DirectiveError) : Failure :=
  .tracing ("bad filter " ++ Text.quoted filter ++ ": " ++ error.message)

def alreadySet : Failure := .tracing "a global default trace dispatcher has already been set"

def start (filter : Filter) (json : Bool) : Logger := ⟨filter, json, filter.ceiling, []⟩

/-- The logger after another filter has come too late. -/
def keep (logger : Logger) (late : Filter) : Logger :=
  { logger with ceiling := logger.filter.ceiling.max late.ceiling }

def scope (logger : Logger) : List LevelFilter := logger.entered.filterMap Entered.limit

/-- The enabled spans, the outermost first. -/
def enclosing (logger : Logger) : List ShownSpan :=
  ((logger.entered.filter Entered.enabled).map fun entered =>
    ⟨entered.span.name, entered.span.fields⟩).reverse

/-- The entry for a span that ends inside others. -/
def ended (span : Span) (enclosing : List ShownSpan) : Entry where
  level := span.level
  target := span.target
  message := "close"
  fields := [⟨"time.busy", some .duration⟩, ⟨"time.idle", some .duration⟩]
  enclosing := enclosing
  ending := some ⟨span.name, span.fields⟩

/-- Follows one signal; gives the entry it leads to. -/
def follow (logger : Logger) : Signal → Option Entry × Logger
  | .enter span =>
    let enabled :=
      logger.ceiling.admits span.level && logger.filter.enablesSpan logger.scope span
    let limit := if enabled then logger.filter.scopeLevel? span else none
    (none, { logger with entered := ⟨span, enabled, limit⟩ :: logger.entered })
  | .event event =>
    if logger.ceiling.admits event.level && logger.filter.enablesEvent logger.scope event then
      let entry : Entry :=
        ⟨event.level, event.target, event.message, event.fields, logger.enclosing, none⟩
      (some entry, logger)
    else (none, logger)
  | .leave _ =>
    match logger.entered with
    | [] => (none, logger)
    | innermost :: outer =>
      let left := { logger with entered := outer }
      (if innermost.enabled then some (ended innermost.span left.enclosing) else none, left)

def followAll (logger : Logger) : Trace → List Entry × Logger
  | [] => ([], logger)
  | signal :: rest =>
    let (entry, logger) := logger.follow signal
    let (entries, logger) := logger.followAll rest
    (entry.toList ++ entries, logger)

end Logger

/-- The logger of a process, and what it has logged so far. -/
structure Journal where
  logger : Option Logger
  entries : List Entry
  deriving DecidableEq, Repr

namespace Journal

def empty : Journal := ⟨none, []⟩

/-- Logs a trace, if there is a logger. -/
def record (journal : Journal) (trace : Trace) : Journal :=
  match journal.logger with
  | none => journal
  | some logger =>
    let (entries, logger) := logger.followAll trace
    ⟨some logger, journal.entries ++ entries⟩

/-- Sets up logging, and says so in the log. -/
def setUp (journal : Journal) (config : Config) : Except SetUpError Unit × Journal :=
  match Filter.read config.filter with
  | .error (.refused error) => (.error (.refused (Logger.badFilter config.filter error)), journal)
  | .error .splitCharacter => (.error .crash, journal)
  | .ok filter =>
    match journal.logger with
    | some logger =>
      (.error (.refused Logger.alreadySet), { journal with logger := some (logger.keep filter) })
    | none =>
      (.ok (), { journal with logger := some (Logger.start filter config.json) }.record
        [.event (Logger.initialized config.json)])

end Journal

end PidOne.Log
