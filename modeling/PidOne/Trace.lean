/-!
# Traces

What a process tells about itself while it works: spans that it enters and leaves, and events inside
them. A trace is the sequence of these signals. A span encloses all that comes between its `enter`
and its `leave`, so in a trace that is `Balanced` the enclosing spans of every event are known and
at the end none is left open.
-/

namespace PidOne

/-- How much a signal matters, the least first. -/
inductive Level where
  | trace
  | debug
  | info
  | warn
  | error
  deriving DecidableEq, Repr

namespace Level

def name : Level → String
  | trace => "TRACE"
  | debug => "DEBUG"
  | info => "INFO"
  | warn => "WARN"
  | error => "ERROR"

/-- The rank of a level: the more verbose, the greater. -/
def verbosity : Level → Nat
  | error => 1
  | warn => 2
  | info => 3
  | debug => 4
  | trace => 5

end Level

inductive FieldValue where
  | fd (number : Int)
  | pid (number : Int)
  /-- A span of time, which no two runs agree on. -/
  | duration
  | word (value : UInt32)
  /-- A text that is shown between quotes. -/
  | quoted (text : String)
  /-- A text that is shown as it is. -/
  | plain (text : String)
  deriving DecidableEq, Repr

/-- A field of a span or event; it is declared even where it has no value. -/
structure Field where
  name : String
  value : Option FieldValue
  deriving DecidableEq, Repr

structure Span where
  name : String
  level : Level
  /-- The part of the program it belongs to. -/
  target : String
  fields : List Field
  deriving DecidableEq, Repr

structure Event where
  message : String
  level : Level
  /-- The part of the program it belongs to. -/
  target : String
  fields : List Field
  deriving DecidableEq, Repr

inductive Signal where
  | enter (span : Span)
  | event (event : Event)
  | leave (span : Span)
  deriving DecidableEq, Repr

abbrev Trace := List Signal

namespace Trace

/-- The spans that enclose what comes after a trace, the innermost first. -/
def enclosing (spans : List Span) : Trace → List Span
  | [] => spans
  | .enter span :: rest => enclosing (span :: spans) rest
  | .event _ :: rest => enclosing spans rest
  | .leave _ :: rest => enclosing (spans.drop 1) rest

/-- Every span that is entered is left, in the right order. -/
inductive Balanced : Trace → Prop where
  | nil : Balanced []
  | event (event : Event) {rest : Trace} : Balanced rest → Balanced (.event event :: rest)
  | span (span : Span) {inside rest : Trace} :
      Balanced inside → Balanced rest →
        Balanced (.enter span :: (inside ++ .leave span :: rest))

def events (trace : Trace) : List Event :=
  trace.filterMap fun
    | .event event => some event
    | _ => none

def spans (trace : Trace) : List Span :=
  trace.filterMap fun
    | .enter span => some span
    | _ => none

end Trace

end PidOne
