import PidOne.Log.Filter
import PidOne.Session.Report

/-!
# Log entries

An entry is an enabled event, or the end of an enabled span, with the enabled spans around it. It is
written as one line of text, or as a JSON object whose members `Entry` has; the time is left out,
and numbers that no two runs agree on are masked.
-/

namespace PidOne.Log

structure ShownSpan where
  name : String
  fields : List Field
  deriving DecidableEq, Repr

structure Entry where
  level : Level
  target : String
  message : String
  fields : List Field
  /-- The spans that enclose the event, the outermost first; of a span that ends, its parents. -/
  enclosing : List ShownSpan
  ending : Option ShownSpan
  deriving DecidableEq, Repr

namespace Entry

/-- All spans shown with the entry, the outermost first. -/
def spans (entry : Entry) : List ShownSpan := entry.enclosing ++ entry.ending.toList

/-- The innermost of them. -/
def current? (entry : Entry) : Option ShownSpan := entry.spans.getLast?

/-- A value as a member of a JSON object. -/
def memberValue : FieldValue → Label
  | .fd _ | .pid _ | .duration => .text volatileText
  | .word value => .number value.toNat
  | .quoted text => .text text
  | .plain text => .text text

def lineValue : FieldValue → String
  | .fd _ | .pid _ | .duration => volatileText
  | .word value => toString value
  | .quoted text => Text.quoted text
  | .plain text => text

/-- The fields that have a value, as members. -/
def members (fields : List Field) : List (String × Label) :=
  fields.filterMap fun field => field.value.map fun value => (field.name, memberValue value)

/-- The fields that have a value, in a line. -/
def lineFields (fields : List Field) : List String :=
  fields.filterMap fun field => field.value.map fun value => field.name ++ "=" ++ lineValue value

def levelColumn (level : Level) : String :=
  "".pushn ' ' (5 - level.name.length) ++ level.name

/-- The text of an entry: its level, the thread, the names of the spans, the target, the place in
the program, the message, its fields, and those of each span. -/
def text (entry : Entry) : String :=
  let names := ":".intercalate (entry.spans.map ShownSpan.name)
  let context := if entry.spans.isEmpty then "" else names ++ ": "
  let fields := lineFields entry.fields ++ entry.spans.flatMap fun span => lineFields span.fields
  levelColumn entry.level ++ " ThreadId(01) " ++ context ++ entry.target ++ ": FILE:LINE: " ++
    " ".intercalate (entry.message :: fields)

/-- The lines of an entry; its text may contain line feeds. -/
def lines (entry : Entry) : List String := entry.text.splitOn "\n"

end Entry

end PidOne.Log
