import PidOne.Session

/-!
# What a session shows

Numbers of descriptors and processes differ from run to run, so a session shows the names it has for
them: of a descriptor number, the name that was given to it last; of a process, the name of the
child or of the session itself. A number without a name is shown as it is.
-/

namespace PidOne

/-- A name, a text or a number, as shown. -/
inductive Label where
  | text (text : String)
  | number (number : Int)
  deriving DecidableEq, Repr

/-- A signal of the trace as shown: spans when they are entered, events with the spans around them.
-/
inductive Record where
  | span (name : String) (level : Level) (target : String) (fields : List (String × Label))
  | event (message : String) (level : Level) (target : String) (fields : List (String × Label))
      (enclosing : List String)
  deriving DecidableEq, Repr

/-- What is shown in the place of a quantity that no two runs agree on. -/
def volatileText : String := "N"

namespace Session

def fdLabel (session : Session) (number : Int) : Label :=
  match session.numbers.find? fun entry => Int.ofNat entry.2 == number with
  | some (name, _) => .text name
  | none => .number number

def pidLabel (session : Session) (pid : Pid) : Label :=
  if pid = session.host.kernel.pid then .text selfName
  else
    match session.children.find? fun entry => entry.2.pid == pid with
    | some (name, _) => .text name
    | none => .number pid

def valueLabel (session : Session) : FieldValue → Label
  | .fd number => session.fdLabel number
  | .pid number => session.pidLabel number
  | .duration => .text volatileText
  | .word value => .number value.toNat
  | .quoted text => .text text
  | .plain text => .text text

/-- The fields that have a value, with their labels. -/
def fieldLabels (session : Session) (fields : List Field) : List (String × Label) :=
  fields.filterMap fun field => field.value.map fun value => (field.name, session.valueLabel value)

/-- The records of a trace that begins inside the given spans, the innermost first. -/
def recordsInside (session : Session) (spans : List Span) : Trace → List Record
  | [] => []
  | .enter span :: rest =>
    .span span.name span.level span.target (session.fieldLabels span.fields) ::
      session.recordsInside (span :: spans) rest
  | .event event :: rest =>
    .event event.message event.level event.target (session.fieldLabels event.fields)
        (spans.map Span.name).reverse ::
      session.recordsInside spans rest
  | .leave _ :: rest => session.recordsInside (spans.drop 1) rest

def records (session : Session) (trace : Trace) : List Record := session.recordsInside [] trace

/-- What has been added to the trace since an earlier session. -/
def since (session earlier : Session) : Trace :=
  session.host.trace.drop earlier.host.trace.length

end Session

end PidOne
