import PidOne.Log.Directive

/-!
# Filters

A filter decides what is logged. Of the static directives, which speak of targets and of fields that
are present, the most specific one that fits decides alone. The dynamic ones, which speak of a span,
switch on the spans they fit and, while such a span is entered, whatever their level admits; the
values of the span's fields may restrict them. What either kind enables is logged.
-/

namespace PidOne.Log

/-- A directive about targets and the presence of fields. -/
structure StaticDirective where
  target : Option String
  fields : List String
  level : LevelFilter
  deriving DecidableEq, Repr

namespace Directive

def isDynamic (directive : Directive) : Bool :=
  directive.span.isSome || !directive.fields.isEmpty

/-- The directive without spans, if it names none and asks for no values. -/
def toStatic? (directive : Directive) : Option StaticDirective :=
  if directive.span.isSome || directive.fields.any fun field => field.value.isSome then none
  else some ⟨directive.target, directive.fields.map FieldPattern.name, directive.level⟩

/-- Whether a later directive takes the place of this one. -/
def sameAs (a b : Directive) : Bool :=
  a.target == b.target && a.span == b.span && a.fields == b.fields

end Directive

/-- Whether a target begins with a text, if there is one to begin with. -/
def targetFits (wanted : Option String) (target : String) : Bool :=
  match wanted with
  | none => true
  | some text => text.toList.isPrefixOf target.toList

def hasField (fields : List Field) (name : String) : Bool :=
  fields.any fun field => field.name == name

/-- Whether one text of an optional pair is longer; no text is shortest. -/
def compareLength : Option String → Option String → Ordering
  | none, none => .eq
  | none, some _ => .lt
  | some _, none => .gt
  | some a, some b => compare a.utf8ByteSize b.utf8ByteSize

namespace StaticDirective

/-- The order of directives, the more specific one greater: by the length of the target, then by the
number of fields, then as it comes. -/
def order (a b : StaticDirective) : Ordering :=
  ((compareLength a.target b.target).then (compare a.fields.length b.fields.length)).then
    ((compareOfLessAndEq (a.target.getD "") (b.target.getD "")).then
      (compareOfLessAndEq a.fields b.fields))

/-- Puts a directive in front of the less specific ones, in the place of an equal one. -/
def insert (directive : StaticDirective) : List StaticDirective → List StaticDirective
  | [] => [directive]
  | first :: rest =>
    match order directive first with
    | .gt => directive :: first :: rest
    | .eq => directive :: rest
    | .lt => first :: insert directive rest

/-- Whether the directive decides about spans of a target. -/
def fitsSpan (directive : StaticDirective) (target : String) : Bool :=
  targetFits directive.target target

/-- Whether the directive decides about an event: it has to have the fields, too. -/
def fitsEvent (directive : StaticDirective) (event : Event) : Bool :=
  targetFits directive.target event.target &&
    directive.fields.all fun name => name == "message" || hasField event.fields name

end StaticDirective

structure Filter where
  /-- The most specific directive first. -/
  statics : List StaticDirective
  dynamics : List Directive
  /-- The most verbose level of any directive, those replaced since included. -/
  greatest : LevelFilter
  deriving DecidableEq, Repr

namespace Filter

/-- Puts a directive in the place of the same one, or behind all others. -/
def addDynamic (directives : List Directive) (directive : Directive) : List Directive :=
  directives.filter (fun other => !other.sameAs directive) ++ [directive]

def ofDirectives (directives : List Directive) : Filter :=
  let (dynamics, statics) := directives.partition Directive.isDynamic
  { statics := ((statics ++ dynamics).filterMap Directive.toStatic?).foldl
      (fun found directive => directive.insert found) []
    dynamics := dynamics.foldl addDynamic []
    greatest := directives.foldl (fun level directive => level.max directive.level) .off }

def read (text : String) : Except ReadFailure Filter :=
  (Directive.readAll text).map ofDirectives

/-- Whether the value of any field matters; then all spans have to be looked at. -/
def asksForValues (filter : Filter) : Bool :=
  filter.dynamics.any fun directive => directive.fields.any fun field => field.value.isSome

/-- The most verbose level that can be enabled at all. -/
def ceiling (filter : Filter) : LevelFilter :=
  if filter.asksForValues then .trace else filter.greatest

def staticSpan (filter : Filter) (span : Span) : Bool :=
  match filter.statics.find? fun directive => directive.fitsSpan span.target with
  | some directive => directive.level.admits span.level
  | none => false

def staticEvent (filter : Filter) (event : Event) : Bool :=
  match filter.statics.find? fun directive => directive.fitsEvent event with
  | some directive => directive.level.admits event.level
  | none => false

/-- Whether a dynamic directive is about the span. -/
def concerns (directive : Directive) (span : Span) : Bool :=
  targetFits directive.target span.target &&
    (directive.span.all fun name => name == span.name) &&
    directive.fields.all fun field => hasField span.fields field.name

/-- Whether the fields of a span have the values a directive asks for. -/
def valuesFit (directive : Directive) (span : Span) : Bool :=
  directive.fields.all fun pattern =>
    match pattern.value with
    | none => true
    | some wanted =>
      span.fields.any fun field => field.name == pattern.name && field.value.any wanted.accepts

def matching (filter : Filter) (span : Span) : List Directive :=
  filter.dynamics.filter fun directive => concerns directive span

/-- Up to which level everything is enabled inside a span; none if no directive is about it. -/
def scopeLevel? (filter : Filter) (span : Span) : Option LevelFilter :=
  match filter.matching span with
  | [] => none
  | directives =>
    some (((directives.filter fun directive => valuesFit directive span).map
      Directive.level).foldl LevelFilter.max .off)

/-- Whether one of the entered spans enables a level. -/
def scopeAdmits (scope : List LevelFilter) (level : Level) : Bool :=
  scope.any fun limit => limit.admits level

/-- Whether a span is enabled inside spans with the given levels. -/
def enablesSpan (filter : Filter) (scope : List LevelFilter) (span : Span) : Bool :=
  !(filter.matching span).isEmpty || scopeAdmits scope span.level || filter.staticSpan span

/-- Whether an event is enabled inside spans with the given levels. -/
def enablesEvent (filter : Filter) (scope : List LevelFilter) (event : Event) : Bool :=
  scopeAdmits scope event.level || filter.staticEvent event

end Filter

end PidOne.Log
