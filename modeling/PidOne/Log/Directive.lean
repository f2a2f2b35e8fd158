import PidOne.Trace
import PidOne.Pattern
import PidOne.Text.Alphanumeric
import PidOne.Text.Blank
import PidOne.Text.Case
import PidOne.Text.Utf8

/-!
# Filter directives

A directive says up to which level something is logged, for the targets that begin with a text,
inside a span of a name, or where fields are present. Its text is `target[span{field=value}]=level`,
of which every part may be left out. A value is a boolean or a number, or else a pattern for text.

The text is scanned without the blanks around it, but what is cut out of it is cut at the same byte
offsets of the text with its blanks. So blanks in front shift every part, and blanks behind belong
to the last part. A wide blank in front may shift a cut into the middle of a character; there is no
such part, and the program stops.
-/

namespace PidOne.Log

inductive LevelFilter where
  | off
  | error
  | warn
  | info
  | debug
  | trace
  deriving DecidableEq, Repr

namespace LevelFilter

def verbosity : LevelFilter → Nat
  | off => 0
  | error => 1
  | warn => 2
  | info => 3
  | debug => 4
  | trace => 5

def admits (limit : LevelFilter) (level : Level) : Bool := level.verbosity ≤ limit.verbosity

/-- The more verbose of two filters. -/
def max (a b : LevelFilter) : LevelFilter := if a.verbosity ≤ b.verbosity then b else a

/-- The value of an unsigned decimal of 64 bits; one plus may stand in front. -/
def decimal? (text : String) : Option Nat :=
  let digits := match text.toList with
    | '+' :: rest => rest
    | rest => rest
  if digits.isEmpty || !digits.all Char.isDigit then none
  else
    let value := digits.foldl (fun value c => value * 10 + (c.toNat - '0'.toNat)) 0
    if value < Nat.pow 2 64 then some value else none

def ofNat? : Nat → Option LevelFilter
  | 0 => some off
  | 1 => some error
  | 2 => some warn
  | 3 => some info
  | 4 => some debug
  | 5 => some trace
  | _ => none

/-- The filter with a name, whatever its case. -/
def ofName? (name : String) : Option LevelFilter :=
  match Text.lower name with
  | "off" => some off
  | "error" => some error
  | "warn" => some warn
  | "info" => some info
  | "debug" => some debug
  | "trace" => some trace
  | _ => none

/-- The filter that a text that is not empty stands for. -/
def read? (text : String) : Option LevelFilter :=
  match decimal? text with
  | some number => ofNat? number
  | none => ofName? text

end LevelFilter

/-- What a directive wants the value of a field to be. -/
inductive ValuePattern where
  | boolean (value : Bool)
  | unsigned (value : Nat)
  | signed (value : Int)
  /-- A floating point number, which no field has. -/
  | float
  | text (pattern : Pattern)
  deriving DecidableEq, Repr

/-- A field that has to be present, and its value if that matters. -/
structure FieldPattern where
  name : String
  value : Option ValuePattern
  deriving DecidableEq, Repr

structure Directive where
  target : Option String
  span : Option String
  fields : List FieldPattern
  level : LevelFilter
  deriving DecidableEq, Repr

inductive DirectiveError where
  | invalid
  | badLevel
  | badValue (error : Pattern.Error)
  deriving DecidableEq, Repr

/-- How reading a directive can end without one. -/
inductive ReadFailure where
  | refused (error : DirectiveError)
  /-- A part of the text would begin or end inside a character. -/
  | splitCharacter
  deriving DecidableEq, Repr

namespace DirectiveError

def message : DirectiveError → String
  | invalid => "invalid filter directive"
  | badLevel =>
    "error parsing level filter: expected one of \"off\", \"error\", \"warn\", \"info\", " ++
      "\"debug\", \"trace\", or a number 0-5"
  | badValue error => "invalid field filter: " ++ error.message

end DirectiveError

namespace ValuePattern

/-- The value of a whole number with a minus. -/
def negative? (text : String) : Option Int :=
  match text.toList with
  | '-' :: digits =>
    if digits.isEmpty || !digits.all Char.isDigit then none
    else
      let value := digits.foldl (fun value c => value * 10 + (c.toNat - '0'.toNat)) 0
      if value ≤ Nat.pow 2 63 then some (-value) else none
  | _ => none

/-- Whether the characters are digits, at least one. -/
def isDigits (text : List Char) : Bool := !text.isEmpty && text.all Char.isDigit

def unsign : List Char → List Char
  | '+' :: rest | '-' :: rest => rest
  | rest => rest

/-- Whether a text is a floating point number: infinite, no number, or digits with at most one point
between them and at most one exponent behind them. -/
def isFloat (text : String) : Bool :=
  let text := unsign (Text.lower text).toList
  let mantissa := text.takeWhile (· != 'e')
  let digits := mantissa.filter (· != '.')
  ["inf", "infinity", "nan"].contains (String.ofList text) ||
    (isDigits digits && mantissa.length ≤ digits.length + 1 &&
      match text.dropWhile (· != 'e') with
      | [] => true
      | _ :: exponent => isDigits (unsign exponent))

def read (text : String) : Except Pattern.Error ValuePattern :=
  if text == "true" then .ok (.boolean true)
  else if text == "false" then .ok (.boolean false)
  else
    match LevelFilter.decimal? text with
    | some value => .ok (.unsigned value)
    | none =>
      match negative? text with
      | some value => .ok (.signed value)
      | none => if isFloat text then .ok .float else (Pattern.read text).map ValuePattern.text

def accepts (pattern : ValuePattern) : FieldValue → Bool
  | .fd number | .pid number =>
    match pattern with
    | .unsigned value => number == value
    | .signed value => number == value
    | _ => false
  | .word number =>
    match pattern with
    | .unsigned value => number.toNat == value
    | _ => false
  | .plain shown | .quoted shown =>
    match pattern with
    | .text wanted => wanted.accepts shown
    | _ => false
  | .duration => false

end ValuePattern

namespace Directive

/-- Whether no character of the text lies across the byte offset. -/
def isBoundary (bytes : List UInt8) (offset : Nat) : Bool :=
  bytes[offset]?.all fun b => !Utf8.isContinuation b

/-- The part of a text between two byte offsets. -/
def cut (text : String) (start stop : Nat) : Except ReadFailure String :=
  let bytes := Utf8.encode text
  if isBoundary bytes start && isBoundary bytes stop then
    .ok (Utf8.lossy ((bytes.drop start).take (stop - start)))
  else .error .splitCharacter

/-- The part of a text from a byte offset on. -/
def cutFrom (text : String) (start : Nat) : Except ReadFailure String :=
  cut text start text.utf8ByteSize

/-- Where the scan of a directive is; numbers are byte offsets at which a part began. -/
inductive Stage where
  | start
  | levelOrTarget (start : Nat)
  | span (start : Nat)
  | field (start : Nat)
  | fields
  | afterSpan
  | level (start : Nat)
  deriving DecidableEq, Repr

/-- Whether a directive may begin with the character. -/
def mayBegin (c : Char) : Bool :=
  c == '-' || c == ':' || c == '_' || Text.isAlphanumeric c

/-- A field pattern from its text: a name, and a value after an equals sign. -/
def fieldPattern (text : String) : Except ReadFailure FieldPattern :=
  match text.splitOn "=" with
  | [] => .ok ⟨text, none⟩
  | [name] => .ok ⟨name, none⟩
  | name :: value :: _ =>
    match ValuePattern.read value with
    | .ok value => .ok ⟨name, some value⟩
    | .error error => .error (.refused (.badValue error))

/-- The level a text stands for; nothing is the most verbose one. -/
def levelOf (text : String) : Except ReadFailure LevelFilter :=
  if text.isEmpty then .ok .trace
  else
    match LevelFilter.read? text with
    | some level => .ok level
    | none => .error (.refused .badLevel)

/-- Takes in the character at a byte offset. -/
def advance (text : String) (directive : Directive) (stage : Stage) (offset : Nat) (c : Char) :
    Except ReadFailure (Directive × Stage) :=
  match stage with
  | .start =>
    if c == '[' then .ok (directive, .span (offset + 1))
    else if mayBegin c then .ok (directive, .levelOrTarget offset)
    else .error (.refused .invalid)
  | .levelOrTarget start =>
    if c == '=' || c == '[' then do
      let target ← cut text start offset
      let next := if c == '=' then Stage.level (offset + 1) else .span (offset + 1)
      return ({ directive with target := some target }, next)
    else .ok (directive, stage)
  | .span start =>
    if c == ']' then do
      let name ← cut text start offset
      return ({ directive with span := some name }, .afterSpan)
    else if c == '\x7b' then do
      let name ← cut text start offset
      let span := if name.isEmpty then none else some name
      return ({ directive with span }, .field (offset + 1))
    else .ok (directive, stage)
  | .field start =>
    if c == '\x7d' then do
      let field ← cut text start offset
      if field.isEmpty then throw (.refused .invalid)
      let pattern ← fieldPattern field
      return ({ directive with fields := directive.fields ++ [pattern] }, .fields)
    else .ok (directive, stage)
  | .fields => if c == ']' then .ok (directive, .afterSpan) else .error (.refused .invalid)
  | .afterSpan =>
    if c == '=' then .ok (directive, .level (offset + 1)) else .error (.refused .invalid)
  | .level _ => .ok (directive, stage)

/-- Takes in characters from a byte offset on. -/
def scan (text : String) (directive : Directive) (stage : Stage) (offset : Nat) :
    List Char → Except ReadFailure (Directive × Stage)
  | [] => .ok (directive, stage)
  | c :: rest => do
    let (directive, stage) ← advance text directive stage offset c
    scan text directive stage (offset + c.utf8Size) rest

def close (text : String) (directive : Directive) : Stage → Except ReadFailure Directive
  | .levelOrTarget start => do
    let last ← cutFrom text start
    match LevelFilter.read? last with
    | some level => return { directive with level, target := none }
    | none => return { directive with level := .trace, target := some last }
  | .level start => do
    let level ← levelOf (← cutFrom text start)
    return { directive with level }
  | .afterSpan => .ok directive
  | .start | .span _ | .field _ | .fields => .error (.refused .invalid)

def read (text : String) : Except ReadFailure Directive := do
  let (directive, stage) ← scan text ⟨none, none, [], .trace⟩ .start 0 (Text.trim text.toList)
  close text directive stage

/-- All directives of a text: the pieces between commas that are not empty. -/
def readAll (text : String) : Except ReadFailure (List Directive) :=
  ((text.splitOn ",").filter fun piece => !piece.isEmpty).mapM read

end Directive

end PidOne.Log
