import PidOne.Text.Quoted
import PidOne.Decimal.Shortest

/-!
# What can be wrong with a JSON text

A reader stops at the first fault and says what it met and how much of the text was still unread.
The place follows from that: the line is one more than the line feeds read, the column the number of
bytes read since the last of them. A fault that is seen by looking one byte ahead counts that byte
as read.
-/

namespace PidOne.Json

/-- A number as it is read: a whole one in the range of 64 bits, or a floating point number. -/
inductive Number where
  | whole (value : Int)
  | float (value : Float)

/-- A value in the place of a value of another type. -/
inductive Found where
  | null
  | boolean (value : Bool)
  | number (value : Number)
  | string (text : String)
  | sequence
  | map

inductive Cause where
  | endInList
  | endInObject
  | endInString
  | endInValue
  | expectedColon
  | expectedCommaOrBracket
  | expectedCommaOrBrace
  | expectedWord
  | expectedValue
  | invalidEscape
  | invalidNumber
  | numberOutOfRange
  | invalidCodePoint
  | controlCharacter
  | keyNotString
  | loneSurrogate
  | trailingComma
  | trailingCharacters
  | unfinishedPair
  | invalidType (found : Found) (expected : String)
  | duplicateField (name : String)
  | unknownVariant (name : String) (known : List String)

/-- The text ended too early, it is not JSON, or it is JSON of the wrong shape. -/
inductive Category where
  | eof
  | syntactic
  | data
  deriving DecidableEq, Repr

/-- A cause, and the part of the text that was unread when it was met. -/
structure Fault where
  cause : Cause
  unread : List UInt8

/-- Line and column, both counted from one read byte on. -/
structure Position where
  line : Nat
  column : Nat
  deriving DecidableEq, Repr

/-- A cause and its place in the text. -/
structure ReadError where
  cause : Cause
  position : Position

/-- How floating point numbers are written in messages: without exponent from 0.00001 up to and
without 1e+16. -/
def floatLayout : Decimal.Layout := ⟨-5, 15⟩

namespace Found

def describe : Found → String
  | null => "null"
  | boolean value => "boolean \x60" ++ toString value ++ "\x60"
  | number (.whole value) => "integer \x60" ++ toString value ++ "\x60"
  | number (.float value) => "floating point \x60" ++ floatLayout.write value ++ "\x60"
  | string text => "string " ++ Text.quoted text
  | sequence => "sequence"
  | map => "map"

end Found

namespace Cause

def category : Cause → Category
  | endInList | endInObject | endInString | endInValue => .eof
  | invalidType _ _ | duplicateField _ | unknownVariant _ _ => .data
  | _ => .syntactic

/-- A name between grave accents. -/
def ticked (name : String) : String := "\x60" ++ name ++ "\x60"

def describe : Cause → String
  | endInList => "EOF while parsing a list"
  | endInObject => "EOF while parsing an object"
  | endInString => "EOF while parsing a string"
  | endInValue => "EOF while parsing a value"
  | expectedColon => "expected " ++ ticked ":"
  | expectedCommaOrBracket => "expected " ++ ticked "," ++ " or " ++ ticked "]"
  | expectedCommaOrBrace => "expected " ++ ticked "," ++ " or " ++ ticked "\x7d"
  | expectedWord => "expected ident"
  | expectedValue => "expected value"
  | invalidEscape => "invalid escape"
  | invalidNumber => "invalid number"
  | numberOutOfRange => "number out of range"
  | invalidCodePoint => "invalid unicode code point"
  | controlCharacter => "control character (\\u0000-\\u001F) found while parsing a string"
  | keyNotString => "key must be a string"
  | loneSurrogate => "lone leading surrogate in hex escape"
  | trailingComma => "trailing comma"
  | trailingCharacters => "trailing characters"
  | unfinishedPair => "unexpected end of hex escape"
  | invalidType found expected => "invalid type: " ++ found.describe ++ ", expected " ++ expected
  | duplicateField name => "duplicate field " ++ ticked name
  | unknownVariant name known =>
    "unknown variant " ++ ticked name ++ ", expected one of " ++
      ", ".intercalate (known.map ticked)

end Cause

namespace Position

/-- The place after a part of a text has been read. -/
def after (read : List UInt8) : Position :=
  ⟨read.count 0x0a + 1, (read.reverse.takeWhile (· != 0x0a)).length⟩

end Position

namespace Fault

/-- A fault met at the first unread byte, which counts as read if there is one. -/
def ahead (cause : Cause) (text : List UInt8) : Fault := ⟨cause, text.drop 1⟩

/-- The fault with its place in the whole text. -/
def locate (fault : Fault) (text : List UInt8) : ReadError :=
  ⟨fault.cause, Position.after (text.take (text.length - fault.unread.length))⟩

end Fault

namespace ReadError

def category (error : ReadError) : Category := error.cause.category

def message (error : ReadError) : String :=
  error.cause.describe ++ " at line " ++ toString error.position.line ++ " column " ++
    toString error.position.column

end ReadError

end PidOne.Json
