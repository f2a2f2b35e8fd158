import PidOne.Json.Value
import PidOne.Proofs.Json.Quoted

/-!
# The grammar of JSON texts

A rule relates a text to what is left of it behind something of the rule's form, so rules that
follow each other share the text between them. Nothing here looks ahead: that a number is as long as
it can be is a fact about the reader, and what may follow one is a condition on the text behind it.

There are two forms of strings. Of one that is read the characters are known, so its bytes are
UTF-8, and surrogates stand in pairs. Of one that is passed over only the escapes have to be right.
-/

namespace PidOne.Json

/-- A form that the beginning of a text may have, and what is left of the text behind it. -/
abbrev Rule := List UInt8 → List UInt8 → Prop

/-- Bytes of a kind, maybe none. -/
def Many (kind : UInt8 → Bool) : Rule := fun text rest =>
  ∃ bytes, text = bytes ++ rest ∧ ∀ b ∈ bytes, kind b = true

def Blanks : Rule := Many isBlank

/-- One byte behind blanks. -/
def Token (b : UInt8) : Rule := fun text rest => Blanks text (b :: rest)

def Word (word : String) : Rule := fun text rest => text = Utf8.encode word ++ rest

/-! ## Numbers -/

namespace Number

def Digits : Rule := fun text rest =>
  ∃ b after, text = b :: after ∧ isDigit b = true ∧ Many isDigit after rest

/-- Zero, or digits of which the first is not zero. -/
inductive Whole : Rule
  | zero (rest : List UInt8) : Whole (0x30 :: rest) rest
  | other {b : UInt8} {text rest : List UInt8} (hdigit : isDigit b = true) (hzero : b ≠ 0x30)
      (hmany : Many isDigit text rest) : Whole (b :: text) rest

inductive Fraction : Rule
  | absent (text : List UInt8) : Fraction text text
  | digits {text rest : List UInt8} (hdigits : Digits text rest) : Fraction (0x2e :: text) rest

inductive Sign : Rule
  | absent (text : List UInt8) : Sign text text
  | plus (rest : List UInt8) : Sign (0x2b :: rest) rest
  | minus (rest : List UInt8) : Sign (0x2d :: rest) rest

inductive Exponent : Rule
  | absent (text : List UInt8) : Exponent text text
  | digits {mark : UInt8} {text after rest : List UInt8} (hmark : isExponentMark mark = true)
      (hsign : Sign text after) (hdigits : Digits after rest) : Exponent (mark :: text) rest

/-- A number without its minus. -/
def Unsigned : Rule := fun text rest =>
  ∃ behindWhole behindFraction, Whole text behindWhole ∧ Fraction behindWhole behindFraction
    ∧ Exponent behindFraction rest

/-- Whether a byte may go on with a number. -/
def goesOn (b : UInt8) : Bool := isDigit b || b == 0x2e || isExponentMark b

/-- A text that does not go on with a number that ends in front of it. -/
def Ended (text : List UInt8) : Prop := ∀ b rest, text = b :: rest → goesOn b = false

end Number

/-! ## Strings -/

namespace Quoted

/-- What is left of a string that is passed over, with its closing quote. -/
inductive Loose : Rule
  | close (rest : List UInt8) : Loose (0x22 :: rest) rest
  | plain {b : UInt8} {text rest : List UInt8} (hplain : Plain b) (htail : Loose text rest) :
      Loose (b :: text) rest
  | short {b : UInt8} {c : Char} {text rest : List UInt8} (hshort : short? b = some c)
      (htail : Loose text rest) : Loose (0x5c :: b :: text) rest
  | unit {n : Nat} {p q r s : UInt8} {text rest : List UInt8} (hunit : hex? p q r s = some n)
      (htail : Loose text rest) : Loose (0x5c :: 0x75 :: p :: q :: r :: s :: text) rest

/-- The first unit of a character beyond the basic plane. -/
def high (c : Char) : Nat := 0xd800 + (c.toNat - 0x10000) / 0x400

/-- The second unit of a character beyond the basic plane. -/
def low (c : Char) : Nat := 0xdc00 + (c.toNat - 0x10000) % 0x400

/-- What may stand for a character behind a backslash. -/
inductive Escape (c : Char) : List UInt8 → Prop
  | short {b : UInt8} (hshort : short? b = some c) : Escape c [b]
  | unit {p q r s : UInt8} (hunit : hex? p q r s = some c.toNat) : Escape c [0x75, p, q, r, s]
  | pair {p q r s t u v w : UInt8} (hbeyond : 0x10000 ≤ c.toNat)
      (hhigh : hex? p q r s = some (high c)) (hlow : hex? t u v w = some (low c)) :
      Escape c [0x75, p, q, r, s, 0x5c, 0x75, t, u, v, w]

/-- How a character may be spelled in a string. -/
inductive Spelling (c : Char) : List UInt8 → Prop
  | plain (hquote : c ≠ '"') (hbackslash : c ≠ '\\') (hcontrol : 0x20 ≤ c.toNat) :
      Spelling c (String.utf8EncodeChar c)
  | escaped {bytes : List UInt8} (hescape : Escape c bytes) : Spelling c (0x5c :: bytes)

/-- What is left of a string of the characters, with its closing quote. -/
inductive Spelled : List Char → Rule
  | close (rest : List UInt8) : Spelled [] (0x22 :: rest) rest
  | char {c : Char} {chars : List Char} {bytes text rest : List UInt8} (hchar : Spelling c bytes)
      (htail : Spelled chars text rest) : Spelled (c :: chars) (bytes ++ text) rest

end Quoted

/-! ## Values -/

/-- A value that holds no other values. -/
inductive Scalar : Rule
  | null {text rest : List UInt8} (hword : Word "null" text rest) : Scalar text rest
  | boolean (value : Bool) {text rest : List UInt8} (hword : Word (toString value) text rest) :
      Scalar text rest
  | number {text rest : List UInt8} (hnumber : Number.Unsigned text rest) : Scalar text rest
  | negative {text rest : List UInt8} (hnumber : Number.Unsigned text rest) :
      Scalar (0x2d :: text) rest
  | string {text rest : List UInt8} (hstring : Quoted.Loose text rest) : Scalar (0x22 :: text) rest

def Frame.opening : Frame → UInt8
  | list => 0x5b
  | object => 0x7b

/-- What stands in front of the value of a member. -/
inductive Key : Frame → Rule
  | list (text : List UInt8) : Key .list text text
  | object {text inner after rest : List UInt8} (hquote : Token 0x22 text inner)
      (hname : Quoted.Loose inner after) (hcolon : Token 0x3a after rest) : Key .object text rest

/-- A value, or what is left of a list or an object where a member has to be. -/
inductive Part
  | value
  | members (frame : Frame)
  deriving DecidableEq, Repr

/-- Values of any depth, with the blanks in front of them. -/
inductive Value : Part → Rule
  | scalar {text start rest : List UInt8} (hblanks : Blanks text start)
      (hscalar : Scalar start rest) : Value .value text rest
  | empty (frame : Frame) {text inner rest : List UInt8} (hopen : Token frame.opening text inner)
      (hclose : Token frame.close inner rest) : Value .value text rest
  | nested (frame : Frame) {text inner rest : List UInt8} (hopen : Token frame.opening text inner)
      (hmembers : Value (.members frame) inner rest) : Value .value text rest
  | last {frame : Frame} {text start after rest : List UInt8} (hkey : Key frame text start)
      (hvalue : Value .value start after) (hclose : Token frame.close after rest) :
      Value (.members frame) text rest
  | more {frame : Frame} {text start after next rest : List UInt8} (hkey : Key frame text start)
      (hvalue : Value .value start after) (hcomma : Token 0x2c after next)
      (hmembers : Value (.members frame) next rest) : Value (.members frame) text rest

end PidOne.Json
