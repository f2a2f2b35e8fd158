import PidOne.Pattern.CharSet

/-!
# Shapes of patterns

A shape says which texts fit and which of several ways to fit is preferred: of two alternatives the
left one; of fitting once more and going on, the first if the repetition is greedy. Some shapes take
no character and only look at what stands to either side.

Shapes are put together by `concat`, `alternation` and `repeated`, which keep them simple: texts in
a row become one text, characters to choose from become a set, and what all branches begin with is
taken out in front of them. The last of these decides preferences: of `.*a|.*b` the longest way
through what is common comes first, not the first branch.
-/

namespace PidOne.Pattern

/-- Where in a text one is: the character before, and the one after. -/
structure Place where
  before : Option Char
  after : Option Char
  deriving DecidableEq, Repr

namespace Place

def afterWord (place : Place) : Bool := place.before.any CharSet.wordCharacters.contains

def beforeWord (place : Place) : Bool := place.after.any CharSet.wordCharacters.contains

end Place

/-- What a pattern may ask of a place. -/
inductive Look where
  | textStart
  | textEnd
  | lineStart
  | lineEnd
  /-- The start of a line, where a carriage return may end lines, too, but does not split a line
  feed off. -/
  | lineStartCrlf
  | lineEndCrlf
  | wordBoundary
  | noWordBoundary
  | wordStart
  | wordEnd
  deriving DecidableEq, Repr

namespace Look

def holds (look : Look) (place : Place) : Bool :=
  match look with
  | textStart => place.before.isNone
  | textEnd => place.after.isNone
  | lineStart => place.before.all (· == '\n')
  | lineEnd => place.after.all (· == '\n')
  | lineStartCrlf =>
    place.before.all fun c => c == '\n' || (c == '\r' && place.after != some '\n')
  | lineEndCrlf =>
    place.after.all fun c => c == '\r' || (c == '\n' && place.before != some '\r')
  | wordBoundary => place.afterWord != place.beforeWord
  | noWordBoundary => place.afterWord == place.beforeWord
  | wordStart => !place.afterWord && place.beforeWord
  | wordEnd => place.afterWord && !place.beforeWord

end Look

inductive Repetition where
  | optional
  | star
  | plus
  deriving DecidableEq, Repr

inductive Shape where
  | empty
  | literal (text : List Char)
  | chars (set : CharSet)
  | look (look : Look)
  | seq (first rest : Shape)
  | alt (first rest : Shape)
  | repetition (repetition : Repetition) (greedy : Bool) (body : Shape)
  /-- A group that has a number; no two groups are the same. -/
  | group (number : Nat) (body : Shape)
  deriving DecidableEq, Repr

namespace Shape

/-- Whether it is plain from the shape that a text that fits has a character. -/
def consumes : Shape → Bool
  | literal _ | chars _ => true
  | seq first rest => first.consumes || rest.consumes
  | alt first rest => first.consumes && rest.consumes
  | repetition .plus _ body | group _ body => body.consumes
  | empty | look _ | repetition _ _ _ => false

/-- Whether it is plain from the shape that a text that fits has no character. -/
def isVoid : Shape → Bool
  | empty | look _ => true
  | literal _ | chars _ => false
  | seq first rest | alt first rest => first.isVoid && rest.isVoid
  | repetition _ _ body | group _ body => body.isVoid

/-! ## Putting shapes together -/

/-- One character of a set; a set with one member is a text. -/
def ofSet (set : CharSet) : Shape :=
  match set.only? with
  | some c => literal [c]
  | none => chars set

/-- The shapes in a row that a shape consists of. -/
def row : Shape → List Shape
  | empty => []
  | seq first rest => first.row ++ rest.row
  | shape => [shape]

/-- Makes one text of texts in a row. -/
def joinTexts : List Shape → List Shape
  | [] => []
  | shape :: rest =>
    match shape, joinTexts rest with
    | literal text, literal next :: rest => literal (text ++ next) :: rest
    | shape, rest => shape :: rest

def ofRow : List Shape → Shape
  | [] => empty
  | [shape] => shape
  | shape :: rest => seq shape (ofRow rest)

def concat (shapes : List Shape) : Shape := ofRow (joinTexts (shapes.flatMap row))

/-- The shapes to choose from that a shape consists of. -/
def choices : Shape → List Shape
  | alt first rest => first.choices ++ rest.choices
  | shape => [shape]

def character? : Shape → Option CharSet
  | literal [c] => some (.singleton c)
  | _ => none

def set? : Shape → Option CharSet
  | chars set => some set
  | _ => none

def ofChoices : List Shape → Shape
  | [] => chars .empty
  | [shape] => shape
  | shape :: rest => alt shape (ofChoices rest)

/-- A choice, as one set if nothing but characters, or nothing but sets, is to choose from. -/
def choice (shapes : List Shape) : Shape :=
  match shapes with
  | [] | [_] => ofChoices shapes
  | _ =>
    match shapes.mapM character? <|> shapes.mapM set? with
    | some sets => ofSet (sets.foldl CharSet.union .empty)
    | none => ofChoices shapes

/-- How many shapes at the start are the same in two rows. -/
def common : List Shape → List Shape → Nat
  | first :: rest, other :: others => if first = other then common rest others + 1 else 0
  | _, _ => 0

/-- How many shapes at the start are the same in all rows. A single shape is no row. -/
def commonInAll (rows : List (List Shape)) : Nat :=
  match rows with
  | [] | [_] => 0
  | first :: rest =>
    if rows.all fun row => 2 ≤ row.length then
      rest.foldl (fun count row => min count (common first row)) first.length
    else 0

def alternation (shapes : List Shape) : Shape :=
  let shapes := shapes.flatMap choices
  let rows := shapes.map row
  match commonInAll rows with
  | 0 => choice shapes
  | count =>
    let ends := rows.map fun row => ofRow (row.drop count)
    concat ((rows.headD []).take count ++ [choice (ends.flatMap choices)])

/-- A shape repeated. What has no character is not worth repeating more than once. -/
def repeated (how : Repetition) (greedy : Bool) (body : Shape) : Shape :=
  match body.isVoid, how with
  | true, .star => repetition .optional greedy body
  | true, .plus => body
  | _, how => repetition how greedy body

end Shape

end PidOne.Pattern
