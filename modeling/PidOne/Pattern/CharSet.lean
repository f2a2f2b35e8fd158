/-!
# Sets of characters

What a pattern says about one character. Characters are counted in their order, without the gap of
the surrogates; a set is its ranges in that count, in order and with room between them, so that two
sets with the same members are the same. The named sets are those of ASCII.
-/

namespace PidOne.Pattern

structure CharSet where
  /-- The first and the last number of each range. -/
  ranges : List (Nat × Nat)
  deriving DecidableEq, Repr

namespace CharSet

def ordinal (c : Char) : Nat := if c.toNat < 0xd800 then c.toNat else c.toNat - 0x800

def ofOrdinal (n : Nat) : Char := Char.ofNat (if n < 0xd800 then n else n + 0x800)

def lastOrdinal : Nat := 0x10f7ff

/-- Joins ranges in the order of their starts where there is no room between them. -/
def join : List (Nat × Nat) → List (Nat × Nat)
  | [] => []
  | [range] => [range]
  | (first, last) :: (next, stop) :: rest =>
    if next ≤ last + 1 then join ((first, max last stop) :: rest)
    else (first, last) :: join ((next, stop) :: rest)
termination_by ranges => ranges.length

def ofNumbers (ranges : List (Nat × Nat)) : CharSet :=
  ⟨join (ranges.mergeSort fun a b => decide (a.1 ≤ b.1))⟩

/-- The room between ranges from a number on. -/
def gaps (start : Nat) : List (Nat × Nat) → List (Nat × Nat)
  | [] => if start ≤ lastOrdinal then [(start, lastOrdinal)] else []
  | (first, last) :: rest =>
    if start < first then (start, first - 1) :: gaps (last + 1) rest else gaps (last + 1) rest

def contains (set : CharSet) (c : Char) : Bool :=
  set.ranges.any fun range => range.1 ≤ ordinal c && ordinal c ≤ range.2

def empty : CharSet := ⟨[]⟩

def union (left right : CharSet) : CharSet := ofNumbers (left.ranges ++ right.ranges)

def complement (set : CharSet) : CharSet := ⟨gaps 0 set.ranges⟩

def intersection (left right : CharSet) : CharSet :=
  (left.complement.union right.complement).complement

def difference (left right : CharSet) : CharSet := left.intersection right.complement

def symmetricDifference (left right : CharSet) : CharSet :=
  (left.union right).difference (left.intersection right)

def all : CharSet := complement empty

def range (first last : Char) : CharSet := ofNumbers [(ordinal first, ordinal last)]

def singleton (c : Char) : CharSet := range c c

/-- The only member, if there is just one. -/
def only? (set : CharSet) : Option Char :=
  match set.ranges with
  | [(first, last)] => if first = last then some (ofOrdinal first) else none
  | _ => none

def ofRanges (ranges : List (Char × Char)) : CharSet :=
  ofNumbers (ranges.map fun (first, last) => (ordinal first, ordinal last))

/-- The members between two characters, moved in the order of characters. -/
def moved (set : CharSet) (first last : Char) (move : Nat → Nat) : CharSet :=
  ofNumbers ((set.intersection (range first last)).ranges.map fun (first, last) =>
    (move first, move last))

/-- The set with the other case of each of its letters from A to Z. -/
def anyCase (set : CharSet) : CharSet :=
  (set.union (set.moved 'A' 'Z' (· + 0x20))).union (set.moved 'a' 'z' (· - 0x20))

def digits : CharSet := range '0' '9'

def blanks : CharSet := ofRanges [('\t', '\r'), (' ', ' ')]

def wordCharacters : CharSet := ofRanges [('0', '9'), ('A', 'Z'), ('_', '_'), ('a', 'z')]

def named? (name : String) : Option CharSet :=
  match name with
  | "alnum" => some (ofRanges [('0', '9'), ('A', 'Z'), ('a', 'z')])
  | "alpha" => some (ofRanges [('A', 'Z'), ('a', 'z')])
  | "ascii" => some (range '\x00' '\x7f')
  | "blank" => some (ofRanges [('\t', '\t'), (' ', ' ')])
  | "cntrl" => some (ofRanges [('\x00', '\x1f'), ('\x7f', '\x7f')])
  | "digit" => some digits
  | "graph" => some (range '!' '~')
  | "lower" => some (range 'a' 'z')
  | "print" => some (range ' ' '~')
  | "punct" => some (ofRanges [('!', '/'), (':', '@'), ('[', '\x60'), ('\x7b', '~')])
  | "space" => some blanks
  | "upper" => some (range 'A' 'Z')
  | "word" => some wordCharacters
  | "xdigit" => some (ofRanges [('0', '9'), ('A', 'F'), ('a', 'f')])
  | _ => none

end CharSet

end PidOne.Pattern
