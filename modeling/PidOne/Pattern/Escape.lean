import PidOne.Pattern.Flags

/-!
# Escapes in patterns

A backslash takes the meaning from a punctuation character and gives one to a letter: a control
character, a character by its number, a set, or something asked of a place.
-/

namespace PidOne.Pattern

inductive Edge where
  | textStart
  | textEnd
  | wordBoundary
  | noWordBoundary
  | wordStart
  | wordEnd
  deriving DecidableEq, Repr

inductive Escape where
  | literal (c : Char)
  /-- A character given by two digits; it counts as a byte unless characters may be wide. -/
  | byte (c : Char)
  | set (set : CharSet)
  | edge (edge : Edge)
  deriving DecidableEq, Repr

namespace Escape

def hexDigit? (c : Char) : Option Nat :=
  if c.isDigit then some (c.toNat - '0'.toNat)
  else if 'a' ≤ c && c ≤ 'f' then some (c.toNat - 'a'.toNat + 10)
  else if 'A' ≤ c && c ≤ 'F' then some (c.toNat - 'A'.toNat + 10)
  else none

/-- Reads a number of hexadecimal digits, and passes over blanks behind each. -/
def digits (flags : Flags) (value : Nat) : Nat → List Char → Option (Nat × List Char)
  | 0, text => some (value, text)
  | _ + 1, [] => none
  | count + 1, c :: rest => do
    digits flags (value * 16 + (← hexDigit? c)) count (flags.skip rest)

def numbered (flags : Flags) (count : Nat) (text : List Char) : Option (Char × List Char) := do
  let (number, rest) ← digits flags 0 count (flags.skip text)
  guard (decide number.isValidChar)
  return (Char.ofNat number, rest)

/-- What a letter means, if it takes no more to say it. No letter stands for the complement of a
set: the sets know ASCII only, and a set of ASCII must not take more than that. -/
def ofLetter? (c : Char) : Option Escape :=
  match c with
  | 'a' => some (literal '\x07')
  | 'f' => some (literal '\x0c')
  | 't' => some (literal '\t')
  | 'n' => some (literal '\n')
  | 'r' => some (literal '\r')
  | 'v' => some (literal '\x0b')
  | 'd' => some (set .digits)
  | 's' => some (set .blanks)
  | 'w' => some (set .wordCharacters)
  | 'A' => some (edge .textStart)
  | 'z' => some (edge .textEnd)
  | 'b' => some (edge .wordBoundary)
  | 'B' => some (edge .noWordBoundary)
  | '<' => some (edge .wordStart)
  | '>' => some (edge .wordEnd)
  | _ => none

/-- Whether a backslash makes the character stand for itself. -/
def isPunctuation (c : Char) : Bool :=
  c.toNat < 0x80 && !c.isAlphanum && c != '<' && c != '>'

def read (flags : Flags) : List Char → Option (Escape × List Char)
  | [] => none
  | c :: rest =>
    if isPunctuation c then some (literal c, rest)
    else if c == 'x' then (numbered flags 2 rest).map fun (c, rest) => (byte c, rest)
    else if c == 'u' then (numbered flags 4 rest).map fun (c, rest) => (literal c, rest)
    else if c == 'U' then (numbered flags 8 rest).map fun (c, rest) => (literal c, rest)
    else (ofLetter? c).map fun escape => (escape, rest)

theorem length_digits_le {flags : Flags} {value count number : Nat} {text rest : List Char}
    (h : digits flags value count text = some (number, rest)) : rest.length ≤ text.length := by
  fun_induction digits flags value count text with
  | case1 => cases h; simp
  | case2 => cases h
  | case3 value count c tail ih =>
    obtain ⟨digit, _, hread⟩ := Option.bind_eq_some_iff.1 h
    have := ih digit hread
    have := flags.length_skip_le tail
    simp only [List.length_cons]
    omega

theorem length_numbered_le {flags : Flags} {count : Nat} {c : Char} {text rest : List Char}
    (h : numbered flags count text = some (c, rest)) : rest.length ≤ text.length := by
  obtain ⟨⟨number, after⟩, hdigits, h⟩ := Option.bind_eq_some_iff.1 h
  obtain ⟨_, _, h⟩ := Option.bind_eq_some_iff.1 h
  cases h
  exact Nat.le_trans (length_digits_le hdigits) (flags.length_skip_le text)

theorem length_read_lt {flags : Flags} {escape : Escape} {text rest : List Char}
    (h : read flags text = some (escape, rest)) : rest.length < text.length := by
  unfold read at h
  split at h
  · cases h
  · next c tail =>
    simp only [List.length_cons, Nat.lt_succ_iff]
    split at h
    · cases h; simp
    all_goals repeat' split at h
    all_goals
      obtain ⟨found, hfound, h⟩ := Option.map_eq_some_iff.1 h
      cases h
      first
        | exact length_numbered_le hfound
        | exact Nat.le_refl _

end Escape

end PidOne.Pattern
