import PidOne.Text.Blank
import PidOne.Pattern.Shape

/-!
# Flags of patterns

Flags change what the rest of a group means. They are written as letters, those behind a minus to
be switched off; none may be given twice. One of them lets white space and comments stand anywhere
between the parts of a pattern.
-/

namespace PidOne.Pattern

structure Flags where
  anyCase : Bool
  /-- Lines have a start and an end of their own. -/
  byLine : Bool
  dotAll : Bool
  /-- Greedy and not greedy change places. -/
  swapGreed : Bool
  wide : Bool
  crlf : Bool
  spaced : Bool
  deriving DecidableEq, Repr

namespace Flags

/-- The flags at the start of a pattern. -/
def initial : Flags := ⟨false, false, false, false, true, false, false⟩

/-- The flags with the one of a letter set. -/
def set? (flags : Flags) (letter : Char) (value : Bool) : Option Flags :=
  match letter with
  | 'i' => some { flags with anyCase := value }
  | 'm' => some { flags with byLine := value }
  | 's' => some { flags with dotAll := value }
  | 'U' => some { flags with swapGreed := value }
  | 'u' => some { flags with wide := value }
  | 'R' => some { flags with crlf := value }
  | 'x' => some { flags with spaced := value }
  | _ => none

/-- Reads letters up to a colon or a closing parenthesis, which is left unread. -/
def read (flags : Flags) (before : List Char) : List Char → Option (Flags × List Char)
  | [] => none
  | c :: rest =>
    if c == ':' || c == ')' then
      if before.head? == some '-' then none else some (flags, c :: rest)
    else if before.contains c then none
    else if c == '-' then read flags (c :: before) rest
    else do read (← flags.set? c (!before.contains '-')) (c :: before) rest

theorem length_read_le {flags after : Flags} {before text rest : List Char}
    (h : flags.read before text = some (after, rest)) : rest.length ≤ text.length := by
  fun_induction read flags before text with
  | case1 => cases h
  | case2 => cases h
  | case3 => cases h; simp
  | case4 => cases h
  | case5 flags before c tail _ _ _ ih =>
    have := ih h
    simp only [List.length_cons]
    omega
  | case6 flags before c tail _ _ _ ih =>
    obtain ⟨set, _, hread⟩ := Option.bind_eq_some_iff.1 h
    have := ih set hread
    simp only [List.length_cons]
    omega

/-- The text without white space and comments in front; a comment reaches from a number sign to the
end of its line. -/
def unspaced (inComment : Bool) : List Char → List Char
  | [] => []
  | c :: rest =>
    if inComment then unspaced (c != '\n') rest
    else if Text.isBlank c then unspaced false rest
    else if c == '#' then unspaced true rest
    else c :: rest

theorem length_unspaced_le (inComment : Bool) (text : List Char) :
    (unspaced inComment text).length ≤ text.length := by
  fun_induction unspaced inComment text <;> simp_all <;> omega

/-- The text from its first part on that means something. -/
def skip (flags : Flags) (text : List Char) : List Char :=
  if flags.spaced then unspaced false text else text

theorem length_skip_le (flags : Flags) (text : List Char) :
    (flags.skip text).length ≤ text.length := by
  unfold skip
  split
  · exact length_unspaced_le false text
  · exact Nat.le_refl _

/-- The character that a glance behind a hyphen falls on. The glance passes over white space and one
number sign, but not over a comment; where it finds nothing it falls on the next character. -/
def glance (flags : Flags) (text : List Char) : Option Char :=
  if !flags.spaced then text.head?
  else
    let found := match text.dropWhile Text.isBlank with
      | '#' :: rest => (rest.dropWhile Text.isBlank).head?
      | rest => rest.head?
    found <|> text.head?

end Flags

end PidOne.Pattern
