import PidOne.Json.Quoted
import PidOne.Json.Number

/-!
# JSON values

Three things are done with a value: `skip` checks its form and passes over it, at any depth;
`readString` and `readBoolean` read it; `mismatch` describes it where a value of another type was
expected. Blanks between tokens are passed over everywhere.
-/

namespace PidOne.Json

def isBlank (b : UInt8) : Bool := b == 0x20 || b == 0x0a || b == 0x09 || b == 0x0d

def skipBlank (text : List UInt8) : List UInt8 := text.dropWhile isBlank

theorem length_skipBlank_le (text : List UInt8) : (skipBlank text).length ≤ text.length :=
  (List.dropWhile_sublist isBlank).length_le

def word : List UInt8 → List UInt8 → Except Fault (List UInt8)
  | [], text => .ok text
  | _ :: _, [] => .error ⟨.endInValue, []⟩
  | letter :: letters, b :: rest =>
    if b == letter then word letters rest else .error ⟨.expectedWord, rest⟩

theorem length_word_le {letters text rest : List UInt8} (h : word letters text = .ok rest) :
    rest.length ≤ text.length := by
  fun_induction word letters text with
  | case1 => cases h; simp
  | case2 => cases h
  | case3 letter letters b tail _ ih =>
    have := ih h
    simp only [List.length_cons]
    omega
  | case4 => cases h

/-! The letters of the three words after the first. -/

def ull : List UInt8 := [0x75, 0x6c, 0x6c]

def rue : List UInt8 := [0x72, 0x75, 0x65]

def alse : List UInt8 := [0x61, 0x6c, 0x73, 0x65]

/-- Passes over a word, a number or a string that begins with the byte. -/
def skipScalar (b : UInt8) (rest : List UInt8) : Except Fault (List UInt8) :=
  if b == 0x6e then word ull rest
  else if b == 0x74 then word rue rest
  else if b == 0x66 then word alse rest
  else if b == 0x2d then Number.skip rest
  else if Number.isDigit b then Number.skip (b :: rest)
  else if b == 0x22 then Quoted.skip rest
  else .error ⟨.expectedValue, rest⟩

theorem length_skipScalar_le {b : UInt8} {rest after : List UInt8}
    (h : skipScalar b rest = .ok after) : after.length ≤ rest.length := by
  unfold skipScalar at h
  split at h
  · exact length_word_le h
  · split at h
    · exact length_word_le h
    · split at h
      · exact length_word_le h
      · split at h
        · exact Nat.le_of_lt (Number.length_skip_lt h)
        · split at h
          · have := Number.length_skip_lt h
            simp only [List.length_cons] at this
            omega
          · split at h
            · exact Nat.le_of_lt (Quoted.length_skip h)
            · cases h

inductive Frame where
  | list
  | object
  deriving DecidableEq, Repr

namespace Frame

def close : Frame → UInt8
  | list => 0x5d
  | object => 0x7d

def ended : Frame → Cause
  | list => .endInList
  | object => .endInObject

/-- The fault when something else follows a member. -/
def unseparated : Frame → Cause
  | list => .expectedCommaOrBracket
  | object => .expectedCommaOrBrace

def opened? (b : UInt8) : Option Frame :=
  if b == 0x5b then some list else if b == 0x7b then some object else none

end Frame

/-- Passes over a colon and the blanks before it. -/
def colon (text : List UInt8) : Except Fault (List UInt8) :=
  match skipBlank text with
  | [] => .error ⟨.endInObject, []⟩
  | b :: rest => if b == 0x3a then .ok rest else .error ⟨.expectedColon, rest⟩

theorem length_colon_lt {text rest : List UInt8} (h : colon text = .ok rest) :
    rest.length < text.length := by
  unfold colon at h
  have hblank := length_skipBlank_le text
  split at h
  · cases h
  · next b tail heq =>
    rw [heq] at hblank
    split at h
    · cases h
      simp only [List.length_cons] at hblank
      omega
    · cases h

/-- Passes over what stands before the value of a member: nothing in a list, a key and a colon in an
object. -/
def skipKey (frame : Frame) (text : List UInt8) : Except Fault (List UInt8) :=
  match frame with
  | .list => .ok text
  | .object =>
    match skipBlank text with
    | [] => .error ⟨.endInObject, []⟩
    | b :: rest =>
      if b == 0x22 then
        match Quoted.skip rest with
        | .ok after => colon after
        | .error fault => .error fault
      else .error ⟨.keyNotString, rest⟩

theorem length_skipKey_le {frame : Frame} {text rest : List UInt8}
    (h : skipKey frame text = .ok rest) : rest.length ≤ text.length := by
  unfold skipKey at h
  split at h
  · cases h
    simp
  · have hblank := length_skipBlank_le text
    split at h
    · cases h
    · next b tail heq =>
      rw [heq] at hblank
      split at h
      · split at h
        · next hskip =>
          have := length_colon_lt h
          have := Quoted.length_skip hskip
          simp only [List.length_cons] at hblank
          omega
        · cases h
      · cases h

/-- What the reader of nested values looks for: a value, or what may follow one. -/
inductive Goal where
  | value
  | next
  deriving DecidableEq, Repr

/-- Passes over a value and everything up to the end of the outermost of the enclosing frames, the
innermost frame first. -/
def skipNested (goal : Goal) (frames : List Frame) (text : List UInt8) :
    Except Fault (List UInt8) :=
  match goal, frames with
  | .next, [] => .ok text
  | .next, frame :: outer =>
    match h : skipBlank text with
    | [] => .error ⟨frame.ended, []⟩
    | b :: rest =>
      have hblank := h ▸ length_skipBlank_le text
      if b == frame.close then skipNested .next outer rest
      else if b == 0x2c then
        match hkey : skipKey frame rest with
        | .error fault => .error fault
        | .ok after =>
          have := length_skipKey_le hkey
          skipNested .value (frame :: outer) after
      else .error ⟨frame.unseparated, rest⟩
  | .value, frames =>
    match h : skipBlank text with
    | [] => .error ⟨.endInValue, []⟩
    | b :: rest =>
      have hblank := h ▸ length_skipBlank_le text
      match Frame.opened? b with
      | some frame =>
        have hinner := length_skipBlank_le rest
        match hinside : skipBlank rest with
        | [] => .error ⟨frame.ended, []⟩
        | c :: after =>
          if c == frame.close then
            have : after.length < rest.length := by
              rw [hinside, List.length_cons] at hinner
              omega
            skipNested .next frames after
          else
            match hkey : skipKey frame rest with
            | .error fault => .error fault
            | .ok after =>
              have := length_skipKey_le hkey
              skipNested .value (frame :: frames) after
      | none =>
        match hscalar : skipScalar b rest with
        | .error fault => .error fault
        | .ok after =>
          have := length_skipScalar_le hscalar
          skipNested .next frames after
termination_by text.length
decreasing_by all_goals simp only [List.length_cons] at hblank; omega

def skip (text : List UInt8) : Except Fault (List UInt8) := skipNested .value [] text

theorem length_skipNested_le (goal : Goal) (frames : List Frame) (text : List UInt8)
    {rest : List UInt8} (h : skipNested goal frames text = .ok rest) :
    rest.length ≤ text.length := by
  fun_induction skipNested goal frames text <;> grind

theorem length_skip_le {text rest : List UInt8} (h : skip text = .ok rest) :
    rest.length ≤ text.length :=
  length_skipNested_le .value [] text h

/-- Describes the value at the beginning of the text, which starts with a token, where another was
expected. Its form is checked first. -/
def mismatch (expected : String) (text : List UInt8) : Fault :=
  match text with
  | [] => ⟨.expectedValue, []⟩
  | b :: rest =>
    if b == 0x6e then afterWord ull rest .null
    else if b == 0x74 then afterWord rue rest (.boolean true)
    else if b == 0x66 then afterWord alse rest (.boolean false)
    else if b == 0x2d then afterNumber (Number.read false rest)
    else if Number.isDigit b then afterNumber (Number.read true (b :: rest))
    else if b == 0x22 then
      match Quoted.read rest with
      | .ok (s, rest) => ⟨.invalidType (.string s) expected, rest⟩
      | .error fault => fault
    else if b == 0x5b then ⟨.invalidType .sequence expected, b :: rest⟩
    else if b == 0x7b then ⟨.invalidType .map expected, b :: rest⟩
    else ⟨.expectedValue, rest⟩
where
  /-- The fault after a word, if it is spelt right. -/
  afterWord (letters rest : List UInt8) (found : Found) : Fault :=
    match word letters rest with
    | .ok rest => ⟨.invalidType found expected, rest⟩
    | .error fault => fault
  /-- The fault after a number, if it is one. -/
  afterNumber (number : Except Fault (Number × List UInt8)) : Fault :=
    match number with
    | .ok (number, rest) => ⟨.invalidType (.number number) expected, rest⟩
    | .error fault => fault

def readString (text : List UInt8) : Except Fault (String × List UInt8) :=
  match skipBlank text with
  | [] => .error ⟨.endInValue, []⟩
  | b :: rest => if b == 0x22 then Quoted.read rest else .error (mismatch "a string" (b :: rest))

def readBoolean (text : List UInt8) : Except Fault (Bool × List UInt8) :=
  match skipBlank text with
  | [] => .error ⟨.endInValue, []⟩
  | b :: rest =>
    if b == 0x74 then (word rue rest).map fun rest => (true, rest)
    else if b == 0x66 then (word alse rest).map fun rest => (false, rest)
    else .error (mismatch "a boolean" (b :: rest))

def readNull (text : List UInt8) : Except Fault (List UInt8) :=
  match skipBlank text with
  | [] => .error ⟨.endInValue, []⟩
  | b :: rest => if b == 0x6e then word ull rest else .error (mismatch "unit" (b :: rest))

theorem length_readString_le {text rest : List UInt8} {s : String}
    (h : readString text = .ok (s, rest)) : rest.length ≤ text.length := by
  unfold readString at h
  have hblank := length_skipBlank_le text
  split at h
  · cases h
  · next b tail heq =>
    rw [heq] at hblank
    split at h
    · have := Quoted.length_read h
      simp only [List.length_cons] at hblank
      omega
    · cases h

theorem length_readBoolean_le {text rest : List UInt8} {value : Bool}
    (h : readBoolean text = .ok (value, rest)) : rest.length ≤ text.length := by
  unfold readBoolean at h
  have hblank := length_skipBlank_le text
  split at h
  · cases h
  · next b tail heq =>
    rw [heq, List.length_cons] at hblank
    have hword : ∀ {letters : List UInt8} {given : Bool},
        ((word letters tail).map fun rest => (given, rest)) = .ok (value, rest) →
          rest.length ≤ tail.length := by
      intro letters given hmap
      cases hread : word letters tail with
      | error fault => rw [hread] at hmap; cases hmap
      | ok after =>
        rw [hread] at hmap
        cases hmap
        exact length_word_le hread
    split at h
    · have := hword h
      omega
    · split at h
      · have := hword h
        omega
      · cases h

/-- Wants nothing but blanks up to the end of the text. -/
def finish (text : List UInt8) : Except Fault Unit :=
  match skipBlank text with
  | [] => .ok ()
  | _ :: rest => .error ⟨.trailingCharacters, rest⟩

/-- Reads one value of a type that `read` knows, and nothing after it. -/
def readWhole {α : Type} (read : List UInt8 → Except Fault (α × List UInt8)) (text : List UInt8) :
    Except ReadError α :=
  match read text with
  | .error fault => .error (fault.locate text)
  | .ok (value, rest) =>
    match finish rest with
    | .error fault => .error (fault.locate text)
    | .ok () => .ok value

end PidOne.Json
