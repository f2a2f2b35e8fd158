import PidOne.Pattern.Group

/-!
# Reading patterns

A pattern is read from left to right, with the groups that are still open around what is read. It is
malformed if anything in it means nothing, if groups or brackets are nested too deeply, or if it
could take bytes that are no characters. Only then is a well-formed pattern refused that asks for
word boundaries among wide characters, because words are made of ASCII characters here.
-/

namespace PidOne.Pattern

inductive Error where
  | malformed
  | wideBoundary
  deriving DecidableEq, Repr

namespace Error

def message : Error → String
  | malformed => "error building NFA"
  | wideBoundary =>
    "unsupported regex feature for DFAs: cannot build DFAs for regexes with Unicode word " ++
      "boundaries; switch to ASCII word boundaries, or heuristically enable Unicode word " ++
      "boundaries or use a different regex engine"

end Error

structure Reading where
  flags : Flags
  names : List String
  numbered : Nat
  /-- Whether a word boundary among wide characters was asked for. -/
  wideBoundary : Bool
  group : Group
  /-- The number of it, if it has one. -/
  number : Option Nat
  /-- The groups around it with their flags and numbers, the innermost first. -/
  around : List (Flags × Option Nat × Group)

namespace Reading

def start : Reading := ⟨.initial, [], 0, false, .empty, none, []⟩

def depthLimit : Nat := 250

def add (reading : Reading) (shape : Shape) : Reading :=
  { reading with group := reading.group.push (.part ⟨shape, 0⟩) }

/-- The reading with one more character, in both cases if letters fit so. Both cases are known of
the letters of ASCII only. -/
def literal? (reading : Reading) (c : Char) : Option Reading :=
  if !reading.flags.anyCase then some (reading.add (.literal [c]))
  else if reading.flags.wide then none
  else some (reading.add (.ofSet (CharSet.singleton c).anyCase))

/-- The reading with a dot: any character that does not end a line, or any at all. Without wide
characters it would take any byte. -/
def dot? (reading : Reading) : Option Reading :=
  let flags := reading.flags
  let lineEnds := if flags.crlf then CharSet.ofRanges [('\n', '\n'), ('\r', '\r')]
    else CharSet.singleton '\n'
  if !flags.wide then none
  else some (reading.add (.ofSet (if flags.dotAll then .all else lineEnds.complement)))

def caret (reading : Reading) : Reading :=
  let flags := reading.flags
  reading.add (.look (if !flags.byLine then .textStart
    else if flags.crlf then .lineStartCrlf else .lineStart))

def dollar (reading : Reading) : Reading :=
  let flags := reading.flags
  reading.add (.look (if !flags.byLine then .textEnd
    else if flags.crlf then .lineEndCrlf else .lineEnd))

def word (reading : Reading) (look : Look) : Reading :=
  { reading.add (.look look) with
    wideBoundary := reading.wideBoundary || reading.flags.wide }

def escape? (reading : Reading) : Escape → Option Reading
  | .literal c => reading.literal? c
  | .byte c => if reading.flags.wide || c.toNat < 0x80 then reading.literal? c else none
  | .set set =>
    if reading.flags.wide then none
    else some (reading.add (.ofSet (if reading.flags.anyCase then set.anyCase else set)))
  | .edge .textStart => some (reading.add (.look .textStart))
  | .edge .textEnd => some (reading.add (.look .textEnd))
  | .edge .wordBoundary => some (reading.word .wordBoundary)
  | .edge .noWordBoundary => some (reading.word .noWordBoundary)
  | .edge .wordStart => some (reading.word .wordStart)
  | .edge .wordEnd => some (reading.word .wordEnd)

def enter (reading : Reading) (flags : Flags) (number : Option Nat) : Reading :=
  { reading with
    flags
    group := .empty
    number
    around := (reading.flags, reading.number, reading.group) :: reading.around }

/-- The reading with the start of a group, or with flags. -/
def open? (reading : Reading) : GroupStart → Option Reading
  | .flags flags => some { reading with flags, group := reading.group.push .flags }
  | .plain flags => some (reading.enter flags none)
  | .numbered name => do
    guard (!name.any reading.names.contains)
    return { reading.enter reading.flags (some reading.numbered) with
      names := name.toList ++ reading.names
      numbered := reading.numbered + 1 }

/-- The reading with the end of a group. -/
def close? (reading : Reading) : Option Reading :=
  match reading.around with
  | [] => none
  | (flags, number, outer) :: around =>
    let ⟨content, depth⟩ := reading.group.content
    let shape := match reading.number with
      | none => content
      | some number => .group number content
    some { reading with flags, number, group := outer.push (.part ⟨shape, depth + 1⟩), around }

def repetition? (c : Char) : Option Repetition :=
  match c with
  | '?' => some .optional
  | '*' => some .star
  | '+' => some .plus
  | _ => none

def repeat? (reading : Reading) (how : Repetition) (greedy : Bool) : Option Reading :=
  let greedy := greedy != reading.flags.swapGreed
  (reading.group.repeatLast? (.repeated how greedy)).map fun group => { reading with group }

/-- Reads one piece that begins with the character. -/
def piece (reading : Reading) (c : Char) (rest : List Char) : Option (Reading × List Char) :=
  match c with
  | '(' =>
    match GroupStart.read reading.flags rest with
    | none => none
    | some (start, rest) => (reading.open? start).map fun reading => (reading, rest)
  | ')' => reading.close?.map fun reading => (reading, rest)
  | '|' => some ({ reading with group := reading.group.branch }, rest)
  | '[' =>
    match Bracket.read reading.flags rest with
    | none => none
    | some (set, rest) =>
      let part := ⟨.ofSet set.value, set.depth⟩
      some ({ reading with group := reading.group.push (.part part) }, rest)
  | '\\' =>
    match Escape.read reading.flags rest with
    | none => none
    | some (escape, rest) => (reading.escape? escape).map fun reading => (reading, rest)
  | '.' => reading.dot?.map fun reading => (reading, rest)
  | '^' => some (reading.caret, rest)
  | '$' => some (reading.dollar, rest)
  | '\x7b' => none
  | c =>
    match repetition? c with
    | none => (reading.literal? c).map fun reading => (reading, rest)
    | some how =>
      let greedy := rest.head? != some '?'
      (reading.repeat? how greedy).map fun reading =>
        (reading, if greedy then rest else rest.drop 1)

theorem length_piece_le {reading after : Reading} {c : Char} {rest left : List Char}
    (h : reading.piece c rest = some (after, left)) : left.length ≤ rest.length := by
  unfold piece at h
  split at h
  · split at h
    · cases h
    · next hread =>
      have := GroupStart.length_read_le hread
      obtain ⟨_, _, h⟩ := Option.map_eq_some_iff.1 h
      cases h
      omega
  · obtain ⟨_, _, h⟩ := Option.map_eq_some_iff.1 h
    cases h
    omega
  · cases h
    omega
  · split at h
    · cases h
    · next hread =>
      have := Bracket.length_read_lt hread
      cases h
      omega
  · split at h
    · cases h
    · next hread =>
      have := Escape.length_read_lt hread
      obtain ⟨_, _, h⟩ := Option.map_eq_some_iff.1 h
      cases h
      omega
  · obtain ⟨_, _, h⟩ := Option.map_eq_some_iff.1 h
    cases h
    omega
  · cases h
    omega
  · cases h
    omega
  · cases h
  · split at h
    · obtain ⟨_, _, h⟩ := Option.map_eq_some_iff.1 h
      cases h
      omega
    · obtain ⟨_, _, h⟩ := Option.map_eq_some_iff.1 h
      cases h
      split
      · omega
      · simp only [List.length_drop]
        omega

/-- Reads on to the end of a text. -/
def readAll (reading : Reading) (text : List Char) : Option Reading :=
  match h : reading.flags.skip text with
  | [] => some reading
  | c :: rest =>
    have := h ▸ reading.flags.length_skip_le text
    match hpiece : reading.piece c rest with
    | none => none
    | some (reading, left) =>
      have := length_piece_le hpiece
      readAll reading left
termination_by text.length
decreasing_by simp only [List.length_cons] at *; omega

def finish (reading : Reading) : Except Error Shape :=
  let content := reading.group.content
  if !reading.around.isEmpty || depthLimit < content.depth then .error .malformed
  else if reading.wideBoundary then .error .wideBoundary
  else .ok content.value

end Reading

def Shape.read (text : String) : Except Error Shape :=
  match Reading.start.readAll text.toList with
  | none => .error .malformed
  | some reading => reading.finish

end PidOne.Pattern
