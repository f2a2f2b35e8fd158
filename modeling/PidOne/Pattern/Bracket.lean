import PidOne.Pattern.Escape

/-!
# Sets between brackets

Between brackets stand characters, ranges, named sets, escapes and other brackets, of which a
bracket takes the union; `&&`, `--` and `~~` stand between two such unions for their intersection,
difference and symmetric difference, the left one done first. A caret in front takes the complement.

Without wide characters a set has to stay within ASCII, so it has no complement. With them, letters
that fit in both cases are not known, so there is nothing to put into such a set.
-/

namespace PidOne.Pattern

/-- A value, and how deep what it was read from is nested. -/
structure Nested (α : Type) where
  value : α
  depth : Nat
  deriving DecidableEq, Repr

namespace Nested

def deepest {α : Type} (parts : List (Nested α)) : Nat :=
  parts.foldl (fun depth part => max depth part.depth) 0

end Nested

inductive SetOperation where
  | intersection
  | difference
  | symmetricDifference
  deriving DecidableEq, Repr

namespace SetOperation

/-- The operation that a character written twice stands for. -/
def ofChar? (c : Char) : Option SetOperation :=
  match c with
  | '&' => some intersection
  | '-' => some difference
  | '~' => some symmetricDifference
  | _ => none

def apply (operation : SetOperation) (left right : CharSet) : CharSet :=
  match operation with
  | intersection => left.intersection right
  | difference => left.difference right
  | symmetricDifference => left.symmetricDifference right

end SetOperation

structure Bracket where
  negated : Bool
  /-- What stands to the left of the last operation. -/
  left : Option (SetOperation × Nested CharSet)
  /-- The members of the union after it, the last one first. -/
  members : List (Nested CharSet)

namespace Bracket

def push (bracket : Bracket) (member : Nested CharSet) : Bracket :=
  { bracket with members := member :: bracket.members }

def lastUnion (bracket : Bracket) : Nested CharSet :=
  match bracket.members with
  | [] => ⟨.empty, 0⟩
  | [member] => member
  | members =>
    ⟨members.foldr (fun member set => set.union member.value) .empty, Nested.deepest members + 1⟩

/-- All that has been read, as one set. -/
def combined (bracket : Bracket) : Nested CharSet :=
  let last := bracket.lastUnion
  match bracket.left with
  | none => last
  | some (operation, left) =>
    ⟨operation.apply left.value last.value, max left.depth last.depth + 1⟩

def operate (bracket : Bracket) (operation : SetOperation) : Bracket :=
  { bracket with left := some (operation, bracket.combined), members := [] }

/-- The complement of a set, if there may be one. -/
def complement? (flags : Flags) (set : CharSet) : Option CharSet :=
  if flags.wide then some set.complement else none

def close (bracket : Bracket) (flags : Flags) : Option (Nested CharSet) := do
  let ⟨set, depth⟩ := bracket.combined
  if bracket.negated then return ⟨← complement? flags set, depth + 1⟩
  else return ⟨set, depth + 1⟩

/-- A set as a member, with the letters in both cases if they fit so. -/
def member? (flags : Flags) (set : CharSet) : Option (Nested CharSet) :=
  if !flags.anyCase then some ⟨set, 0⟩ else if flags.wide then none else some ⟨set.anyCase, 0⟩

def admits (flags : Flags) (c : Char) : Bool := flags.wide || c.toNat < 0x80

/-- The characters between two, both included, as a member. -/
def range? (flags : Flags) (first last : Char) : Option (Nested CharSet) := do
  guard (admits flags first && admits flags last && decide (first ≤ last))
  member? flags (.range first last)

def single? (flags : Flags) (c : Char) : Option (Nested CharSet) := range? flags c c

/-! ## Reading -/

/-- Takes hyphens at the start of a bracket as characters. -/
def hyphens (flags : Flags) (bracket : Bracket) (text : List Char) :
    Option (Bracket × List Char) :=
  match text with
  | [] => none
  | c :: rest =>
    if c == '-' then
      match single? flags c with
      | none => none
      | some member =>
        have := flags.length_skip_le rest
        hyphens flags (bracket.push member) (flags.skip rest)
    else some (bracket, c :: rest)
termination_by text.length
decreasing_by simp_wf; omega

/-- Takes a closing bracket as a character if nothing stands before it. -/
def leading (flags : Flags) (bracket : Bracket) : List Char → Option (Bracket × List Char)
  | [] => none
  | c :: rest =>
    if bracket.members.isEmpty && c == ']' then
      (single? flags c).map fun member => (bracket.push member, rest)
    else some (bracket, c :: rest)

/-- Reads the start of a bracket: a caret, and what would mean something else further on. -/
def start (flags : Flags) (text : List Char) : Option (Bracket × List Char) :=
  let (negated, text) := match flags.skip text with
    | '^' :: rest => (true, flags.skip rest)
    | rest => (false, rest)
  match hyphens flags ⟨negated, none, []⟩ text with
  | none => none
  | some (bracket, text) => leading flags bracket text

/-- Reads the name of a set, its colons and the closing bracket; gives also whether a caret stands
before the name. -/
def name? : List Char → Option (Bool × CharSet × List Char)
  | ':' :: text =>
    let (negated, text) := match text with
      | '^' :: rest => (true, rest)
      | rest => (false, rest)
    match text.dropWhile (· != ':') with
    | ':' :: ']' :: rest =>
      (CharSet.named? (String.ofList (text.takeWhile (· != ':')))).map fun set =>
        (negated, set, rest)
    | _ => none
  | _ => none

def ofName? (flags : Flags) (negated : Bool) (set : CharSet) : Option (Nested CharSet) := do
  let member ← member? flags set
  if negated then return ⟨← complement? flags member.value, 0⟩ else return member

def element (flags : Flags) : List Char → Option (Escape × List Char)
  | [] => none
  | c :: rest => if c == '\\' then Escape.read flags rest else some (.literal c, rest)

/-- A character or an escape as a member. -/
def ofElement? (flags : Flags) : Escape → Option (Nested CharSet)
  | .literal c | .byte c => single? flags c
  | .set set => if flags.wide then none else member? flags set
  | .edge _ => none

def ofEnds? (flags : Flags) : Escape → Escape → Option (Nested CharSet)
  | .literal first, .literal last | .literal first, .byte last
  | .byte first, .literal last | .byte first, .byte last => range? flags first last
  | _, _ => none

def part (flags : Flags) (text : List Char) : Option (Nested CharSet × List Char) :=
  match element flags text with
  | none => none
  | some (first, rest) =>
    match flags.skip rest with
    | '-' :: after =>
      if flags.glance after == some ']' || flags.glance after == some '-' then
        (ofElement? flags first).map fun member => (member, '-' :: after)
      else
        match element flags (flags.skip after) with
        | none => none
        | some (last, rest) => (ofEnds? flags first last).map fun member => (member, rest)
    | rest => (ofElement? flags first).map fun member => (member, rest)

/-- The operation at the start of a text. -/
def operation? (c : Char) (rest : List Char) : Option SetOperation :=
  if rest.head? == some c then SetOperation.ofChar? c else none

theorem length_hyphens_le {flags : Flags} {before bracket : Bracket} {text rest : List Char}
    (h : hyphens flags before text = some (bracket, rest)) : rest.length ≤ text.length := by
  fun_induction hyphens flags before text with
  | case1 => cases h
  | case2 => cases h
  | case3 _ c tail _ _ _ hskip ih =>
    have := ih h
    simp only [List.length_cons]
    omega
  | case4 => cases h; simp

theorem length_leading_le {flags : Flags} {before bracket : Bracket} {text rest : List Char}
    (h : leading flags before text = some (bracket, rest)) : rest.length ≤ text.length := by
  unfold leading at h
  split at h
  · cases h
  · split at h
    · obtain ⟨_, _, h⟩ := Option.map_eq_some_iff.1 h
      cases h
      simp
    · cases h
      simp

theorem length_start_le {flags : Flags} {bracket : Bracket} {text rest : List Char}
    (h : start flags text = some (bracket, rest)) : rest.length ≤ text.length := by
  unfold start at h
  have hskip := flags.length_skip_le text
  split at h
  next negated after heq =>
    have hafter : after.length ≤ text.length := by
      split at heq
      · next tail htail =>
        obtain ⟨_, rfl⟩ := Prod.mk.inj heq
        have := flags.length_skip_le tail
        rw [htail, List.length_cons] at hskip
        omega
      · obtain ⟨_, rfl⟩ := Prod.mk.inj heq
        exact hskip
    split at h
    · cases h
    · next hhyphens =>
      have := length_hyphens_le hhyphens
      have := length_leading_le h
      omega

theorem length_name?_lt {text rest : List Char} {negated : Bool} {set : CharSet}
    (h : name? text = some (negated, set, rest)) : rest.length < text.length := by
  unfold name? at h
  split at h
  · next tail =>
    split at h
    next caret after heq =>
    have hafter : after.length ≤ tail.length := by
      split at heq <;> (obtain ⟨_, rfl⟩ := Prod.mk.inj heq; simp)
    split at h
    · next hdrop =>
      obtain ⟨_, _, h⟩ := Option.map_eq_some_iff.1 h
      cases h
      have := (List.dropWhile_sublist (· != ':') (l := after)).length_le
      rw [hdrop] at this
      simp only [List.length_cons] at this ⊢
      omega
    · cases h
  · cases h

theorem length_element_lt {flags : Flags} {escape : Escape} {text rest : List Char}
    (h : element flags text = some (escape, rest)) : rest.length < text.length := by
  unfold element at h
  split at h
  · cases h
  · split at h
    · have := Escape.length_read_lt h
      simp only [List.length_cons]
      omega
    · cases h
      simp

theorem length_part_lt {flags : Flags} {member : Nested CharSet} {text rest : List Char}
    (h : part flags text = some (member, rest)) : rest.length < text.length := by
  unfold part at h
  split at h
  · cases h
  · next first tail hfirst =>
    have hfirst := length_element_lt hfirst
    have hskip := flags.length_skip_le tail
    split at h
    · next after heq =>
      rw [heq, List.length_cons] at hskip
      split at h
      · obtain ⟨_, _, h⟩ := Option.map_eq_some_iff.1 h
        cases h
        simp only [List.length_cons]
        omega
      · split at h
        · cases h
        · next hlast =>
          obtain ⟨_, _, h⟩ := Option.map_eq_some_iff.1 h
          cases h
          have := length_element_lt hlast
          have := flags.length_skip_le after
          omega
    · obtain ⟨_, _, h⟩ := Option.map_eq_some_iff.1 h
      cases h
      omega

/-- Reads on to the end of the outermost of the brackets around, the innermost first. -/
def readInside (flags : Flags) (around : List Bracket) (bracket : Bracket) (text : List Char) :
    Option (Nested CharSet × List Char) :=
  match h : flags.skip text with
  | [] => none
  | c :: rest =>
    have := h ▸ flags.length_skip_le text
    if c == ']' then
      match bracket.close flags, around with
      | none, _ => none
      | some set, [] => some (set, rest)
      | some set, outer :: around => readInside flags around (outer.push set) rest
    else if c == '[' then
      match hname : name? rest with
      | some (negated, set, after) =>
        have := length_name?_lt hname
        match ofName? flags negated set with
        | none => none
        | some member => readInside flags around (bracket.push member) after
      | none =>
        match hstart : start flags rest with
        | none => none
        | some (inner, after) =>
          have := length_start_le hstart
          readInside flags (bracket :: around) inner after
    else
      match operation? c rest with
      | some operation =>
        have := List.length_drop (i := 1) (l := rest)
        readInside flags around (bracket.operate operation) (rest.drop 1)
      | none =>
        match hpart : part flags (c :: rest) with
        | none => none
        | some (member, after) =>
          have := length_part_lt hpart
          readInside flags around (bracket.push member) after
termination_by text.length
decreasing_by all_goals (simp only [List.length_cons] at *; omega)

def read (flags : Flags) (text : List Char) : Option (Nested CharSet × List Char) :=
  match start flags text with
  | none => none
  | some (bracket, rest) => readInside flags [] bracket rest

theorem length_readInside_lt (flags : Flags) (around : List Bracket) (bracket : Bracket)
    (text : List Char) {set : Nested CharSet} {rest : List Char}
    (h : readInside flags around bracket text = some (set, rest)) :
    rest.length < text.length := by
  fun_induction readInside flags around bracket text <;> grind

theorem length_read_lt {flags : Flags} {set : Nested CharSet} {text rest : List Char}
    (h : read flags text = some (set, rest)) : rest.length < text.length := by
  unfold read at h
  split at h
  · cases h
  · next hstart =>
    have := length_start_le hstart
    have := length_readInside_lt _ _ _ _ h
    omega

end Bracket

end PidOne.Pattern
