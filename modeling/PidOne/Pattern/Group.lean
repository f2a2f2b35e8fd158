import PidOne.Text.Alphanumeric
import PidOne.Pattern.Bracket

/-!
# Groups in patterns

A group stands between parentheses. It may begin with flags, which hold inside it, or with a name,
which no other group may have. Flags alone between parentheses hold up to the end of the group
around them, through all its branches.

A group is read from left to right: what has been read is its branches, and the items of the last
branch.
-/

namespace PidOne.Pattern

inductive GroupStart where
  /-- A group that only holds together what is in it. -/
  | plain (flags : Flags)
  /-- A group that has a number and may have a name. -/
  | numbered (name : Option String)
  | flags (flags : Flags)
  deriving DecidableEq, Repr

namespace GroupStart

/-- Whether a text may be the name of a group. -/
def isName : List Char → Bool
  | [] => false
  | c :: rest =>
    (c == '_' || Text.isAlphabetic c) &&
      rest.all fun c => c == '_' || c == '.' || c == '[' || c == ']' || Text.isAlphanumeric c

/-- Reads a name up to an angle bracket. -/
def readName (text : List Char) : Option (String × List Char) :=
  let name := text.takeWhile (· != '>')
  match text.dropWhile (· != '>') with
  | [] => none
  | _ :: rest => if isName name then some (String.ofList name, rest) else none

/-- Reads flags and what follows them: a colon before what is in the group, or the end of it. -/
def readFlags (flags : Flags) (text : List Char) : Option (GroupStart × List Char) :=
  match flags.read [] text with
  | some (set, ':' :: rest) => some (.plain set, rest)
  | some (set, ')' :: rest) => if text.head? == some ')' then none else some (.flags set, rest)
  | _ => none

def read (flags : Flags) (text : List Char) : Option (GroupStart × List Char) :=
  match flags.skip text with
  | '?' :: 'P' :: '<' :: rest | '?' :: '<' :: rest =>
    (readName rest).map fun (name, rest) => (.numbered (some name), rest)
  | '?' :: rest => readFlags flags rest
  | rest => some (.numbered none, rest)

theorem length_readName_le {name : String} {text rest : List Char}
    (h : readName text = some (name, rest)) : rest.length ≤ text.length := by
  have hdrop := (List.dropWhile_sublist (· != '>') (l := text)).length_le
  simp only [readName] at h
  split at h
  · cases h
  · next heq =>
    rw [heq, List.length_cons] at hdrop
    split at h
    · cases h
      omega
    · cases h

theorem length_readFlags_le {flags : Flags} {start : GroupStart} {text rest : List Char}
    (h : readFlags flags text = some (start, rest)) : rest.length ≤ text.length := by
  unfold readFlags at h
  split at h
  · next hread =>
    have := Flags.length_read_le hread
    cases h
    simp only [List.length_cons] at this
    omega
  · next hread =>
    have := Flags.length_read_le hread
    split at h
    · cases h
    · cases h
      simp only [List.length_cons] at this
      omega
  · cases h

theorem length_read_le {flags : Flags} {start : GroupStart} {text rest : List Char}
    (h : read flags text = some (start, rest)) : rest.length ≤ text.length := by
  have hskip := flags.length_skip_le text
  unfold read at h
  generalize flags.skip text = skipped at h hskip
  split at h
  · obtain ⟨_, hname, h⟩ := Option.map_eq_some_iff.1 h
    have := length_readName_le hname
    cases h
    simp only [List.length_cons] at hskip
    omega
  · obtain ⟨_, hname, h⟩ := Option.map_eq_some_iff.1 h
    have := length_readName_le hname
    cases h
    simp only [List.length_cons] at hskip
    omega
  · have := length_readFlags_le h
    simp only [List.length_cons] at hskip
    omega
  · cases h
    exact hskip

end GroupStart

inductive Item where
  | part (shape : Nested Shape)
  /-- Flags alone; there is nothing to be repeated. -/
  | flags
  deriving DecidableEq, Repr

namespace Item

def nested : Item → Nested Shape
  | part shape => shape
  | flags => ⟨.empty, 0⟩

end Item

structure Group where
  /-- The branches before the last, the last of them first. -/
  branches : List (Nested Shape)
  /-- The items of the last branch, the last one first. -/
  items : List Item
  deriving DecidableEq, Repr

namespace Group

def empty : Group := ⟨[], []⟩

def push (group : Group) (item : Item) : Group := { group with items := item :: group.items }

def lastBranch (group : Group) : Nested Shape :=
  match group.items.map Item.nested with
  | [] => ⟨.empty, 0⟩
  | [item] => item
  | last :: before =>
    ⟨.concat ((last :: before).reverse.map Nested.value), Nested.deepest (last :: before) + 1⟩

def content (group : Group) : Nested Shape :=
  match group.branches with
  | [] => group.lastBranch
  | branches =>
    let branches := group.lastBranch :: branches
    ⟨.alternation (branches.reverse.map Nested.value), Nested.deepest branches + 1⟩

def branch (group : Group) : Group := ⟨group.lastBranch :: group.branches, []⟩

/-- Repeats the last item, if it can be repeated. -/
def repeatLast? (group : Group) (repeated : Shape → Shape) : Option Group :=
  match group.items with
  | .part shape :: before =>
    some { group with items := .part ⟨repeated shape.value, shape.depth + 1⟩ :: before }
  | _ => none

end Group

end PidOne.Pattern
