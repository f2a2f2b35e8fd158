import PidOne.Pattern.Shape

/-!
# Running patterns

A shape becomes a program of numbered instructions, of which each either takes a character or leads
on without one. All ways through the program are followed at once; the instructions reached at a
place stand in the order of preference, each one once, where it was reached first. A way that has
come to the end shuts out all less preferred ones. New ways begin at every place, less preferred
than all older ones, until one that is preferred to them has come to the end.

So `Program.accepts` holds when the preferred one of all matches in a text, the one that begins
first, reaches to the end of the text.
-/

namespace PidOne.Pattern

inductive Instruction where
  | accept
  | take (set : CharSet) (next : Nat)
  | look (look : Look) (next : Nat)
  /-- Leads to two instructions, the preferred one first. -/
  | split (first second : Nat)
  deriving DecidableEq, Repr

structure Program where
  code : Array Instruction
  start : Nat
  deriving DecidableEq, Repr

namespace Program

/-! ## Writing programs -/

/-- A split that prefers the body if the repetition is greedy. -/
def choice (greedy : Bool) (body next : Nat) : Instruction :=
  if greedy then .split body next else .split next body

/-- Adds a shape in front of the instruction `next`; gives where it begins. A body that may take
nothing is repeated any number of times by repeating it at least once, or not at all: going through
it without a character must lead on, not back. -/
def add (next : Nat) (code : Array Instruction) : Shape → Nat × Array Instruction
  | .empty => (next, code)
  | .literal text =>
    text.foldr (fun c (next, code) => (code.size, code.push (.take (.singleton c) next)))
      (next, code)
  | .chars set => (code.size, code.push (.take set next))
  | .look look => (code.size, code.push (.look look next))
  | .seq first rest =>
    let (rest, code) := add next code rest
    add rest code first
  | .alt first rest =>
    let (first, code) := add next code first
    let (rest, code) := add next code rest
    (code.size, code.push (.split first rest))
  | .group _ body => add next code body
  | .repetition .optional greedy body =>
    let (body, code) := add next code body
    (code.size, code.push (choice greedy body next))
  | .repetition how greedy shape =>
    let again := code.size
    let (body, code) := add again (code.push .accept) shape
    let code := code.setIfInBounds again (choice greedy body next)
    if how = .plus then (body, code)
    else if shape.consumes then (again, code)
    else (code.size, code.push (choice greedy body next))

def ofShape (shape : Shape) : Program :=
  let (start, code) := add 0 #[.accept] shape
  ⟨code, start⟩

/-! ## Following programs -/

/-- Follows instructions that take no character, in order, after those found already, the last one
first; `fresh` marks those that have not been found. -/
def follow (code : Array Instruction) (place : Place) (fresh : Array Bool)
    (found todo : List Nat) : List Nat :=
  match todo with
  | [] => found.reverse
  | i :: rest =>
    if h : fresh[i]? = some true then
      have hsize := (Array.getElem?_eq_some_iff.1 h).1
      have hfresh := (Array.getElem?_eq_some_iff.1 h).2
      have hpos : 0 < fresh.count true := Array.count_pos_iff.2 (hfresh ▸ Array.getElem_mem hsize)
      have hcount : (fresh.set i false hsize).count true < fresh.count true := by
        rw [Array.count_set, hfresh, if_pos (by decide), if_neg (by decide)]
        omega
      match code[i]? with
      | none | some .accept | some (.take _ _) =>
        follow code place (fresh.set i false hsize) (i :: found) rest
      | some (.look look next) =>
        follow code place (fresh.set i false hsize) (i :: found)
          (if look.holds place then next :: rest else rest)
      | some (.split first second) =>
        follow code place (fresh.set i false hsize) (i :: found) (first :: second :: rest)
    else follow code place fresh found rest
termination_by (fresh.count true, todo.length)
decreasing_by all_goals (simp_wf; omega)

/-- The instructions reached at a place from some, in the order of preference. -/
def reach (program : Program) (place : Place) (todo : List Nat) : List Nat :=
  follow program.code place (Array.replicate program.code.size true) [] todo

structure Run where
  /-- The instructions reached, the preferred ones first. -/
  reached : List Nat
  searching : Bool
  deriving DecidableEq, Repr

/-- Whether the instruction is the end of the program. -/
def isEnd (program : Program) (i : Nat) : Bool := program.code[i]? == some .accept

def Run.ends (run : Run) (program : Program) : Bool := run.reached.any program.isEnd

/-- The run at the start of a text. -/
def begin (program : Program) (after : Option Char) : Run :=
  ⟨program.reach ⟨none, after⟩ [program.start], true⟩

/-- Whether a match may begin and end between the bytes of a character beyond ASCII. -/
def endsInside (program : Program) (c : Char) : Bool :=
  0x80 ≤ c.toNat && (program.reach ⟨some c, some c⟩ [program.start]).any program.isEnd

def step (program : Program) (run : Run) (c : Char) (after : Option Char) : Run :=
  let preferred := run.reached.takeWhile fun i => !program.isEnd i
  let taken := preferred.filterMap fun i =>
    match program.code[i]? with
    | some (Instruction.take set next) => if set.contains c then some next else none
    | _ => none
  let searching := run.searching && !run.ends program && !program.endsInside c
  let todo := if searching then taken ++ [program.start] else taken
  ⟨program.reach ⟨some c, after⟩ todo, searching⟩

/-- The run after the characters of a text. -/
def finish (program : Program) (run : Run) : List Char → Run
  | [] => run
  | c :: rest => finish program (program.step run c rest.head?) rest

/-- Whether the preferred match in the text reaches to its end. -/
def accepts (program : Program) (text : List Char) : Bool :=
  (finish program (program.begin text.head?) text).ends program

end Program

end PidOne.Pattern
