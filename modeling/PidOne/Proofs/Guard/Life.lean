import PidOne.Proofs.Guard.Laws

/-!
# The life of a guard

A guard's owner uses it any number of times and then uses it up. `live` makes all those calls and
keeps what came of them. The surroundings are a `Script`: it gives every close the answer that was
fixed for it beforehand, success or any error number, and remembers what it was asked. As the
answers are arbitrary, a script stands for every kernel there may be.
-/

namespace PidOne

/-- Surroundings that answer each close as fixed beforehand and remember what they were asked. -/
structure Script where
  /-- The error number that each close leaves behind, by its place; none if it succeeds. -/
  answers : Nat → Option Int
  closes : List Nat
  events : List Event

abbrev Scripted := StateM Script

namespace Script

/-- The answer that the next close will have. -/
def answer (script : Script) : Except Errno Unit :=
  match script.answers script.closes.length with
  | none => .ok ()
  | some number => .error (Errno.ofNumber number)

end Script

instance : Closes Scripted where
  close fd script := (script.answer, { script with closes := script.closes ++ [fd] })
  event event script := ((), { script with events := script.events ++ [event] })

namespace Guard

/-- A call that leaves the guard with its owner. -/
inductive Use where
  | release
  | tellUse (operation : String)
  /-- Any question about the guard: what it answers is read off the guard alone. -/
  | observe
  deriving DecidableEq, Repr

/-- The call that uses the guard up. -/
inductive Ending where
  | close
  | handOut
  | drop
  deriving DecidableEq, Repr

structure Life where
  /-- The guard before each call, the one that uses it up included. -/
  guards : List Guard
  /-- What each attempt to give the descriptor up was answered: releasing, closing, handing out. -/
  attempts : List (Except GuardError Unit)
  /-- The descriptors the owner was given back. -/
  handedOut : List Owned

variable {m : Type → Type} [Closes m]

def live (guard : Guard) : List Use → Ending → m Life
  | [], .close => do return ⟨[guard], [← guard.close], []⟩
  | [], .handOut => do
    match ← guard.handOut with
    | .ok owned => return ⟨[guard], [.ok ()], [owned]⟩
    | .error error => return ⟨[guard], [.error error], []⟩
  | [], .drop => do
    guard.drop
    return ⟨[guard], [], []⟩
  | .release :: uses, ending => do
    let (result, left) ← guard.release
    let life ← left.live uses ending
    return { life with guards := guard :: life.guards, attempts := result :: life.attempts }
  | .tellUse operation :: uses, ending => do
    guard.tellUse operation
    let life ← guard.live uses ending
    return { life with guards := guard :: life.guards }
  | .observe :: uses, ending => do
    let life ← guard.live uses ending
    return { life with guards := guard :: life.guards }

/-- A guard's whole life, from taking the descriptor on. -/
def wholeLife (owned : Owned) (subject : GuardSubject) (events : EventNames) (uses : List Use)
    (ending : Ending) : m Life := do
  (← Guard.new owned subject events).live uses ending

end Guard

end PidOne
