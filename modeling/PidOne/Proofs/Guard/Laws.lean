import PidOne.PidFd

/-!
# What a guard's operations come to

A guard either has its descriptor or is empty, and that decides every operation. An empty guard asks
nothing of its surroundings, whatever is done with it. A guard with its descriptor makes one attempt
to close it, `shut`, or hands it out; the attempt is the same whether it is made by releasing,
closing or dropping, and these differ only in what they do with the answer.

The equations hold in all surroundings in which numbers are closed, so they serve a scripted kernel
as well as the real one.
-/

namespace PidOne.Guard

variable {m : Type → Type} [Closes m] {guard : Guard} {owned : Owned}

/-- The one attempt a guard makes to close a number. -/
def shut (guard : Guard) (fd : Nat) : m (Except GuardError Unit) := do
  match ← Closes.close fd with
  | .error errno => return .error (.close errno)
  | .ok () =>
    Closes.event guard.closed
    return .ok ()

@[simp]
theorem held_emptied (guard : Guard) : guard.emptied.held = none := rfl

@[simp]
theorem number_emptied (guard : Guard) : guard.emptied.number = guard.number := rfl

theorem isActive_of_held (h : guard.held = some owned) : guard.isActive = true := by
  simp [isActive, h]

theorem isActive_of_empty (h : guard.held = none) : guard.isActive = false := by
  simp [isActive, h]

theorem borrow?_of_held (h : guard.held = some owned) : guard.borrow? = some owned.number := by
  simp [borrow?, h]

theorem borrow?_of_empty (h : guard.held = none) : guard.borrow? = none := by
  simp [borrow?, h]

/-! ## An empty guard -/

theorem release_of_empty (h : guard.held = none) :
    (guard.release : m _) = pure (.error .alreadyReleased, guard) := by
  simp [release, h]

theorem drop_of_empty (h : guard.held = none) : (guard.drop : m Unit) = pure () := by
  simp [drop, isActive_of_empty h]

variable [LawfulMonad m]

theorem close_of_empty (h : guard.held = none) :
    (guard.close : m _) = pure (.error .alreadyReleased) := by
  simp [close, release_of_empty h, drop_of_empty h]

theorem handOut_of_empty (h : guard.held = none) :
    (guard.handOut : m _) = pure (.error .alreadyReleased) := by
  simp [handOut, h, drop_of_empty (held_emptied guard)]

/-! ## A guard with its descriptor -/

theorem release_of_held (h : guard.held = some owned) :
    (guard.release : m _) = do return (← guard.shut owned.number, guard.emptied) := by
  simp only [release, h, shut, bind_assoc]
  refine bind_congr fun answer => ?_
  rcases answer with errno | ⟨⟩ <;> simp

/-- Only dropping keeps the error to itself, and then tells the trace. -/
theorem drop_of_held (h : guard.held = some owned) :
    (guard.drop : m Unit) = do
      match ← guard.shut owned.number with
      | .error error => Closes.event (guard.emptied.closeFailed error)
      | .ok () => return () := by
  simp only [drop, isActive_of_held h, release_of_held h, bind_assoc, pure_bind, if_true]
  refine bind_congr fun answer => ?_
  rcases answer with error | ⟨⟩ <;> rfl

/-- The guard is empty when it goes away after closing, so nothing is closed twice. -/
theorem close_of_held (h : guard.held = some owned) :
    (guard.close : m _) = guard.shut owned.number := by
  simp [close, release_of_held h, drop_of_empty (held_emptied guard)]

theorem handOut_of_held (h : guard.held = some owned) :
    (guard.handOut : m _) = pure (.ok owned) := by
  simp [handOut, h, drop_of_empty (held_emptied guard)]

end PidOne.Guard
