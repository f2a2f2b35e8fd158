import PidOne.Proofs.Acting
import PidOne.Proofs.Guard.Laws
import PidOne.Proofs.Table

/-!
# Guards on a host

What a guard's operations come to where the kernel is the real one. Its answer to a close is decided
by whether the number is open, and `Host.Closed` says the rest: one request for the number that was
held and none otherwise, after which that number is free. It holds for every way in which a guard is
let go, whether the close succeeds or not.
-/

namespace PidOne

/-! ## What guards tell in a trace -/

namespace Trace

/-- What guards have told in a trace. -/
def ofGuards (trace : Trace) : List Event :=
  trace.events.filter fun event => event.target = Guard.target

variable (trace more : Trace) (event : Event) (span : Span)

@[simp]
theorem ofGuards_nil : ofGuards [] = [] := by simp [ofGuards, events]

@[simp]
theorem ofGuards_enter : ofGuards (.enter span :: trace) = trace.ofGuards := by
  simp [ofGuards, events]

@[simp]
theorem ofGuards_leave : ofGuards (.leave span :: trace) = trace.ofGuards := by
  simp [ofGuards, events]

@[simp]
theorem ofGuards_event :
    ofGuards (.event event :: trace)
      = if event.target = Guard.target then event :: trace.ofGuards else trace.ofGuards := by
  have hevents : events (.event event :: trace) = event :: trace.events := rfl
  rw [ofGuards, hevents, List.filter_cons]
  simp [ofGuards]

@[simp]
theorem ofGuards_append : ofGuards (trace ++ more) = trace.ofGuards ++ more.ofGuards := by
  simp [ofGuards, events]

end Trace

section

variable (guard : Guard) (operation : String)

@[simp]
theorem Guard.target_acquired : guard.acquired.target = Guard.target := rfl

@[simp]
theorem Guard.target_used : (guard.used operation).target = Guard.target := rfl

@[simp]
theorem Call.target_rejected_ne (call : Syscall) (error : SyscallError) :
    (Call.rejected call error).target ≠ Guard.target := by
  change Call.target ≠ Guard.target
  decide

@[simp]
theorem Call.target_rootSwitched_ne : rootSwitched.target ≠ Guard.target := by decide

end

/-! ## What closing comes to -/

/-- The host after an object has been let go that held a number, or held none any more. -/
structure Host.Closed (host : Host) (held? : Option Nat) (after : Host) : Prop where
  kernel : after.kernel = held?.elim host.kernel host.kernel.without
  requests : after.requests = host.requests ++ held?.toList.map fun fd : Nat => .close fd

namespace Host.Closed

variable {host : Host} {fd : Nat}

theorem empty (host : Host) : host.Closed none host where
  kernel := rfl
  requests := by simp

theorem granted (host : Host) (fd : Nat) (told : Trace) :
    host.Closed (some fd) (host.granted (.close fd) (host.kernel.without fd) told) where
  kernel := rfl
  requests := rfl

theorem rejected (h : host.kernel.isOpen fd = false) (told : Trace) :
    host.Closed (some fd) (host.rejected (.close fd) Errno.ebadf.code told) where
  kernel := (Kernel.without_of_free h).symm
  requests := rfl

end Host.Closed

section

variable {host : Host}

theorem Host.answer_close_open {fd : Nat} (h : host.kernel.isOpen fd = true) :
    host.answer (.close fd) = .ok (0, host.kernel.without fd) :=
  answer_of_ok rfl (Kernel.serve_close_open h)

theorem Host.answer_close_free {fd : Int} (h : host.kernel.isOpen fd = false) :
    host.answer (.close fd) = .error Errno.ebadf.code :=
  answer_of_error rfl (Kernel.serve_close_free h)

end

theorem Host.Asked.closing {host after : Host} {fd : Nat} {told : Trace}
    {result : Except Errno Nat} (h : host.Asked (.close fd) told result after) :
    host.Closed (some fd) after := by
  cases hopen : host.kernel.isOpen fd with
  | false =>
      have hanswer := Host.answer_close_free hopen
      cases h with
      | granted h => rw [hanswer] at h; cases h
      | rejected h => rw [hanswer] at h; cases h; exact .rejected hopen told
  | true =>
      have hanswer := Host.answer_close_open hopen
      cases h with
      | granted h => rw [hanswer] at h; cases h; exact .granted host fd told
      | rejected h => rw [hanswer] at h; cases h

section

variable {host : Host} {fd : Nat}

theorem Unchecked.run_close_open (h : host.kernel.isOpen fd = true) :
    (Unchecked.close fd).run host
      = (0, host.granted (.close fd) (host.kernel.without fd) []) :=
  Act.run_request_granted (Host.answer_close_open h)

theorem Unchecked.run_close_free {fd : Int} (h : host.kernel.isOpen fd = false) :
    (Unchecked.close fd).run host = (-1, host.rejected (.close fd) Errno.ebadf.code []) :=
  Act.run_request_rejected (Host.answer_close_free h)

theorem Act.run_close_open (h : host.kernel.isOpen fd = true) :
    (Closes.close fd : Act _).run host
      = (.ok (), host.granted (.close fd) (host.kernel.without fd) []) := by
  refine (run_bind (Unchecked.run_close_open h)).trans ?_
  rw [if_pos (by decide)]
  rfl

theorem Act.run_close_free (h : host.kernel.isOpen fd = false) :
    (Closes.close fd : Act _).run host
      = (.error .ebadf, host.rejected (.close fd) Errno.ebadf.code []) := by
  refine (run_bind (Unchecked.run_close_free h)).trans ?_
  -- the error number is the one that this close has left behind
  have herrno : Act.lastErrno.run (host.rejected (.close fd) Errno.ebadf.code [])
      = ((Errno.ebadf.code : Int), host.rejected (.close fd) Errno.ebadf.code []) := rfl
  rw [if_neg (by decide), run_bind herrno, Errno.ofNumber_code]
  rfl

end

namespace Guard

/-- How a guard gives its descriptor up. Where it can tell nobody that the close has failed, it
tells the trace. -/
inductive Parts (guard : Guard) (silent : Bool) (host : Host) :
    Except GuardError Unit → Host → Prop where
  | empty (h : guard.held = none) : Parts guard silent host (.error .alreadyReleased) host
  | closed {owned : Owned} (h : guard.held = some owned)
      (hopen : host.kernel.isOpen owned.number = true) :
      Parts guard silent host (.ok ())
        (host.granted (.close owned.number) (host.kernel.without owned.number)
          [.event guard.closed])
  | failed {owned : Owned} (h : guard.held = some owned)
      (hfree : host.kernel.isOpen owned.number = false) :
      Parts guard silent host (.error (.close .ebadf))
        (host.rejected (.close owned.number) Errno.ebadf.code
          (if silent then [.event (guard.closeFailed (.close .ebadf))] else []))

variable {host : Host} {fd : Nat}

theorem run_shut_open (guard : Guard) (h : host.kernel.isOpen fd = true) :
    (guard.shut fd : Act _).run host
      = (.ok (), host.granted (.close fd) (host.kernel.without fd) [.event guard.closed]) := by
  rw [shut, run_bind (Act.run_close_open h)]
  exact (run_bind (Act.run_event _ _)).trans (by rw [Host.telling_granted]; rfl)

theorem run_shut_free (guard : Guard) (h : host.kernel.isOpen fd = false) :
    (guard.shut fd : Act _).run host
      = (.error (.close .ebadf), host.rejected (.close fd) Errno.ebadf.code []) := by
  rw [shut, run_bind (Act.run_close_free h)]
  rfl

theorem parts_close (guard : Guard) (host : Host) :
    ∃ result after, (guard.close : Act _).run host = (result, after)
      ∧ guard.Parts false host result after := by
  cases hheld : guard.held with
  | none =>
      rw [close_of_empty hheld]
      exact ⟨_, _, rfl, .empty hheld⟩
  | some owned =>
      rw [close_of_held hheld]
      cases hopen : host.kernel.isOpen owned.number with
      | false => exact ⟨_, _, run_shut_free guard hopen, .failed hheld hopen⟩
      | true => exact ⟨_, _, run_shut_open guard hopen, .closed hheld hopen⟩

/-- Releasing is closing, but for the empty guard that is left. -/
theorem parts_release (guard : Guard) (host : Host) :
    ∃ result after, (guard.release : Act _).run host = ((result, guard.emptied), after)
      ∧ guard.Parts false host result after := by
  cases hheld : guard.held with
  | none =>
      have hemptied : guard.emptied = guard := by rw [emptied, ← hheld]
      rw [release_of_empty hheld, hemptied]
      exact ⟨_, _, rfl, .empty hheld⟩
  | some owned =>
      obtain ⟨result, after, hclose, hparts⟩ := guard.parts_close host
      rw [close_of_held hheld] at hclose
      rw [release_of_held hheld]
      exact ⟨result, after, run_bind hclose, hparts⟩

theorem parts_drop (guard : Guard) (host : Host) :
    ∃ result after, (guard.drop : Act Unit).run host = ((), after)
      ∧ guard.Parts true host result after := by
  cases hheld : guard.held with
  | none =>
      rw [drop_of_empty hheld]
      exact ⟨_, _, rfl, .empty hheld⟩
  | some owned =>
      rw [drop_of_held hheld]
      cases hopen : host.kernel.isOpen owned.number with
      | false =>
          refine ⟨.error (.close .ebadf), _,
            (run_bind (run_shut_free guard hopen)).trans (Act.run_event _ _), ?_⟩
          rw [Host.telling_rejected]
          exact .failed hheld hopen
      | true => exact ⟨_, _, run_bind (run_shut_open guard hopen), .closed hheld hopen⟩

theorem Parts.closing {guard : Guard} {silent : Bool} {result : Except GuardError Unit}
    {after : Host} (h : guard.Parts silent host result after) :
    host.Closed guard.borrow? after := by
  cases h with
  | empty h =>
      rw [borrow?_of_empty h]
      exact .empty host
  | closed h _ =>
      rw [borrow?_of_held h]
      exact .granted _ _ _
  | failed h hfree =>
      rw [borrow?_of_held h]
      exact .rejected hfree _

theorem Parts.of_alreadyReleased {guard : Guard} {silent : Bool} {after : Host}
    (h : guard.Parts silent host (.error .alreadyReleased) after) :
    guard.held = none ∧ after = host := by
  cases h with
  | empty hempty => exact ⟨hempty, rfl⟩

/-- A guard that is let go makes a request to close its number, or does nothing at all. -/
theorem Parts.asked {guard : Guard} {silent : Bool} {after : Host}
    {result : Except GuardError Unit} (h : guard.Parts silent host result after) :
    after = host ∨ ∃ fd told answer, host.Asked (.close fd) told answer after := by
  cases h with
  | empty => exact .inl rfl
  | closed _ hopen => exact .inr ⟨_, _, _, .granted (Host.answer_close_open hopen)⟩
  | failed _ hfree => exact .inr ⟨_, _, _, .rejected (Host.answer_close_free hfree)⟩

/-- Handing out asks nothing of the kernel. -/
theorem run_handOut (guard : Guard) (host : Host) :
    (guard.handOut : Act _).run host
      = (guard.held.elim (.error .alreadyReleased) .ok, host) := by
  cases hheld : guard.held with
  | none => rw [handOut_of_empty hheld]; rfl
  | some owned => rw [handOut_of_held hheld]; rfl

end Guard

end PidOne
