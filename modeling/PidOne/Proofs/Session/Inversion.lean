import Mathlib.Data.Option.Basic
import PidOne.Proofs.Session.Deed

/-!
# Every step is a deed

The inversion of `perform`, one case for each kind of step. A step that was understood has found its
names and its objects; what it did then with the host is known from the lemmas about calls and
guards.
-/

namespace PidOne

/-- An object without a guard closes its number and says nothing. -/
theorem Holder.asked_drop {holder : Holder} {owned : Owned} (h : holder.plain? = some owned)
    (host : Host) :
    ∃ result after, holder.drop.run host = ((), after)
      ∧ host.Asked (.close owned.number) [] result after := by
  cases holder with
  | bare fd =>
      cases h
      cases hopen : host.kernel.isOpen fd with
      | false =>
          exact ⟨_, _, run_bind (Unchecked.run_close_free hopen),
            .rejected (Host.answer_close_free hopen)⟩
      | true =>
          exact ⟨_, _, run_bind (Unchecked.run_close_open hopen),
            .granted (Host.answer_close_open hopen)⟩
  | owned kept =>
      obtain rfl : kept = owned := Option.some.inj h
      cases hopen : host.kernel.isOpen kept.number with
      | false =>
          exact ⟨_, _, run_bind (Act.run_close_free hopen),
            .rejected (Host.answer_close_free hopen)⟩
      | true =>
          exact ⟨_, _, run_bind (Act.run_close_open hopen),
            .granted (Host.answer_close_open hopen)⟩
  | guard kept => cases h
  | pidfd kept => cases h
  | remote kept => cases h

/-! ## Calls that make an object -/

section

variable {α : Type}

/-- What a call comes to that makes an object around the number its request returns. -/
inductive Call.Makes (holder : α → Holder) (host : Host) (request : Request) (use : List Event) :
    Except SyscallError α × Host → Prop where
  | rejected {call : Syscall} {number : Int} {told : Trace}
      (h : host.answer request = .error number) (htold : told.ofGuards = use) :
      Makes holder host request use
        (.error (.ofErrno call number), host.rejected request number told)
  | made {value : α} {returned : Nat} {kernel : Kernel} {told : Trace}
      (h : host.answer request = .ok (returned, kernel))
      (hheld : (holder value).held? = some returned) (hwhole : (holder value).Whole)
      (htold : told.ofGuards = use ++ (holder value).guard?.toList.map Guard.acquired) :
      Makes holder host request use (.ok value, host.granted request kernel told)

theorem PidFd.makes_openPid (pid : Pid) (flags : PidFdFlags) (host : Host) :
    Call.Makes .pidfd host (.pidfdOpen pid flags.bits) [] ((openPid pid flags).run.run host) := by
  cases h : host.answer (.pidfdOpen pid flags.bits) with
  | error number =>
      rw [run_openPid_rejected h]
      exact .rejected h (by simp [Call.toldRejected])
  | ok granted =>
      rw [run_openPid_granted h]
      exact .made h rfl rfl (by simp [Holder.guard?])

theorem Call.makes_copyFd (pidfd target : Int) (flags : UInt32) (host : Host) :
    Makes .owned host (.pidfdGetfd pidfd target flags) []
      ((copyFd pidfd target flags).run.run host) := by
  cases h : host.answer (.pidfdGetfd pidfd target flags) with
  | error number =>
      rw [run_copyFd_rejected h]
      exact .rejected h (by simp [toldRejected])
  | ok granted =>
      rw [run_copyFd_granted h]
      exact .made h rfl trivial (by simp [Holder.guard?])

theorem PidFd.makes_copyFd (pidfd : PidFd) (target : Int) (host : Host) :
    Call.Makes .remote host (.pidfdGetfd pidfd.fd target 0) [pidfd.guard.used "pidfd_getfd"]
      ((pidfd.copyFd target).run.run host) := by
  cases h : host.answer (.pidfdGetfd pidfd.fd target 0) with
  | error number =>
      rw [run_copyFd_rejected h]
      exact .rejected h (by simp [Call.toldRejected])
  | ok granted =>
      rw [run_copyFd_granted h]
      exact .made h rfl rfl (by simp [Holder.guard?])

end

namespace Session

variable {before after : Session} {step : Step} {outcome : Outcome} {request : Request}
  {name : String} {α : Type}

/-! ## What is done with the host -/

theorem act_eq {session : Session} {act : Act α} {answer : α} {host : Host}
    (h : act.run session.host = (answer, host)) :
    session.act act = (answer, { session with host }) := by
  rw [Session.act, h]

theorem lookup_of_isFree (h : before.isFree name = true) : before.numbers.lookup name = none := by
  rw [isFree, Bool.and_eq_true, Bool.and_eq_true, Option.isNone_iff_eq_none] at h
  exact h.1.2

theorem writerName_ne_readerName (name : String) : writerName name ≠ readerName name := by
  intro h
  have hdata := congrArg String.toList h
  simp [writerName, readerName] at hdata

theorem uncheckedCall_eq (session : Session) (request : Request) :
    ∃ result host, session.uncheckedCall (Act.request request)
        = (.returning result, { session with host })
      ∧ session.host.Asked request [] result host := by
  cases h : session.host.answer request with
  | error number =>
      refine ⟨_, _, ?_, .rejected h⟩
      rw [uncheckedCall, act_eq (Act.run_request_rejected h)]
      simp [Outcome.returning]
  | ok granted =>
      obtain ⟨returned, kernel⟩ := granted
      have hne : (returned : Int) ≠ -1 := by omega
      refine ⟨_, _, ?_, .granted h⟩
      rw [uncheckedCall, act_eq (Act.run_request_granted h)]
      simp [hne, Outcome.returning]

theorem deed_uncheckedCall (hputs : before.Puts step request)
    (huse : before.use? step = none) (hmakes : step.makes? = none)
    (h : before.uncheckedCall (Act.request request) = (outcome, after)) :
    Deed before step outcome after := by
  obtain ⟨result, host, hcall, hasked⟩ := before.uncheckedCall_eq request
  rw [hcall] at h
  cases h
  exact .asked hputs hasked (by simp [huse]) (.returning result) fun _ _ => hmakes

theorem deed_makeUnchecked (hputs : before.Puts step request)
    (huse : before.use? step = none) (hmakes : step.makes? = some name)
    (hfree : before.isFree name = true)
    (h : before.makeUnchecked name (Act.request request) = (outcome, after)) :
    Deed before step outcome after := by
  cases hanswer : before.host.answer request with
  | error number =>
      rw [makeUnchecked, act_eq (Act.run_request_rejected hanswer)] at h
      simp only [Host.errno_rejected, if_true] at h
      cases h
      exact .asked hputs (.rejected hanswer) (by simp [huse])
        (.returning (.error (.ofNumber number))) nofun
  | ok granted =>
      obtain ⟨returned, kernel⟩ := granted
      have hne : (returned : Int) ≠ -1 := by omega
      rw [makeUnchecked, act_eq (Act.run_request_granted hanswer)] at h
      simp only [if_neg hne] at h
      cases h
      exact .opened hputs hanswer hmakes hfree rfl trivial (by simp [huse, Holder.guard?])

theorem deed_make {call : Call α} {holder : α → Holder}
    (hputs : before.Puts step request) (hmakes : step.makes? = some name)
    (hfree : before.isFree name = true)
    (hcall : Call.Makes holder before.host request (before.use? step).toList
      (call.run.run before.host))
    (h : before.make name call holder = (outcome, after)) : Deed before step outcome after := by
  rcases hrun : call.run.run before.host with ⟨result, host⟩
  rw [make, act_eq hrun] at h
  rw [hrun] at hcall
  cases hcall with
  | rejected hanswer htold =>
      cases h
      exact .asked hputs (.rejected hanswer) htold (.rejected _) nofun
  | made hanswer hheld hwhole htold =>
      cases h
      exact .opened hputs hanswer hmakes hfree hheld hwhole htold

theorem call_of_ok {call : Call α} {told : α → Outcome} {value : α} {host : Host}
    (h : call.run.run before.host = (.ok value, host)) :
    before.call call told = (told value, { before with host }) := by
  rw [Session.call, act_eq h]

theorem call_of_error {call : Call α} {told : α → Outcome} {error : SyscallError} {host : Host}
    (h : call.run.run before.host = (.error error, host)) :
    before.call call told = (.rejected error, { before with host }) := by
  rw [Session.call, act_eq h]

theorem deed_pivotRoot {newRoot putOld : Path}
    (h : before.call (Call.pivotRoot newRoot putOld) (fun () => .done) = (outcome, after)) :
    Deed before (.pivotRoot newRoot putOld) outcome after := by
  rcases Call.misfit_or_fit newRoot putOld with ⟨path, hpath⟩ | ⟨new, old, rfl, rfl⟩
  · rw [call_of_error (Call.run_pivotRoot_invalid hpath)] at h
    cases h
    exact .misfit (by simp)
  · have hputs : before.Puts _ _ := .pivotRoot new old
    cases hanswer : before.host.answer (.pivotRoot new old) with
    | error number =>
        rw [call_of_error (Call.run_pivotRoot_rejected hanswer)] at h
        cases h
        exact .asked hputs (.rejected hanswer) (by simp [Call.toldRejected, use?])
          (.rejected _) nofun
    | ok granted =>
        rw [call_of_ok (Call.run_pivotRoot_granted hanswer)] at h
        cases h
        exact .asked hputs (.granted hanswer) (by simp [use?]) .done fun _ _ => rfl

theorem deed_becomeSubreaper
    (h : before.call Call.becomeSubreaper (fun () => .done) = (outcome, after)) :
    Deed before .becomeSubreaper outcome after := by
  cases hanswer : before.host.answer .setChildSubreaper with
  | error number =>
      rw [call_of_error (Call.run_becomeSubreaper_rejected hanswer)] at h
      cases h
      exact .asked .becomeSubreaper (.rejected hanswer) (by simp [Call.toldRejected, use?])
        (.rejected _) nofun
  | ok granted =>
      rw [call_of_ok (Call.run_becomeSubreaper_granted hanswer)] at h
      cases h
      exact .asked .becomeSubreaper (.granted hanswer) (by simp [use?]) .done fun _ _ => rfl

theorem deed_isSubreaper (h : before.call Call.isSubreaper .told = (outcome, after)) :
    Deed before .isSubreaper outcome after := by
  cases hanswer : before.host.answer .getChildSubreaper with
  | error number =>
      rw [call_of_error (Call.run_isSubreaper_rejected hanswer)] at h
      cases h
      exact .asked .isSubreaper (.rejected hanswer) (by simp [use?]) (.rejected _) nofun
  | ok granted =>
      rw [call_of_ok (Call.run_isSubreaper_granted hanswer)] at h
      cases h
      exact .asked .isSubreaper (.granted hanswer) (by simp [use?]) (.told _) fun _ _ => rfl

theorem deed_closeHolder {holder : Holder} (hholder : before.holder? name = some holder)
    (h : before.closeHolder name holder = (outcome, after)) :
    Deed before (.close name) outcome after := by
  have hguarded : ∀ guard : Guard, holder.guard? = some guard →
      (guardOutcome ((before.remove name).act (guard.close : Act _)).1,
        ((before.remove name).act (guard.close : Act _)).2) = (outcome, after) →
      Deed before (.close name) outcome after := by
    intro guard hguard hclose
    obtain ⟨result, host, hrun, hparts⟩ := guard.parts_close (before.remove name).host
    rw [act_eq hrun] at hclose
    cases hclose
    exact .closed hholder hguard hparts
  cases holder with
  | bare fd =>
      obtain ⟨result, host, hcall, hasked⟩ := (before.remove name).uncheckedCall_eq (.close fd)
      have hclose : (before.remove name).uncheckedCall (Act.request (.close fd))
          = (outcome, after) := h
      rw [hcall] at hclose
      cases hclose
      exact .closedPlain (.inl rfl) hholder rfl hasked (.inr rfl)
  | owned owned =>
      obtain ⟨result, host, hrun, hasked⟩ :=
        @Holder.asked_drop (.owned owned) owned rfl (before.remove name).host
      have hdrop : (owned.drop : Act Unit).run (before.remove name).host = ((), host) := hrun
      rw [closeHolder, act_eq hdrop] at h
      cases h
      exact .closedPlain (.inl rfl) hholder rfl hasked (.inl rfl)
  | guard guard => exact hguarded guard rfl h
  | pidfd pidfd => exact hguarded pidfd.guard rfl h
  | remote remote => exact hguarded remote.guard rfl h

theorem deed_drop {holder : Holder} (hholder : before.holder? name = some holder)
    (h : ((before.remove name).act holder.drop).2 = after) :
    Deed before (.drop name) .done after := by
  have hguarded : ∀ guard : Guard, holder.guard? = some guard → holder.drop = guard.drop →
      Deed before (.drop name) .done after := by
    intro guard hguard hdrop
    obtain ⟨result, host, hrun, hparts⟩ := guard.parts_drop (before.remove name).host
    rw [hdrop, act_eq hrun] at h
    cases h
    exact .dropped hholder hguard hparts
  have hplainly : ∀ owned, holder.plain? = some owned → Deed before (.drop name) .done after := by
    intro owned hplain
    obtain ⟨result, host, hrun, hasked⟩ := Holder.asked_drop hplain (before.remove name).host
    rw [act_eq hrun] at h
    cases h
    exact .closedPlain (.inr rfl) hholder hplain hasked (.inl rfl)
  cases holder with
  | bare fd => exact hplainly ⟨fd⟩ rfl
  | owned owned => exact hplainly owned rfl
  | guard guard => exact hguarded guard rfl rfl
  | pidfd pidfd => exact hguarded pidfd.guard rfl rfl
  | remote remote => exact hguarded remote.guard rfl rfl

theorem deed_handOut {new : String} {holder : Holder} {guard : Guard}
    (hfree : before.isFree new = true) (hholder : before.holder? name = some holder)
    (hguard : holder.guard? = some guard)
    (h : before.handOut name new (guard.handOut : Act _) = (outcome, after)) :
    Deed before (.handOut name new) outcome after := by
  rw [handOut, act_eq (guard.run_handOut _)] at h
  cases hheld : guard.held with
  | none =>
      rw [hheld] at h
      cases h
      exact .keptBack hholder hguard hheld
  | some owned =>
      rw [hheld] at h
      cases h
      exact .handedOut hfree hholder hguard hheld

/-! ## The inversion -/

/-- **Inversion.** Whatever has been done in a step is one of the deeds. -/
theorem deed_of_perform (h : before.perform step = some (outcome, after)) :
    Deed before step outcome after := by
  cases step with
  | pipe as =>
      simp only [perform, Option.bind_eq_bind, Option.bind_eq_some_iff, Option.guard_eq_some',
        Option.pure_def, Option.some.injEq, Prod.mk.injEq, List.all_cons, Bool.and_eq_true] at h
      obtain ⟨_, ⟨_, hreader, hwriter, _⟩, rfl, rfl⟩ := h
      exact .piped hreader hwriter
  | closeNumber ref =>
      simp only [perform, Option.bind_eq_bind, Option.bind_eq_some_iff, Option.pure_def,
        Option.some.injEq] at h
      obtain ⟨fd, hnumber, hclose⟩ := h
      exact deed_uncheckedCall (.closeNumber hnumber) rfl rfl hclose
  | isOpen ref =>
      simp only [perform, Option.bind_eq_bind, Option.bind_eq_some_iff, Option.pure_def,
        Option.some.injEq, Prod.mk.injEq] at h
      obtain ⟨_, _, rfl, rfl⟩ := h
      exact .noted rfl rfl
  | sameNumber ref other =>
      simp only [perform, Option.bind_eq_bind, Option.bind_eq_some_iff, Option.pure_def,
        Option.some.injEq, Prod.mk.injEq] at h
      obtain ⟨_, _, _, _, rfl, rfl⟩ := h
      exact .noted rfl rfl
  | fdFlags ref =>
      simp only [perform, Option.bind_eq_bind, Option.bind_eq_some_iff, Option.pure_def] at h
      obtain ⟨_, _, hflags⟩ := h
      split at hflags
      · cases hflags
        exact .noted rfl rfl
      · cases hflags
        exact .noted rfl rfl
  | write ref data =>
      simp only [perform, Option.bind_eq_bind, Option.bind_eq_some_iff, Option.pure_def] at h
      obtain ⟨_, hnumber, _, _, hwrite⟩ := h
      split at hwrite
      · cases hwrite
        exact .noted rfl rfl
      · next count kernel hok =>
        cases hwrite
        exact .stirred (.wrote hnumber hok) before.children
  | read ref count =>
      simp only [perform, Option.bind_eq_bind, Option.bind_eq_some_iff, Option.pure_def] at h
      obtain ⟨_, hnumber, _, _, hread⟩ := h
      split at hread
      · cases hread
        exact .noted rfl rfl
      · next bytes kernel hok =>
        cases hread
        exact .stirred (.readOff hnumber hok) before.children
  | spawn as =>
      simp only [perform, Option.bind_eq_bind, Option.bind_eq_some_iff, Option.pure_def] at h
      obtain ⟨_, _, hfork⟩ := h
      split at hfork
      · cases hfork
        exact .noted rfl rfl
      · next child kernel hok =>
        cases hfork
        exact .stirred (.forked hok) _
  | kill child reap =>
      simp only [perform, Option.bind_eq_bind, Option.bind_eq_some_iff, Option.pure_def,
        Option.some.injEq, Prod.mk.injEq] at h
      obtain ⟨⟨birth, _⟩, _, _, _, rfl, rfl⟩ := h
      cases reap with
      | false => exact .stirred (.killed child birth) before.children
      | true => exact .stirred (.reaped child birth) before.children
  | closeIn child ref =>
      simp only [perform, Option.bind_eq_bind, Option.bind_eq_some_iff, Option.pure_def] at h
      obtain ⟨⟨birth, _⟩, _, fd, _, table, _, hclose⟩ := h
      split at hclose
      · cases hclose
        exact .noted rfl rfl
      · cases hclose
        exact .stirred (.closedIn child ref birth fd.toNat) before.children
  | openIn child =>
      simp only [perform, Option.bind_eq_bind, Option.bind_eq_some_iff, Option.pure_def,
        Option.some.injEq, Prod.mk.injEq] at h
      obtain ⟨⟨birth, _⟩, _, table, _, rfl, rfl⟩ := h
      exact .stirred (.openedIn child birth table.lowestFree) before.children
  | orphan code =>
      cases h
      exact .stirred (.orphaned code) before.children
  | guard fd as resource events pid =>
      simp only [perform, Option.bind_eq_bind, Option.bind_eq_some_iff, Option.guard_eq_some',
        Option.pure_def] at h
      obtain ⟨_, hfree, holder, hholder, owned, hplain, hmade⟩ := h
      have hwhole : ∀ subject, (Holder.guard (.holding owned subject events)).Whole := by
        rintro subject _ ⟨⟩
        rfl
      split at hmade
      · simp only [Option.bind_some, Option.some.injEq, Prod.mk.injEq] at hmade
        obtain ⟨rfl, rfl⟩ := hmade
        exact .tookIn rfl hfree hholder hplain rfl rfl (hwhole _)
      · simp only [Option.bind_eq_some_iff, Option.some.injEq, Prod.mk.injEq] at hmade
        obtain ⟨_, _, rfl, rfl⟩ := hmade
        exact .tookIn rfl hfree hholder hplain rfl rfl (hwhole _)
  | release on =>
      simp only [perform, Option.bind_eq_bind, Option.bind_eq_some_iff, Option.pure_def] at h
      obtain ⟨holder, hholder, hrelease⟩ := h
      cases holder with
      | guard guard =>
          obtain ⟨result, host, hrun, hparts⟩ := guard.parts_release before.host
          simp only [act_eq hrun] at hrelease
          cases hrelease
          exact .released hholder hparts
      | _ => cases hrelease
  | used on operation =>
      simp only [perform, Option.bind_eq_bind, Option.bind_eq_some_iff, Option.pure_def] at h
      obtain ⟨holder, hholder, hused⟩ := h
      cases holder with
      | guard guard =>
          cases hused
          exact .used hholder
      | _ => cases hused
  | close on =>
      simp only [perform, Option.bind_eq_bind, Option.bind_eq_some_iff, Option.pure_def,
        Option.some.injEq] at h
      obtain ⟨holder, hholder, hclose⟩ := h
      exact deed_closeHolder hholder hclose
  | drop on =>
      simp only [perform, Option.bind_eq_bind, Option.bind_eq_some_iff, Option.pure_def,
        Option.some.injEq, Prod.mk.injEq] at h
      obtain ⟨holder, hholder, rfl, hdrop⟩ := h
      exact deed_drop hholder hdrop
  | handOut on as =>
      simp only [perform, Option.bind_eq_bind, Option.bind_eq_some_iff,
        Option.guard_eq_some'] at h
      obtain ⟨_, hfree, holder, hholder, hhand⟩ := h
      cases holder with
      | guard guard => exact deed_handOut hfree hholder rfl (Option.some.inj hhand)
      | pidfd pidfd => exact deed_handOut hfree hholder rfl (Option.some.inj hhand)
      | remote remote => exact deed_handOut hfree hholder rfl (Option.some.inj hhand)
      | _ => cases hhand
  | info on =>
      simp only [perform, Option.bind_eq_bind, Option.bind_eq_some_iff, Option.pure_def,
        Option.some.injEq, Prod.mk.injEq] at h
      obtain ⟨_, _, rfl, rfl⟩ := h
      exact .noted rfl rfl
  | openPid pid flags as =>
      simp only [perform, Option.bind_eq_bind, Option.bind_eq_some_iff, Option.guard_eq_some',
        Option.pure_def, Option.some.injEq] at h
      obtain ⟨_, hfree, pid, hpid, hmake⟩ := h
      exact deed_make (.openPid hpid) rfl hfree
        (PidFd.makes_openPid pid ⟨flags⟩ _) hmake
  | wrap fd pid as =>
      simp only [perform, Option.bind_eq_bind, Option.bind_eq_some_iff, Option.guard_eq_some',
        Option.pure_def, Option.some.injEq, Prod.mk.injEq] at h
      obtain ⟨_, hfree, holder, hholder, owned, hplain, pid, _, rfl, rfl⟩ := h
      exact .tookIn rfl hfree hholder hplain rfl rfl rfl
  | copyFd on target as =>
      simp only [perform, Option.bind_eq_bind, Option.bind_eq_some_iff,
        Option.guard_eq_some'] at h
      obtain ⟨_, hfree, number, htarget, holder, hholder, hmake⟩ := h
      cases holder with
      | pidfd pidfd =>
          have huse : before.use? (.copyFd on target as)
              = some (pidfd.guard.used "pidfd_getfd") := by
            simp [use?, guard?, hholder, Holder.guard?]
          have hcall := pidfd.makes_copyFd number before.host
          rw [← Option.toList_some, ← huse] at hcall
          exact deed_make (.copyFd hholder htarget) rfl hfree hcall (Option.some.inj hmake)
      | _ => cases hmake
  | copyThrough pidfd target flags as =>
      simp only [perform, Option.bind_eq_bind, Option.bind_eq_some_iff, Option.guard_eq_some',
        Option.pure_def, Option.some.injEq] at h
      obtain ⟨_, hfree, pidfd, hpidfd, target, htarget, _, _, hmake⟩ := h
      exact deed_make (.copyThrough hpidfd htarget) rfl hfree
        (Call.makes_copyFd pidfd target flags _) hmake
  | pivotRoot newRoot putOld => exact deed_pivotRoot (Option.some.inj h)
  | becomeSubreaper => exact deed_becomeSubreaper (Option.some.inj h)
  | isSubreaper => exact deed_isSubreaper (Option.some.inj h)
  | openUnchecked pid flags as =>
      simp only [perform, Option.bind_eq_bind, Option.bind_eq_some_iff, Option.guard_eq_some',
        Option.pure_def, Option.some.injEq] at h
      obtain ⟨_, hfree, pid, hpid, hmake⟩ := h
      exact deed_makeUnchecked (.openUnchecked hpid) rfl rfl hfree hmake
  | copyUnchecked pidfd target flags as =>
      simp only [perform, Option.bind_eq_bind, Option.bind_eq_some_iff, Option.guard_eq_some',
        Option.pure_def, Option.some.injEq] at h
      obtain ⟨_, hfree, pidfd, hpidfd, target, htarget, hmake⟩ := h
      exact deed_makeUnchecked (.copyUnchecked hpidfd htarget) rfl rfl hfree hmake
  | pivotRootUnchecked newRoot putOld =>
      simp only [perform, Option.bind_eq_bind, Option.bind_eq_some_iff, Option.pure_def,
        Option.some.injEq] at h
      obtain ⟨newString, hnew, oldString, hold, hcall⟩ := h
      obtain rfl := CString.bytes_of_ofBytes? hnew
      obtain rfl := CString.bytes_of_ofBytes? hold
      exact deed_uncheckedCall (.pivotRootUnchecked newString oldString) rfl rfl hcall
  | becomeSubreaperUnchecked =>
      exact deed_uncheckedCall .becomeSubreaperUnchecked rfl rfl (Option.some.inj h)
  | subreaperUnchecked variableBefore =>
      cases hanswer : before.host.answer .getChildSubreaper with
      | error number =>
          simp only [perform, act_eq (Unchecked.run_subreaper_rejected _ hanswer)] at h
          cases h
          exact .asked (.subreaperUnchecked _) (.rejected hanswer) (by simp [use?]) (.unstored _)
            nofun
      | ok granted =>
          simp only [perform, act_eq (Unchecked.run_subreaper_granted _ hanswer)] at h
          cases h
          exact .asked (.subreaperUnchecked _) (.granted hanswer) (by simp [use?]) (.stored _)
            fun _ _ => rfl

theorem deed_step (session : Session) (step : Step) :
    Deed session step (session.step step).1 (session.step step).2 := by
  rw [Session.step]
  cases h : session.perform step with
  | none => exact .ignored h
  | some result => exact deed_of_perform h

end Session

end PidOne
