import PidOne.Proofs.Guard.Closing
import PidOne.Proofs.Session.Objects

/-!
# Deeds

A step looks at something, stirs the kernel from outside, puts one request to it, or gives an object
another state. `Deed` says for each of these what the session is afterwards, to the last part: the
kernel, the requests made, what was told to the trace, and the objects. Whatever a run keeps is
shown deed by deed, and no proof about runs opens a step again.
-/

namespace PidOne

/-! ## Words for steps and objects -/

namespace Step

/-- The object that a step works on or through. -/
def on? : Step → Option String
  | .release on | .used on _ | .close on | .drop on | .handOut on _ | .copyFd on _ _ => some on
  | _ => none

/-- The name for what a step makes. -/
def makes? : Step → Option String
  | .guard _ as _ _ _ | .handOut _ as | .openPid _ _ as | .wrap _ _ as | .copyFd _ _ as
  | .copyThrough _ _ _ as | .openUnchecked _ _ as | .copyUnchecked _ _ _ as => some as
  | _ => none

/-- Steps that may come to nothing but an answer. -/
def looks : Step → Bool
  | .isOpen _ | .sameNumber _ _ | .fdFlags _ | .write _ _ | .read _ _ | .spawn _ | .closeIn _ _
  | .info _ => true
  | _ => false

def letsGo? : Step → Option String
  | .release on => some on
  | .close on => some on
  | .drop on => some on
  | _ => none

/-- The object that a step takes in, and the one it makes of it. -/
def move? : Step → Option (String × String)
  | .guard fd as _ _ _ => some (fd, as)
  | .wrap fd _ as => some (fd, as)
  | .handOut on as => some (on, as)
  | _ => none

variable {step : Step} {name old new : String}

theorem makes?_of_move? (h : step.move? = some (old, new)) : step.makes? = some new := by
  cases step with
  | guard fd as => cases h; rfl
  | wrap fd pid as => cases h; rfl
  | handOut on as => cases h; rfl
  | _ => cases h

theorem looks_of_move? (h : step.move? = some (old, new)) : step.looks = false := by
  cases step with
  | guard fd as => rfl
  | wrap fd pid as => rfl
  | handOut on as => rfl
  | _ => cases h

theorem looks_of_letsGo? (h : step.letsGo? = some name) : step.looks = false := by
  cases step with
  | release on => rfl
  | close on => rfl
  | drop on => rfl
  | _ => cases h

theorem move?_of_letsGo? (h : step.letsGo? = some name) : step.move? = none := by
  cases step with
  | release on => rfl
  | close on => rfl
  | drop on => rfl
  | _ => cases h

theorem on?_of_letsGo? (h : step.letsGo? = some name) : step.on? = some name := by
  cases step with
  | release on => exact h
  | close on => exact h
  | drop on => exact h
  | _ => cases h

theorem on?_of_looks (h : step.looks = true) : step.on? = none := by
  cases step with
  | release on => cases h
  | used on operation => cases h
  | close on => cases h
  | drop on => cases h
  | handOut on as => cases h
  | copyFd on target as => cases h
  | _ => rfl

theorem on?_of_move? {old new : String} (h : step.move? = some (old, new)) :
    step.on? = none ∨ step.on? = some old := by
  cases step with
  | guard fd as => exact .inl rfl
  | wrap fd pid as => exact .inl rfl
  | handOut on as =>
      cases h
      exact .inr rfl
  | _ => cases h

theorem letsGo?_of_makes? (h : step.makes? = some name) : step.letsGo? = none := by
  cases step with
  | release on => cases h
  | close on => cases h
  | drop on => cases h
  | _ => rfl

end Step

namespace Holder

def guard? : Holder → Option Guard
  | .guard kept => some kept
  | .pidfd kept => some kept.guard
  | .remote kept => some kept.guard
  | _ => none

/-- A guard has the descriptor whose number it knows, or none; a process descriptor and a copied one
have theirs as long as they exist. -/
def Whole : Holder → Prop
  | .bare _ | .owned _ => True
  | .guard kept => ∀ owned, kept.held = some owned → owned.number = kept.number
  | .pidfd kept => kept = PidFd.holding ⟨kept.fd⟩ kept.pid
  | .remote kept => kept = RemoteFd.holding ⟨kept.fd⟩ kept.sourcePid kept.targetFd

theorem whole_bare (fd : Nat) : (bare fd).Whole := trivial

theorem whole_owned (kept : Owned) : (Holder.owned kept).Whole := trivial

end Holder

/-! ## What steps can come to -/

namespace Outcome

/-- The outcome of an unchecked call. -/
def returning : Except Errno Nat → Outcome
  | .ok value => .returned value none
  | .error errno => .returned (-1) (some errno)

/-- An outcome that says how a request was answered. -/
inductive Reports : Except Errno Nat → Outcome → Prop where
  | done {returned : Nat} : Reports (.ok returned) .done
  | told {returned : Nat} (answer : Bool) : Reports (.ok returned) (.told answer)
  | stored {returned : Nat} (variableAfter : Int) :
      Reports (.ok returned) (.stored returned variableAfter)
  | unstored {errno : Errno} (variableAfter : Int) :
      Reports (.error errno) (.stored (-1) variableAfter)
  | returning (result : Except Errno Nat) : Reports result (returning result)
  | rejected {errno : Errno} (call : Syscall) :
      Reports (.error errno) (.rejected (.kernel call errno))

/-- Outcomes of looking, and of what was tried in vain. -/
def isNote : Outcome → Bool
  | .answer _ | .flags _ _ | .returned _ (some _) | .info _ => true
  | _ => false

end Outcome

namespace Session

def guard? (session : Session) (name : String) : Option Guard :=
  (session.holder? name).bind Holder.guard?

theorem guard?_of_holder? {session : Session} {name : String} {holder : Holder}
    (h : session.holder? name = some holder) : session.guard? name = holder.guard? := by
  rw [guard?, h, Option.bind_some]

theorem guard?_bind (session : Session) (name : String) (holder : Holder) :
    (session.bind name holder).guard? = Function.update session.guard? name holder.guard? := by
  funext other
  rw [Session.guard?, holder?_bind, Function.update_apply, Function.update_apply]
  split <;> rfl

theorem guard?_remove (session : Session) (name : String) :
    (session.remove name).guard? = Function.update session.guard? name none := by
  funext other
  rw [Session.guard?, holder?_remove, Function.update_apply, Function.update_apply]
  split <;> rfl

/-- What the guard tells that a step works through. -/
def use? (session : Session) : Step → Option Event
  | .used on operation => (session.guard? on).map fun guard => guard.used operation
  | .copyFd on _ _ => (session.guard? on).map fun guard => guard.used "pidfd_getfd"
  | _ => none

/-- The request that a step puts to the kernel. -/
inductive Puts (session : Session) : Step → Request → Prop where
  | closeNumber {ref : FdRef} {fd : Int} (hfd : session.number? ref = some fd) :
      Puts session (.closeNumber ref) (.close fd)
  | pivotRoot (newRoot putOld : CString) :
      Puts session (.pivotRoot newRoot.bytes putOld.bytes) (.pivotRoot newRoot putOld)
  | pivotRootUnchecked (newRoot putOld : CString) :
      Puts session (.pivotRootUnchecked newRoot.bytes putOld.bytes) (.pivotRoot newRoot putOld)
  | becomeSubreaper : Puts session .becomeSubreaper .setChildSubreaper
  | becomeSubreaperUnchecked : Puts session .becomeSubreaperUnchecked .setChildSubreaper
  | isSubreaper : Puts session .isSubreaper .getChildSubreaper
  | subreaperUnchecked (variableBefore : Int) :
      Puts session (.subreaperUnchecked variableBefore) .getChildSubreaper
  | openPid {ref : PidRef} {pid : Pid} {flags : UInt32} {as : String}
      (hpid : session.pid? ref = some pid) :
      Puts session (.openPid ref flags as) (.pidfdOpen pid flags)
  | openUnchecked {ref : PidRef} {pid : Pid} {flags : UInt32} {as : String}
      (hpid : session.pid? ref = some pid) :
      Puts session (.openUnchecked ref flags as) (.pidfdOpen pid flags)
  | copyFd {on as : String} {ref : FdRef} {pidfd : PidFd} {target : Int}
      (hholder : session.holder? on = some (.pidfd pidfd))
      (htarget : session.number? ref = some target) :
      Puts session (.copyFd on ref as) (.pidfdGetfd pidfd.fd target 0)
  | copyThrough {through ref : FdRef} {pidfd target : Int} {flags : UInt32} {as : String}
      (hpidfd : session.number? through = some pidfd)
      (htarget : session.number? ref = some target) :
      Puts session (.copyThrough through ref flags as) (.pidfdGetfd pidfd target flags)
  | copyUnchecked {through ref : FdRef} {pidfd target : Int} {flags : UInt32} {as : String}
      (hpidfd : session.number? through = some pidfd)
      (htarget : session.number? ref = some target) :
      Puts session (.copyUnchecked through ref flags as) (.pidfdGetfd pidfd target flags)

/-- What becomes of the kernel when something is done around the calls, not by them. -/
inductive Stirs (session : Session) : Step → Outcome → Kernel → Prop where
  | wrote {ref : FdRef} {fd : Int} {data : List UInt8} {count : Nat} {kernel : Kernel}
      (hnumber : session.number? ref = some fd)
      (h : session.host.kernel.write fd data = .ok (count, kernel)) :
      Stirs session (.write ref data) (.returned count none) kernel
  | readOff {ref : FdRef} {fd : Int} {count : Nat} {bytes : List UInt8} {kernel : Kernel}
      (hnumber : session.number? ref = some fd)
      (h : session.host.kernel.read fd count = .ok (bytes, kernel)) :
      Stirs session (.read ref count) (.data bytes) kernel
  | forked {as : String} {child : Child} {kernel : Kernel}
      (h : session.host.kernel.fork = .ok (child, kernel)) :
      Stirs session (.spawn as) (.made as) kernel
  | killed (child : String) (birth : Nat) :
      Stirs session (.kill child false) (.made child) (session.host.kernel.kill birth)
  | reaped (child : String) (birth : Nat) :
      Stirs session (.kill child true) (.made child) ((session.host.kernel.kill birth).reap birth)
  | closedIn (child : String) (ref : FdRef) (birth fd : Nat) :
      Stirs session (.closeIn child ref) (.returned 0 none) (session.host.kernel.closeIn birth fd)
  | openedIn (child : String) (birth number : Nat) :
      Stirs session (.openIn child) (.returned number none) (session.host.kernel.openIn birth)
  | orphaned (code : Int) :
      Stirs session (.orphan code) (.reaped (session.host.kernel.orphan code).1)
        (session.host.kernel.orphan code).2

/-- What a step has done. -/
inductive Deed (before : Session) : Step → Outcome → Session → Prop where
  | ignored {step : Step} (h : before.perform step = none) : Deed before step .badStep before
  | noted {step : Step} {outcome : Outcome} (hstep : step.looks = true)
      (houtcome : outcome.isNote = true) : Deed before step outcome before
  | stirred {step : Step} {outcome : Outcome} {kernel : Kernel}
      (h : before.Stirs step outcome kernel) (children : List (String × Child)) :
      Deed before step outcome { before.withKernel kernel with children }
  | piped {as : String} (hreader : before.isFree (readerName as) = true)
      (hwriter : before.isFree (writerName as) = true) :
      Deed before (.pipe as) (.made as)
        (((before.withKernel before.host.kernel.pipe.2.2).bind (readerName as)
          (.bare before.host.kernel.pipe.1)).bind (writerName as)
          (.bare before.host.kernel.pipe.2.1))
  | asked {step : Step} {outcome : Outcome} {request : Request} {told : Trace}
      {result : Except Errno Nat} {host : Host} (hputs : before.Puts step request)
      (h : before.host.Asked request told result host)
      (htold : told.ofGuards = (before.use? step).toList) (houtcome : outcome.Reports result)
      (hmakes : ∀ returned, result = .ok returned → step.makes? = none) :
      Deed before step outcome { before with host }
  /-- A path cannot be put to the kernel. -/
  | misfit {newRoot putOld path : Path} {told : Trace} (htold : told.ofGuards = []) :
      Deed before (.pivotRoot newRoot putOld) (.rejected (.invalidPath path.display))
        { before with host := before.host.telling told }
  | opened {step : Step} {request : Request} {returned : Nat} {kernel : Kernel} {told : Trace}
      {as : String} {holder : Holder} (hputs : before.Puts step request)
      (h : before.host.answer request = .ok (returned, kernel))
      (hmakes : step.makes? = some as) (hfree : before.isFree as = true)
      (hheld : holder.held? = some returned) (hwhole : holder.Whole)
      (htold : told.ofGuards
        = (before.use? step).toList ++ holder.guard?.toList.map Guard.acquired) :
      Deed before step (.made as)
        (({ before with host := before.host.granted request kernel told } : Session).bind as holder)
  | tookIn {step : Step} {old new : String} {holder made : Holder} {owned : Owned} {guard : Guard}
      (hmove : step.move? = some (old, new)) (hfree : before.isFree new = true)
      (hholder : before.holder? old = some holder)
      (hplain : holder.plain? = some owned) (hguard : made.guard? = some guard)
      (hheld : made.held? = some owned.number) (hwhole : made.Whole) :
      Deed before step (.made new)
        (({ before.remove old with
          host := before.host.telling [.event guard.acquired] } : Session).bind new made)
  | used {on operation : String} {guard : Guard}
      (hholder : before.holder? on = some (.guard guard)) :
      Deed before (.used on operation) .done
        { before with host := before.host.telling [.event (guard.used operation)] }
  | released {on : String} {guard : Guard} {result : Except GuardError Unit} {host : Host}
      (hholder : before.holder? on = some (.guard guard))
      (h : guard.Parts false before.host result host) :
      Deed before (.release on) (guardOutcome result)
        (({ before with host } : Session).replace on (.guard guard.emptied))
  | closed {on : String} {holder : Holder} {guard : Guard} {result : Except GuardError Unit}
      {host : Host} (hholder : before.holder? on = some holder)
      (hguard : holder.guard? = some guard) (h : guard.Parts false before.host result host) :
      Deed before (.close on) (guardOutcome result) { before.remove on with host }
  | dropped {on : String} {holder : Holder} {guard : Guard} {result : Except GuardError Unit}
      {host : Host} (hholder : before.holder? on = some holder)
      (hguard : holder.guard? = some guard) (h : guard.Parts true before.host result host) :
      Deed before (.drop on) .done { before.remove on with host }
  | closedPlain {step : Step} {outcome : Outcome} {on : String} {holder : Holder} {owned : Owned}
      {result : Except Errno Nat} {host : Host} (hstep : step = .close on ∨ step = .drop on)
      (hholder : before.holder? on = some holder) (hplain : holder.plain? = some owned)
      (h : before.host.Asked (.close owned.number) [] result host)
      (houtcome : outcome = .done ∨ outcome = .returning result) :
      Deed before step outcome { before.remove on with host }
  | handedOut {on new : String} {holder : Holder} {guard : Guard} {owned : Owned}
      (hfree : before.isFree new = true) (hholder : before.holder? on = some holder)
      (hguard : holder.guard? = some guard) (hheld : guard.held = some owned) :
      Deed before (.handOut on new) (.made new) ((before.remove on).bind new (.owned owned))
  | keptBack {on new : String} {holder : Holder} {guard : Guard}
      (hholder : before.holder? on = some holder) (hguard : holder.guard? = some guard)
      (hempty : guard.held = none) :
      Deed before (.handOut on new) (.refused .alreadyReleased) (before.remove on)

end Session

end PidOne
