import PidOne.Session.Step

/-!
# Sessions

A session is a host with its objects under names. Names are given once; the numbers they had stay
known after the objects are gone. A step that cannot be understood changes nothing. At the end all
objects that are left are let go in the order of their names.
-/

namespace PidOne

structure Session where
  host : Host
  holders : List (String × Holder)
  /-- The number of every object there is or was, the latest first. -/
  numbers : List (String × Nat)
  /-- Every child there is or was. -/
  children : List (String × Child)

namespace Session

def start (kernel : Kernel) : Session := ⟨Host.start kernel, [], [], []⟩

/-- The name that stands for the session's own process. -/
def selfName : String := "self"

/-! ## Names -/

def isFree (session : Session) (name : String) : Bool :=
  name != selfName && (session.numbers.lookup name).isNone &&
    (session.children.lookup name).isNone

def holder? (session : Session) (name : String) : Option Holder := session.holders.lookup name

def number? (session : Session) : FdRef → Option Int
  | .object name => (session.numbers.lookup name).map Int.ofNat
  | .number number => some number

def pid? (session : Session) : PidRef → Option Pid
  | .self => some session.host.kernel.pid
  | .child name => (session.children.lookup name).map Child.pid
  | .number number => some number

/-- The session with an object under a new name. -/
def bind (session : Session) (name : String) (holder : Holder) : Session :=
  { session with
    holders := (name, holder) :: session.holders
    numbers := (name, holder.number) :: session.numbers }

/-- The session without the object under a name. -/
def remove (session : Session) (name : String) : Session :=
  { session with holders := session.holders.filter fun entry => entry.1 != name }

/-- The session with another object in the place of one. -/
def replace (session : Session) (name : String) (holder : Holder) : Session :=
  { session with
    holders := session.holders.map fun entry => if entry.1 = name then (name, holder) else entry }

/-! ## Acting -/

def act {α : Type} (session : Session) (act : Act α) : α × Session :=
  let (answer, host) := act.run session.host
  (answer, { session with host })

/-- Makes a call that makes an object, and binds that. -/
def make {α : Type} (session : Session) (name : String) (call : Call α) (holder : α → Holder) :
    Outcome × Session :=
  match session.act call.run with
  | (.error error, session) => (.rejected error, session)
  | (.ok value, session) => (.made name, session.bind name (holder value))

def call {α : Type} (session : Session) (call : Call α) (outcome : α → Outcome) :
    Outcome × Session :=
  match session.act call.run with
  | (.error error, session) => (.rejected error, session)
  | (.ok value, session) => (outcome value, session)

/-- Makes an unchecked call and tells what it returned. -/
def uncheckedCall (session : Session) (call : Act Int) : Outcome × Session :=
  let (returned, session) := session.act call
  if returned = -1 then (.returned returned (some (Errno.ofNumber session.host.errno)), session)
  else (.returned returned none, session)

/-- Makes an unchecked call that returns a descriptor, and binds that. -/
def makeUnchecked (session : Session) (name : String) (call : Act Int) : Outcome × Session :=
  let (returned, session) := session.act call
  if returned = -1 then (.returned returned (some (Errno.ofNumber session.host.errno)), session)
  else (.made name, session.bind name (.bare returned.toNat))

/-- The outcome of an operation of a guard that only succeeds or fails. -/
def guardOutcome : Except GuardError Unit → Outcome
  | .ok () => .done
  | .error error => .refused error

/-- Uses up an object to hand out its descriptor. -/
def handOut (session : Session) (on name : String) (act : Act (Except GuardError Owned)) :
    Outcome × Session :=
  match (session.remove on).act act with
  | (.error error, session) => (.refused error, session)
  | (.ok owned, session) => (.made name, session.bind name (.owned owned))

/-- Closes an object, each kind in its own way. -/
def closeHolder (session : Session) (on : String) (holder : Holder) : Outcome × Session :=
  let session := session.remove on
  match holder with
  | .bare fd => session.uncheckedCall (Unchecked.close fd)
  | .owned owned =>
    let ((), session) := session.act (owned.drop : Act Unit)
    (.done, session)
  | .guard guard =>
    let (result, session) := session.act (guard.close : Act _)
    (guardOutcome result, session)
  | .pidfd pidfd =>
    let (result, session) := session.act pidfd.close
    (guardOutcome result, session)
  | .remote remote =>
    let (result, session) := session.act remote.close
    (guardOutcome result, session)

def withKernel (session : Session) (kernel : Kernel) : Session :=
  { session with host := { session.host with kernel } }

/-- Whether a number is open on something other than a pipe. -/
def isForeign (session : Session) (fd : Int) : Bool :=
  match (session.host.kernel.file? fd).map OpenFile.resource with
  | none | some (.pipe _ _) => false
  | some _ => true

/-- The name of one end of a pipe. -/
def readerName (name : String) : String := name ++ ".r"

def writerName (name : String) : String := name ++ ".w"

/-! ## Steps -/

/-- Does one step; none if it cannot be understood. -/
def perform (session : Session) : Step → Option (Outcome × Session)
  | .pipe as => do
    guard ([as, readerName as, writerName as].all session.isFree)
    let (reader, writer, kernel) := session.host.kernel.pipe
    return (.made as,
      ((session.withKernel kernel).bind (readerName as) (.bare reader)).bind (writerName as)
        (.bare writer))
  | .closeNumber fd => do
    let fd ← session.number? fd
    return session.uncheckedCall (Unchecked.close fd)
  | .isOpen fd => do
    let fd ← session.number? fd
    return (.answer (session.host.kernel.isOpen fd), session)
  | .sameNumber a b => do
    let a ← session.number? a
    let b ← session.number? b
    return (.answer (a == b), session)
  | .fdFlags fd => do
    let fd ← session.number? fd
    let kernel := session.host.kernel
    match kernel.table.find? fd, kernel.file? fd with
    | some descriptor, some file => return (.flags descriptor.cloexec file.nonblock, session)
    | _, _ => return (.returned (-1) (some .ebadf), session)
  | .write fd data => do
    let fd ← session.number? fd
    guard !session.isForeign fd
    match session.host.kernel.write fd data with
    | .error errno => return (.returned (-1) (some errno), session)
    | .ok (count, kernel) => return (.returned count none, session.withKernel kernel)
  | .read fd count => do
    let fd ← session.number? fd
    guard !session.isForeign fd
    match session.host.kernel.read fd count with
    | .error errno => return (.returned (-1) (some errno), session)
    | .ok (bytes, kernel) => return (.data bytes, session.withKernel kernel)
  | .spawn as => do
    guard (session.isFree as)
    match session.host.kernel.fork with
    | .error errno => return (.returned (-1) (some errno), session)
    | .ok (child, kernel) =>
      let session := session.withKernel kernel
      return (.made as, { session with children := (as, child) :: session.children })
  | .kill child reap => do
    let { birth, .. } ← session.children.lookup child
    guard (session.host.kernel.other? birth).isSome
    let killed := session.host.kernel.kill birth
    return (.made child, session.withKernel (if reap then killed.reap birth else killed))
  | .closeIn child fd => do
    let child ← session.children.lookup child
    let fd ← session.number? fd
    let table ← session.host.kernel.tableOf? child.birth
    match table.find? fd with
    | none => return (.returned (-1) (some .ebadf), session)
    | some _ =>
      return (.returned 0 none,
        session.withKernel (session.host.kernel.closeIn child.birth fd.toNat))
  | .openIn child => do
    let child ← session.children.lookup child
    let table ← session.host.kernel.tableOf? child.birth
    return (.returned table.lowestFree none,
      session.withKernel (session.host.kernel.openIn child.birth))
  | .orphan code =>
    let (result, kernel) := session.host.kernel.orphan code
    some (.reaped result, session.withKernel kernel)
  | .guard fd as resource events pid => do
    guard (session.isFree as)
    let owned ← (← session.holder? fd).plain?
    let pid ← match pid with
      | none => some none
      | some ref => (session.pid? ref).map some
    let (made, session) :=
      (session.remove fd).act (Guard.new owned ⟨resource, pid⟩ events : Act Guard)
    return (.made as, session.bind as (.guard made))
  | .release on => do
    match ← session.holder? on with
    | .guard guard =>
      let ((result, left), session) := session.act (guard.release : Act _)
      return (guardOutcome result, session.replace on (.guard left))
    | _ => none
  | .used on operation => do
    match ← session.holder? on with
    | .guard guard =>
      let ((), session) := session.act (guard.tellUse operation : Act Unit)
      return (.done, session)
    | _ => none
  | .close on => do
    let holder ← session.holder? on
    return session.closeHolder on holder
  | .drop on => do
    let holder ← session.holder? on
    let ((), session) := (session.remove on).act holder.drop
    return (.done, session)
  | .handOut on as => do
    guard (session.isFree as)
    match ← session.holder? on with
    | .guard guard => return session.handOut on as guard.handOut
    | .pidfd pidfd => return session.handOut on as pidfd.handOut
    | .remote remote => return session.handOut on as remote.handOut
    | _ => none
  | .info on => do
    let holder ← session.holder? on
    return (.info holder, session)
  | .openPid pid flags as => do
    guard (session.isFree as)
    let pid ← session.pid? pid
    return session.make as (PidFd.openPid pid ⟨flags⟩) .pidfd
  | .wrap fd pid as => do
    guard (session.isFree as)
    let owned ← (← session.holder? fd).plain?
    let pid ← session.pid? pid
    let (pidfd, session) := (session.remove fd).act (PidFd.ofOwned owned pid)
    return (.made as, session.bind as (.pidfd pidfd))
  | .copyFd on target as => do
    guard (session.isFree as)
    let target ← session.number? target
    match ← session.holder? on with
    | .pidfd pidfd => return session.make as (pidfd.copyFd target) .remote
    | _ => none
  | .copyThrough pidfd target flags as => do
    guard (session.isFree as)
    let pidfd ← session.number? pidfd
    let target ← session.number? target
    guard (0 ≤ pidfd)
    return session.make as (Call.copyFd pidfd target flags) .owned
  | .pivotRoot newRoot putOld =>
    some (session.call (Call.pivotRoot newRoot putOld) fun () => .done)
  | .becomeSubreaper => some (session.call Call.becomeSubreaper fun () => .done)
  | .isSubreaper => some (session.call Call.isSubreaper .told)
  | .openUnchecked pid flags as => do
    guard (session.isFree as)
    let pid ← session.pid? pid
    return session.makeUnchecked as (Unchecked.openPid pid flags)
  | .copyUnchecked pidfd target flags as => do
    guard (session.isFree as)
    let pidfd ← session.number? pidfd
    let target ← session.number? target
    return session.makeUnchecked as (Unchecked.copyFd pidfd target flags)
  | .pivotRootUnchecked newRoot putOld => do
    let newRoot ← CString.ofBytes? newRoot
    let putOld ← CString.ofBytes? putOld
    return session.uncheckedCall (Unchecked.pivotRoot newRoot putOld)
  | .becomeSubreaperUnchecked => some (session.uncheckedCall Unchecked.becomeSubreaper)
  | .subreaperUnchecked before =>
    let ((returned, variableAfter), session) := session.act (Unchecked.subreaper before)
    some (.stored returned variableAfter, session)

/-- Does one step; a step that cannot be understood changes nothing. -/
def step (session : Session) (step : Step) : Outcome × Session :=
  (session.perform step).getD (.badStep, session)

def arrange (session : Session) (step : MountStep) : Outcome × Session :=
  match session.host.kernel.arrange step with
  | .error errno => (.returned (-1) (some errno), session)
  | .ok kernel => (.returned 0 none, session.withKernel kernel)

def names (session : Session) : List String :=
  (session.holders.map Prod.fst).mergeSort fun a b => decide (a ≤ b)

/-- Lets the object under a name go, if there is one. -/
def dropName (session : Session) (name : String) : Session :=
  match session.holder? name with
  | none => session
  | some holder => ((session.remove name).act holder.drop).2

def finish (session : Session) : Session := session.names.foldl dropName session

/-- How many more descriptors are open than in another kernel. -/
def leaked (session : Session) (before : Kernel) : Int :=
  (session.host.kernel.table.size : Int) - before.table.size

end Session

end PidOne
