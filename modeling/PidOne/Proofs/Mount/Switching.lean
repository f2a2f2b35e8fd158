import Mathlib
import PidOne.Proofs.Mount.Pivoting
import PidOne.Proofs.Session.Sharing

/-!
# A change of the root swaps what two paths name

Whatever has been mounted before, after a change of the root that succeeds `/` names what the new
root was, and the place for the old root names the old root, with all that was reachable from it
under the same names. There is one exception: what is mounted over the root directory itself is not
seen by a process whose root that is, and it is seen when the old root is entered from the new one.
-/

namespace PidOne

namespace MountSpace

/-! ## Two places swapped -/

/-- The path leads to the root of a mount that is in its place. -/
def IsMountPoint (space : MountSpace) (path : Path) : Prop :=
  ∃ place, space.resolve path = .ok place ∧ space.isMountRoot place = true
    ∧ space.isAttached place.mount = true

/-- What has become of the root, of a new root and of the place for the old one. -/
structure Swapped (before after : MountSpace) (root new old : Place) : Prop where
  wasRoot : before.resolve [Path.slash] = .ok root
  isRoot : after.resolve [Path.slash] = .ok new
  /-- Seen from the new root, the place below it that was for the old root shows what is on that. -/
  isOld : ∀ ⦃under : Path⦄, under.isAbsolute = true → under.length < maxPath →
    before.Leads new under.components old → old ≠ new → after.resolve under = .ok (after.seen root)
  /-- That is the old root itself if and only if nothing but the new root was mounted over it. -/
  seen_iff : after.seen root = root
    ↔ before.cover? root = none ∨ before.cover? root = some new
  seen_eq : ¬before.Hangs new.mount (before.seen root).mount → after.seen root = before.seen root
  /-- What was reachable from the old root outside the new one is so by the same names. -/
  kept : ∀ ⦃names place⦄, before.Leads root names place → ¬before.Hangs new.mount place.mount →
    after.Leads root names place
  /-- Where the old root is seen itself, these names go on from the place for it. -/
  reachable : ∀ ⦃under inner : Path⦄ ⦃place⦄, under.isAbsolute = true → inner.isAbsolute = true →
    (under ++ inner).length < maxPath → before.Leads new under.components old → old ≠ new →
    after.seen root = root → before.Leads root inner.components place →
    ¬before.Hangs new.mount place.mount → after.resolve (under ++ inner) = .ok place

variable {space after : MountSpace} {new top place : Place}

theorem resolve_slash (space : MountSpace) : space.resolve [Path.slash] = .ok space.root := by
  rw [resolve_of_isAbsolute rfl (by decide)]
  exact (Leads.nil space.root).walk maxLinks

theorem resolve_of_leads {path : Path} (habsolute : path.isAbsolute = true)
    (hlength : path.length < maxPath) (h : space.Leads space.root path.components place) :
    space.resolve path = .ok place := by
  rw [resolve_of_isAbsolute habsolute hlength]
  exact h.walk maxLinks

/-- What led strictly down from the new root to the place for the old one leads to the old one. -/
theorem leads_exchange_old {old : Place} {names : List (List UInt8)} (hforest : space.Forest)
    (hfits : space.Fits new (space.seen old)) (h : space.Leads new names old) (hne : old ≠ new) :
    (space.exchange new (space.seen old)).Leads new names
      ((space.exchange new (space.seen old)).seen space.root) := by
  have htop := (h.eq_or_seen hforest).resolve_left hne
  have hold := leads_exchange_top hforest hfits h htop.symm .refl
  rw [htop] at hold ⊢
  exact hold.resolve_left hne.symm

theorem swapped_exchange {old : Place} (hforest : space.Forest)
    (hfits : space.Fits new (space.seen old)) :
    Swapped space (space.exchange new (space.seen old)) space.root new old where
  wasRoot := resolve_slash space
  isRoot := resolve_slash _
  isOld := by
    intro under habsolute hlength h hne
    exact resolve_of_leads habsolute hlength (leads_exchange_old hforest hfits h hne)
  seen_iff := seen_exchange_root_eq_iff hforest hfits
  seen_eq := seen_exchange_of_not_hangs_new hforest hfits .refl
  kept := by
    intro names place h houtside
    exact leads_exchange_root hforest hfits h .refl houtside
  reachable := by
    intro under inner place hunder hinner hlength h hne hseen hplace houtside
    apply resolve_of_leads (Path.isAbsolute_append hunder) hlength
    rw [Path.components_append hinner]
    apply (leads_exchange_old hforest hfits h hne).append
    rw [hseen]
    exact leads_exchange_root hforest hfits hplace .refl houtside

end MountSpace

/-! ## The forest in the kernel -/

namespace Kernel

variable {kernel after : Kernel} {request? : Option Request} {taken given : Nat → List UInt8}

theorem forest_arrange {step : MountStep} (hforest : kernel.mounts.Forest)
    (h : kernel.arrange step = .ok after) : after.mounts.Forest := by
  rw [arrange] at h
  split at h
  · cases h
  · cases hstep : kernel.mounts.apply step with
    | error errno =>
        rw [hstep] at h
        cases h
    | ok mounts =>
        rw [hstep] at h
        cases h
        exact hforest.apply hstep

/-- Of all requests, only a change of the root changes mounts. -/
theorem forest_grants {request : Request} {returned : Nat} (hforest : kernel.mounts.Forest)
    (h : kernel.Grants request returned after) : after.mounts.Forest := by
  cases h with
  | pivotRoot _ hpivot =>
      obtain ⟨new, old, -, -, hfits, rfl⟩ := MountSpace.pivotRoot_eq_ok hforest hpivot
      exact hforest.exchange hfits
  | _ => exact hforest

theorem Turn.forest (h : Turn kernel request? taken given after)
    (hforest : kernel.mounts.Forest) : after.mounts.Forest := by
  cases h with
  | served h => exact forest_grants hforest (grants_of_serve h)
  | wrote h =>
      obtain ⟨pipes, rfl⟩ := pipes_of_write h
      exact hforest
  | readOff h =>
      obtain ⟨pipes, rfl⟩ := pipes_of_read h
      exact hforest
  | forked h =>
      rw [(forks_of_fork h).after]
      exact hforest
  | _ => exact hforest

end Kernel

namespace Session

/-- A session in which mounts are laid out and calls made in turn. -/
def proceed (session : Session) : MountStep ⊕ Step → Session
  | .inl step => (session.arrange step).2
  | .inr step => (session.step step).2

def proceedAll (session : Session) (steps : List (MountStep ⊕ Step)) : Session :=
  steps.foldl proceed session

variable {session : Session}

theorem forest_proceed (hforest : session.host.kernel.mounts.Forest) (step : MountStep ⊕ Step) :
    (session.proceed step).host.kernel.mounts.Forest := by
  cases step with
  | inl step =>
      rw [proceed, arrange]
      cases h : session.host.kernel.arrange step with
      | error errno => exact hforest
      | ok kernel => exact Kernel.forest_arrange hforest h
  | inr step =>
      obtain ⟨request?, hturn, -⟩ := turns_step session step
      exact hturn.forest hforest

/-- **Whatever is laid out and called, mounts are a forest.** -/
theorem forest_proceedAll (hforest : session.host.kernel.mounts.Forest)
    (steps : List (MountStep ⊕ Step)) :
    (session.proceedAll steps).host.kernel.mounts.Forest := by
  rw [proceedAll]
  induction steps generalizing session with
  | nil => exact hforest
  | cons step steps ih =>
      rw [List.foldl_cons]
      exact ih (forest_proceed hforest step)

theorem unhindered_proceedAll (h : session.host.Unhindered) (steps : List (MountStep ⊕ Step)) :
    (session.proceedAll steps).host.Unhindered := by
  rw [proceedAll]
  induction steps generalizing session with
  | nil => exact h
  | cons step steps ih =>
      rw [List.foldl_cons]
      refine ih ?_
      cases step with
      | inl step =>
          rw [proceed, arrange]
          split
          · exact h
          · exact h
      | inr step =>
          rw [proceed, Host.Unhindered, refusals_step]
          exact h

end Session

/-! ## The call -/

/-- What a change of the root comes to. -/
structure Switches (host : Host) (newRoot putOld : Path) (result : Except SyscallError Unit)
    (after : Host) : Prop where
  swaps : result = .ok () → ∃ root new old, host.kernel.mounts.resolve newRoot = .ok new
    ∧ host.kernel.mounts.resolve putOld = .ok old
    ∧ MountSpace.Swapped host.kernel.mounts after.kernel.mounts root new old
  refuses : ¬host.kernel.mounts.IsMountPoint newRoot →
    ∃ errno, result = .error (.kernel .pivotRoot errno)
  unchanged : ∀ error, result = .error error → after.kernel = host.kernel

namespace Call

variable {host : Host} {newRoot putOld : CString}

theorem switches_pivotRoot (hforest : host.kernel.mounts.Forest) (newRoot putOld : CString) :
    Switches host newRoot.bytes putOld.bytes
      ((pivotRoot newRoot.bytes putOld.bytes).run.run host).1
      ((pivotRoot newRoot.bytes putOld.bytes).run.run host).2 := by
  cases hanswer : host.answer (.pivotRoot newRoot putOld) with
  | error number =>
      rw [run_pivotRoot_rejected hanswer]
      exact {
        swaps := nofun
        refuses := fun _ => ⟨.ofNumber number, rfl⟩
        unchanged := fun _ _ => rfl }
  | ok granted =>
      obtain ⟨returned, after⟩ := granted
      rw [run_pivotRoot_granted hanswer]
      cases Kernel.grants_of_serve (Host.serve_of_answer hanswer) with
      | pivotRoot _ hpivot =>
          rw [CString.readBack_memory, CString.readBack_memory] at hpivot
          obtain ⟨new, old, hnew, hold, hfits, rfl⟩ := MountSpace.pivotRoot_eq_ok hforest hpivot
          exact {
            swaps := fun _ => ⟨_, new, old, hnew, hold, MountSpace.swapped_exchange hforest hfits⟩
            refuses := by
              intro hno
              refine absurd ⟨new, hnew, hfits.isMountRoot_new, ?_⟩ hno
              exact Option.isSome_iff_exists.mpr hfits.attached_new
            unchanged := nofun }

/-- What can be said of the changed mounts can be said of the mounts after the call. -/
theorem run_pivotRoot_of_map {α : Type} {f : MountSpace → α} {found : α}
    (hown : host.refusal? (.pivotRoot newRoot putOld) = none) (hmay : host.kernel.mayMount = true)
    (h : (host.kernel.mounts.pivotRoot newRoot.bytes putOld.bytes).map f = .ok found) :
    ((pivotRoot newRoot.bytes putOld.bytes).run.run host).1 = .ok ()
      ∧ f ((pivotRoot newRoot.bytes putOld.bytes).run.run host).2.kernel.mounts = found := by
  cases hpivot : host.kernel.mounts.pivotRoot newRoot.bytes putOld.bytes with
  | error errno =>
      rw [hpivot] at h
      cases h
  | ok mounts =>
      rw [hpivot] at h
      rw [← newRoot.readBack_memory, ← putOld.readBack_memory] at hpivot
      rw [run_pivotRoot_granted
        (Host.answer_of_ok hown (Kernel.serve_of_grants (.pivotRoot hmay hpivot)))]
      exact ⟨rfl, Except.ok.inj h⟩

/-- **A change of the root swaps what two paths name.** However mounts have been laid out: where it
succeeds, `/` names what the new root was, and the place for the old root names what is seen on the
old root; if that is the old root itself, all that was outside the new root is found there under the
same names. A new root that is not a mount is refused, and nothing has changed. -/
theorem switches_run (kernel : Kernel) (hforest : kernel.mounts.Forest)
    (steps : List (MountStep ⊕ Step)) (newRoot putOld : Path) (hnew : (0 : UInt8) ∉ newRoot)
    (hold : (0 : UInt8) ∉ putOld) :
    let host := ((Session.start kernel).proceedAll steps).host
    Switches host newRoot putOld ((pivotRoot newRoot putOld).run.run host).1
      ((pivotRoot newRoot putOld).run.run host).2 :=
  switches_pivotRoot (Session.forest_proceedAll hforest steps) ⟨newRoot, hnew⟩ ⟨putOld, hold⟩

/-- A process that may change mounts, with `/proc` and `/tmp` of its own. -/
def secluded : Kernel :=
  { Kernel.boot 1 true with mounts := MountSpace.initial.applyAll MountSpace.privateLayout }

/-- Makes a directory with a place for the old root and mounts it over itself. -/
def boundSteps : List MountStep :=
  [.makeDirectory (Utf8.encode "/tmp/a"), .makeDirectory (Utf8.encode "/tmp/a/old"),
    .bind (Utf8.encode "/tmp/a")]

def secludedHost (steps : List MountStep) : Host :=
  ((Session.start secluded).proceedAll (steps.map .inl)).host

theorem unhindered_secludedHost (steps : List MountStep) : (secludedHost steps).Unhindered :=
  Session.unhindered_proceedAll (fun _ => rfl) _

theorem forest_secluded : secluded.mounts.Forest := MountSpace.forest_initial.applyAll _

/-- What is in the old root is found below the place for it. -/
theorem switches_run_bound :
    let newRoot := Utf8.encode "/tmp/a"
    let putOld := Utf8.encode "/tmp/a/old"
    let host := secludedHost boundSteps
    let done := (pivotRoot newRoot putOld).run.run host
    secluded.mounts.Forest ∧ (0 : UInt8) ∉ newRoot ∧ (0 : UInt8) ∉ putOld ∧ done.1 = .ok ()
      ∧ done.2.kernel.mounts.contains (Utf8.encode "/old/tmp") = true
      ∧ Switches host newRoot putOld done.1 done.2 := by
  intro newRoot putOld host done
  have hnew : (0 : UInt8) ∉ newRoot := by decide
  have hold : (0 : UInt8) ∉ putOld := by decide
  have hmay : (secludedHost boundSteps).kernel.mayMount = true := by cbv
  have hpivot : ((secludedHost boundSteps).kernel.mounts.pivotRoot (Utf8.encode "/tmp/a")
      (Utf8.encode "/tmp/a/old")).map (·.contains (Utf8.encode "/old/tmp")) = .ok true := by cbv
  obtain ⟨hok, hfound⟩ :=
    @run_pivotRoot_of_map host ⟨newRoot, hnew⟩ ⟨putOld, hold⟩ _ _ _
      ((unhindered_secludedHost _).refusal? _) hmay hpivot
  exact ⟨forest_secluded, hnew, hold, hok, hfound,
    switches_run secluded forest_secluded (boundSteps.map .inl) newRoot putOld hnew hold⟩

def overmountedSteps : List MountStep := boundSteps ++ [.mountEmpty (Utf8.encode "/")]

/-- Something mounted over the root directory hides what is in the old root. -/
theorem hides_run_overmounted :
    let host := secludedHost overmountedSteps
    let done := (pivotRoot (Utf8.encode "/tmp/a") (Utf8.encode "/tmp/a/old")).run.run host
    let before := host.kernel.mounts
    let after := done.2.kernel.mounts
    done.1 = .ok ()
      ∧ before.resolve (Utf8.encode "/tmp/a") = .ok ⟨4, 6⟩
      ∧ before.Leads ⟨4, 6⟩ (Path.components (Utf8.encode "/old")) ⟨4, 7⟩
      ∧ before.resolve (Utf8.encode "/tmp/a/old") = .ok ⟨4, 7⟩
      ∧ before.resolve (Utf8.encode "/") = .ok ⟨1, 1⟩
      ∧ after.resolve (Utf8.encode "/old") = .ok ⟨5, 8⟩
      ∧ before.contains (Utf8.encode "/tmp") = true
      ∧ after.contains (Utf8.encode "/old/tmp") = false := by
  intro host done before after
  have hmay : (secludedHost overmountedSteps).kernel.mayMount = true := by cbv
  have hpivot : ((secludedHost overmountedSteps).kernel.mounts.pivotRoot (Utf8.encode "/tmp/a")
      (Utf8.encode "/tmp/a/old")).map
        (fun space =>
          (space.resolve (Utf8.encode "/old"), space.contains (Utf8.encode "/old/tmp")))
      = .ok (.ok ⟨5, 8⟩, false) := by cbv
  obtain ⟨hok, hfound⟩ := @run_pivotRoot_of_map host ⟨Utf8.encode "/tmp/a", by decide⟩
    ⟨Utf8.encode "/tmp/a/old", by decide⟩ _ _ _ ((unhindered_secludedHost _).refusal? _) hmay hpivot
  obtain ⟨hold, hnone⟩ := Prod.mk.inj hfound
  have hdown : (secludedHost overmountedSteps).kernel.mounts.Leads ⟨4, 6⟩
      (Path.components (Utf8.encode "/old")) ⟨4, 7⟩ := by
    rw [MountSpace.leads_iff]
    constructor
    · decide
    · cbv
  refine ⟨hok, ?_, hdown, ?_, ?_, hold, ?_, hnone⟩
  · change (secludedHost overmountedSteps).kernel.mounts.resolve _ = _
    cbv
  · change (secludedHost overmountedSteps).kernel.mounts.resolve _ = _
    cbv
  · change (secludedHost overmountedSteps).kernel.mounts.resolve _ = _
    cbv
  · change (secludedHost overmountedSteps).kernel.mounts.contains _ = _
    cbv

end Call

end PidOne
