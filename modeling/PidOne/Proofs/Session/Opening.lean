import Mathlib.Data.Fin.VecNotation
import Mathlib.Data.Fintype.Basic
import PidOne.Proofs.Kernel.Renumbering
import PidOne.Proofs.Session.Sharing

/-!
# Opening many process descriptors

Calls that open process descriptors may take effect in any order. Each of them succeeds, whatever
came before it, as none takes anything away that another one needs; which number it gets is decided
by its place in the order alone, and what the number stands for by the call alone. So the numbers
handed out are the same for every order, and another order only permutes them. Closing undoes this:
whatever is still to be closed stays open, and the table ends as it began.
-/

namespace PidOne

/-- A process descriptor that is asked for. -/
structure Opening where
  pid : Pid
  flags : PidFdFlags
  deriving DecidableEq, Repr

namespace Opening

/-- The open file that comes of it where there is such a process. -/
def file (opening : Opening) (kernel : Kernel) : OpenFile :=
  Kernel.pidfdFile ((kernel.birth? opening.pid).getD 0) opening.flags.bits

/-- There is such a process, and the flags are among those the kernel knows. -/
def Acceptable (opening : Opening) (kernel : Kernel) : Prop :=
  kernel.hasProcess opening.pid = true ∧ kernel.openFlags.contains opening.flags = true

instance (opening : Opening) (kernel : Kernel) : Decidable (opening.Acceptable kernel) :=
  inferInstanceAs (Decidable (_ ∧ _))

theorem Acceptable.exists_birth {opening : Opening} {kernel : Kernel}
    (h : opening.Acceptable kernel) : ∃ birth, kernel.birth? opening.pid = some birth
      ∧ opening.file kernel = Kernel.pidfdFile birth opening.flags.bits := by
  obtain ⟨birth, hbirth⟩ := Option.isSome_iff_exists.mp h.1
  exact ⟨birth, hbirth, by rw [file, hbirth, Option.getD_some]⟩

end Opening

/-- Opens process descriptors, one after the other. A call makes a single request, and that is where
it takes effect, so this stands for calls of several threads as well. -/
def PidFd.openAll (openings : List Opening) : Act (List (Except SyscallError PidFd)) :=
  openings.mapM fun opening => (PidFd.openPid opening.pid opening.flags).run

/-- Closes process descriptors, one after the other. -/
def PidFd.closeAll (pidfds : List PidFd) : Act (List (Except GuardError Unit)) :=
  pidfds.mapM PidFd.close

variable {host : Host} {count : Nat}

/-! ## Running the calls -/

theorem run_mapM_cons {α β : Type} {act : α → Act β} {first : α} {rest : List α} {answer : β}
    {answers : List β} {between after : Host} (hfirst : (act first).run host = (answer, between))
    (hrest : (rest.mapM act).run between = (answers, after)) :
    ((first :: rest).mapM act).run host = (answer :: answers, after) := by
  rw [List.mapM_cons, run_bind hfirst, run_bind hrest]
  rfl

namespace PidFd

theorem run_openPid_acceptable (hown : host.Unhindered) (horderly : host.kernel.Orderly)
    {opening : Opening} (h : opening.Acceptable host.kernel) :
    ∃ after, (openPid opening.pid opening.flags).run.run host
        = (.ok (holding ⟨host.kernel.table.fresh 0⟩ opening.pid), after)
      ∧ after.Unhindered ∧ after.kernel = (host.kernel.openFile (opening.file host.kernel)).2 := by
  obtain ⟨birth, hbirth, hfile⟩ := h.exists_birth
  have hgrants := Kernel.Grants.pidfdOpen (PidFdFlags.contains_iff.mp h.2)
    (horderly.pos_of_birth? hbirth) hbirth
  have hanswer := Host.answer_of_ok (hown.refusal? _) (Kernel.serve_of_grants hgrants)
  rw [hfile]
  exact ⟨_, run_openPid_granted hanswer, hown, rfl⟩

theorem run_openAll (hown : host.Unhindered) (horderly : host.kernel.Orderly)
    (openings : Fin count → Opening)
    (hacceptable : ∀ index, (openings index).Acceptable host.kernel) :
    ∃ after, (openAll (List.ofFn openings)).run host
        = (List.ofFn fun place : Fin count =>
            .ok (holding ⟨host.kernel.table.fresh place⟩ (openings place).pid), after)
      ∧ after.kernel
        = host.kernel.openFiles (List.ofFn fun place => (openings place).file host.kernel) := by
  induction count generalizing host with
  | zero => exact ⟨host, rfl, rfl⟩
  | succ count ih =>
      obtain ⟨between, hfirst, hnext, hbetween⟩ :=
        run_openPid_acceptable hown horderly (hacceptable 0)
      -- neither the processes nor what is asked of them have changed
      have hrest : ∀ place : Fin count, (openings place.succ).Acceptable between.kernel := by
        intro place
        rw [hbetween]
        exact hacceptable place.succ
      have hfiles : ∀ place : Fin count,
          (openings place.succ).file between.kernel = (openings place.succ).file host.kernel := by
        intro place
        rw [hbetween]
        rfl
      obtain ⟨after, hrun, hafter⟩ := ih hnext (hbetween ▸ horderly.openFile _) _ hrest
      simp only [hfiles] at hafter
      have hfresh : ∀ place, between.kernel.table.fresh place
          = host.kernel.table.fresh (place + 1) := by
        intro place
        rw [hbetween, Kernel.table_openFile, FdTable.fresh_insert]
      simp only [hfresh] at hrun
      refine ⟨after, ?_, ?_⟩
      · rw [List.ofFn_succ, List.ofFn_succ]
        exact run_mapM_cons hfirst hrun
      · rw [hafter, hbetween, List.ofFn_succ, Kernel.openFiles_cons]

/-- A descriptor that is open is closed, and all others stay. -/
theorem run_close_holding {fd : Nat} (hopen : host.kernel.isOpen fd = true) (pid : Pid) :
    ∃ after, (close (holding ⟨fd⟩ pid)).run host = (.ok (), after)
      ∧ after.kernel = host.kernel.without fd := by
  have hclose : close (holding ⟨fd⟩ pid) = (holding ⟨fd⟩ pid).guard.shut fd :=
    Guard.close_of_held rfl
  rw [hclose]
  exact ⟨_, Guard.run_shut_open _ hopen, rfl⟩

theorem run_closeAll {numbers : Fin count → Nat} (hinjective : Function.Injective numbers)
    (hopen : ∀ index, host.kernel.isOpen (numbers index) = true) (pids : Fin count → Pid) :
    ∃ after, (closeAll (List.ofFn fun place => holding ⟨numbers place⟩ (pids place))).run host
        = (List.replicate count (.ok ()), after)
      ∧ (∀ index, after.kernel.table.get? (numbers index) = none)
      ∧ ∀ fd ∉ Set.range numbers, after.kernel.table.get? fd = host.kernel.table.get? fd := by
  induction count generalizing host with
  | zero => exact ⟨host, rfl, fun index => index.elim0, fun _ _ => rfl⟩
  | succ count ih =>
      obtain ⟨between, hfirst, hbetween⟩ := run_close_holding (hopen 0) (pids 0)
      have htable : ∀ fd, between.kernel.table.get? fd
          = if fd = numbers 0 then none else host.kernel.table.get? fd := by
        intro fd
        rw [hbetween]
        exact FdTable.get?_erase _ _ _
      have hne : ∀ place : Fin count, numbers place.succ ≠ numbers 0 := by
        intro place hsame
        exact Fin.succ_ne_zero place (hinjective hsame)
      have hrest : ∀ place : Fin count, between.kernel.isOpen (numbers place.succ) = true := by
        intro place
        rw [Kernel.isOpen_ofNat, htable, if_neg (hne place), ← Kernel.isOpen_ofNat]
        exact hopen place.succ
      obtain ⟨after, hrun, hclosed, hkept⟩ :=
        ih (hinjective.comp (Fin.succ_injective count)) hrest fun place => pids place.succ
      refine ⟨after, ?_, ?_, ?_⟩
      · rw [List.ofFn_succ]
        exact run_mapM_cons hfirst hrun
      · intro index
        cases index using Fin.cases with
        | zero =>
            -- the first number is not among those closed later
            rw [hkept, htable, if_pos rfl]
            rintro ⟨place, hsame⟩
            exact hne place hsame
        | succ place => exact hclosed place
      · intro fd hfd
        rw [hkept, htable, if_neg]
        · rintro rfl
          exact hfd ⟨0, rfl⟩
        · rintro ⟨place, rfl⟩
          exact hfd ⟨place.succ, rfl⟩

end PidFd

/-! ## The result -/

/-- What holds of a process descriptor that has just been opened. -/
structure Opened (before : Kernel) (opening : Opening) (pidfd : PidFd) (after : Kernel) : Prop where
  pid : pidfd.pid = opening.pid
  active : pidfd.guard.borrow? = some pidfd.fd
  wasFree : before.isOpen pidfd.fd = false
  /-- It refers to the process, and blocks or not as the flags say. -/
  file? : ∃ birth, before.birth? opening.pid = some birth
    ∧ after.file? pidfd.fd = some ⟨.pidfd birth, opening.flags.contains .nonblock⟩

/-- What some calls come to when they take effect in the given order. The results are listed as the
calls are, whichever came first. -/
structure AllOpened (host : Host) (openings : Fin count → Opening)
    (order : Equiv.Perm (Fin count)) (numbers : Finset Nat) (pidfds : Fin count → PidFd)
    (after : Host) : Prop where
  run : (PidFd.openAll (List.ofFn fun place => openings (order place))).run host
    = (List.ofFn fun place => .ok (pidfds (order place)), after)
  opened : ∀ index, Opened host.kernel (openings index) (pidfds index) after.kernel
  distinct : Function.Injective fun index => (pidfds index).fd
  numbers : Finset.univ.image (fun index => (pidfds index).fd) = numbers
  /-- Closed again in any order, they leave the table as it was. -/
  closed : ∀ closing : Equiv.Perm (Fin count), ∃ last,
    (PidFd.closeAll (List.ofFn fun place => pidfds (closing place))).run after
        = (List.replicate count (.ok ()), last)
      ∧ ∀ fd, last.kernel.table.get? fd = host.kernel.table.get? fd

/-- The order in which the calls take effect decides nothing but who gets which number. -/
structure OpensCommute (host : Host) (openings : Fin count → Opening) (numbers : Finset Nat)
    (pidfds : Equiv.Perm (Fin count) → Fin count → PidFd)
    (after : Equiv.Perm (Fin count) → Host) : Prop where
  card : numbers.card = count
  lowest : host.kernel.table.Lowest numbers
  opened : ∀ order, AllOpened host openings order numbers (pidfds order) (after order)
  /-- Another order comes to the same kernel, but that each call has the number it got there. -/
  same : ∀ order other, ∃ number file,
    (after order).kernel.Renumbers numbers number file (after other).kernel
      ∧ ∀ index, number (pidfds order index).fd = (pidfds other index).fd

namespace Opening

variable (host) (openings : Fin count → Opening) (order : Equiv.Perm (Fin count))

/-- The process descriptor that a call returns: its number is that of its place in the order. -/
def given (index : Fin count) : PidFd :=
  PidFd.holding ⟨host.kernel.numberAt count (order.symm index)⟩ (openings index).pid

theorem given_order (place : Fin count) :
    given host openings order (order place)
      = PidFd.holding ⟨host.kernel.table.fresh place⟩ (openings (order place)).pid := by
  rw [given, Equiv.symm_apply_apply]
  rfl

theorem injective_given : Function.Injective fun index => (given host openings order index).fd := by
  intro first second hsame
  exact order.symm.injective ((host.kernel.numberAt count).injective hsame)

theorem image_given :
    Finset.univ.image (fun index => (given host openings order index).fd)
      = host.kernel.table.freshNumbers count := by
  ext fd
  rw [← Kernel.mem_range_numberAt, Finset.mem_image, Set.mem_range]
  constructor
  · rintro ⟨index, -, rfl⟩
    exact ⟨order.symm index, rfl⟩
  · rintro ⟨place, rfl⟩
    exact ⟨order place, Finset.mem_univ _, by rw [given_order]; rfl⟩

variable {host openings order}

theorem opened_given {after : Kernel}
    (hacceptable : ∀ index, (openings index).Acceptable host.kernel)
    (hafter : after = host.kernel.openFiles
      (List.ofFn fun place => (openings (order place)).file host.kernel))
    (index : Fin count) :
    Opened host.kernel (openings index) (given host openings order index) after where
  pid := rfl
  active := rfl
  wasFree := by
    have hfree : host.kernel.table.get? (given host openings order index).fd = none :=
      host.kernel.table.get?_fresh _
    rw [Kernel.isOpen_ofNat, hfree, Option.isSome_none]
  file? := by
    have hfile : after.file? (host.kernel.numberAt count (order.symm index))
        = some ((openings (order (order.symm index))).file host.kernel) := by
      rw [hafter]
      exact Kernel.file?_numberAt _
    obtain ⟨birth, hbirth, hmade⟩ := (hacceptable index).exists_birth
    rw [Equiv.apply_symm_apply, hmade, Kernel.pidfdFile_bits] at hfile
    exact ⟨birth, hbirth, hfile⟩

theorem restored_given {between : Host}
    (hafter : between.kernel
      = host.kernel.openFiles
        (List.ofFn fun place => (openings (order place)).file host.kernel))
    (closing : Equiv.Perm (Fin count)) :
    ∃ last, (PidFd.closeAll (List.ofFn fun place =>
          given host openings order (closing place))).run between
        = (List.replicate count (.ok ()), last)
      ∧ ∀ fd, last.kernel.table.get? fd = host.kernel.table.get? fd := by
  let numbers := fun place => host.kernel.numberAt count (order.symm (closing place))
  have hinjective : Function.Injective numbers :=
    (host.kernel.numberAt count).injective.comp (order.symm.injective.comp closing.injective)
  have hopen : ∀ place, between.kernel.isOpen (numbers place) = true := by
    intro place
    rw [Kernel.isOpen_ofNat, hafter, Kernel.get?_numberAt, Option.isSome_some]
  obtain ⟨last, hrun, hclosed, hkept⟩ :=
    PidFd.run_closeAll hinjective hopen fun place => (openings (closing place)).pid
  refine ⟨last, hrun, ?_⟩
  intro fd
  by_cases hfd : fd ∈ Set.range (host.kernel.numberAt count)
  · obtain ⟨place, rfl⟩ := hfd
    have hlast := hclosed (closing.symm (order place))
    simp only [numbers, Equiv.apply_symm_apply, Equiv.symm_apply_apply] at hlast
    rw [hlast]
    exact (host.kernel.table.get?_fresh place).symm
  · have hother : fd ∉ Set.range numbers := by
      rintro ⟨place, rfl⟩
      exact hfd ⟨_, rfl⟩
    rw [hkept fd hother, hafter, Kernel.get?_of_notMem_range hfd]

theorem allOpened (hown : host.Unhindered) (horderly : host.kernel.Orderly)
    (hacceptable : ∀ index, (openings index).Acceptable host.kernel)
    (order : Equiv.Perm (Fin count)) :
    ∃ after, AllOpened host openings order (host.kernel.table.freshNumbers count)
        (given host openings order) after
      ∧ after.kernel = host.kernel.openFiles
        (List.ofFn fun place => (openings (order place)).file host.kernel) := by
  obtain ⟨after, hrun, hkernel⟩ :=
    PidFd.run_openAll hown horderly _ fun place => hacceptable (order place)
  refine ⟨after, ?_, hkernel⟩
  exact {
    run := by
      simp only [given_order]
      exact hrun
    opened := opened_given hacceptable hkernel
    distinct := injective_given host openings order
    numbers := image_given host openings order
    closed := restored_given hkernel }

end Opening

theorem opensCommute (hown : host.Unhindered) (horderly : host.kernel.Orderly)
    {openings : Fin count → Opening}
    (hacceptable : ∀ index, (openings index).Acceptable host.kernel) :
    ∃ numbers pidfds after, OpensCommute host openings numbers pidfds after := by
  choose after hopened hkernel using Opening.allOpened hown horderly hacceptable
  refine ⟨host.kernel.table.freshNumbers count, Opening.given host openings, after, ?_⟩
  exact {
    card := host.kernel.table.card_freshNumbers count
    lowest := host.kernel.table.lowest_freshNumbers count
    opened := hopened
    same := by
      intro order other
      -- what took effect at one place of an order did so at this place of the other one
      let places : Equiv.Perm (Fin count) := order.trans other.symm
      refine ⟨places.viaEmbedding (host.kernel.numberAt count),
        places.viaEmbedding (host.kernel.placeOf count), ?_, ?_⟩
      · rw [hkernel order, hkernel other]
        apply Kernel.renumbers_openFiles horderly places
        intro place
        rw [Equiv.trans_apply, Equiv.apply_symm_apply]
      · intro index
        have hplace : places (order.symm index) = other.symm index := by
          rw [Equiv.trans_apply, Equiv.apply_symm_apply]
        have hnumber := places.viaEmbedding_apply (host.kernel.numberAt count) (order.symm index)
        rw [hplace] at hnumber
        exact hnumber }

namespace Session

theorem orderly_run {kernel : Kernel} (h : kernel.Orderly) (steps : List Step) :
    ((start kernel).run steps).host.kernel.Orderly := by
  apply invariant_run _ h
  intro before request? taken given after hturn horderly
  exact hturn.orderly horderly

/-- **Opens commute.** Wherever a run has come to, calls that open process descriptors of processes
there are succeed in every order, each with a descriptor for the process it names; the numbers are
the lowest free ones, and any two orders come to the same kernel but for who has which of them. -/
theorem opensCommute_run (kernel : Kernel) (horderly : kernel.Orderly) (steps : List Step)
    (openings : Fin count → Opening)
    (hacceptable : ∀ index, (openings index).Acceptable ((start kernel).run steps).host.kernel) :
    ∃ numbers pidfds after,
      OpensCommute ((start kernel).run steps).host openings numbers pidfds after :=
  opensCommute (unhindered_run (unhindered_start kernel) steps) (orderly_run horderly steps)
    hacceptable

/-- One process is named twice, and the lowest free number is that of a stream that was closed. -/
theorem opensCommute_run_hole :
    let kernel := Kernel.boot 100 false
    let steps : List Step := [.spawn "child", .closeNumber (.number 1)]
    let openings : Fin 3 → Opening :=
      ![⟨101, .nonblock⟩, ⟨100, .empty⟩, ⟨101, .empty⟩]
    kernel.Orderly
      ∧ (∀ index, (openings index).Acceptable ((start kernel).run steps).host.kernel)
      ∧ ∃ numbers pidfds after,
        OpensCommute ((start kernel).run steps).host openings numbers pidfds after := by
  intro kernel steps openings
  have horderly : kernel.Orderly := Kernel.orderly_boot (by decide) false
  have hacceptable : ∀ index,
      (openings index).Acceptable ((start kernel).run steps).host.kernel := by decide
  exact ⟨horderly, hacceptable, opensCommute_run kernel horderly steps openings hacceptable⟩

end Session

end PidOne
