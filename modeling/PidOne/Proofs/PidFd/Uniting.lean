import Mathlib.Order.Lattice
import Mathlib.Order.BoundedOrder.Basic
import PidOne.Proofs.PidFd.Opening

/-!
# Uniting flags

A word of flags is the set of its bits, those that no flag is known for included. Sets of flags form
a join semilattice: they are ordered by containment, their union is the least set that contains
both, and the empty set is below all. The kernel judges a united word as it would judge its parts.
It takes the union if it takes every part, since what it takes are the sets below a largest one; and
the union asks for a descriptor that does not block if one of the parts does, since that flag is a
single bit, and what lies above a single bit is a prime filter.
-/

namespace PidOne

namespace PidFdFlags

variable {a b c : PidFdFlags}

/-! ## Sets of bits -/

def has (flags : PidFdFlags) (bit : Nat) : Bool := flags.bits.toBitVec.getLsbD bit

theorem eq_iff_has : a = b ↔ ∀ bit, a.has bit = b.has bit := by
  constructor
  · rintro rfl bit
    rfl
  · intro h
    have hbits : a.bits = b.bits := by
      apply UInt32.toBitVec_inj.mp
      apply BitVec.eq_of_getLsbD_eq
      intro bit hlt
      exact h bit
    cases a
    cases b
    cases hbits
    rfl

theorem has_or (bit : Nat) : (a ||| b).has bit = (a.has bit || b.has bit) := by
  have hbits : (a ||| b).bits.toBitVec = a.bits.toBitVec ||| b.bits.toBitVec :=
    UInt32.toBitVec_or ..
  rw [has, hbits, BitVec.getLsbD_or]
  rfl

theorem has_empty (bit : Nat) : (∅ : PidFdFlags).has bit = false := BitVec.getLsbD_zero

theorem contains_iff_has : a.contains b = true ↔ ∀ bit, b.has bit = true → a.has bit = true := by
  have hmeet : a.contains b = true ↔ (⟨a.bits &&& b.bits⟩ : PidFdFlags) = b := by
    rw [contains, beq_iff_eq]
    constructor
    · intro h
      rw [h]
    · intro h
      exact congrArg bits h
  rw [hmeet, eq_iff_has]
  apply forall_congr'
  intro bit
  have hbits : (⟨a.bits &&& b.bits⟩ : PidFdFlags).has bit = (a.has bit && b.has bit) := by
    rw [has, UInt32.toBitVec_and, BitVec.getLsbD_and]
    rfl
  rw [hbits]
  cases a.has bit <;> cases b.has bit <;> decide

theorem has_nonblock_iff (bit : Nat) : nonblock.has bit = true ↔ bit = 11 := by
  have hbits : nonblock.bits.toBitVec = BitVec.twoPow 32 11 := by decide
  rw [has, hbits, BitVec.getLsbD_twoPow]
  simp [eq_comm]

theorem contains_nonblock_iff_has : a.contains nonblock = true ↔ a.has 11 = true := by
  rw [contains_iff_has]
  constructor
  · intro h
    exact h 11 ((has_nonblock_iff 11).mpr rfl)
  · intro h bit hbit
    rw [(has_nonblock_iff bit).mp hbit]
    exact h

/-! ## The semilattice -/

instance : PartialOrder PidFdFlags where
  le a b := b.contains a = true
  le_refl a := contains_iff_has.mpr fun _ h => h
  le_trans a b c hab hbc := by
    rw [contains_iff_has] at hab hbc ⊢
    intro bit h
    exact hbc bit (hab bit h)
  le_antisymm a b hab hba := by
    rw [contains_iff_has] at hab hba
    rw [eq_iff_has]
    intro bit
    exact Bool.eq_iff_iff.mpr ⟨hab bit, hba bit⟩

theorem le_iff : a ≤ b ↔ b.contains a = true := Iff.rfl

theorem le_iff_has : a ≤ b ↔ ∀ bit, a.has bit = true → b.has bit = true := contains_iff_has

instance : SemilatticeSup PidFdFlags where
  sup a b := a ||| b
  le_sup_left a b := by
    rw [le_iff_has]
    intro bit h
    rw [has_or, h, Bool.true_or]
  le_sup_right a b := by
    rw [le_iff_has]
    intro bit h
    rw [has_or, h, Bool.or_true]
  sup_le a b c hac hbc := by
    rw [le_iff_has] at hac hbc ⊢
    intro bit h
    rw [has_or, Bool.or_eq_true] at h
    exact h.elim (hac bit) (hbc bit)

instance : OrderBot PidFdFlags where
  bot := ∅
  bot_le a := by
    rw [le_iff_has]
    intro bit h
    rw [has_empty] at h
    cases h

/-- Three sets of flags, united and compared. -/
structure Lattice (a b c : PidFdFlags) : Prop where
  or_assoc : a ||| b ||| c = a ||| (b ||| c)
  or_comm : a ||| b = b ||| a
  or_self : a ||| a = a
  empty_or : ∅ ||| a = a
  or_empty : a ||| ∅ = a
  contains_empty : a.contains ∅ = true
  contains_self : a.contains a = true
  contains_trans : c.contains b = true → b.contains a = true → c.contains a = true
  contains_antisymm : a.contains b = true ∧ b.contains a = true ↔ a = b
  contains_or_iff : c.contains (a ||| b) = true ↔ c.contains a = true ∧ c.contains b = true
  contains_iff_or : a.contains b = true ↔ a ||| b = a

theorem lattice (a b c : PidFdFlags) : Lattice a b c where
  or_assoc := sup_assoc a b c
  or_comm := sup_comm a b
  or_self := sup_idem a
  empty_or := bot_sup_eq a
  or_empty := sup_bot_eq a
  contains_empty := bot_le (a := a)
  contains_self := le_refl a
  contains_trans := by
    intro hcb hba
    exact le_trans (le_iff.mpr hba) hcb
  contains_antisymm := by
    constructor
    · rintro ⟨hab, hba⟩
      exact le_antisymm (le_iff.mpr hba) hab
    · rintro rfl
      exact ⟨le_refl a, le_refl a⟩
  contains_or_iff := sup_le_iff (a := a) (b := b) (c := c)
  contains_iff_or := (sup_eq_left (a := a) (b := b)).symm

/-! ## Nested unions -/

/-- Words that are united, nested in any way. -/
inductive Union where
  | word (bits : UInt32)
  | join (first second : Union)

namespace Union

def flags : Union → PidFdFlags
  | word bits => ⟨bits⟩
  | join first second => first.flags ||| second.flags

def words : Union → List UInt32
  | word bits => [bits]
  | join first second => first.words ++ second.words

theorem foldr_or (words : List UInt32) (start : UInt32) :
    words.foldr (· ||| ·) start = words.foldr (· ||| ·) 0 ||| start := by
  induction words with
  | nil => rw [List.foldr_nil, List.foldr_nil, UInt32.zero_or]
  | cons word rest ih => rw [List.foldr_cons, List.foldr_cons, ih, UInt32.or_assoc]

theorem bits_flags (union : Union) : union.flags.bits = union.words.foldr (· ||| ·) 0 := by
  induction union with
  | word bits => exact UInt32.or_zero.symm
  | join first second ihFirst ihSecond =>
      calc (first.flags ||| second.flags).bits
          = first.flags.bits ||| second.flags.bits := rfl
        _ = first.words.foldr (· ||| ·) 0 ||| second.words.foldr (· ||| ·) 0 := by
          rw [ihFirst, ihSecond]
        _ = first.words.foldr (· ||| ·) (second.words.foldr (· ||| ·) 0) := (foldr_or _ _).symm
        _ = (first.words ++ second.words).foldr (· ||| ·) 0 := List.foldr_append.symm

end Union

end PidFdFlags

/-! ## What the kernel makes of a union -/

namespace PidFd

open PidFdFlags (Union)

def Accepts (host : Host) (pid : Pid) (flags : PidFdFlags) : Prop :=
  ∃ pidfd after, (openPid pid flags).run.run host = (.ok pidfd, after)

/-- The call succeeds, and waiting on the descriptor it gives does not block. -/
def OpensNonblocking (host : Host) (pid : Pid) (flags : PidFdFlags) : Prop :=
  ∃ pidfd after file, (openPid pid flags).run.run host = (.ok pidfd, after)
    ∧ after.kernel.file? pidfd.fd = some file ∧ file.nonblock = true

variable {host : Host} {pid : Pid} {flags a b : PidFdFlags}

/-- What has to hold for a call to succeed. Whether a request is refused whatever it asks for does
not depend on its flags. -/
def Permits (host : Host) (pid : Pid) : Prop :=
  host.refusals host.requests.length = none ∧ 0 < pid ∧ host.kernel.hasProcess pid = true

theorem exists_run_openPid (hflags : flags ≤ host.kernel.openFlags) (h : Permits host pid) :
    ∃ pidfd after, (openPid pid flags).run.run host = (.ok pidfd, after)
      ∧ OpenedFor host.kernel pid flags pidfd after.kernel := by
  obtain ⟨hown, hpid, hprocess⟩ := h
  obtain ⟨birth, hbirth⟩ := Option.isSome_iff_exists.mp hprocess
  have hgrants := Kernel.Grants.pidfdOpen (PidFdFlags.contains_iff.mp hflags) hpid hbirth
  refine ⟨_, _, run_openPid_granted (Host.answer_of_ok hown (Kernel.serve_of_grants hgrants)), ?_⟩
  exact openedFor_openFile hbirth flags

theorem accepts_iff :
    Accepts host pid flags ↔ flags ≤ host.kernel.openFlags ∧ Permits host pid := by
  constructor
  · rintro ⟨pidfd, after, hrun⟩
    cases hanswer : host.answer (.pidfdOpen pid flags.bits) with
    | error number =>
        rw [run_openPid_rejected hanswer] at hrun
        cases hrun
    | ok granted =>
        obtain ⟨returned, kernel⟩ := granted
        have hown : host.refusals host.requests.length = none := Host.refusal?_of_answer hanswer
        cases Kernel.grants_of_serve (Host.serve_of_answer hanswer) with
        | pidfdOpen hflags hpid hbirth =>
            refine ⟨PidFdFlags.contains_iff.mpr hflags, hown, hpid, ?_⟩
            rw [Kernel.hasProcess, hbirth, Option.isSome_some]
  · rintro ⟨hflags, hpermits⟩
    obtain ⟨pidfd, after, hrun, -⟩ := exists_run_openPid hflags hpermits
    exact ⟨pidfd, after, hrun⟩

theorem opensNonblocking_iff :
    OpensNonblocking host pid flags
      ↔ Accepts host pid flags ∧ flags.contains .nonblock = true := by
  constructor
  · rintro ⟨pidfd, after, file, hrun, hfile, hnonblock⟩
    have haccepts : Accepts host pid flags := ⟨pidfd, after, hrun⟩
    obtain ⟨hflags, hpermits⟩ := accepts_iff.mp haccepts
    obtain ⟨pidfd', after', hrun', hopened⟩ := exists_run_openPid hflags hpermits
    -- a call has one outcome
    rw [hrun] at hrun'
    cases hrun'
    obtain ⟨birth, -, hopenedFile⟩ := hopened.file?
    rw [hopenedFile] at hfile
    cases hfile
    exact ⟨haccepts, hnonblock⟩
  · rintro ⟨haccepts, hnonblock⟩
    obtain ⟨hflags, hpermits⟩ := accepts_iff.mp haccepts
    obtain ⟨pidfd, after, hrun, hopened⟩ := exists_run_openPid hflags hpermits
    obtain ⟨birth, -, hfile⟩ := hopened.file?
    exact ⟨pidfd, after, _, hrun, hfile, hnonblock⟩

theorem accepts_or_iff :
    Accepts host pid (a ||| b) ↔ Accepts host pid a ∧ Accepts host pid b := by
  rw [accepts_iff, accepts_iff, accepts_iff, ← and_and_right]
  exact and_congr_left' sup_le_iff

theorem opensNonblocking_or_iff (h : Accepts host pid (a ||| b)) :
    OpensNonblocking host pid (a ||| b)
      ↔ OpensNonblocking host pid a ∨ OpensNonblocking host pid b := by
  obtain ⟨ha, hb⟩ := accepts_or_iff.mp h
  rw [opensNonblocking_iff, opensNonblocking_iff, opensNonblocking_iff, and_iff_right h,
    and_iff_right ha, and_iff_right hb, PidFdFlags.contains_nonblock_iff_has,
    PidFdFlags.contains_nonblock_iff_has, PidFdFlags.contains_nonblock_iff_has,
    PidFdFlags.has_or, Bool.or_eq_true]

theorem accepts_flags_iff (union : Union) :
    Accepts host pid union.flags ↔ ∀ word ∈ union.words, Accepts host pid ⟨word⟩ := by
  induction union with
  | word bits =>
      rw [Union.words, List.forall_mem_singleton]
      rfl
  | join first second ihFirst ihSecond =>
      calc Accepts host pid (first.flags ||| second.flags)
          ↔ Accepts host pid first.flags ∧ Accepts host pid second.flags := accepts_or_iff
        _ ↔ (∀ word ∈ first.words, Accepts host pid ⟨word⟩)
              ∧ ∀ word ∈ second.words, Accepts host pid ⟨word⟩ := and_congr ihFirst ihSecond
        _ ↔ ∀ word ∈ first.words ++ second.words, Accepts host pid ⟨word⟩ :=
          List.forall_mem_append.symm

/-- How unions of flags relate to each other, and to what a call with them opens. -/
structure RespectsUnions (host : Host) (pid : Pid) (a b c : Union) : Prop where
  bits : a.flags.bits = a.words.foldr (· ||| ·) 0
  lattice : PidFdFlags.Lattice a.flags b.flags c.flags
  accepts_or_iff : Accepts host pid (a.flags ||| b.flags)
    ↔ Accepts host pid a.flags ∧ Accepts host pid b.flags
  opensNonblocking_or_iff : Accepts host pid (a.flags ||| b.flags) →
    (OpensNonblocking host pid (a.flags ||| b.flags)
      ↔ OpensNonblocking host pid a.flags ∨ OpensNonblocking host pid b.flags)
  accepts_iff_words : Accepts host pid a.flags ↔ ∀ word ∈ a.words, Accepts host pid ⟨word⟩

/-- **Flags are a join semilattice, and opening respects it.** For all words and however they are
united: containment is a partial order with the union as least upper bound and the empty set below
all; and in every state a call with a union is accepted if and only if the calls with its parts
would be, and gives a descriptor that does not block if and only if one of these would. -/
theorem respectsUnions (host : Host) (pid : Pid) (a b c : Union) :
    RespectsUnions host pid a b c where
  bits := a.bits_flags
  lattice := PidFdFlags.lattice a.flags b.flags c.flags
  accepts_or_iff := PidFd.accepts_or_iff
  opensNonblocking_or_iff := PidFd.opensNonblocking_or_iff
  accepts_iff_words := accepts_flags_iff a

end PidFd

end PidOne
