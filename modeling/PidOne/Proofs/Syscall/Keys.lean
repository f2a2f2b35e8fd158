import PidOne.Syscall.Json
import PidOne.Proofs.Config.Members

/-!
# The texts that are read as a system call

A call has two names, one for JSON and one for messages, and the two tables agree on three calls
only. The grammar is therefore stated for any name: what a text names is a fact about the text, and
the reader takes the texts that name a key. A name of the kernel's is a key of its own call or of
none, so a text is never taken for another call than the one it names.
-/

namespace PidOne.Syscall

open Json
open Config (Text Name)

variable {call other : Syscall} {name key : String} {text rest : List UInt8}

/-! ## The grammar -/

/-- The word for nothing, with the blanks in front of it. -/
def Null : Rule := fun text rest => ∃ start, Blanks text start ∧ Word "null" start rest

/-- A name as a string, or as the key of an object's one member, which holds nothing. -/
inductive Form (name : String) : Rule
  | string {text rest : List UInt8} (hname : Text name text rest) : Form name text rest
  | object {text inner start after rest : List UInt8} (hopen : Token 0x7b text inner)
      (hname : Name name inner start) (hnull : Null start after) (hclose : Token 0x7d after rest) :
      Form name text rest

/-- A whole text that names something, with nothing but blanks around it. -/
def Document (name : String) (text : List UInt8) : Prop :=
  ∃ rest, Form name text rest ∧ Blanks rest []

/-- A name in camel case, with its words separated instead of capitalized. -/
def snakeCase (name : String) : String :=
  match name.toList with
  | [] => ""
  | first :: chars => .ofList
      (first.toLower :: chars.flatMap fun c => if c.isUpper then ['_', c.toLower] else [c])

/-! ## Keys -/

theorem key_eq_snakeCase (call : Syscall) : call.key = snakeCase call.debug := by
  cases call <;> decide

theorem ofKey?_eq_some_iff : ofKey? key = some call ↔ key = call.key := by
  constructor
  · intro h
    have hfound := List.find?_some h
    exact (beq_iff_eq.mp hfound).symm
  · rintro rfl
    exact ofKey?_key call

/-- A name of the kernel's is no key of another call. -/
theorem key_eq_name_iff : other.key = call.name ↔ other = call ∧ call.name = call.key := by
  constructor
  · intro h
    have heq : other = call := by
      cases other <;> cases call <;> first | rfl | exact absurd h (by decide)
    rw [heq] at h
    exact ⟨heq, h.symm⟩
  · rintro ⟨rfl, h⟩
    exact h.symm

theorem ofKey_eq_ok_iff : ofKey key rest = .ok call ↔ key = call.key := by
  rw [← ofKey?_eq_some_iff, ofKey]
  cases ofKey? key with
  | none => exact ⟨nofun, nofun⟩
  | some found => rw [Except.ok.injEq, Option.some.injEq]

/-! ## What is read -/

theorem readNull_eq_ok_iff : readNull text = .ok rest ↔ Null text rest := by
  constructor
  · intro h
    unfold readNull at h
    split at h
    · cases h
    next b tail hblank =>
    split at h
    · next hletter =>
      obtain rfl := beq_iff_eq.mp hletter
      exact ⟨_, token_of_skipBlank hblank, (word_iff encode_null).mpr ⟨tail, rfl, h⟩⟩
    · cases h
  · rintro ⟨start, hblanks, hword⟩
    obtain ⟨after, rfl, hread⟩ := (word_iff encode_null).mp hword
    rw [readNull, skipBlank_of_token hblanks rfl]
    exact hread

theorem readMember_eq_ok_iff : readMember text = .ok (call, rest)
    ↔ ∃ start after, Name call.key text start ∧ Null start after ∧ Token 0x7d after rest := by
  constructor
  · intro h
    unfold readMember at h
    split at h
    · cases h
    next b tail hblank =>
    split at h
    · next hquote =>
      obtain rfl := beq_iff_eq.mp hquote
      simp only [bind_eq_ok_iff, ofKey_eq_ok_iff] at h
      obtain ⟨⟨key, behind⟩, hkey, found, rfl, start, hcolon, after, hnull, h⟩ := h
      split at h
      · cases h
      next c last hlast =>
      split at h
      · next hclose =>
        obtain rfl := beq_iff_eq.mp hclose
        cases h
        have hname : Text call.key text behind :=
          ⟨tail, token_of_skipBlank hblank, Quoted.read_eq_ok_iff.mp hkey⟩
        exact ⟨start, after, ⟨behind, hname, colon_eq_ok_iff.mp hcolon⟩,
          readNull_eq_ok_iff.mp hnull, token_of_skipBlank hlast⟩
      · cases h
    split at h
    · cases h
    · cases h
  · rintro ⟨start, after, ⟨behind, ⟨inner, hquote, hspelled⟩, hcolon⟩, hnull, hclose⟩
    rw [readMember, skipBlank_of_token hquote rfl]
    simp only [beq_self_eq_true, if_true, Quoted.read_eq_ok_iff.mpr hspelled,
      ofKey_eq_ok_iff.mpr rfl, colon_eq_ok_iff.mpr hcolon, readNull_eq_ok_iff.mpr hnull,
      skipBlank_of_token hclose rfl, bind, Except.bind]

theorem readValue_eq_ok_iff : readValue text = .ok (call, rest) ↔ Form call.key text rest := by
  constructor
  · intro h
    unfold readValue at h
    split at h
    · cases h
    next b tail hblank =>
    split at h
    · next hquote =>
      obtain rfl := beq_iff_eq.mp hquote
      simp only [bind_eq_ok_iff, ofKey_eq_ok_iff] at h
      obtain ⟨⟨key, behind⟩, hkey, found, rfl, h⟩ := h
      cases h
      exact .string ⟨tail, token_of_skipBlank hblank, Quoted.read_eq_ok_iff.mp hkey⟩
    split at h
    · next hopen =>
      obtain rfl := beq_iff_eq.mp hopen
      obtain ⟨start, after, hname, hnull, hclose⟩ := readMember_eq_ok_iff.mp h
      exact .object (token_of_skipBlank hblank) hname hnull hclose
    · cases h
  · intro h
    cases h with
    | string hname =>
        obtain ⟨inner, hquote, hspelled⟩ := hname
        rw [readValue, skipBlank_of_token hquote rfl]
        simp only [beq_self_eq_true, if_true, Quoted.read_eq_ok_iff.mpr hspelled,
          ofKey_eq_ok_iff.mpr rfl, bind, Except.bind]
        rfl
    | object hopen hname hnull hclose =>
        rw [readValue, skipBlank_of_token hopen rfl]
        exact readMember_eq_ok_iff.mpr ⟨_, _, hname, hnull, hclose⟩

theorem read_eq_ok_iff : read text = .ok call ↔ Document call.key text := by
  rw [read, readWhole_eq_ok_iff]
  exact exists_congr fun rest => and_congr_left' readValue_eq_ok_iff

/-! ## Names -/

theorem Form.unique (h : Form name text rest) {other : String} {behind : List UInt8}
    (hother : Form other text behind) : name = other := by
  cases h with
  | string hname =>
      cases hother with
      | string hname' => exact (hname.unique hname').1
      | object hopen' =>
          have hquote := skipBlank_of_token hname.choose_spec.1 rfl
          rw [skipBlank_of_token hopen' rfl] at hquote
          cases hquote
  | object hopen hname =>
      have hbrace := skipBlank_of_token hopen rfl
      cases hother with
      | string hname' =>
          rw [skipBlank_of_token hname'.choose_spec.1 rfl] at hbrace
          cases hbrace
      | object hopen' hname' =>
          rw [skipBlank_of_token hopen' rfl] at hbrace
          cases hbrace
          obtain ⟨behind, htext, -⟩ := hname
          obtain ⟨behind', htext', -⟩ := hname'
          exact (htext.unique htext').1

theorem Document.unique (h : Document name text) {other : String} (hother : Document other text) :
    name = other := by
  obtain ⟨rest, hform, -⟩ := h
  obtain ⟨behind, hform', -⟩ := hother
  exact hform.unique hform'

theorem document_quoted (name : String) : Document name (Utf8.encode (Quoted.write name)) := by
  refine ⟨[], .string ⟨_, ⟨[], Quoted.encode_write name, nofun⟩, ?_⟩, [], rfl, nofun⟩
  exact Quoted.read_eq_ok_iff.mp (Quoted.read_body name [])

/-- **A call is read by its grammar.** A text is read exactly when it names the key of a call, as a
string or as the one key of an object, and then as that call. It names one thing at most. A text
that names a call as the kernel does is read only where that name is the call's key too, and what
is written for a call is read as the call. The keys are the calls' names in snake case. -/
theorem reads_keys :
    (∀ text call, read text = .ok call ↔ Document call.key text)
      ∧ (∀ text name other, Document name text → Document other text → name = other)
      ∧ (∀ text call, Document call.name text →
        ∀ found, read text = .ok found ↔ found = call ∧ call.name = call.key)
      ∧ (∀ call : Syscall, read (Utf8.encode call.write) = .ok call)
      ∧ ∀ call : Syscall, call.key = snakeCase call.debug := by
  refine ⟨fun text call => read_eq_ok_iff, fun text name other h hother => h.unique hother, ?_,
    fun call => read_eq_ok_iff.mpr (document_quoted call.key), key_eq_snakeCase⟩
  intro text call hname found
  rw [read_eq_ok_iff, ← key_eq_name_iff]
  constructor
  · intro hkey
    exact hkey.unique hname
  · intro heq
    rw [heq]
    exact hname

/-- What the kernel calls a request that has arguments is no key. -/
theorem reads_keys_arguments : Document "prctl(PR_SET_CHILD_SUBREAPER)"
      (Utf8.encode "\"prctl(PR_SET_CHILD_SUBREAPER)\"")
    ∧ ∀ found, read (Utf8.encode "\"prctl(PR_SET_CHILD_SUBREAPER)\"") ≠ .ok found := by
  have hdocument : Document (name .setChildSubreaper)
      (Utf8.encode "\"prctl(PR_SET_CHILD_SUBREAPER)\"") := by
    have hquoted : "\"prctl(PR_SET_CHILD_SUBREAPER)\""
        = Quoted.write (name .setChildSubreaper) := by
      decide
    rw [hquoted]
    exact document_quoted _
  refine ⟨hdocument, fun found hread => ?_⟩
  have hkey := ((reads_keys.2.2.1 _ _ hdocument found).mp hread).2
  exact absurd hkey (by decide)

end PidOne.Syscall
