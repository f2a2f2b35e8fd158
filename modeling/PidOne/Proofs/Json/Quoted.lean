import PidOne.Json.Quoted
import PidOne.Proofs.Text.Utf8

/-!
# JSON strings are read as they are written

The writer goes over characters and the reader over bytes, so they are compared character by
character: the bytes that the writer makes of a character bring the reader to that character's own
bytes. There are three kinds of characters: those with an escape of one letter, the other control
characters, and all else, whose bytes the reader takes as they are.
-/

namespace PidOne.Json.Quoted

variable {before text after rest : List UInt8} {b : UInt8} {c : Char}

/-! ## The reader -/

theorem readBody_quote (before rest : List UInt8) :
    readBody before (0x22 :: rest) = .ok (before.reverse, rest) := by
  rw [readBody]
  exact if_pos rfl

theorem readBody_escape (h : escape text = .ok (c, after)) (before : List UInt8) :
    readBody before (0x5c :: text)
      = readBody ((String.utf8EncodeChar c).reverse ++ before) after := by
  rw [readBody, if_neg (by decide), if_pos (by decide)]
  split
  · next herror =>
    rw [h] at herror
    cases herror
  · next hread =>
    rw [h] at hread
    cases hread
    rfl

/-- A byte that stands for itself. -/
def Plain (b : UInt8) : Prop := b ≠ 0x22 ∧ b ≠ 0x5c ∧ 0x20 ≤ b.toNat

theorem readBody_plain (h : Plain b) (before rest : List UInt8) :
    readBody before (b :: rest) = readBody (b :: before) rest := by
  obtain ⟨hquote, hbackslash, hcontrol⟩ := h
  have hge : ¬ b < 0x20 := by
    rw [UInt8.lt_iff_toNat_lt]
    exact Nat.not_lt.mpr hcontrol
  rw [readBody, if_neg (by simpa using hquote), if_neg (by simpa using hbackslash), if_neg hge]

theorem readBody_plains {bytes : List UInt8} (h : ∀ b ∈ bytes, Plain b)
    (before rest : List UInt8) :
    readBody before (bytes ++ rest) = readBody (bytes.reverse ++ before) rest := by
  induction bytes generalizing before with
  | nil => rfl
  | cons b bytes ih =>
      obtain ⟨hfirst, hrest⟩ := List.forall_mem_cons.mp h
      rw [List.cons_append, readBody_plain hfirst, ih hrest, List.reverse_cons, List.append_assoc,
        List.singleton_append]

/-! ## Escapes -/

theorem escape_short (h : short? b = some c) (rest : List UInt8) :
    escape (b :: rest) = .ok (c, rest) := by
  rw [escape, h]

/-- A digit is written as one byte, which is read as the digit. -/
theorem hexDigit?_digit : ∀ n < 16, String.utf8EncodeChar (digit n) = [.ofNat (digit n).toNat]
    ∧ hexDigit? (.ofNat (digit n).toNat) = some n := by
  decide

theorem escape_control {n : Nat} (h : n < 0x20) (rest : List UInt8) :
    escape (0x75 :: 0x30 :: 0x30 :: .ofNat (digit (n / 16)).toNat :: .ofNat (digit (n % 16)).toNat
      :: rest) = .ok (Char.ofNat n, rest) := by
  obtain ⟨-, hhigh⟩ := hexDigit?_digit (n / 16) (by omega)
  obtain ⟨-, hlow⟩ := hexDigit?_digit (n % 16) (by omega)
  have hzero : hexDigit? 0x30 = some 0 := rfl
  have hvalue : ((0 * 16 + 0) * 16 + n / 16) * 16 + n % 16 = n := by omega
  have hunit : unit (0x30 :: 0x30 :: .ofNat (digit (n / 16)).toNat
      :: .ofNat (digit (n % 16)).toNat :: rest) = .ok (n, rest) := by
    rw [unit, hex?, hzero, hhigh, hlow]
    simp only [hvalue]
  have hshort : short? 0x75 = none := rfl
  have hsurrogate : ¬ (0xdc00 ≤ n && n ≤ 0xdfff) = true := by simp; omega
  have hfirst : ¬ (0xd800 ≤ n && n ≤ 0xdbff) = true := by simp; omega
  rw [escape, hshort]
  simp only [hunit, if_neg hsurrogate, if_neg hfirst]
  rfl

/-! ## Characters -/

theorem plain_utf8EncodeChar (hquote : c ≠ '"') (hbackslash : c ≠ '\\') (hcontrol : 0x20 ≤ c.toNat) :
    ∀ b ∈ String.utf8EncodeChar c, Plain b := by
  intro b hmem
  have hne : ∀ other : Char, other.toNat < 0x80 → c ≠ other → b.toNat ≠ other.toNat := by
    intro other hother hc hb
    rcases Utf8.mem_utf8EncodeChar hmem with heq | hge
    · exact hc (Char.toNat_inj.mp (heq.symm.trans hb))
    · omega
  refine ⟨?_, ?_, ?_⟩
  · rintro rfl
    exact hne '"' (by decide) hquote rfl
  · rintro rfl
    exact hne '\\' (by decide) hbackslash rfl
  · rcases Utf8.mem_utf8EncodeChar hmem with heq | hge <;> omega

/-- What is written of a character is read as the character. -/
theorem readBody_writeChar (c : Char) (before rest : List UInt8) :
    readBody before ((writeChar c).flatMap String.utf8EncodeChar ++ rest)
      = readBody ((String.utf8EncodeChar c).reverse ++ before) rest := by
  unfold writeChar
  split
  · exact readBody_escape (escape_short rfl rest) before
  · exact readBody_escape (escape_short rfl rest) before
  · exact readBody_escape (escape_short rfl rest) before
  · exact readBody_escape (escape_short rfl rest) before
  · exact readBody_escape (escape_short rfl rest) before
  · exact readBody_escape (escape_short rfl rest) before
  · exact readBody_escape (escape_short rfl rest) before
  · next hquote hbackslash _ _ _ _ _ =>
    split
    · next hcontrol =>
      obtain ⟨hhigh, -⟩ := hexDigit?_digit (c.toNat / 16) (by omega)
      obtain ⟨hlow, -⟩ := hexDigit?_digit (c.toNat % 16) (by omega)
      have hread := readBody_escape (escape_control hcontrol rest) before
      rw [Char.ofNat_toNat] at hread
      rw [← hread]
      simp only [List.flatMap_cons, List.flatMap_nil, hhigh, hlow]
      rfl
    · next hge =>
      rw [List.flatMap_singleton]
      exact readBody_plains (plain_utf8EncodeChar hquote hbackslash (by omega)) before rest

/-! ## Strings -/

/-- The bytes between the quotes of a string. -/
def body (text : String) : List UInt8 :=
  text.toList.flatMap fun c => (writeChar c).flatMap String.utf8EncodeChar

theorem encode_write (text : String) :
    Utf8.encode (write text) = 0x22 :: (body text ++ [0x22]) := by
  rw [Utf8.encode, write, String.toList_ofList, List.flatMap_append, List.flatMap_cons,
    List.flatMap_assoc, body]
  rfl

theorem readBody_body (chars : List Char) (before rest : List UInt8) :
    readBody before ((chars.flatMap fun c => (writeChar c).flatMap String.utf8EncodeChar)
        ++ 0x22 :: rest)
      = .ok (before.reverse ++ chars.flatMap String.utf8EncodeChar, rest) := by
  induction chars generalizing before with
  | nil =>
      rw [List.flatMap_nil, List.flatMap_nil, List.nil_append, readBody_quote, List.append_nil]
  | cons c chars ih =>
      rw [List.flatMap_cons, List.flatMap_cons, List.append_assoc, readBody_writeChar, ih,
        List.reverse_append, List.reverse_reverse, List.append_assoc]

theorem read_body (text : String) (rest : List UInt8) :
    read (body text ++ 0x22 :: rest) = .ok (text, rest) := by
  have hbytes := readBody_body text.toList [] rest
  rw [List.reverse_nil, List.nil_append] at hbytes
  have hdecode : Utf8.decode? (text.toList.flatMap String.utf8EncodeChar) = some text :=
    Utf8.decode?_encode text
  rw [read, body, hbytes]
  simp only [hdecode]

end PidOne.Json.Quoted
