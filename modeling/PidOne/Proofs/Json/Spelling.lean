import PidOne.Proofs.Json.Scanning
import PidOne.Proofs.Text.Decoding

/-!
# A string is read by its spelling

The reader goes over bytes and the grammar over characters. What it reads is first taken as what it
denotes, bytes that stand for themselves and the encodings of escaped characters in any order. That
these bytes are UTF-8 puts them together to characters: the bytes behind the first one of an
encoding cannot come from an escape, since no encoding begins with one of them.
-/

namespace PidOne.Json.Quoted

variable {b p q r s : UInt8} {c : Char} {n : Nat} {chars : List Char}
  {bytes text after rest : List UInt8}

/-! ## Escapes -/

theorem hexDigit?_lt (h : hexDigit? b = some n) : n < 16 := by
  have hbound : ∀ {low high : UInt8}, (low ≤ b && b ≤ high) = true → b.toNat ≤ high.toNat := by
    intro low high hrange
    rw [Bool.and_eq_true, decide_eq_true_eq, decide_eq_true_eq] at hrange
    exact UInt8.le_iff_toNat_le.mp hrange.2
  have toNat_nine : (0x39 : UInt8).toNat = 0x39 := rfl
  have toNat_f : (0x66 : UInt8).toNat = 0x66 := rfl
  have toNat_F : (0x46 : UInt8).toNat = 0x46 := rfl
  unfold hexDigit? at h
  split at h
  · next hrange =>
    cases h
    have := hbound hrange
    omega
  split at h
  · next hrange =>
    cases h
    have := hbound hrange
    omega
  split at h
  · next hrange =>
    cases h
    have := hbound hrange
    omega
  · cases h

theorem hex?_lt (h : hex? p q r s = some n) : n < 0x10000 := by
  unfold hex? at h
  split at h
  · next hp hq hr hs =>
    cases h
    have := hexDigit?_lt hp
    have := hexDigit?_lt hq
    have := hexDigit?_lt hr
    have := hexDigit?_lt hs
    omega
  · cases h

theorem unit_of_hex? (h : hex? p q r s = some n) (rest : List UInt8) :
    unit (p :: q :: r :: s :: rest) = .ok (n, rest) :=
  unit_eq_ok_iff.mpr ⟨p, q, r, s, rfl, h⟩

theorem toNat_lt (c : Char) : c.toNat < 0xd800 ∨ 0xdfff < c.toNat ∧ c.toNat < 0x110000 := c.valid

theorem escape_of_escape (h : Escape c bytes) (rest : List UInt8) :
    escape (bytes ++ rest) = .ok (c, rest) := by
  have hvalid := toNat_lt c
  have hletter : short? 0x75 = none := rfl
  cases h with
  | short hshort => exact escape_short hshort rest
  | @unit p q r s hunit =>
      have hlow : ¬ (0xdc00 ≤ c.toNat && c.toNat ≤ 0xdfff) = true := by simp; omega
      have hhigh : ¬ (0xd800 ≤ c.toNat && c.toNat ≤ 0xdbff) = true := by simp; omega
      simp only [List.cons_append, List.nil_append]
      rw [escape, hletter]
      simp only [unit_of_hex? hunit, if_neg hlow, if_neg hhigh, Char.ofNat_toNat]
      rfl
  | @pair p q r s t u v w hbeyond hhigh hlow =>
      obtain ⟨m, hm⟩ : ∃ m, high c = m := ⟨_, rfl⟩
      obtain ⟨k, hk⟩ : ∃ k, low c = k := ⟨_, rfl⟩
      rw [hm] at hhigh
      rw [hk] at hlow
      unfold high at hm
      unfold low at hk
      have hnotlow : ¬ (0xdc00 ≤ m && m ≤ 0xdfff) = true := by simp; omega
      have hishigh : (0xd800 ≤ m && m ≤ 0xdbff) = true := by simp; omega
      have hislow : (0xdc00 ≤ k && k ≤ 0xdfff) = true := by simp; omega
      have hvalue : (m - 0xd800) * 0x400 + (k - 0xdc00) + 0x10000 = c.toNat := by omega
      have hsecond : secondHalf m (0x5c :: 0x75 :: t :: u :: v :: w :: rest) = .ok (c, rest) := by
        rw [secondHalf]
        simp only [unit_of_hex? hlow, if_pos hislow, hvalue, Char.ofNat_toNat]
        rfl
      simp only [List.cons_append, List.nil_append]
      rw [escape, hletter]
      simp only [unit_of_hex? hhigh, if_neg hnotlow, if_pos hishigh, hsecond]
      rfl

theorem toNat_ofNat (h : n < 0xd800 ∨ 0xdfff < n ∧ n < 0x110000) : (Char.ofNat n).toNat = n :=
  Utf8.toNat_val_ofNat h

theorem exists_of_secondHalf {m : Nat} (h : secondHalf m text = .ok (c, rest)) :
    ∃ t u v w k, text = 0x5c :: 0x75 :: t :: u :: v :: w :: rest ∧ hex? t u v w = some k
      ∧ 0xdc00 ≤ k ∧ k ≤ 0xdfff
      ∧ c = Char.ofNat ((m - 0xd800) * 0x400 + (k - 0xdc00) + 0x10000) := by
  unfold secondHalf at h
  split at h
  · cases h
  split at h
  · cases h
  next hbackslash =>
  split at h
  · cases h
  split at h
  · cases h
  next hletter =>
  split at h
  · cases h
  next hunit =>
  split at h
  · next hrange =>
    obtain ⟨rfl, rfl⟩ := Prod.mk.inj (Except.ok.inj h)
    obtain ⟨t, u, v, w, rfl, hhex⟩ := unit_eq_ok_iff.mp hunit
    rw [Bool.and_eq_true, decide_eq_true_eq, decide_eq_true_eq] at hrange
    simp only [bne_iff_ne, Decidable.not_not] at hbackslash hletter
    subst hbackslash
    subst hletter
    exact ⟨t, u, v, w, _, rfl, hhex, hrange.1, hrange.2, rfl⟩
  · cases h

theorem exists_of_escape (h : escape text = .ok (c, rest)) :
    ∃ bytes, text = bytes ++ rest ∧ Escape c bytes := by
  unfold escape at h
  split at h
  · cases h
  next b tail =>
  split at h
  · next hshort =>
    cases h
    exact ⟨[b], rfl, .short hshort⟩
  split at h
  · cases h
  next hletter =>
  obtain rfl : b = 0x75 := by simpa using hletter
  split at h
  · cases h
  next m tail hunit =>
  obtain ⟨p, q, r, s, rfl, hhex⟩ := unit_eq_ok_iff.mp hunit
  have hlt := hex?_lt hhex
  split at h
  · cases h
  next hnotlow =>
  rw [Bool.and_eq_true, decide_eq_true_eq, decide_eq_true_eq] at hnotlow
  split at h
  · next hhigh =>
    rw [Bool.and_eq_true, decide_eq_true_eq, decide_eq_true_eq] at hhigh
    obtain ⟨t, u, v, w, k, rfl, hlow, hge, hle, hc⟩ := exists_of_secondHalf h
    obtain ⟨value, hvalue⟩ : ∃ value,
      value = (m - 0xd800) * 0x400 + (k - 0xdc00) + 0x10000 := ⟨_, rfl⟩
    rw [← hvalue] at hc
    subst hc
    have htoNat : (Char.ofNat value).toNat = value := toNat_ofNat (by omega)
    have hfirst : high (Char.ofNat value) = m := by
      rw [high, htoNat]
      omega
    have hsecond : low (Char.ofNat value) = k := by
      rw [low, htoNat]
      omega
    refine ⟨[0x75, p, q, r, s, 0x5c, 0x75, t, u, v, w], rfl, .pair ?_ ?_ ?_⟩
    · omega
    · rw [hfirst, hhex]
    · rw [hsecond, hlow]
  · next hnothigh =>
    rw [Bool.and_eq_true, decide_eq_true_eq, decide_eq_true_eq] at hnothigh
    obtain ⟨rfl, rfl⟩ := Prod.mk.inj (Except.ok.inj h)
    have htoNat : (Char.ofNat m).toNat = m := toNat_ofNat (by omega)
    refine ⟨[0x75, p, q, r, s], rfl, .unit ?_⟩
    rw [htoNat, hhex]

/-! ## What a string denotes -/

/-- The bytes that a string denotes, without regard to characters. -/
inductive Denotes : List UInt8 → Rule
  | close (rest : List UInt8) : Denotes [] (0x22 :: rest) rest
  | plain {b : UInt8} {bytes text rest : List UInt8} (hplain : Plain b)
      (htail : Denotes bytes text rest) : Denotes (b :: bytes) (b :: text) rest
  | escaped {c : Char} {escape bytes text rest : List UInt8} (hescape : Escape c escape)
      (htail : Denotes bytes text rest) :
      Denotes (String.utf8EncodeChar c ++ bytes) (0x5c :: (escape ++ text)) rest

theorem denotes_of_readBody {before : List UInt8} (h : readBody before text = .ok (bytes, rest)) :
    ∃ more, bytes = before.reverse ++ more ∧ Denotes more text rest := by
  fun_induction readBody before text with
  | case1 => cases h
  | case2 before b tail hquote =>
      cases h
      obtain rfl := beq_iff_eq.mp hquote
      exact ⟨[], (List.append_nil _).symm, .close _⟩
  | case3 => cases h
  | case4 before b tail _ hbackslash c after hescape _ ih =>
      obtain rfl := beq_iff_eq.mp hbackslash
      obtain ⟨more, hbytes, hmore⟩ := ih h
      obtain ⟨escape, rfl, hspelled⟩ := exists_of_escape hescape
      refine ⟨_, ?_, .escaped hspelled hmore⟩
      rw [hbytes, List.reverse_append, List.reverse_reverse, List.append_assoc]
  | case5 => cases h
  | case6 before b tail hquote hbackslash hcontrol ih =>
      obtain ⟨more, hbytes, hmore⟩ := ih h
      refine ⟨_, ?_, .plain (plain_of_not hquote hbackslash hcontrol) hmore⟩
      rw [hbytes, List.reverse_cons, List.append_assoc, List.singleton_append]

theorem Denotes.cons (h : Denotes (b :: bytes) text rest) :
    (∃ tail, text = b :: tail ∧ Plain b ∧ Denotes bytes tail rest)
      ∨ ∃ c escape more tail, b :: bytes = String.utf8EncodeChar c ++ more
        ∧ text = 0x5c :: (escape ++ tail) ∧ Escape c escape ∧ Denotes more tail rest := by
  generalize hall : b :: bytes = all at h
  cases h with
  | close => cases hall
  | plain hplain htail =>
      cases hall
      exact .inl ⟨_, rfl, hplain, htail⟩
  | escaped hescape htail => exact .inr ⟨_, _, _, _, rfl, rfl, hescape, htail⟩

/-- Bytes that no character begins with stand for themselves. -/
theorem Denotes.continuation {tail : List UInt8} (htail : ∀ b ∈ tail, Utf8.isContinuation b = true)
    (h : Denotes (tail ++ bytes) text rest) :
    ∃ behind, text = tail ++ behind ∧ Denotes bytes behind rest := by
  induction tail generalizing text with
  | nil => exact ⟨text, rfl, h⟩
  | cons b tail ih =>
      obtain ⟨hfirst, hrest⟩ := List.forall_mem_cons.mp htail
      rcases h.cons with ⟨behind, rfl, -, hmore⟩ | ⟨c, escape, more, behind, hencode, -, -, -⟩
      · obtain ⟨behind, rfl, hbytes⟩ := ih hrest hmore
        exact ⟨behind, rfl, hbytes⟩
      · -- an escape denotes an encoding, and none begins with such a byte
        obtain ⟨lead, others, hlead, hno, -⟩ := Utf8.exists_utf8EncodeChar c
        rw [hlead] at hencode
        obtain ⟨rfl, -⟩ := List.cons.inj hencode
        rw [hfirst] at hno
        cases hno

theorem utf8EncodeChar_ascii (h : c.toNat < 0x80) :
    String.utf8EncodeChar c = [.ofNat c.toNat] := by
  have hle : c.val.toNat ≤ 127 := Nat.le_of_lt_succ h
  rw [String.utf8EncodeChar]
  exact if_pos hle

theorem spelling_of_plain (hencode : String.utf8EncodeChar c = b :: bytes) (hplain : Plain b) :
    Spelling c (b :: bytes) := by
  obtain ⟨hquote, hbackslash, hcontrol⟩ := hplain
  rw [← hencode]
  refine .plain ?_ ?_ ?_
  · rintro rfl
    exact hquote (List.cons.inj hencode).1.symm
  · rintro rfl
    exact hbackslash (List.cons.inj hencode).1.symm
  · refine Nat.le_of_not_lt fun hlt => ?_
    rw [utf8EncodeChar_ascii (by omega)] at hencode
    obtain ⟨rfl, -⟩ := List.cons.inj hencode
    rw [UInt8.toNat_ofNat_of_lt' (by change c.toNat < 256; omega)] at hcontrol
    omega

/-- **Bytes that are UTF-8 are denoted character by character.** -/
theorem spelled_of_denotes (h : Denotes (chars.flatMap String.utf8EncodeChar) text rest) :
    Spelled chars text rest := by
  induction chars generalizing text with
  | nil =>
      rw [List.flatMap_nil] at h
      generalize hall : ([] : List UInt8) = all at h
      cases h with
      | close => exact .close rest
      | plain => cases hall
      | @escaped c =>
          obtain ⟨b, tail, hlead, -, -⟩ := Utf8.exists_utf8EncodeChar c
          rw [hlead] at hall
          cases hall
  | cons c chars ih =>
      obtain ⟨b, tail, hlead, -, htail⟩ := Utf8.exists_utf8EncodeChar c
      rw [List.flatMap_cons, hlead, List.cons_append] at h
      rcases h.cons with ⟨behind, rfl, hplain, hmore⟩ | ⟨c', escape, more, behind, hencode, rfl,
        hescape, hmore⟩
      · -- the first byte of the character stands for itself, and so do the others
        obtain ⟨more, rfl, hrest⟩ := hmore.continuation htail
        exact .char (spelling_of_plain hlead hplain) (ih hrest)
      · rw [← List.cons_append, ← hlead] at hencode
        obtain ⟨rfl, rfl⟩ := Utf8.utf8EncodeChar_append_inj hencode
        exact .char (.escaped hescape) (ih hmore)

/-! ## Strings -/

theorem readBody_of_spelled (h : Spelled chars text rest) (before : List UInt8) :
    readBody before text
      = .ok (before.reverse ++ chars.flatMap String.utf8EncodeChar, rest) := by
  induction h generalizing before with
  | close rest => rw [readBody_quote, List.flatMap_nil, List.append_nil]
  | @char c chars bytes text rest hchar htail ih =>
      have hread : readBody before (bytes ++ text)
          = readBody ((String.utf8EncodeChar c).reverse ++ before) text := by
        cases hchar with
        | plain hquote hbackslash hcontrol =>
            exact readBody_plains (plain_utf8EncodeChar hquote hbackslash hcontrol) before text
        | escaped hescape => exact readBody_escape (escape_of_escape hescape text) before
      rw [hread, ih, List.flatMap_cons, List.reverse_append, List.reverse_reverse,
        List.append_assoc]

/-- **A string is read exactly where its characters are spelled.** -/
theorem read_eq_ok_iff {s : String} : read text = .ok (s, rest) ↔ Spelled s.toList text rest := by
  constructor
  · intro h
    unfold read at h
    split at h
    · cases h
    next bytes tail hbody =>
    split at h
    · next hdecode =>
      cases h
      obtain ⟨more, hbytes, hmore⟩ := denotes_of_readBody hbody
      rw [List.reverse_nil, List.nil_append] at hbytes
      rw [← hbytes, Utf8.decode?_eq_some_iff.mp hdecode] at hmore
      exact spelled_of_denotes hmore
    · cases h
  · intro h
    have hdecode : Utf8.decode? (s.toList.flatMap String.utf8EncodeChar) = some s :=
      Utf8.decode?_encode s
    rw [read, readBody_of_spelled h, List.reverse_nil, List.nil_append]
    simp only [hdecode]

end PidOne.Json.Quoted
