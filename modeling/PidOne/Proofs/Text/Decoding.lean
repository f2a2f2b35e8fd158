import PidOne.Proofs.Text.Utf8

/-!
# What is read as UTF-8 is how it is written

A part that is read as a character is the encoding of that character and of no other: the ranges
that `lead` leaves for the second byte keep out the longer forms of a character, surrogates, and
what is beyond Unicode. So a byte string has one text at most, and no encoding begins another.
-/

namespace PidOne.Utf8

variable {n bits : Nat} {b low high : UInt8} {ranges : List (UInt8 × UInt8)}
  {bytes rest : List UInt8} {c : Char}

/-! ## Bytes of a part -/

theorem exists_ofNat (b : UInt8) : ∃ n < 256, b = .ofNat n :=
  ⟨b.toNat, b.toNat_lt, UInt8.ofNat_toNat.symm⟩

theorem exists_of_follow (h : follow bits ((low, high) :: ranges) bytes = (some c, rest)) :
    ∃ n tail, n < 256 ∧ bytes = .ofNat n :: tail ∧ low.toNat ≤ n ∧ n ≤ high.toNat
      ∧ follow (bits * 64 + (n - 0x80)) ranges tail = (some c, rest) := by
  cases bytes with
  | nil => cases h
  | cons b tail =>
      obtain ⟨n, hn, rfl⟩ := exists_ofNat b
      rw [follow] at h
      split at h
      · next hin =>
        rw [Bool.and_eq_true, decide_eq_true_eq, decide_eq_true_eq, UInt8.le_iff_toNat_le,
          UInt8.le_iff_toNat_le, UInt8.toNat_ofNat_of_lt' hn] at hin
        rw [UInt8.toNat_ofNat_of_lt' hn] at h
        exact ⟨n, tail, hn, rfl, hin.1, hin.2, h⟩
      · cases h

theorem eq_of_follow_nil (h : follow bits [] bytes = (some c, rest)) :
    c = Char.ofNat bits ∧ rest = bytes := by
  rw [follow] at h
  cases h
  exact ⟨rfl, rfl⟩

/-- What a first byte asks for, by the length of the encodings that begin with it. -/
theorem lead_cases (hn : n < 256) (h : lead (.ofNat n) = some (bits, ranges)) :
    (n < 0x80 ∧ bits = n ∧ ranges = [])
      ∨ (0xc2 ≤ n ∧ n < 0xe0 ∧ bits = n - 0xc0 ∧ ranges = [(0x80, 0xbf)])
      ∨ (∃ low high : UInt8, 0xe0 ≤ n ∧ n < 0xf0 ∧ bits = n - 0xe0
        ∧ ranges = [(low, high), (0x80, 0xbf)] ∧ 0x80 ≤ low.toNat ∧ high.toNat ≤ 0xbf
        ∧ (n = 0xe0 → 0xa0 ≤ low.toNat) ∧ (n = 0xed → high.toNat ≤ 0x9f))
      ∨ ∃ low high : UInt8, 0xf0 ≤ n ∧ n < 0xf5 ∧ bits = n - 0xf0
        ∧ ranges = [(low, high), (0x80, 0xbf), (0x80, 0xbf)] ∧ 0x80 ≤ low.toNat
        ∧ high.toNat ≤ 0xbf ∧ (n = 0xf0 → 0x90 ≤ low.toNat) ∧ (n = 0xf4 → high.toNat ≤ 0x8f) := by
  have toNat_low : (0x80 : UInt8).toNat = 0x80 := rfl
  have toNat_high : (0xbf : UInt8).toNat = 0xbf := rfl
  rw [lead_ofNat hn] at h
  split at h
  · obtain ⟨rfl, rfl⟩ := Prod.mk.inj (Option.some.inj h)
    exact .inl ⟨by omega, rfl, rfl⟩
  split at h
  · cases h
  split at h
  · obtain ⟨rfl, rfl⟩ := Prod.mk.inj (Option.some.inj h)
    exact .inr (.inl ⟨by omega, by omega, rfl, rfl⟩)
  split at h
  · obtain ⟨rfl, rfl⟩ := Prod.mk.inj (Option.some.inj h)
    have : (0xa0 : UInt8).toNat = 0xa0 := rfl
    exact .inr (.inr (.inl ⟨0xa0, 0xbf, by omega, by omega, by omega, rfl, by omega, by omega,
      by omega, by omega⟩))
  split at h
  · obtain ⟨rfl, rfl⟩ := Prod.mk.inj (Option.some.inj h)
    have : (0x9f : UInt8).toNat = 0x9f := rfl
    exact .inr (.inr (.inl ⟨0x80, 0x9f, by omega, by omega, by omega, rfl, by omega, by omega,
      by omega, by omega⟩))
  split at h
  · obtain ⟨rfl, rfl⟩ := Prod.mk.inj (Option.some.inj h)
    exact .inr (.inr (.inl ⟨0x80, 0xbf, by omega, by omega, rfl, rfl, by omega, by omega,
      by omega, by omega⟩))
  split at h
  · obtain ⟨rfl, rfl⟩ := Prod.mk.inj (Option.some.inj h)
    have : (0x90 : UInt8).toNat = 0x90 := rfl
    exact .inr (.inr (.inr ⟨0x90, 0xbf, by omega, by omega, by omega, rfl, by omega, by omega,
      by omega, by omega⟩))
  split at h
  · obtain ⟨rfl, rfl⟩ := Prod.mk.inj (Option.some.inj h)
    exact .inr (.inr (.inr ⟨0x80, 0xbf, by omega, by omega, rfl, rfl, by omega, by omega,
      by omega, by omega⟩))
  split at h
  · obtain ⟨rfl, rfl⟩ := Prod.mk.inj (Option.some.inj h)
    have : (0x8f : UInt8).toNat = 0x8f := rfl
    exact .inr (.inr (.inr ⟨0x80, 0x8f, by omega, by omega, by omega, rfl, by omega, by omega,
      by omega, by omega⟩))
  · cases h

/-! ## Characters -/

theorem toNat_val_ofNat {v : Nat} (h : v < 0xd800 ∨ 0xdfff < v ∧ v < 0x110000) :
    (Char.ofNat v).val.toNat = v := by
  rw [Char.ofNat, dif_pos h]
  rfl

/-- **A part that is read as a character is its encoding.** -/
theorem eq_utf8EncodeChar_of_first (h : first b bytes = (some c, rest)) :
    b :: bytes = String.utf8EncodeChar c ++ rest := by
  obtain ⟨n, hn, rfl⟩ := exists_ofNat b
  rw [first] at h
  split at h
  · cases h
  next bits ranges hlead =>
  have toNat_low : (0x80 : UInt8).toNat = 0x80 := rfl
  have toNat_high : (0xbf : UInt8).toNat = 0xbf := rfl
  rcases lead_cases hn hlead with ⟨hlt, rfl, rfl⟩ | ⟨hge, hlt, hbits, rfl⟩
    | ⟨low, high, hge, hlt, hbits, rfl, hlow, hhigh, hlong, hsurrogate⟩
    | ⟨low, high, hge, hlt, hbits, rfl, hlow, hhigh, hlong, hbeyond⟩
  · obtain ⟨hc, rfl⟩ := eq_of_follow_nil h
    have hval : (Char.ofNat bits).val.toNat = bits := toNat_val_ofNat (.inl (by omega))
    rw [hc, String.utf8EncodeChar, hval, if_pos (by omega)]
    rfl
  · obtain ⟨m, tail, hm, rfl, hmlow, hmhigh, h⟩ := exists_of_follow h
    obtain ⟨hc, rfl⟩ := eq_of_follow_nil h
    -- the encoding takes apart what the reader has put together
    obtain ⟨v, hv⟩ : ∃ v, v = bits * 64 + (m - 0x80) := ⟨_, rfl⟩
    have hval : (Char.ofNat v).val.toNat = v := toNat_val_ofNat (.inl (by omega))
    have hfirst : v / 64 % 32 + 192 = n := by omega
    have hsecond : v % 64 + 128 = m := by omega
    rw [hc, ← hv, String.utf8EncodeChar, hval, if_neg (by omega), if_pos (by omega), hfirst,
      hsecond]
    rfl
  · obtain ⟨m, tail, hm, rfl, hmlow, hmhigh, h⟩ := exists_of_follow h
    obtain ⟨k, tail, hk, rfl, hklow, hkhigh, h⟩ := exists_of_follow h
    obtain ⟨hc, rfl⟩ := eq_of_follow_nil h
    obtain ⟨v, hv⟩ : ∃ v, v = (bits * 64 + (m - 0x80)) * 64 + (k - 0x80) := ⟨_, rfl⟩
    have hvalid : v < 0xd800 ∨ 0xdfff < v ∧ v < 0x110000 := by omega
    have hfirst : v / 4096 % 16 + 224 = n := by omega
    have hsecond : v / 64 % 64 + 128 = m := by omega
    have hthird : v % 64 + 128 = k := by omega
    rw [hc, ← hv, String.utf8EncodeChar, toNat_val_ofNat hvalid, if_neg (by omega),
      if_neg (by omega), if_pos (by omega), hfirst, hsecond, hthird]
    rfl
  · obtain ⟨m, tail, hm, rfl, hmlow, hmhigh, h⟩ := exists_of_follow h
    obtain ⟨k, tail, hk, rfl, hklow, hkhigh, h⟩ := exists_of_follow h
    obtain ⟨j, tail, hj, rfl, hjlow, hjhigh, h⟩ := exists_of_follow h
    obtain ⟨hc, rfl⟩ := eq_of_follow_nil h
    obtain ⟨v, hv⟩ : ∃ v, v = ((bits * 64 + (m - 0x80)) * 64 + (k - 0x80)) * 64 + (j - 0x80) :=
      ⟨_, rfl⟩
    have hvalid : v < 0xd800 ∨ 0xdfff < v ∧ v < 0x110000 := by omega
    have hfirst : v / 262144 % 8 + 240 = n := by omega
    have hsecond : v / 4096 % 64 + 128 = m := by omega
    have hthird : v / 64 % 64 + 128 = k := by omega
    have hfourth : v % 64 + 128 = j := by omega
    rw [hc, ← hv, String.utf8EncodeChar, toNat_val_ofNat hvalid, if_neg (by omega),
      if_neg (by omega), if_neg (by omega), hfirst, hsecond, hthird, hfourth]
    rfl

/-- No encoding begins another. -/
theorem utf8EncodeChar_append_inj {c' : Char} {bytes' : List UInt8}
    (h : String.utf8EncodeChar c ++ bytes = String.utf8EncodeChar c' ++ bytes') :
    c = c' ∧ bytes = bytes' := by
  obtain ⟨b, tail, hencode, hfirst⟩ := first_utf8EncodeChar c bytes
  obtain ⟨b', tail', hencode', hfirst'⟩ := first_utf8EncodeChar c' bytes'
  rw [hencode, hencode', List.cons_append, List.cons_append, List.cons.injEq] at h
  obtain ⟨rfl, htail⟩ := h
  rw [htail, hfirst'] at hfirst
  cases hfirst
  exact ⟨rfl, rfl⟩

theorem isContinuation_ofNat (hn : n < 256) :
    isContinuation (.ofNat n) = true ↔ 0x80 ≤ n ∧ n ≤ 0xbf := by
  rw [isContinuation, Bool.and_eq_true, decide_eq_true_eq, decide_eq_true_eq,
    UInt8.le_iff_toNat_le, UInt8.le_iff_toNat_le, UInt8.toNat_ofNat_of_lt' hn]
  rfl

theorem isContinuation_follow (n : Nat) : isContinuation (.ofNat (n % 64 + 128)) = true := by
  rw [isContinuation_ofNat (by omega)]
  omega

theorem not_isContinuation_ofNat {n : Nat} (hn : n < 256) (hout : n < 0x80 ∨ 0xbf < n) :
    isContinuation (.ofNat n) = false := by
  rw [Bool.eq_false_iff, Ne, isContinuation_ofNat hn]
  omega

/-- An encoding begins where a character may begin, and goes on with bytes that no character begins
with. -/
theorem exists_utf8EncodeChar (c : Char) : ∃ b tail, String.utf8EncodeChar c = b :: tail
    ∧ isContinuation b = false ∧ ∀ b ∈ tail, isContinuation b = true := by
  obtain ⟨v, hv⟩ : ∃ v, c.val.toNat = v := ⟨_, rfl⟩
  have hvalid : v < 0xd800 ∨ 0xdfff < v ∧ v < 0x110000 := hv ▸ c.valid
  rw [String.utf8EncodeChar, hv]
  split
  · exact ⟨_, _, rfl, not_isContinuation_ofNat (by omega) (by omega), nofun⟩
  split
  · refine ⟨_, _, rfl, not_isContinuation_ofNat (by omega) (by omega), ?_⟩
    simp only [List.forall_mem_cons, isContinuation_follow, true_and]
    exact nofun
  split
  · refine ⟨_, _, rfl, not_isContinuation_ofNat (by omega) (by omega), ?_⟩
    simp only [List.forall_mem_cons, isContinuation_follow, true_and]
    exact nofun
  · refine ⟨_, _, rfl, not_isContinuation_ofNat (by omega) (by omega), ?_⟩
    simp only [List.forall_mem_cons, isContinuation_follow, true_and]
    exact nofun

/-! ## Texts -/

theorem eq_of_mapM_parts {chars : List Char} (h : (parts bytes).mapM id = some chars) :
    bytes = chars.flatMap String.utf8EncodeChar := by
  fun_induction parts bytes generalizing chars with
  | case1 =>
      cases h
      rfl
  | case2 b rest ih =>
      rw [List.mapM_cons, Option.bind_eq_bind, Option.bind_eq_some_iff] at h
      obtain ⟨c, hfirst, h⟩ := h
      rw [Option.bind_eq_bind, Option.bind_eq_some_iff] at h
      obtain ⟨chars, hrest, h⟩ := h
      cases h
      have hpart : first b rest = (some c, (first b rest).2) := Prod.ext hfirst rfl
      rw [List.flatMap_cons, eq_utf8EncodeChar_of_first hpart, ih hrest]

/-- **A byte string is UTF-8 only as the encoding of its text.** -/
theorem decode?_eq_some_iff {text : String} : decode? bytes = some text ↔ bytes = encode text := by
  constructor
  · intro h
    obtain ⟨chars, hparts, rfl⟩ := Option.map_eq_some_iff.mp h
    rw [encode, String.toList_ofList]
    exact eq_of_mapM_parts hparts
  · rintro rfl
    exact decode?_encode text

end PidOne.Utf8
