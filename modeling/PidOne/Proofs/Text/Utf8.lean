import PidOne.Text.Utf8

/-!
# UTF-8 is read as it is written

The first part of a byte string that begins with the encoding of a character is that character. The
four lengths of an encoding are four cases; in each of the longer ones the second byte is in the
narrower range that `lead` asks for, because a character is no surrogate, is within Unicode, and is
not encoded in fewer bytes.
-/

namespace PidOne.Utf8

variable {n bits : Nat} {low high : UInt8} {ranges : List (UInt8 × UInt8)} {rest : List UInt8}

theorem ofNat_lt_iff (h : n < 256) (b : UInt8) : UInt8.ofNat n < b ↔ n < b.toNat := by
  rw [UInt8.lt_iff_toNat_lt, UInt8.toNat_ofNat_of_lt' h]

theorem ofNat_eq_iff (h : n < 256) (b : UInt8) : UInt8.ofNat n = b ↔ n = b.toNat := by
  rw [← UInt8.toNat_inj, UInt8.toNat_ofNat_of_lt' h]

theorem lead_ofNat (h : n < 256) : lead (.ofNat n) =
    if n < 0x80 then some (n, [])
    else if n < 0xc2 then none
    else if n < 0xe0 then some (n - 0xc0, [(0x80, 0xbf)])
    else if n = 0xe0 then some (0, [(0xa0, 0xbf), (0x80, 0xbf)])
    else if n = 0xed then some (13, [(0x80, 0x9f), (0x80, 0xbf)])
    else if n < 0xf0 then some (n - 0xe0, [(0x80, 0xbf), (0x80, 0xbf)])
    else if n = 0xf0 then some (0, [(0x90, 0xbf), (0x80, 0xbf), (0x80, 0xbf)])
    else if n < 0xf4 then some (n - 0xf0, [(0x80, 0xbf), (0x80, 0xbf), (0x80, 0xbf)])
    else if n = 0xf4 then some (4, [(0x80, 0x8f), (0x80, 0xbf), (0x80, 0xbf)])
    else none := by
  simp only [lead, beq_iff_eq, ofNat_lt_iff h, ofNat_eq_iff h, UInt8.toNat_ofNat_of_lt' h]
  rfl

theorem follow_ofNat (h : n < 256) (hlow : low.toNat ≤ n) (hhigh : n ≤ high.toNat) :
    follow bits ((low, high) :: ranges) (.ofNat n :: rest)
      = follow (bits * 64 + (n - 0x80)) ranges rest := by
  have hin : (low ≤ UInt8.ofNat n && UInt8.ofNat n ≤ high) = true := by
    simp [UInt8.le_iff_toNat_le, UInt8.toNat_ofNat_of_lt' h, hlow, hhigh]
  rw [follow, if_pos hin, UInt8.toNat_ofNat_of_lt' h]

/-! ## First bytes

The bits that the first byte carries, and the range it leaves for the second one.
-/

theorem lead_two {v : Nat} (hlow : 0x7f < v) (hhigh : v ≤ 0x7ff) :
    lead (.ofNat (v / 64 % 32 + 192)) = some (v / 64, [(0x80, 0xbf)]) := by
  have hbits : v / 64 % 32 + 192 - 0xc0 = v / 64 := by omega
  rw [lead_ofNat (by omega), if_neg (by omega), if_neg (by omega), if_pos (by omega), hbits]

theorem lead_three {v : Nat} (hlow : 0x7ff < v) (hhigh : v ≤ 0xffff)
    (hvalid : v < 0xd800 ∨ 0xdfff < v) :
    ∃ low high, lead (.ofNat (v / 4096 % 16 + 224)) = some (v / 4096, [(low, high), (0x80, 0xbf)])
      ∧ low.toNat ≤ v / 64 % 64 + 128 ∧ v / 64 % 64 + 128 ≤ high.toNat := by
  rw [lead_ofNat (by omega), if_neg (by omega), if_neg (by omega), if_neg (by omega)]
  by_cases hfirst : v / 4096 = 0
  · refine ⟨0xa0, 0xbf, ?_, ?_, ?_⟩
    · rw [if_pos (by omega), hfirst]
    · change 160 ≤ _
      omega
    · change _ ≤ 191
      omega
  by_cases hbefore : v / 4096 = 13
  · -- behind these come the surrogates
    refine ⟨0x80, 0x9f, ?_, ?_, ?_⟩
    · rw [if_neg (by omega), if_pos (by omega), hbefore]
    · change 128 ≤ _
      omega
    · change _ ≤ 159
      omega
  · have hbits : v / 4096 % 16 + 224 - 0xe0 = v / 4096 := by omega
    refine ⟨0x80, 0xbf, ?_, ?_, ?_⟩
    · rw [if_neg (by omega), if_neg (by omega), if_pos (by omega), hbits]
    · change 128 ≤ _
      omega
    · change _ ≤ 191
      omega

theorem lead_four {v : Nat} (hlow : 0xffff < v) (hhigh : v < 0x110000) :
    ∃ low high, lead (.ofNat (v / 262144 % 8 + 240))
        = some (v / 262144, [(low, high), (0x80, 0xbf), (0x80, 0xbf)])
      ∧ low.toNat ≤ v / 4096 % 64 + 128 ∧ v / 4096 % 64 + 128 ≤ high.toNat := by
  rw [lead_ofNat (by omega), if_neg (by omega), if_neg (by omega), if_neg (by omega),
    if_neg (by omega), if_neg (by omega), if_neg (by omega)]
  by_cases hfirst : v / 262144 = 0
  · refine ⟨0x90, 0xbf, ?_, ?_, ?_⟩
    · rw [if_pos (by omega), hfirst]
    · change 144 ≤ _
      omega
    · change _ ≤ 191
      omega
  by_cases hlast : v / 262144 = 4
  · refine ⟨0x80, 0x8f, ?_, ?_, ?_⟩
    · rw [if_neg (by omega), if_neg (by omega), if_pos (by omega), hlast]
    · change 128 ≤ _
      omega
    · change _ ≤ 143
      omega
  · have hbits : v / 262144 % 8 + 240 - 0xf0 = v / 262144 := by omega
    refine ⟨0x80, 0xbf, ?_, ?_, ?_⟩
    · rw [if_neg (by omega), if_pos (by omega), hbits]
    · change 128 ≤ _
      omega
    · change _ ≤ 191
      omega

/-! ## Characters -/

/-- The bytes behind the second one are all in the same range. -/
theorem follow_tail (h : n < 64) :
    follow bits ((0x80, 0xbf) :: ranges) (.ofNat (n + 128) :: rest)
      = follow (bits * 64 + n) ranges rest := by
  have hlow : (0x80 : UInt8).toNat ≤ n + 128 := Nat.le_add_left _ _
  have hhigh : n + 128 ≤ (0xbf : UInt8).toNat := by
    change n + 128 ≤ 191
    omega
  rw [follow_ofNat (by omega) hlow hhigh, Nat.add_sub_cancel]

theorem first_of_lead {b : UInt8} (h : lead b = some (bits, ranges)) :
    first b rest = follow bits ranges rest := by
  rw [first, h]

/-- The encoding of a character is not empty, and is read as the character. -/
theorem first_utf8EncodeChar (c : Char) (rest : List UInt8) :
    ∃ b tail, String.utf8EncodeChar c = b :: tail ∧ first b (tail ++ rest) = (some c, rest) := by
  obtain ⟨v, hv⟩ : ∃ v, c.toNat = v := ⟨_, rfl⟩
  have hvalid : v < 0xd800 ∨ 0xdfff < v ∧ v < 0x110000 := hv ▸ c.valid
  have hval : c.val.toNat = v := hv
  have hread : Char.ofNat v = c := by rw [← hv, Char.ofNat_toNat]
  rw [String.utf8EncodeChar, hval]
  by_cases hone : v ≤ 127
  · have hlead : lead (.ofNat v) = some (v, []) := by
      rw [lead_ofNat (by omega), if_pos (by omega)]
    refine ⟨_, _, if_pos hone, ?_⟩
    rw [first_of_lead hlead, List.nil_append, follow, hread]
  by_cases htwo : v ≤ 2047
  · have hbits : v / 64 * 64 + v % 64 = v := by omega
    refine ⟨_, _, (if_neg hone).trans (if_pos htwo), ?_⟩
    rw [first_of_lead (lead_two (by omega) htwo), List.cons_append, follow_tail (by omega),
      List.nil_append, follow, hbits, hread]
  by_cases hthree : v ≤ 65535
  · obtain ⟨low, high, hlead, hlow, hhigh⟩ := lead_three (Nat.lt_of_not_le htwo) hthree (by omega)
    have hbits : (v / 4096 * 64 + (v / 64 % 64 + 128 - 0x80)) * 64 + v % 64 = v := by omega
    refine ⟨_, _, (if_neg hone).trans ((if_neg htwo).trans (if_pos hthree)), ?_⟩
    rw [first_of_lead hlead, List.cons_append, follow_ofNat (by omega) hlow hhigh,
      List.cons_append, follow_tail (by omega), List.nil_append, follow, hbits, hread]
  · obtain ⟨low, high, hlead, hlow, hhigh⟩ := lead_four (Nat.lt_of_not_le hthree) (by omega)
    have hbits : ((v / 262144 * 64 + (v / 4096 % 64 + 128 - 0x80)) * 64 + v / 64 % 64) * 64
        + v % 64 = v := by omega
    refine ⟨_, _, (if_neg hone).trans ((if_neg htwo).trans (if_neg hthree)), ?_⟩
    rw [first_of_lead hlead, List.cons_append, follow_ofNat (by omega) hlow hhigh,
      List.cons_append, follow_tail (by omega), List.cons_append, follow_tail (by omega),
      List.nil_append, follow, hbits, hread]

theorem le_toNat_ofNat {n : Nat} (hlow : 0x80 ≤ n) (hhigh : n < 256) :
    0x80 ≤ (UInt8.ofNat n).toNat := by
  rwa [UInt8.toNat_ofNat_of_lt' hhigh]

/-- A character of one byte is that byte; the bytes of all others are beyond ASCII. -/
theorem mem_utf8EncodeChar {b : UInt8} {c : Char} (h : b ∈ String.utf8EncodeChar c) :
    b.toNat = c.toNat ∨ 0x80 ≤ b.toNat := by
  obtain ⟨v, hv⟩ : ∃ v, c.toNat = v := ⟨_, rfl⟩
  have hval : c.val.toNat = v := hv
  rw [String.utf8EncodeChar, hval] at h
  rw [hv]
  split at h
  · obtain rfl := List.mem_singleton.mp h
    exact .inl (UInt8.toNat_ofNat_of_lt' (by change v < 256; omega))
  split at h
  · simp only [List.mem_cons, List.not_mem_nil, or_false] at h
    rcases h with rfl | rfl
    · exact .inr (le_toNat_ofNat (by omega) (by omega))
    · exact .inr (le_toNat_ofNat (by omega) (by omega))
  split at h
  · simp only [List.mem_cons, List.not_mem_nil, or_false] at h
    rcases h with rfl | rfl | rfl
    · exact .inr (le_toNat_ofNat (by omega) (by omega))
    · exact .inr (le_toNat_ofNat (by omega) (by omega))
    · exact .inr (le_toNat_ofNat (by omega) (by omega))
  · simp only [List.mem_cons, List.not_mem_nil, or_false] at h
    rcases h with rfl | rfl | rfl | rfl
    · exact .inr (le_toNat_ofNat (by omega) (by omega))
    · exact .inr (le_toNat_ofNat (by omega) (by omega))
    · exact .inr (le_toNat_ofNat (by omega) (by omega))
    · exact .inr (le_toNat_ofNat (by omega) (by omega))

/-! ## Texts -/

theorem parts_encode (chars : List Char) :
    parts (chars.flatMap String.utf8EncodeChar) = chars.map some := by
  induction chars with
  | nil => rw [List.flatMap_nil, parts, List.map_nil]
  | cons c chars ih =>
      obtain ⟨b, tail, hencode, hfirst⟩ :=
        first_utf8EncodeChar c (chars.flatMap String.utf8EncodeChar)
      rw [List.flatMap_cons, hencode, List.cons_append, parts, hfirst, ih, List.map_cons]

theorem mapM_id_map_some (chars : List Char) : (chars.map some).mapM id = some chars := by
  induction chars with
  | nil => rfl
  | cons c chars ih =>
      rw [List.map_cons, List.mapM_cons, ih]
      rfl

theorem decode?_encode (text : String) : decode? (encode text) = some text := by
  rw [decode?, encode, parts_encode, mapM_id_map_some, Option.map_some, String.ofList_toList]

end PidOne.Utf8
