import PidOne.Proofs.Text.Decoding

/-!
# What is shown of bytes that are not UTF-8

Where no character begins, a reader takes the longest part that still begins one, or a single byte
if none begins with it, and shows U+FFFD for it. `Shown` says so without a reader: it speaks of
encodings only. Since no encoding begins another, a byte string falls apart in one way, so there is
one text to be shown of it, and that is `lossy`.

A character whose encoding has a NUL byte is NUL, so an ill-formed part has none. For that reason
NUL bytes are all shown, whatever stands around them.
-/

namespace PidOne.Utf8

variable {b : UInt8} {bits : Nat} {ranges : List (UInt8 × UInt8)}
  {part other rest after bytes : List UInt8} {c d : Char} {chars others : List Char}

/-- Some character begins with the bytes. -/
def Begins (bytes : List UInt8) : Prop := ∃ c, bytes <+: String.utf8EncodeChar c

/-- A part that is no character, in front of other bytes. -/
structure IllFormed (part rest : List UInt8) : Prop where
  ne_nil : part ≠ []
  /-- A character that is not gone on with, or a byte that need not begin any. -/
  begins : Begins part ∨ part.length = 1
  ne_char : ∀ c, part ≠ String.utf8EncodeChar c
  /-- With the next byte it would begin no character. -/
  longest : ∀ next tail, rest = next :: tail → ¬ Begins (part ++ [next])

/-- What is shown of a byte string. -/
inductive Shown : List UInt8 → List Char → Prop where
  | nil : Shown [] []
  | char {rest : List UInt8} {chars : List Char} (c : Char) (h : Shown rest chars) :
      Shown (String.utf8EncodeChar c ++ rest) (c :: chars)
  | illFormed {part rest : List UInt8} {chars : List Char} (hpart : IllFormed part rest)
      (h : Shown rest chars) : Shown (part ++ rest) ('\ufffd' :: chars)

/-! ## How a byte string falls apart -/

theorem Begins.of_prefix (h : Begins bytes) (hpart : part <+: bytes) : Begins part := by
  obtain ⟨c, hc⟩ := h
  exact ⟨c, hpart.trans hc⟩

theorem utf8EncodeChar_ne_nil (c : Char) : String.utf8EncodeChar c ≠ [] := by
  obtain ⟨b, tail, hencode, -⟩ := exists_utf8EncodeChar c
  rw [hencode]
  exact List.cons_ne_nil b tail

theorem eq_of_utf8EncodeChar_prefix
    (h : String.utf8EncodeChar c <+: String.utf8EncodeChar d) : c = d := by
  obtain ⟨tail, htail⟩ := h
  have happend : String.utf8EncodeChar c ++ tail = String.utf8EncodeChar d ++ [] := by
    rw [htail, List.append_nil]
  exact (utf8EncodeChar_append_inj happend).1

theorem prefix_concat (next : UInt8) (tail : List UInt8) :
    part ++ [next] <+: part ++ next :: tail :=
  (List.prefix_append_right_inj part).mpr (List.prefix_append [next] tail)

theorem IllFormed.not_inside (h : IllFormed part rest) :
    ¬ String.utf8EncodeChar c <+: part := by
  intro hinside
  refine h.ne_char c (hinside.eq_of_length_le ?_).symm
  rcases h.begins with ⟨d, hd⟩ | hsingle
  · -- what the part begins is this very character
    obtain rfl := eq_of_utf8EncodeChar_prefix (hinside.trans hd)
    exact hd.length_le
  · rw [hsingle]
    exact List.length_pos_iff.mpr (utf8EncodeChar_ne_nil c)

/-- Where an ill-formed part stands, there is no character. -/
theorem IllFormed.ne_char_append (h : IllFormed part rest) :
    part ++ rest ≠ String.utf8EncodeChar c ++ after := by
  intro hsame
  rcases List.prefix_or_prefix_of_prefix (hsame ▸ List.prefix_append _ after)
    (List.prefix_append part rest) with hinside | ⟨missing, hbeyond⟩
  · exact h.not_inside hinside
  cases missing with
  | nil => exact h.ne_char c (by rw [← hbeyond, List.append_nil])
  | cons next tail =>
      rw [← hbeyond, List.append_assoc, List.append_cancel_left_eq] at hsame
      exact h.longest next _ hsame ⟨c, hbeyond ▸ prefix_concat next tail⟩

theorem IllFormed.eq_of_prefix (h : IllFormed part rest) (hother : IllFormed other after)
    (hsame : part ++ rest = other ++ after) (hpart : part <+: other) : part = other := by
  obtain ⟨missing, rfl⟩ := hpart
  cases missing with
  | nil => rw [List.append_nil]
  | cons next tail =>
      rw [List.append_assoc, List.append_cancel_left_eq] at hsame
      rcases hother.begins with hbegins | hsingle
      · exact absurd (hbegins.of_prefix (prefix_concat next tail)) (h.longest next _ hsame)
      · have hpos := List.length_pos_iff.mpr h.ne_nil
        rw [List.length_append, List.length_cons] at hsingle
        omega

theorem IllFormed.unique (h : IllFormed part rest) (hother : IllFormed other after)
    (hsame : part ++ rest = other ++ after) : part = other ∧ rest = after := by
  have hpart : part = other := by
    rcases List.prefix_or_prefix_of_prefix (List.prefix_append part rest)
      (hsame ▸ List.prefix_append other after) with hpart | hpart
    · exact h.eq_of_prefix hother hsame hpart
    · exact (hother.eq_of_prefix h hsame.symm hpart).symm
  rw [hpart, List.append_cancel_left_eq] at hsame
  exact ⟨hpart, hsame⟩

/-- **There is one text to be shown of a byte string.** -/
theorem Shown.unique (h : Shown bytes chars) (hother : Shown bytes others) : chars = others := by
  induction h generalizing others with
  | nil =>
      generalize hbytes : ([] : List UInt8) = bytes at hother
      cases hother with
      | nil => rfl
      | char c => exact absurd (List.append_eq_nil_iff.mp hbytes.symm).1 (utf8EncodeChar_ne_nil c)
      | illFormed hpart => exact absurd (List.append_eq_nil_iff.mp hbytes.symm).1 hpart.ne_nil
  | @char rest chars c h ih =>
      generalize hbytes : String.utf8EncodeChar c ++ rest = bytes at hother
      cases hother with
      | nil => exact absurd (List.append_eq_nil_iff.mp hbytes).1 (utf8EncodeChar_ne_nil c)
      | char d hrest =>
          obtain ⟨rfl, rfl⟩ := utf8EncodeChar_append_inj hbytes
          rw [ih hrest]
      | illFormed hpart => exact absurd hbytes.symm hpart.ne_char_append
  | @illFormed part rest chars hpart h ih =>
      generalize hbytes : part ++ rest = bytes at hother
      cases hother with
      | nil => exact absurd (List.append_eq_nil_iff.mp hbytes).1 hpart.ne_nil
      | char d => exact absurd hbytes hpart.ne_char_append
      | illFormed hother hrest =>
          obtain ⟨rfl, rfl⟩ := hpart.unique hother hbytes
          rw [ih hrest]

/-! ## What the reader makes of it -/

theorem le_of_lead (h : lead b = some (bits, ranges)) : ∀ range ∈ ranges, range.1 ≤ range.2 := by
  have hall : ∀ range ∈ (lead b).elim [] Prod.snd, range.1 ≤ range.2 := by
    unfold lead
    repeat' split
    all_goals simp
  rwa [h] at hall

theorem exists_follow (hranges : ∀ range ∈ ranges, range.1 ≤ range.2) (bits : Nat) :
    ∃ fill c, fill.length = ranges.length
      ∧ ∀ more, follow bits ranges (fill ++ more) = (some c, more) := by
  induction ranges generalizing bits with
  | nil => exact ⟨[], Char.ofNat bits, rfl, fun more => rfl⟩
  | cons range ranges ih =>
      obtain ⟨low, high⟩ := range
      obtain ⟨hfirst, hrest⟩ := List.forall_mem_cons.mp hranges
      obtain ⟨fill, c, hlength, hfollow⟩ := ih hrest (bits * 64 + (low.toNat - 0x80))
      refine ⟨low :: fill, c, congrArg (· + 1) hlength, fun more => ?_⟩
      have hin : (low ≤ low && low ≤ high) = true := by simpa using hfirst
      rw [List.cons_append, follow, if_pos hin, hfollow]

/-- Where a character is not gone on with, the bytes read of it could be made into one, and not with
the byte that comes next. -/
theorem exists_of_follow_none (hranges : ∀ range ∈ ranges, range.1 ≤ range.2)
    (h : follow bits ranges bytes = (none, rest)) :
    ∃ taken, bytes = taken ++ rest
      ∧ (∃ fill c, fill ≠ [] ∧ follow bits ranges (taken ++ fill) = (some c, []))
      ∧ ∀ next tail more, rest = next :: tail →
        (follow bits ranges (taken ++ next :: more)).1 = none := by
  fun_induction follow bits ranges bytes with
  | case1 => cases h
  | case2 bits range ranges =>
      cases h
      obtain ⟨fill, c, hlength, hfollow⟩ := exists_follow hranges bits
      refine ⟨[], rfl, ⟨fill, c, ?_, ?_⟩, fun next tail more hrest => ?_⟩
      · rintro rfl
        cases hlength
      · have hall := hfollow []
        rwa [List.append_nil] at hall
      · cases hrest
  | case3 bits low high ranges b bytes hin ih =>
      obtain ⟨taken, rfl, ⟨fill, c, hne, hfill⟩, hnext⟩ :=
        ih (List.forall_mem_cons.mp hranges).2 h
      refine ⟨b :: taken, rfl, ⟨fill, c, hne, ?_⟩, fun next tail more hrest => ?_⟩
      · rw [List.cons_append, follow, if_pos hin, hfill]
      · rw [List.cons_append, follow, if_pos hin, hnext next tail more hrest]
  | case4 bits low high ranges b bytes hout =>
      cases h
      obtain ⟨fill, c, hlength, hfollow⟩ := exists_follow hranges bits
      refine ⟨[], rfl, ⟨fill, c, ?_, ?_⟩, fun next tail more hrest => ?_⟩
      · rintro rfl
        cases hlength
      · have hall := hfollow []
        rwa [List.append_nil] at hall
      · obtain ⟨rfl, -⟩ := List.cons.inj hrest
        rw [List.nil_append, follow, if_neg hout]

theorem first_of_begins (h : Begins (b :: bytes)) :
    ∃ more c, first b (bytes ++ more) = (some c, []) := by
  obtain ⟨c, more, hencode⟩ := h
  obtain ⟨first, tail, hchar, hfirst⟩ := first_utf8EncodeChar c []
  rw [hchar, List.cons_append, List.cons.injEq] at hencode
  obtain ⟨rfl, rfl⟩ := hencode
  rw [List.append_nil] at hfirst
  exact ⟨more, c, hfirst⟩

/-- **A part that is not read as a character is an ill-formed one.** -/
theorem illFormed_of_first (h : first b bytes = (none, rest)) :
    ∃ part, b :: bytes = part ++ rest ∧ IllFormed part rest := by
  rw [first] at h
  split at h
  · next hlead =>
    cases h
    -- no character begins with the byte
    have hstray : ∀ tail, ¬ Begins (b :: tail) := by
      intro tail hbegins
      obtain ⟨more, c, hfirst⟩ := first_of_begins hbegins
      rw [first, hlead] at hfirst
      cases hfirst
    refine ⟨[b], rfl, List.cons_ne_nil b [], .inr rfl, fun c hchar => ?_, fun _ _ _ => hstray _⟩
    exact hstray [] ⟨c, hchar ▸ List.prefix_refl _⟩
  · next bits ranges hlead =>
    obtain ⟨taken, rfl, ⟨fill, c, hne, hfill⟩, hnext⟩ := exists_of_follow_none (le_of_lead hlead) h
    have hchar : b :: taken ++ fill = String.utf8EncodeChar c := by
      rw [← first_of_lead hlead] at hfill
      rw [List.cons_append, eq_utf8EncodeChar_of_first hfill, List.append_nil]
    refine ⟨b :: taken, rfl, List.cons_ne_nil b taken, .inl ⟨c, fill, hchar⟩, ?_, ?_⟩
    · intro d hd
      rw [hd] at hchar
      obtain rfl := eq_of_utf8EncodeChar_prefix ⟨fill, hchar⟩
      exact hne (List.append_right_eq_self.mp hchar)
    · intro next tail hrest hbegins
      have hlonger : Begins (b :: (taken ++ [next])) := hbegins
      obtain ⟨more, d, hfirst⟩ := first_of_begins hlonger
      rw [first_of_lead hlead, List.append_assoc, List.singleton_append] at hfirst
      have hnone := hnext next tail more hrest
      rw [hfirst] at hnone
      cases hnone

theorem shown_lossy (bytes : List UInt8) : Shown bytes (lossy bytes).toList := by
  rw [lossy, String.toList_ofList]
  fun_induction parts bytes with
  | case1 => exact .nil
  | case2 b bytes ih =>
      rcases hfirst : first b bytes with ⟨read, rest⟩
      rw [hfirst] at ih
      cases read with
      | none =>
          obtain ⟨part, hbytes, hpart⟩ := illFormed_of_first hfirst
          rw [hbytes]
          exact .illFormed hpart ih
      | some c =>
          rw [eq_utf8EncodeChar_of_first hfirst]
          exact .char c ih

theorem shown_iff : Shown bytes chars ↔ chars = (lossy bytes).toList := by
  constructor
  · intro h
    exact h.unique (shown_lossy bytes)
  · rintro rfl
    exact shown_lossy bytes

theorem lossy_encode (text : String) : lossy (encode text) = text := by
  have hchars : (text.toList.map some).map (fun part => part.getD '\ufffd') = text.toList := by
    rw [List.map_map]
    exact List.map_id _
  rw [lossy, encode, parts_encode, hchars, String.ofList_toList]

/-! ## NUL -/

theorem utf8EncodeChar_nul : String.utf8EncodeChar '\x00' = [0] := rfl

theorem eq_nul_of_mem (h : (0 : UInt8) ∈ String.utf8EncodeChar c) : c = '\x00' := by
  have hzero : (0 : UInt8).toNat = 0 := rfl
  rcases mem_utf8EncodeChar h with hone | hmore
  · exact Char.toNat_inj.mp hone.symm
  · omega

theorem count_nul_utf8EncodeChar (c : Char) :
    (String.utf8EncodeChar c).count 0 = if c = '\x00' then 1 else 0 := by
  split
  · next hnul =>
    rw [hnul, utf8EncodeChar_nul]
    rfl
  · next hother => exact List.count_eq_zero.mpr fun hmem => hother (eq_nul_of_mem hmem)

/-- An ill-formed part never swallows a NUL byte. -/
theorem IllFormed.nul_notMem (h : IllFormed part rest) : (0 : UInt8) ∉ part := by
  intro hmem
  rcases h.begins with ⟨c, hc⟩ | hsingle
  · obtain rfl := eq_nul_of_mem (hc.subset hmem)
    refine h.ne_char _ (hc.eq_of_length_le ?_)
    rw [utf8EncodeChar_nul]
    exact List.length_pos_iff.mpr h.ne_nil
  · obtain ⟨b, rfl⟩ := List.length_eq_one_iff.mp hsingle
    obtain rfl := List.mem_singleton.mp hmem
    exact h.ne_char '\x00' rfl

/-- **As many NULs are shown as there are.** -/
theorem Shown.count_nul (h : Shown bytes chars) : chars.count '\x00' = bytes.count 0 := by
  induction h with
  | nil => rfl
  | @char rest chars c h ih =>
      rw [List.count_cons, List.count_append, count_nul_utf8EncodeChar, ih, Nat.add_comm]
      simp only [beq_iff_eq]
  | @illFormed part rest chars hpart h ih =>
      have hpart := List.count_eq_zero.mpr hpart.nul_notMem
      rw [List.count_cons_of_ne (by decide), List.count_append, ih, hpart, Nat.zero_add]

end PidOne.Utf8
