import PidOne.Proofs.Json.Grammar

/-!
# Passing over JSON is following its grammar

Every scanner of texts passes over what its rule allows and over nothing else. One direction is read
off the scanner. The other one needs that a number has ended, since a scanner takes every digit it
meets; behind a member stands a comma or the end of its frame, so inside of frames that is no
condition at all.
-/

namespace PidOne.Json

variable {kind : UInt8 → Bool} {b : UInt8} {letters text after rest : List UInt8}

/-! ## Blanks and words -/

theorem many_dropWhile (kind : UInt8 → Bool) (text : List UInt8) :
    Many kind text (text.dropWhile kind) :=
  ⟨text.takeWhile kind, List.takeWhile_append_dropWhile.symm,
    List.all_eq_true.mp List.all_takeWhile⟩

theorem dropWhile_of_many (h : Many kind text rest) :
    text.dropWhile kind = rest.dropWhile kind := by
  obtain ⟨bytes, rfl, hbytes⟩ := h
  exact List.dropWhile_append_of_pos hbytes

theorem blanks_skipBlank (text : List UInt8) : Blanks text (skipBlank text) :=
  many_dropWhile isBlank text

theorem skipBlank_of_blanks (h : Blanks text rest) : skipBlank text = skipBlank rest :=
  dropWhile_of_many h

theorem token_of_skipBlank (h : skipBlank text = b :: rest) : Token b text rest := by
  rw [Token, ← h]
  exact blanks_skipBlank text

theorem skipBlank_of_not_isBlank (h : isBlank b = false) : skipBlank (b :: rest) = b :: rest := by
  rw [skipBlank, List.dropWhile_cons_of_neg (by simp [h])]

theorem skipBlank_of_token (h : Token b text rest) (hb : isBlank b = false) :
    skipBlank text = b :: rest := by
  rw [skipBlank_of_blanks h, skipBlank_of_not_isBlank hb]

theorem word_eq_ok_iff : word letters text = .ok rest ↔ text = letters ++ rest := by
  fun_induction word letters text with
  | case1 text => simp [eq_comm]
  | case2 letter letters => simp
  | case3 letter letters b tail heq ih =>
      obtain rfl := beq_iff_eq.mp heq
      rw [ih, List.cons_append, List.cons.injEq]
      simp
  | case4 letter letters b tail hne =>
      rw [List.cons_append, List.cons.injEq]
      simp_all

/-- A word is its first byte and the letters that are looked for behind it. -/
theorem word_iff {name : String} (hname : Utf8.encode name = b :: letters) :
    Word name text rest ↔ ∃ after, text = b :: after ∧ word letters after = .ok rest := by
  constructor
  · intro h
    rw [Word, hname, List.cons_append] at h
    exact ⟨_, h, word_eq_ok_iff.mpr rfl⟩
  · rintro ⟨after, rfl, h⟩
    rw [Word, hname, List.cons_append, word_eq_ok_iff.mp h]

theorem encode_null : Utf8.encode "null" = 0x6e :: ull := by decide

theorem encode_true : Utf8.encode (toString true) = 0x74 :: rue := by decide

theorem encode_false : Utf8.encode (toString false) = 0x66 :: alse := by decide

/-! ## Numbers -/

namespace Number

variable {behindFraction : List UInt8}

theorem ne_of_isDigit {other : UInt8} (h : isDigit b = true) (hother : isDigit other = false) :
    b ≠ other := by
  rintro rfl
  rw [h] at hother
  cases hother

theorem isDigit_of_isExponentMark (h : isExponentMark b = true) : isDigit b = false := by
  rw [isExponentMark, Bool.or_eq_true, beq_iff_eq, beq_iff_eq] at h
  rcases h with rfl | rfl <;> rfl

theorem Ended.isDigit (h : Ended (b :: rest)) : isDigit b = false := by
  have hends := h b rest rfl
  rw [goesOn, Bool.or_eq_false_iff, Bool.or_eq_false_iff] at hends
  exact hends.1.1

theorem Ended.ne_point (h : Ended (b :: rest)) : (b == 0x2e) = false := by
  have hends := h b rest rfl
  rw [goesOn, Bool.or_eq_false_iff, Bool.or_eq_false_iff] at hends
  exact hends.1.2

theorem Ended.isExponentMark (h : Ended (b :: rest)) : isExponentMark b = false := by
  have hends := h b rest rfl
  rw [goesOn, Bool.or_eq_false_iff] at hends
  exact hends.2

theorem skipDigits_of_many (h : Many isDigit text rest)
    (hrest : ∀ b tail, rest = b :: tail → isDigit b = false) : skipDigits text = rest := by
  rw [skipDigits, dropWhile_of_many h]
  cases rest with
  | nil => rfl
  | cons b tail => rw [List.dropWhile_cons_of_neg (by simp [hrest b tail rfl])]

theorem digits_cons (h : isDigit b = true) (tail : List UInt8) :
    Digits (b :: tail) (skipDigits tail) :=
  ⟨b, tail, rfl, h, many_dropWhile isDigit tail⟩

theorem sign_skipSign (text : List UInt8) : Sign text (skipSign text) := by
  unfold skipSign
  split
  · exact .absent []
  next b rest =>
  split
  · next hsign =>
    rw [Bool.or_eq_true, beq_iff_eq, beq_iff_eq] at hsign
    rcases hsign with rfl | rfl
    · exact .plus rest
    · exact .minus rest
  · exact .absent (b :: rest)

theorem skipSign_of_sign (h : Sign text (b :: rest)) (hdigit : isDigit b = true) :
    skipSign text = b :: rest := by
  cases h with
  | absent =>
      have hplus : b ≠ 0x2b := ne_of_isDigit hdigit rfl
      have hminus : b ≠ 0x2d := ne_of_isDigit hdigit rfl
      rw [skipSign, if_neg (by simp [hplus, hminus])]
  | plus => rfl
  | minus => rfl

/-! ### What a scanner has passed over -/

theorem exponent_of_skipExponent? (h : skipExponent? text = .ok rest) : Exponent text rest := by
  unfold skipExponent? at h
  split at h
  · cases h
    exact .absent []
  next mark tail =>
  split at h
  · next hmark =>
    unfold skipExponent at h
    split at h
    · cases h
    next b digits hsign =>
    split at h
    · next hdigit =>
      cases h
      exact .digits hmark (hsign ▸ sign_skipSign tail) (digits_cons hdigit digits)
    · cases h
  · cases h
    exact .absent (mark :: tail)

theorem fraction_of_skipFraction? (h : skipFraction? text = .ok rest) :
    ∃ behindFraction, Fraction text behindFraction ∧ Exponent behindFraction rest := by
  unfold skipFraction? at h
  split at h
  · cases h
    exact ⟨[], .absent [], .absent []⟩
  next b tail =>
  split at h
  · next hpoint =>
    obtain rfl := beq_iff_eq.mp hpoint
    split at h
    · cases h
    next d tail =>
    split at h
    · next hdigit =>
      exact ⟨_, .digits (digits_cons hdigit tail), exponent_of_skipExponent? h⟩
    · cases h
  · exact ⟨_, .absent _, exponent_of_skipExponent? h⟩

theorem unsigned_of_skip (h : skip text = .ok rest) : Unsigned text rest := by
  unfold skip at h
  split at h
  · cases h
  next b tail =>
  split at h
  · next hzero =>
    obtain rfl := beq_iff_eq.mp hzero
    split at h
    · cases h
      exact ⟨[], [], .zero [], .absent [], .absent []⟩
    · split at h
      · cases h
      · obtain ⟨behind, hfraction, hexponent⟩ := fraction_of_skipFraction? h
        exact ⟨_, behind, .zero _, hfraction, hexponent⟩
  next hzero =>
  split at h
  · next hdigit =>
    obtain ⟨behind, hfraction, hexponent⟩ := fraction_of_skipFraction? h
    exact ⟨_, behind, .other hdigit (by simpa using hzero) (many_dropWhile isDigit tail), hfraction,
      hexponent⟩
  · cases h

/-! ### What a scanner passes over -/

theorem skipExponent?_of_exponent (h : Exponent text rest) (hrest : Ended rest) :
    skipExponent? text = .ok rest := by
  cases h with
  | absent =>
      cases text with
      | nil => rfl
      | cons b tail => rw [skipExponent?, if_neg (by simp [hrest.isExponentMark])]
  | @digits mark text _ _ hmark hsign hdigits =>
      obtain ⟨b, tail, rfl, hdigit, hmany⟩ := hdigits
      have hdigits : skipDigits tail = rest :=
        skipDigits_of_many hmany fun b tail heq => (heq ▸ hrest).isDigit
      rw [skipExponent?, if_pos hmark, skipExponent, skipSign_of_sign hsign hdigit]
      simp only [hdigit, if_true, hdigits]

theorem isDigit_of_exponent (h : Exponent (b :: text) rest) (hrest : Ended rest) :
    isDigit b = false := by
  cases h with
  | absent => exact hrest.isDigit
  | digits hmark => exact isDigit_of_isExponentMark hmark

theorem ne_point_of_exponent (h : Exponent (b :: text) rest) (hrest : Ended rest) :
    (b == 0x2e) = false := by
  cases h with
  | absent => exact hrest.ne_point
  | digits hmark =>
      rw [isExponentMark, Bool.or_eq_true, beq_iff_eq, beq_iff_eq] at hmark
      rcases hmark with rfl | rfl <;> rfl

theorem skipFraction?_of_fraction (hfraction : Fraction text behindFraction)
    (hexponent : Exponent behindFraction rest) (hrest : Ended rest) :
    skipFraction? text = .ok rest := by
  cases hfraction with
  | absent =>
      cases text with
      | nil => exact skipExponent?_of_exponent hexponent hrest
      | cons b tail =>
          rw [skipFraction?.eq_def]
          simp only [ne_point_of_exponent hexponent hrest, Bool.false_eq_true, if_false]
          exact skipExponent?_of_exponent hexponent hrest
  | digits hdigits =>
      obtain ⟨b, tail, rfl, hdigit, hmany⟩ := hdigits
      have hdigits : skipDigits tail = behindFraction :=
        skipDigits_of_many hmany fun b tail heq => isDigit_of_exponent (heq ▸ hexponent) hrest
      rw [skipFraction?.eq_def]
      simp only [beq_self_eq_true, if_true, hdigit, hdigits]
      exact skipExponent?_of_exponent hexponent hrest

theorem isDigit_of_fraction (hfraction : Fraction (b :: text) behindFraction)
    (hexponent : Exponent behindFraction rest) (hrest : Ended rest) : isDigit b = false := by
  cases hfraction with
  | absent => exact isDigit_of_exponent hexponent hrest
  | digits => rfl

theorem skip_of_unsigned (h : Unsigned text rest) (hrest : Ended rest) : skip text = .ok rest := by
  obtain ⟨behindWhole, behindFraction, hwhole, hfraction, hexponent⟩ := h
  have hread := skipFraction?_of_fraction hfraction hexponent hrest
  cases hwhole with
  | zero =>
      rw [skip.eq_def]
      simp only [beq_self_eq_true, if_true]
      cases behindWhole with
      | nil => exact hread
      | cons d tail =>
          have hdigit : ¬ isDigit d = true := by
            rw [isDigit_of_fraction hfraction hexponent hrest]
            exact Bool.false_ne_true
          simp only [if_neg hdigit]
          exact hread
  | @other b text _ hdigit hzero hmany =>
      have hdigits : skipDigits text = behindWhole :=
        skipDigits_of_many hmany fun b tail heq =>
          isDigit_of_fraction (heq ▸ hfraction) hexponent hrest
      rw [skip.eq_def]
      simp only [beq_eq_false_iff_ne.mpr hzero, hdigit, if_true, hdigits]
      exact hread

theorem Unsigned.exists_digit (h : Unsigned text rest) :
    ∃ b tail, text = b :: tail ∧ isDigit b = true := by
  obtain ⟨_, _, hwhole, -, -⟩ := h
  cases hwhole with
  | zero rest => exact ⟨_, _, rfl, rfl⟩
  | other hdigit => exact ⟨_, _, rfl, hdigit⟩

end Number

/-! ## Strings -/

namespace Quoted

theorem unit_eq_ok_iff {n : Nat} : unit text = .ok (n, rest)
    ↔ ∃ p q r s, text = p :: q :: r :: s :: rest ∧ hex? p q r s = some n := by
  constructor
  · intro h
    unfold unit at h
    split at h
    · next p q r s tail =>
      split at h
      · next hhex =>
        cases h
        exact ⟨p, q, r, s, rfl, hhex⟩
      · cases h
    · cases h
  · rintro ⟨p, q, r, s, rfl, hhex⟩
    rw [unit, hhex]

theorem skip_quote (rest : List UInt8) : skip (0x22 :: rest) = .ok rest := by
  rw [skip, if_pos (by decide)]

theorem skip_escape (h : skipEscape text = .ok after) : skip (0x5c :: text) = skip after := by
  rw [skip, if_neg (by decide), if_pos (by decide)]
  split
  · next hfault =>
    rw [h] at hfault
    cases hfault
  · next hread =>
    rw [h] at hread
    cases hread
    rfl

theorem skip_plain (h : Plain b) (rest : List UInt8) : skip (b :: rest) = skip rest := by
  obtain ⟨hquote, hbackslash, hcontrol⟩ := h
  have hge : ¬ b < 0x20 := by
    rw [UInt8.lt_iff_toNat_lt]
    exact Nat.not_lt.mpr hcontrol
  rw [skip, if_neg (by simpa using hquote), if_neg (by simpa using hbackslash), if_neg hge]

theorem skip_of_loose (h : Loose text rest) : skip text = .ok rest := by
  induction h with
  | close rest => exact skip_quote rest
  | plain hplain _ ih => rw [skip_plain hplain, ih]
  | @short b c text _ hshort _ ih =>
      have hescape : skipEscape (b :: text) = .ok text := by
        rw [skipEscape, hshort]
        rfl
      rw [skip_escape hescape, ih]
  | @unit n p q r s text _ hunit _ ih =>
      have hescape : skipEscape (0x75 :: p :: q :: r :: s :: text) = .ok text := by
        have hread : unit (p :: q :: r :: s :: text) = .ok (n, text) :=
          unit_eq_ok_iff.mpr ⟨p, q, r, s, rfl, hunit⟩
        rw [skipEscape, if_neg (by decide), if_neg (by decide), hread]
        rfl
      rw [skip_escape hescape, ih]

theorem loose_of_skipEscape (h : skipEscape text = .ok after) (htail : Loose after rest) :
    Loose (0x5c :: text) rest := by
  unfold skipEscape at h
  split at h
  · cases h
  next b tail =>
  split at h
  · next hshort =>
    cases h
    obtain ⟨c, hc⟩ := Option.isSome_iff_exists.mp hshort
    exact .short hc htail
  split at h
  · cases h
  · next hletter =>
    obtain rfl : b = 0x75 := by simpa using hletter
    cases hunit : unit tail with
    | error fault =>
        rw [hunit] at h
        cases h
    | ok found =>
        rw [hunit] at h
        cases h
        obtain ⟨p, q, r, s, rfl, hhex⟩ := unit_eq_ok_iff.mp hunit
        exact .unit hhex htail

theorem plain_of_not (hquote : ¬ (b == 0x22) = true) (hbackslash : ¬ (b == 0x5c) = true)
    (hcontrol : ¬ b < 0x20) : Plain b := by
  rw [UInt8.lt_iff_toNat_lt, Nat.not_lt] at hcontrol
  exact ⟨by simpa using hquote, by simpa using hbackslash, hcontrol⟩

theorem loose_of_skip (h : skip text = .ok rest) : Loose text rest := by
  fun_induction skip text with
  | case1 => cases h
  | case2 b tail hquote =>
      cases h
      obtain rfl := beq_iff_eq.mp hquote
      exact .close rest
  | case3 => cases h
  | case4 b tail _ hbackslash after hescape _ ih =>
      obtain rfl := beq_iff_eq.mp hbackslash
      exact loose_of_skipEscape hescape (ih h)
  | case5 => cases h
  | case6 b tail hquote hbackslash hcontrol ih =>
      exact .plain (plain_of_not hquote hbackslash hcontrol) (ih h)

end Quoted

/-! ## Values without members -/

theorem scalar_of_skipScalar (h : skipScalar b text = .ok rest) : Scalar (b :: text) rest := by
  unfold skipScalar at h
  split at h
  · next hletter =>
    obtain rfl := beq_iff_eq.mp hletter
    exact .null ((word_iff encode_null).mpr ⟨text, rfl, h⟩)
  split at h
  · next hletter =>
    obtain rfl := beq_iff_eq.mp hletter
    exact .boolean true ((word_iff encode_true).mpr ⟨text, rfl, h⟩)
  split at h
  · next hletter =>
    obtain rfl := beq_iff_eq.mp hletter
    exact .boolean false ((word_iff encode_false).mpr ⟨text, rfl, h⟩)
  split at h
  · next hminus =>
    obtain rfl := beq_iff_eq.mp hminus
    exact .negative (Number.unsigned_of_skip h)
  split at h
  · exact .number (Number.unsigned_of_skip h)
  split at h
  · next hquote =>
    obtain rfl := beq_iff_eq.mp hquote
    exact .string (Quoted.loose_of_skip h)
  · cases h

/-- The first byte of a value without members. -/
def beginsScalar (b : UInt8) : Bool :=
  Number.isDigit b || b ∈ [0x6e, 0x74, 0x66, 0x2d, 0x22]

theorem Scalar.exists_first (h : Scalar text rest) :
    ∃ b after, text = b :: after ∧ beginsScalar b = true := by
  cases h with
  | null hword =>
      obtain ⟨after, rfl, -⟩ := (word_iff encode_null).mp hword
      exact ⟨_, after, rfl, rfl⟩
  | boolean value hword =>
      cases value with
      | true =>
          obtain ⟨after, rfl, -⟩ := (word_iff encode_true).mp hword
          exact ⟨_, after, rfl, rfl⟩
      | false =>
          obtain ⟨after, rfl, -⟩ := (word_iff encode_false).mp hword
          exact ⟨_, after, rfl, rfl⟩
  | number hnumber =>
      obtain ⟨b, after, rfl, hdigit⟩ := hnumber.exists_digit
      exact ⟨b, after, rfl, by rw [beginsScalar, hdigit, Bool.true_or]⟩
  | negative => exact ⟨_, _, rfl, rfl⟩
  | string => exact ⟨_, _, rfl, rfl⟩

theorem skipScalar_of_scalar (h : Scalar (b :: text) rest) (hrest : Number.Ended rest) :
    skipScalar b text = .ok rest := by
  cases h with
  | null hword =>
      obtain ⟨after, heq, hread⟩ := (word_iff encode_null).mp hword
      cases heq
      exact hread
  | boolean value hword =>
      cases value with
      | true =>
          obtain ⟨after, heq, hread⟩ := (word_iff encode_true).mp hword
          cases heq
          exact hread
      | false =>
          obtain ⟨after, heq, hread⟩ := (word_iff encode_false).mp hword
          cases heq
          exact hread
  | negative hnumber => exact Number.skip_of_unsigned hnumber hrest
  | string hstring => exact Quoted.skip_of_loose hstring
  | number hnumber =>
      obtain ⟨b, after, heq, hdigit⟩ := hnumber.exists_digit
      cases heq
      have hne : ∀ other, Number.isDigit other = false → ¬ (b == other) = true := by
        intro other hother
        simpa using Number.ne_of_isDigit hdigit hother
      rw [skipScalar, if_neg (hne _ rfl), if_neg (hne _ rfl), if_neg (hne _ rfl),
        if_neg (hne _ rfl), if_pos hdigit, Number.skip_of_unsigned hnumber hrest]

/-! ## Whole texts -/

theorem bind_eq_ok_iff {α β ε : Type} {read : Except ε α} {f : α → Except ε β} {result : β} :
    read >>= f = .ok result ↔ ∃ found, read = .ok found ∧ f found = .ok result := by
  cases read with
  | error fault => exact ⟨nofun, nofun⟩
  | ok found =>
      constructor
      · intro h
        exact ⟨found, rfl, h⟩
      · rintro ⟨_, heq, h⟩
        cases heq
        exact h

theorem exists_of_map {α β ε : Type} {read : Except ε α} {f : α → β} {result : β}
    (h : read.map f = .ok result) : ∃ found, read = .ok found ∧ f found = result := by
  cases read with
  | error fault => cases h
  | ok found =>
      cases h
      exact ⟨found, rfl, rfl⟩

theorem finish_eq_ok_iff : finish text = .ok () ↔ Blanks text [] := by
  constructor
  · intro h
    unfold finish at h
    split at h
    · next hblank =>
      rw [← hblank]
      exact blanks_skipBlank text
    · cases h
  · intro h
    rw [finish, skipBlank_of_blanks h]
    rfl

section Whole

variable {α : Type} {read : List UInt8 → Except Fault (α × List UInt8)} {value : α}

theorem readWhole_eq_ok_iff :
    readWhole read text = .ok value ↔ ∃ rest, read text = .ok (value, rest) ∧ Blanks rest [] := by
  unfold readWhole
  constructor
  · intro h
    split at h
    · cases h
    next hvalue =>
    split at h
    · cases h
    next hfinish =>
    cases h
    exact ⟨_, hvalue, finish_eq_ok_iff.mp hfinish⟩
  · rintro ⟨rest, hvalue, hblanks⟩
    simp only [hvalue, finish_eq_ok_iff.mpr hblanks]

theorem readWhole_of_fault {fault : Fault} (h : read text = .error fault) :
    readWhole read text = .error (fault.locate text) := by
  rw [readWhole, h]

end Whole

end PidOne.Json
