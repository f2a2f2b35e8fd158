import PidOne.Proofs.Json.Scanning

/-!
# Values of any depth

The scanner of values keeps a stack of the frames it is in. When it succeeds it has closed them all,
so what it has passed over is a value and, for each frame on the stack, the members that were left.
That is read off its own recursion. In the other direction the recursion is on the value: one that
stands at the beginning of a text brings the scanner behind it, whatever the stack is, and members
bring it behind the end of their frame.
-/

namespace PidOne.Json

variable {frame : Frame} {frames outer : List Frame} {b : UInt8}
  {text inner start after next rest : List UInt8}

/-! ## Frames and keys -/

namespace Frame

theorem opened?_opening (frame : Frame) : opened? frame.opening = some frame := by
  cases frame <;> rfl

theorem eq_opening (h : opened? b = some frame) : b = frame.opening := by
  unfold opened? at h
  split at h
  · next hlist =>
    cases h
    exact beq_iff_eq.mp hlist
  split at h
  · next hobject =>
    cases h
    exact beq_iff_eq.mp hobject
  · cases h

theorem isBlank_opening (frame : Frame) : isBlank frame.opening = false := by
  cases frame <;> rfl

theorem isBlank_close (frame : Frame) : isBlank frame.close = false := by
  cases frame <;> rfl

theorem goesOn_close (frame : Frame) : Number.goesOn frame.close = false := by
  cases frame <;> rfl

end Frame

theorem goesOn_of_isBlank (h : isBlank b = true) : Number.goesOn b = false := by
  simp only [isBlank, Bool.or_eq_true, beq_iff_eq] at h
  rcases h with ((rfl | rfl) | rfl) | rfl <;> rfl

/-- A number ends in front of blanks and of every token that is no part of one. -/
theorem ended_of_token (h : Token b text rest) (hb : Number.goesOn b = false) :
    Number.Ended text := by
  obtain ⟨bytes, rfl, hblanks⟩ := h
  intro first tail heq
  cases bytes with
  | nil =>
      cases heq
      exact hb
  | cons blank bytes =>
      cases heq
      exact goesOn_of_isBlank (hblanks first List.mem_cons_self)

theorem colon_eq_ok_iff : colon text = .ok rest ↔ Token 0x3a text rest := by
  constructor
  · intro h
    unfold colon at h
    split at h
    · cases h
    next b tail hblank =>
    split at h
    · next hcolon =>
      cases h
      obtain rfl := beq_iff_eq.mp hcolon
      exact token_of_skipBlank hblank
    · cases h
  · intro h
    rw [colon, skipBlank_of_token h rfl]
    rfl

theorem key_of_skipKey (h : skipKey frame text = .ok rest) : Key frame text rest := by
  unfold skipKey at h
  split at h
  · cases h
    exact .list text
  split at h
  · cases h
  next b tail hblank =>
  split at h
  · next hquote =>
    obtain rfl := beq_iff_eq.mp hquote
    split at h
    · next hskip =>
      exact .object (token_of_skipBlank hblank) (Quoted.loose_of_skip hskip)
        (colon_eq_ok_iff.mp h)
    · cases h
  · cases h

theorem skipKey_of_key (h : Key frame text rest) : skipKey frame text = .ok rest := by
  cases h with
  | list => rfl
  | object hquote hname hcolon =>
      rw [skipKey, skipBlank_of_token hquote rfl]
      simp only [beq_self_eq_true, if_true, Quoted.skip_of_loose hname]
      exact colon_eq_ok_iff.mpr hcolon

/-! ## Steps of the scanner -/

theorem skipNested_next (h : skipBlank text = b :: rest) :
    skipNested .next (frame :: outer) text =
      if b == frame.close then skipNested .next outer rest
      else if b == 0x2c then
        (skipKey frame rest).bind fun after => skipNested .value (frame :: outer) after
      else .error ⟨frame.unseparated, rest⟩ := by
  rw [skipNested]
  split
  · next hempty => cases h ▸ hempty
  next hcons =>
  cases h ▸ hcons
  split
  · rfl
  split
  · split <;> simp_all [Except.bind]
  · rfl

theorem skipNested_value (h : skipBlank text = b :: rest) :
    skipNested .value frames text =
      match Frame.opened? b with
      | some frame =>
        match skipBlank rest with
        | [] => .error ⟨frame.ended, []⟩
        | c :: after =>
          if c == frame.close then skipNested .next frames after
          else (skipKey frame rest).bind fun after => skipNested .value (frame :: frames) after
      | none => (skipScalar b rest).bind fun after => skipNested .next frames after := by
  rw [skipNested]
  split
  · next hempty => cases h ▸ hempty
  next hcons =>
  cases h ▸ hcons
  cases hopened : Frame.opened? b with
  | none =>
      dsimp only
      split <;> simp_all [Except.bind]
  | some frame =>
      dsimp only
      split
      · next hend => rw [hend]
      next hinner =>
      rw [hinner]
      dsimp only
      split
      · rfl
      · split <;> simp_all [Except.bind]

theorem skipNested_close (h : Token frame.close text rest) :
    skipNested .next (frame :: outer) text = skipNested .next outer rest := by
  rw [skipNested_next (skipBlank_of_token h frame.isBlank_close), if_pos (beq_self_eq_true _)]

theorem skipNested_comma (h : Token 0x2c text next) (hkey : Key frame next after) :
    skipNested .next (frame :: outer) text = skipNested .value (frame :: outer) after := by
  have hclose : ¬ ((0x2c : UInt8) == frame.close) = true := by cases frame <;> decide
  rw [skipNested_next (skipBlank_of_token h rfl), if_neg hclose, if_pos (by decide),
    skipKey_of_key hkey, Except.bind]

theorem skipNested_empty (hopen : Token frame.opening text inner)
    (hclose : Token frame.close inner rest) :
    skipNested .value frames text = skipNested .next frames rest := by
  rw [skipNested_value (skipBlank_of_token hopen frame.isBlank_opening), Frame.opened?_opening]
  simp only [skipBlank_of_token hclose frame.isBlank_close, beq_self_eq_true, if_true]

theorem skipNested_opening {tail : List UInt8} (hopen : Token frame.opening text inner)
    (hinner : skipBlank inner = b :: tail) (hclose : b ≠ frame.close)
    (hkey : Key frame inner start) :
    skipNested .value frames text = skipNested .value (frame :: frames) start := by
  rw [skipNested_value (skipBlank_of_token hopen frame.isBlank_opening), Frame.opened?_opening]
  simp only [hinner, beq_eq_false_iff_ne.mpr hclose, Bool.false_eq_true, if_false,
    skipKey_of_key hkey, Except.bind]

theorem ne_of_beginsScalar {other : UInt8} (h : beginsScalar b = true)
    (hother : beginsScalar other = false) : b ≠ other := by
  rintro rfl
  rw [h] at hother
  cases hother

theorem isBlank_of_beginsScalar (h : beginsScalar b = true) : isBlank b = false := by
  simp only [isBlank, Bool.or_eq_false_iff, beq_eq_false_iff_ne]
  exact ⟨⟨⟨ne_of_beginsScalar h rfl, ne_of_beginsScalar h rfl⟩, ne_of_beginsScalar h rfl⟩,
    ne_of_beginsScalar h rfl⟩

theorem opened?_of_beginsScalar (h : beginsScalar b = true) : Frame.opened? b = none := by
  have hlist : b ≠ 0x5b := ne_of_beginsScalar h rfl
  have hobject : b ≠ 0x7b := ne_of_beginsScalar h rfl
  rw [Frame.opened?, if_neg (by simpa using hlist), if_neg (by simpa using hobject)]

theorem skipNested_scalar (hblanks : Blanks text start) (hscalar : Scalar start rest)
    (hrest : Number.Ended rest) :
    skipNested .value frames text = skipNested .next frames rest := by
  obtain ⟨b, after, rfl, hbegins⟩ := hscalar.exists_first
  have hstart : skipBlank text = b :: after :=
    skipBlank_of_token hblanks (isBlank_of_beginsScalar hbegins)
  rw [skipNested_value hstart, opened?_of_beginsScalar hbegins]
  simp only [skipScalar_of_scalar hscalar hrest, Except.bind]

/-! ## What the scanner passes over -/

/-- The byte that cannot stand where the part begins. -/
def Part.excluded : Part → UInt8
  | value => 0x5d
  | members frame => frame.close

theorem Frame.opening_ne_excluded (frame : Frame) : frame.opening ≠ Part.value.excluded := by
  cases frame <;> decide

/-- A part that is there does not look like the end of its frame. -/
theorem Value.begins {part : Part} (h : Value part text rest) :
    ∃ b after, skipBlank text = b :: after ∧ b ≠ part.excluded := by
  have hkeyed : ∀ {frame text start}, Key frame text start →
      (∃ b after, skipBlank start = b :: after ∧ b ≠ Part.value.excluded) →
      ∃ b after, skipBlank text = b :: after ∧ b ≠ frame.close := by
    intro frame text start hkey hbegins
    cases hkey with
    | list => exact hbegins
    | object hquote => exact ⟨_, _, skipBlank_of_token hquote rfl, by decide⟩
  induction h with
  | scalar hblanks hscalar =>
      obtain ⟨b, after, rfl, hbegins⟩ := hscalar.exists_first
      exact ⟨b, after, skipBlank_of_token hblanks (isBlank_of_beginsScalar hbegins),
        ne_of_beginsScalar hbegins rfl⟩
  | empty frame hopen =>
      exact ⟨_, _, skipBlank_of_token hopen frame.isBlank_opening, frame.opening_ne_excluded⟩
  | nested frame hopen =>
      exact ⟨_, _, skipBlank_of_token hopen frame.isBlank_opening, frame.opening_ne_excluded⟩
  | last hkey _ _ ih => exact hkeyed hkey ih
  | more hkey _ _ _ ih => exact hkeyed hkey ih

/-- What a part makes of the scanner that meets it. -/
def Part.Passed : Part → Rule
  | value => fun text rest => Number.Ended rest →
      ∀ frames, skipNested .value frames text = skipNested .next frames rest
  | members frame => fun text rest => ∃ start, Key frame text start ∧
      ∀ outer, skipNested .value (frame :: outer) start = skipNested .next outer rest

/-- **The scanner goes on behind a value.** -/
theorem Value.passed {part : Part} (h : Value part text rest) : part.Passed text rest := by
  induction h with
  | scalar hblanks hscalar => exact fun hrest frames => skipNested_scalar hblanks hscalar hrest
  | empty frame hopen hclose => exact fun _ frames => skipNested_empty hopen hclose
  | nested frame hopen hmembers ih =>
      intro _ frames
      obtain ⟨start, hkey, hpassed⟩ := ih
      obtain ⟨b, tail, hinner, hne⟩ := hmembers.begins
      rw [skipNested_opening hopen hinner hne hkey, hpassed frames]
  | last hkey _ hclose ih =>
      -- what stands behind a member ends a number too
      refine ⟨_, hkey, fun outer => ?_⟩
      rw [ih (ended_of_token hclose (Frame.goesOn_close _)), skipNested_close hclose]
  | more hkey _ hcomma _ ih ihmembers =>
      obtain ⟨start, hnextkey, hpassed⟩ := ihmembers
      refine ⟨_, hkey, fun outer => ?_⟩
      rw [ih (ended_of_token hcomma rfl), skipNested_comma hcomma hnextkey, hpassed outer]

/-! ## What the scanner has passed over -/

/-- What is left of the members of each frame on a stack, the innermost first, behind one of them.
-/
inductive Closing : List Frame → Rule
  | nil (text : List UInt8) : Closing [] text text
  | last {frame : Frame} {outer : List Frame} {text after rest : List UInt8}
      (hclose : Token frame.close text after) (houter : Closing outer after rest) :
      Closing (frame :: outer) text rest
  | more {frame : Frame} {outer : List Frame} {text next after rest : List UInt8}
      (hcomma : Token 0x2c text next) (hmembers : Value (.members frame) next after)
      (houter : Closing outer after rest) : Closing (frame :: outer) text rest

theorem Closing.members (hkey : Key frame text start) (hvalue : Value .value start after)
    (h : Closing (frame :: outer) after rest) :
    ∃ behind, Value (.members frame) text behind ∧ Closing outer behind rest := by
  cases h with
  | last hclose houter => exact ⟨_, .last hkey hvalue hclose, houter⟩
  | more hcomma hmembers houter => exact ⟨_, .more hkey hvalue hcomma hmembers, houter⟩

/-- What a scanner that looks for a value, or for what follows one, has passed over. -/
def Goal.Over (frames : List Frame) : Goal → Rule
  | .value => fun text rest => ∃ after, Value .value text after ∧ Closing frames after rest
  | .next => Closing frames

/-- **The scanner passes over values only.** -/
theorem over_of_skipNested {goal : Goal} (h : skipNested goal frames text = .ok rest) :
    goal.Over frames text rest := by
  fun_induction skipNested goal frames text with
  | case1 text =>
      cases h
      exact .nil _
  | case2 => cases h
  | case3 text frame outer b tail hblank _ hclose ih =>
      obtain rfl := beq_iff_eq.mp hclose
      exact .last (token_of_skipBlank hblank) (ih h)
  | case4 => cases h
  | case5 text frame outer b tail hblank _ _ hcomma after hkey _ ih =>
      obtain rfl := beq_iff_eq.mp hcomma
      obtain ⟨behind, hvalue, hclosing⟩ := ih h
      obtain ⟨behind, hmembers, houter⟩ := Closing.members (key_of_skipKey hkey) hvalue hclosing
      exact .more (token_of_skipBlank hblank) hmembers houter
  | case6 => cases h
  | case7 => cases h
  | case8 => cases h
  | case9 text frames b tail hblank _ frame hframe _ c after hinside hclose _ ih =>
      obtain rfl := Frame.eq_opening hframe
      obtain rfl := beq_iff_eq.mp hclose
      exact ⟨after, .empty frame (token_of_skipBlank hblank) (token_of_skipBlank hinside), ih h⟩
  | case10 => cases h
  | case11 text frames b tail hblank _ frame hframe _ c _ hinside _ after hkey _ ih =>
      -- the new frame is at the top of the stack, so its members come first in what is left
      obtain rfl := Frame.eq_opening hframe
      obtain ⟨behind, hvalue, hclosing⟩ := ih h
      obtain ⟨behind, hmembers, houter⟩ := Closing.members (key_of_skipKey hkey) hvalue hclosing
      exact ⟨behind, .nested frame (token_of_skipBlank hblank) hmembers, houter⟩
  | case12 => cases h
  | case13 text frames b tail hblank _ hframe after hscalar _ ih =>
      have hblanks : Blanks text (b :: tail) := token_of_skipBlank hblank
      exact ⟨after, .scalar hblanks (scalar_of_skipScalar hscalar), ih h⟩

theorem skip_of_value (h : Value .value text rest) (hrest : Number.Ended rest) :
    skip text = .ok rest := by
  rw [skip, h.passed hrest [], skipNested]

theorem value_of_skip (h : skip text = .ok rest) : Value .value text rest := by
  obtain ⟨after, hvalue, hclosing⟩ := over_of_skipNested h
  cases hclosing
  exact hvalue

end PidOne.Json
