import PidOne.Proofs.Config.Grammar
import PidOne.Proofs.Json.Nesting
import PidOne.Proofs.Json.Spelling

/-!
# Members of a configuration are read by their grammar

What the reader carries along is what the settings before have left of the two fields. It stops
where a field would be given a second time, and nowhere else in members that the grammar allows,
which is why that fault is one of the data.
-/

namespace PidOne.Config

open Json

variable {fields found : Fields} {setting : Setting} {settings : List Setting} {key s : String}
  {value : Bool} {text after next rest : List UInt8}

/-! ## Strings and truth values -/

theorem readString_eq_ok_iff : readString text = .ok (s, rest) ↔ Text s text rest := by
  constructor
  · intro h
    unfold readString at h
    split at h
    · cases h
    next b tail hblank =>
    split at h
    · next hquote =>
      obtain rfl := beq_iff_eq.mp hquote
      exact ⟨tail, token_of_skipBlank hblank, Quoted.read_eq_ok_iff.mp h⟩
    · cases h
  · rintro ⟨inner, hquote, hspelled⟩
    rw [readString, skipBlank_of_token hquote rfl]
    exact Quoted.read_eq_ok_iff.mpr hspelled

theorem Text.unique (h : Text s text rest) (hother : Text key text after) :
    s = key ∧ rest = after := by
  have hread := (readString_eq_ok_iff.mpr h).symm.trans (readString_eq_ok_iff.mpr hother)
  rw [Except.ok.injEq, Prod.mk.injEq] at hread
  exact hread

theorem readBoolean_eq_ok_iff : readBoolean text = .ok (value, rest) ↔ Flag value text rest := by
  constructor
  · intro h
    unfold readBoolean at h
    split at h
    · cases h
    next b tail hblank =>
    have hblanks : Blanks text (b :: tail) := token_of_skipBlank hblank
    split at h
    · next hletter =>
      obtain rfl := beq_iff_eq.mp hletter
      obtain ⟨after, hword, heq⟩ := exists_of_map h
      cases heq
      exact ⟨_, hblanks, (word_iff encode_true).mpr ⟨tail, rfl, hword⟩⟩
    split at h
    · next hletter =>
      obtain rfl := beq_iff_eq.mp hletter
      obtain ⟨after, hword, heq⟩ := exists_of_map h
      cases heq
      exact ⟨_, hblanks, (word_iff encode_false).mpr ⟨tail, rfl, hword⟩⟩
    · cases h
  · rintro ⟨start, hblanks, hword⟩
    cases value with
    | true =>
        obtain ⟨after, rfl, hread⟩ := (word_iff encode_true).mp hword
        rw [readBoolean, skipBlank_of_token hblanks rfl]
        simp only [beq_self_eq_true, if_true, hread]
        rfl
    | false =>
        obtain ⟨after, rfl, hread⟩ := (word_iff encode_false).mp hword
        rw [readBoolean, skipBlank_of_token hblanks rfl]
        simp only [hread]
        rfl

/-! ## Members -/

/-- Whether there is no room for the field of a key any more. -/
def Fields.Taken (fields : Fields) (key : String) : Prop :=
  key = "filter" ∧ fields.filter.isSome = true ∨ key = "json" ∧ fields.json.isSome = true

theorem category_duplicate (key : String) (text : List UInt8) :
    (duplicate key text).cause.category = .data := by
  unfold duplicate
  split <;> rfl

theorem readMember_taken (h : fields.Taken key) (text : List UInt8) :
    readMember fields key text = .error (duplicate key text) := by
  rcases h with ⟨rfl, hfilter⟩ | ⟨rfl, hjson⟩
  · rw [readMember, if_pos (by decide), if_pos hfilter]
  · rw [readMember, if_neg (by decide), if_pos (by decide), if_pos hjson]

theorem taken_of_add? (h : fields.add? setting = none) : fields.Taken setting.key := by
  cases setting with
  | filter text =>
      rw [Fields.add?] at h
      split at h
      · next hfilter => exact .inl ⟨rfl, hfilter⟩
      · cases h
  | json value =>
      rw [Fields.add?] at h
      split at h
      · next hjson => exact .inr ⟨rfl, hjson⟩
      · cases h
  | other key => cases h

theorem Member.exists_text (h : Member setting text rest) :
    ∃ after, Text setting.key text after := by
  cases h with
  | filter hname => exact ⟨_, hname.choose_spec.1⟩
  | json hname => exact ⟨_, hname.choose_spec.1⟩
  | other _ _ hname => exact ⟨_, hname.choose_spec.1⟩

theorem readMember_of_member (h : Member setting text rest) (hrest : Number.Ended rest)
    (hadd : fields.add? setting = some found) :
    ∃ after, Text setting.key text after
      ∧ readMember fields setting.key after = .ok (found, rest) := by
  cases h with
  | @filter value _ start _ hname hvalue =>
      obtain ⟨after, htext, hcolon⟩ := hname
      rw [Fields.add?] at hadd
      split at hadd
      · cases hadd
      next hroom =>
      cases hadd
      refine ⟨after, htext, ?_⟩
      rw [Setting.key, readMember, if_pos (by decide), if_neg hroom,
        colon_eq_ok_iff.mpr hcolon]
      simp only [readString_eq_ok_iff.mpr hvalue]
  | @json value _ start _ hname hvalue =>
      obtain ⟨after, htext, hcolon⟩ := hname
      rw [Fields.add?] at hadd
      split at hadd
      · cases hadd
      next hroom =>
      cases hadd
      refine ⟨after, htext, ?_⟩
      rw [Setting.key, readMember, if_neg (by decide), if_pos (by decide), if_neg hroom,
        colon_eq_ok_iff.mpr hcolon]
      simp only [readBoolean_eq_ok_iff.mpr hvalue]
  | @other key _ start _ hfilter hjson hname hvalue =>
      obtain ⟨after, htext, hcolon⟩ := hname
      cases hadd
      refine ⟨after, htext, ?_⟩
      rw [Setting.key, readMember, if_neg (by simpa using hfilter), if_neg (by simpa using hjson),
        colon_eq_ok_iff.mpr hcolon]
      simp only [skip_of_value hvalue hrest]

theorem member_of_readMember (hkey : Text key text after)
    (h : readMember fields key after = .ok (found, rest)) :
    ∃ setting, Member setting text rest ∧ fields.add? setting = some found := by
  unfold readMember at h
  split at h
  · next hfilter =>
    obtain rfl := beq_iff_eq.mp hfilter
    split at h
    · cases h
    next hroom =>
    split at h
    · cases h
    next hcolon =>
    split at h
    · cases h
    next value tail hread =>
    cases h
    refine ⟨.filter value, .filter ⟨after, hkey, colon_eq_ok_iff.mp hcolon⟩
      (readString_eq_ok_iff.mp hread), ?_⟩
    rw [Fields.add?, if_neg hroom]
  next hfilter =>
  split at h
  · next hjson =>
    obtain rfl := beq_iff_eq.mp hjson
    split at h
    · cases h
    next hroom =>
    split at h
    · cases h
    next hcolon =>
    split at h
    · cases h
    next value tail hread =>
    cases h
    refine ⟨.json value, .json ⟨after, hkey, colon_eq_ok_iff.mp hcolon⟩
      (readBoolean_eq_ok_iff.mp hread), ?_⟩
    rw [Fields.add?, if_neg hroom]
  next hjson =>
  split at h
  · cases h
  next hcolon =>
  split at h
  · cases h
  next hskip =>
  cases h
  exact ⟨.other key, .other (by simpa using hfilter) (by simpa using hjson)
    ⟨after, hkey, colon_eq_ok_iff.mp hcolon⟩ (value_of_skip hskip), rfl⟩

theorem readMembers_key (h : Text key text after) :
    readMembers fields text = (readMember fields key after).bind fun (found, rest) =>
      match skipBlank rest with
      | [] => .error ⟨.endInObject, []⟩
      | c :: tail =>
        if c == 0x7d then .ok (found, tail)
        else if c == 0x2c then readMembers found tail
        else .error ⟨.expectedCommaOrBrace, tail⟩ := by
  obtain ⟨inner, hquote, hspelled⟩ := h
  have hblank : skipBlank text = 0x22 :: inner := skipBlank_of_token hquote rfl
  have hread : Quoted.read inner = .ok (key, after) := Quoted.read_eq_ok_iff.mpr hspelled
  rw [readMembers]
  grind [Except.bind]

theorem readMembers_taken (h : fields.Taken key) (hkey : Text key text after) :
    ∃ fault, readMembers fields text = .error fault ∧ fault.cause.category = .data := by
  refine ⟨duplicate key after, ?_, category_duplicate key after⟩
  rw [readMembers_key hkey, readMember_taken h, Except.bind]

theorem readMembers_last (hmember : Member setting text after) (hclose : Token 0x7d after rest)
    (hadd : fields.add? setting = some found) : readMembers fields text = .ok (found, rest) := by
  obtain ⟨behind, hkey, hread⟩ := readMember_of_member hmember (ended_of_token hclose rfl) hadd
  rw [readMembers_key hkey, hread, Except.bind]
  simp only [skipBlank_of_token hclose rfl, beq_self_eq_true, if_true]

theorem readMembers_more (hmember : Member setting text after) (hcomma : Token 0x2c after next)
    (hadd : fields.add? setting = some found) :
    readMembers fields text = readMembers found next := by
  obtain ⟨behind, hkey, hread⟩ := readMember_of_member hmember (ended_of_token hcomma rfl) hadd
  rw [readMembers_key hkey, hread, Except.bind]
  simp only [skipBlank_of_token hcomma rfl, beq_self_eq_true, if_true]
  rfl

theorem Members.read (h : Members settings text next)
    (hfold : settings.foldlM Fields.add? fields = some found) :
    readMembers fields text = readMembers found next := by
  induction h generalizing fields with
  | nil text =>
      cases hfold
      rfl
  | cons hmember hcomma _ ih =>
      rw [List.foldlM_cons, Option.bind_eq_bind, Option.bind_eq_some_iff] at hfold
      obtain ⟨between, hadd, hrest⟩ := hfold
      rw [readMembers_more hmember hcomma hadd, ih hrest]

/-- Members that give a field twice stop the reader with a fault of the data. -/
theorem Members.refused (h : Members settings text next)
    (hfold : settings.foldlM Fields.add? fields = none) :
    ∃ fault, readMembers fields text = .error fault ∧ fault.cause.category = .data := by
  induction h generalizing fields with
  | nil text => cases hfold
  | @cons setting settings _ _ _ _ hmember hcomma _ ih =>
      cases hadd : fields.add? setting with
      | none =>
          obtain ⟨after, hkey⟩ := hmember.exists_text
          exact readMembers_taken (taken_of_add? hadd) hkey
      | some between =>
          rw [List.foldlM_cons, hadd] at hfold
          rw [readMembers_more hmember hcomma hadd]
          exact ih hfold

/-- What is read up to the brace are members, the last one without a comma. -/
theorem exists_of_readMembers (h : readMembers fields text = .ok (found, rest)) :
    ∃ settings setting next after, Members settings text next ∧ Member setting next after
      ∧ Token 0x7d after rest ∧ (settings ++ [setting]).foldlM Fields.add? fields = some found := by
  fun_induction readMembers fields text with
  | case1 => cases h
  | case2 => cases h
  | case3 => cases h
  | case4 => cases h
  | case5 fields text b inner hblank hquote key after hkey between behind hmember c tail hnext
      hclose =>
      obtain rfl := beq_iff_eq.mp hquote
      obtain rfl := beq_iff_eq.mp hclose
      have htext : Text key text after :=
        ⟨inner, token_of_skipBlank hblank, Quoted.read_eq_ok_iff.mp hkey⟩
      obtain ⟨setting, hsetting, hadd⟩ := member_of_readMember htext hmember
      cases h
      refine ⟨[], setting, text, behind, .nil text, hsetting, token_of_skipBlank hnext, ?_⟩
      rw [List.nil_append, List.foldlM_cons, hadd]
      rfl
  | case6 fields text b inner hblank hquote key after hkey between behind hmember c tail hnext _
      hcomma _ ih =>
      obtain rfl := beq_iff_eq.mp hquote
      obtain rfl := beq_iff_eq.mp hcomma
      have htext : Text key text after :=
        ⟨inner, token_of_skipBlank hblank, Quoted.read_eq_ok_iff.mp hkey⟩
      obtain ⟨first, hfirst, hadd⟩ := member_of_readMember htext hmember
      obtain ⟨settings, setting, next, last, hmembers, hlast, hclose, hfold⟩ := ih h
      refine ⟨first :: settings, setting, next, last,
        .cons hfirst (token_of_skipBlank hnext) hmembers,
        hlast, hclose, ?_⟩
      rw [List.cons_append, List.foldlM_cons, hadd]
      exact hfold
  | case7 => cases h
  | case8 => cases h
  | case9 => cases h

end PidOne.Config
