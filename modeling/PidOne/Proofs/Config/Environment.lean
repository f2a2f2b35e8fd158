import Mathlib.Data.List.Forall2
import PidOne.Config.Environment
import PidOne.Proofs.Lookup
import PidOne.Proofs.Text.Decoding

/-!
# What an environment configures

A filter is found in two steps. The first of the two variables that says a text is taken, and only
then is it looked at whether that text is blank. So a blank text counts as none where nothing comes
after it, which is at the common variable. At the program's own variable it takes the place of what
the common one says, and the default is what is left.
-/

namespace PidOne

/-! ## Texts -/

namespace Text

variable {c d : Char} {text other : String}

def Blank (text : String) : Prop := ∀ c ∈ text.toList, isBlank c = true

/-- One of the letters from A to Z, and the same letter made small. -/
def Capital (upper lower : Char) : Prop :=
  ('A' ≤ upper ∧ upper ≤ 'Z') ∧ lower.toNat = upper.toNat + 0x20

/-- Characters that differ at most in the case of a letter from A to Z. -/
def SameLetter (c d : Char) : Prop := c = d ∨ Capital c d ∨ Capital d c

def SameUpToCase (text other : String) : Prop := List.Forall₂ SameLetter text.toList other.toList

theorem allBlank_iff : allBlank text = true ↔ Blank text := List.all_eq_true

theorem toLower_of_not (h : ¬ ('A' ≤ c ∧ c ≤ 'Z')) : c.toLower = c := dif_neg h

theorem capital_toLower (h : 'A' ≤ c ∧ c ≤ 'Z') : Capital c c.toLower := by
  have hle : c.toNat ≤ 0x5a := h.2
  refine ⟨h, ?_⟩
  calc c.toLower.toNat
      = (c.val + 0x20).toNat := congrArg Char.toNat (dif_pos h)
    _ = (c.toNat + 0x20) % 2 ^ 32 := UInt32.toNat_add c.val 0x20
    _ = c.toNat + 0x20 := by omega

/-- A character that is not a capital is the small letter of what differs from it in case. -/
theorem toLower_eq_iff (h : d.toLower = d) : c.toLower = d ↔ SameLetter c d := by
  constructor
  · rintro rfl
    by_cases hc : 'A' ≤ c ∧ c ≤ 'Z'
    · exact .inr (.inl (capital_toLower hc))
    · exact .inl (toLower_of_not hc).symm
  · rintro (rfl | hcapital | hcapital)
    · exact h
    · apply Char.toNat_inj.mp
      rw [(capital_toLower hcapital.1).2, hcapital.2]
    · -- a capital is not its own small letter
      have htoNat := (capital_toLower hcapital.1).2
      rw [h] at htoNat
      omega

theorem lower_eq_iff (h : lower other = other) : lower text = other ↔ SameUpToCase text other := by
  have hsmall : ∀ d ∈ other.toList, d.toLower = d := by
    have hmap : other.toList.map Char.toLower = other.toList := by
      rw [← String.toList_ofList (l := other.toList.map Char.toLower)]
      exact congrArg String.toList h
    intro d hd
    exact (List.map_eq_map_iff.mp (hmap.trans (List.map_id _).symm)) d hd
  calc lower text = other
      ↔ text.toList.map Char.toLower = other.toList := by
        rw [lower, ← String.toList_inj, String.toList_ofList]
    _ ↔ List.Forall₂ (fun c d => c.toLower = d) text.toList other.toList := by
        rw [← List.forall₂_eq_eq_eq, List.forall₂_map_left_iff]
    _ ↔ SameUpToCase text other := by
        rw [SameUpToCase, List.forall₂_iff_zip, List.forall₂_iff_zip]
        apply and_congr_right
        intro _
        apply forall₂_congr
        intro c d
        apply forall_congr'
        intro hmem
        exact toLower_eq_iff (hsmall d (List.of_mem_zip hmem).2)

end Text

/-! ## Variables -/

namespace Environment

variable {environment other : Environment} {value : Option (List UInt8)} {name changed text : String}

/-- A variable that is set to the text. -/
def Gives (environment : Environment) (name text : String) : Prop :=
  environment.lookup name = some (Utf8.encode text)

/-- A variable that is unset, or set to bytes that are no text. -/
def Silent (environment : Environment) (name : String) : Prop :=
  ∀ text, ¬ environment.Gives name text

def GivesBlank (environment : Environment) (name : String) : Prop :=
  ∃ text, environment.Gives name text ∧ Text.Blank text

/-- The environment with a variable set to the value, or without the variable. -/
def assign (environment : Environment) (name : String) : Option (List UInt8) → Environment
  | some value => environment.set name value
  | none => environment.unset name

theorem lookup_assign (environment : Environment) (name : String) (value : Option (List UInt8))
    (other : String) : (environment.assign name value).lookup other
      = if other = name then value else environment.lookup other := by
  cases value with
  | none => exact lookup_filter_ne name other environment
  | some value => exact lookup_cons_eq name other value environment

theorem text?_eq_some_iff : environment.text? name = some text ↔ environment.Gives name text := by
  rw [text?, Option.bind_eq_some_iff, Gives]
  constructor
  · rintro ⟨bytes, hlookup, hdecode⟩
    rw [hlookup, Utf8.decode?_eq_some_iff.mp hdecode]
  · intro h
    exact ⟨_, h, Utf8.decode?_encode text⟩

theorem text?_eq_none_iff : environment.text? name = none ↔ environment.Silent name := by
  rw [Option.eq_none_iff_forall_ne_some]
  exact forall_congr' fun text => not_congr text?_eq_some_iff

theorem silent_or_gives (environment : Environment) (name : String) :
    environment.Silent name ∨ ∃ text, environment.Gives name text := by
  by_cases h : ∃ text, environment.Gives name text
  · exact .inr h
  · exact .inl (not_exists.mp h)

theorem text?_congr (h : environment.lookup name = other.lookup name) :
    environment.text? name = other.text? name := by
  rw [text?, text?, h]

theorem text?_assign_self (environment : Environment) (name : String)
    (value : Option (List UInt8)) :
    (environment.assign name value).text? name = value.bind Utf8.decode? := by
  rw [text?, lookup_assign, if_pos rfl]

theorem text?_assign_of_ne (h : name ≠ changed) :
    (environment.assign changed value).text? name = environment.text? name := by
  apply text?_congr
  rw [lookup_assign, if_neg h]

theorem text?_unset_of_ne (environment : Environment) (h : name ≠ changed) :
    (environment.unset changed).text? name = environment.text? name := by
  change (environment.assign changed none).text? name = environment.text? name
  exact text?_assign_of_ne h

theorem text?_unset_self (environment : Environment) (name : String) :
    (environment.unset name).text? name = none :=
  text?_assign_self environment name none

end Environment

namespace Config

open Environment Text

variable {environment other : Environment} {value : Option (List UInt8)} {text : String}

theorem own_ne_common : ownFilterVariable ≠ commonFilterVariable := by decide

theorem json_ne_own : jsonVariable ≠ ownFilterVariable := by decide

theorem json_ne_common : jsonVariable ≠ commonFilterVariable := by decide

/-! ## The filter -/

/-- What a text comes to that has been taken for the filter. -/
def accepted (text : String) : String := if allBlank text then defaultFilter else text

theorem accepted_of_blank (h : Blank text) : accepted text = defaultFilter :=
  if_pos (allBlank_iff.mpr h)

theorem accepted_of_not_blank (h : ¬ Blank text) : accepted text = text :=
  if_neg (mt allBlank_iff.mp h)

theorem exists_not_isBlank (h : ¬ Blank text) : ∃ c ∈ text.toList, isBlank c = false := by
  simpa [Blank] using h

theorem not_blank_default : ¬ Blank defaultFilter := by
  intro h
  exact absurd (allBlank_iff.mpr h) (by decide)

theorem filter_ofEnvironment (environment : Environment) : (ofEnvironment environment).filter
    = ((environment.text? ownFilterVariable).or (environment.text? commonFilterVariable)).elim
        defaultFilter accepted := by
  rw [ofEnvironment]
  cases (environment.text? ownFilterVariable).or (environment.text? commonFilterVariable) with
  | none => rfl
  | some text =>
      by_cases h : allBlank text = true
      · simp [accepted, Option.filter, h]
      · simp [accepted, Option.filter, h]

theorem filter_of_gives (h : environment.Gives ownFilterVariable text) :
    (ofEnvironment environment).filter = accepted text := by
  rw [filter_ofEnvironment, text?_eq_some_iff.mpr h, Option.some_or, Option.elim_some]

/-- What the common variable comes to where the other one says nothing. -/
def commonFilter (environment : Environment) : String :=
  (environment.text? commonFilterVariable).elim defaultFilter accepted

theorem filter_of_silent (h : environment.Silent ownFilterVariable) :
    (ofEnvironment environment).filter = commonFilter environment := by
  rw [filter_ofEnvironment, text?_eq_none_iff.mpr h, Option.none_or, commonFilter]

theorem ofEnvironment_eq_setFilter
    (hjson : environment.text? jsonVariable = other.text? jsonVariable) :
    ofEnvironment environment
      = (ofEnvironment other).setFilter (ofEnvironment environment).filter := by
  have hyes : (ofEnvironment environment).json = (ofEnvironment other).json :=
    congrArg (Option.any isYes) hjson
  rw [setFilter, ← hyes]

theorem ofEnvironment_congr
    (hfilter : (ofEnvironment environment).filter = (ofEnvironment other).filter)
    (hjson : environment.text? jsonVariable = other.text? jsonVariable) :
    ofEnvironment environment = ofEnvironment other := by
  rw [ofEnvironment_eq_setFilter hjson, hfilter, setFilter]

theorem isYes_iff : isYes text = true ↔ text = "1" ∨ SameUpToCase text "true" := by
  rw [isYes, Bool.or_eq_true, beq_iff_eq, beq_iff_eq, lower_eq_iff (by decide)]

theorem json_ofEnvironment_iff : (ofEnvironment environment).json = true
    ↔ ∃ text, environment.Gives jsonVariable text ∧ (text = "1" ∨ SameUpToCase text "true") := by
  rw [ofEnvironment, Option.any_eq_true]
  apply exists_congr
  intro text
  exact and_congr text?_eq_some_iff isYes_iff

/-! ## What is kept of the variables -/

/-- The environment with the common filter moved to the variable of the program's own. -/
def promote (environment : Environment) : Environment :=
  (environment.assign ownFilterVariable (environment.lookup commonFilterVariable)).unset
    commonFilterVariable

/-- How a configuration follows from the three variables. The filter is the text of a variable as it
stands there, blanks around it included. -/
structure Follows (environment : Environment) : Prop where
  meaningful : ∃ c ∈ (ofEnvironment environment).filter.toList, isBlank c = false
  verbatim : (ofEnvironment environment).filter = defaultFilter
    ∨ environment.Gives ownFilterVariable (ofEnvironment environment).filter
    ∨ environment.Gives commonFilterVariable (ofEnvironment environment).filter
  own : ∀ text, environment.Gives ownFilterVariable text → ¬ Blank text →
    (ofEnvironment environment).filter = text
      ∧ ∀ value, ofEnvironment (environment.assign commonFilterVariable value)
        = ofEnvironment environment
  common : environment.Silent ownFilterVariable →
    (ofEnvironment environment).filter = (ofEnvironment (promote environment)).filter
  json_iff : (ofEnvironment environment).json = true
    ↔ ∃ text, environment.Gives jsonVariable text ∧ (text = "1" ∨ SameUpToCase text "true")
  only : ∀ other : Environment,
    (∀ name ∈ [ownFilterVariable, commonFilterVariable, jsonVariable],
      other.lookup name = environment.lookup name) → ofEnvironment other = ofEnvironment environment

theorem filter_promote (environment : Environment) :
    (ofEnvironment (promote environment)).filter = commonFilter environment := by
  have hown : (promote environment).text? ownFilterVariable
      = environment.text? commonFilterVariable := by
    rw [promote, text?_unset_of_ne _ own_ne_common, text?_assign_self, text?]
  have hcommon : (promote environment).text? commonFilterVariable = none :=
    text?_unset_self _ commonFilterVariable
  rw [filter_ofEnvironment, hown, hcommon, Option.or_none, commonFilter]

theorem filter_cases (environment : Environment) :
    (ofEnvironment environment).filter = defaultFilter
      ∨ ¬ Blank (ofEnvironment environment).filter
        ∧ (environment.Gives ownFilterVariable (ofEnvironment environment).filter
          ∨ environment.Gives commonFilterVariable (ofEnvironment environment).filter) := by
  rw [filter_ofEnvironment]
  cases hchosen : (environment.text? ownFilterVariable).or
      (environment.text? commonFilterVariable) with
  | none => exact .inl rfl
  | some text =>
      rw [Option.elim_some]
      by_cases hblank : Blank text
      · exact .inl (accepted_of_blank hblank)
      · rw [accepted_of_not_blank hblank]
        rw [Option.or_eq_some_iff] at hchosen
        rcases hchosen with hown | ⟨-, hcommon⟩
        · exact .inr ⟨hblank, .inl (text?_eq_some_iff.mp hown)⟩
        · exact .inr ⟨hblank, .inr (text?_eq_some_iff.mp hcommon)⟩

/-- **A configuration follows from three variables**, whatever bytes they are set to and whatever
else is in the environment. -/
theorem follows_ofEnvironment (environment : Environment) : Follows environment where
  meaningful := by
    apply exists_not_isBlank
    rcases filter_cases environment with hdefault | ⟨hblank, -⟩
    · rw [hdefault]
      exact not_blank_default
    · exact hblank
  verbatim := (filter_cases environment).imp_right And.right
  own := by
    intro text hown hblank
    have hfilter := filter_of_gives hown
    refine ⟨hfilter.trans (accepted_of_not_blank hblank), fun value => ?_⟩
    have hchanged : (environment.assign commonFilterVariable value).Gives ownFilterVariable text := by
      rw [← text?_eq_some_iff, text?_assign_of_ne own_ne_common, text?_eq_some_iff]
      exact hown
    apply ofEnvironment_congr
    · rw [hfilter, filter_of_gives hchanged]
    · exact text?_assign_of_ne json_ne_common
  common := by
    intro hsilent
    rw [filter_of_silent hsilent, filter_promote]
  json_iff := json_ofEnvironment_iff
  only := by
    intro other hagree
    have htext : ∀ name ∈ [ownFilterVariable, commonFilterVariable, jsonVariable],
        other.text? name = environment.text? name := fun name hname =>
      text?_congr (hagree name hname)
    apply ofEnvironment_congr
    · rw [filter_ofEnvironment, filter_ofEnvironment, htext _ (by simp), htext _ (by simp)]
    · exact htext _ (by simp)

/-! ## Falling back -/

/-- The first text that one of the two variables says and that is not blank, or the default. -/
def fallback (environment : Environment) : String :=
  (([ownFilterVariable, commonFilterVariable].filterMap environment.text?).find?
    fun text => !allBlank text).getD defaultFilter

theorem commonFilter_of_gives (h : environment.Gives commonFilterVariable text) :
    commonFilter environment = accepted text := by
  rw [commonFilter, text?_eq_some_iff.mpr h, Option.elim_some]

theorem commonFilter_eq_default_iff : commonFilter environment = defaultFilter
    ↔ ∀ text, environment.Gives commonFilterVariable text → Blank text ∨ text = defaultFilter := by
  constructor
  · intro h text hgives
    by_cases hblank : Blank text
    · exact .inl hblank
    · rw [commonFilter_of_gives hgives, accepted_of_not_blank hblank] at h
      exact .inr h
  · intro h
    rcases silent_or_gives environment commonFilterVariable with hsilent | ⟨text, hgives⟩
    · rw [commonFilter, text?_eq_none_iff.mpr hsilent, Option.elim_none]
    · rw [commonFilter_of_gives hgives]
      rcases h text hgives with hblank | rfl
      · exact accepted_of_blank hblank
      · exact accepted_of_not_blank not_blank_default

theorem filter_unset_own (environment : Environment) :
    (ofEnvironment (environment.unset ownFilterVariable)).filter = commonFilter environment := by
  have hsilent := text?_eq_none_iff.mp (text?_unset_self environment ownFilterVariable)
  rw [filter_of_silent hsilent, commonFilter, commonFilter, text?_unset_of_ne _ own_ne_common.symm]

theorem find?_common (environment : Environment) :
    (([commonFilterVariable].filterMap environment.text?).find? fun text => !allBlank text).getD
      defaultFilter = commonFilter environment := by
  rw [commonFilter]
  cases hcommon : environment.text? commonFilterVariable with
  | none => simp [hcommon]
  | some text =>
      by_cases hblank : allBlank text = true
      · simp [accepted, hcommon, hblank]
      · simp [accepted, hcommon, hblank]

theorem fallback_of_silent (h : environment.Silent ownFilterVariable) :
    fallback environment = commonFilter environment := by
  rw [fallback, List.filterMap_cons_none (text?_eq_none_iff.mpr h), find?_common]

theorem fallback_of_blank (h : environment.GivesBlank ownFilterVariable) :
    fallback environment = commonFilter environment := by
  obtain ⟨text, hgives, hblank⟩ := h
  have hskipped : ¬ (!allBlank text) = true := by simp [allBlank_iff.mpr hblank]
  rw [fallback, List.filterMap_cons_some (text?_eq_some_iff.mpr hgives),
    List.find?_cons_of_neg (p := fun text => !allBlank text) hskipped, find?_common]

theorem fallback_of_gives (h : environment.Gives ownFilterVariable text) (hblank : ¬ Blank text) :
    fallback environment = text := by
  have hmeant : (!allBlank text) = true := by simpa using mt allBlank_iff.mp hblank
  rw [fallback, List.filterMap_cons_some (text?_eq_some_iff.mpr h),
    List.find?_cons_of_pos (p := fun text => !allBlank text) hmeant, Option.getD_some]

theorem filter_of_blank (h : environment.GivesBlank ownFilterVariable) :
    (ofEnvironment environment).filter = defaultFilter := by
  obtain ⟨text, hgives, hblank⟩ := h
  rw [filter_of_gives hgives, accepted_of_blank hblank]

/-- **Only the common variable counts as unset where it is blank.** The program's own variable is
not fallen back from then: the filter is the default, which without the variable it would be only
where the common one says nothing else. Unless the own variable is blank, the filter is the first
one that is said. -/
theorem fallsBack_ofEnvironment (environment : Environment) :
    (environment.GivesBlank commonFilterVariable →
      ofEnvironment (environment.unset commonFilterVariable) = ofEnvironment environment)
      ∧ (environment.GivesBlank ownFilterVariable → ofEnvironment environment
        = (ofEnvironment (environment.unset ownFilterVariable)).setFilter defaultFilter)
      ∧ (environment.GivesBlank ownFilterVariable →
        (ofEnvironment (environment.unset ownFilterVariable) = ofEnvironment environment
          ↔ ∀ text, environment.Gives commonFilterVariable text →
            Blank text ∨ text = defaultFilter))
      ∧ (¬ environment.GivesBlank ownFilterVariable →
        (ofEnvironment environment).filter = fallback environment) := by
  have hjson := text?_unset_of_ne environment json_ne_own
  refine ⟨?_, ?_, ?_, ?_⟩
  · rintro ⟨text, hgives, hblank⟩
    apply ofEnvironment_congr
    · rw [filter_ofEnvironment, filter_ofEnvironment, text?_unset_of_ne _ own_ne_common,
        text?_unset_self, text?_eq_some_iff.mpr hgives]
      -- an own text is taken in both environments, so the blank one matters where there is none
      cases environment.text? ownFilterVariable with
      | none => exact (accepted_of_blank hblank).symm
      | some own => rfl
    · exact text?_unset_of_ne environment json_ne_common
  · intro hblank
    rw [← filter_of_blank hblank]
    exact ofEnvironment_eq_setFilter hjson.symm
  · intro hblank
    rw [← commonFilter_eq_default_iff, ← filter_unset_own, ← filter_of_blank hblank]
    constructor
    · exact congrArg Config.filter
    · intro hfilter
      exact ofEnvironment_congr hfilter hjson
  · intro hblank
    rcases silent_or_gives environment ownFilterVariable with hsilent | ⟨text, hgives⟩
    · rw [filter_of_silent hsilent, fallback_of_silent hsilent]
    · have hmeant : ¬ Blank text := fun h => hblank ⟨text, hgives, h⟩
      rw [filter_of_gives hgives, accepted_of_not_blank hmeant, fallback_of_gives hgives hmeant]

/-- A blank variable of the program's own hides what the common one says. -/
theorem own_hides_common :
    let environment : Environment :=
      [(ownFilterVariable, Utf8.encode " "), (commonFilterVariable, Utf8.encode "warn")]
    environment.GivesBlank ownFilterVariable ∧ (ofEnvironment environment).filter = "info"
      ∧ (ofEnvironment (environment.unset ownFilterVariable)).filter = "warn"
      ∧ fallback environment = "warn" := by
  intro environment
  have hblank : environment.GivesBlank ownFilterVariable :=
    ⟨" ", rfl, allBlank_iff.mp (by decide)⟩
  have hcommon : environment.Gives commonFilterVariable "warn" := rfl
  have hwarn : commonFilter environment = "warn" :=
    (commonFilter_of_gives hcommon).trans (if_neg (by decide))
  exact ⟨hblank, filter_of_blank hblank, (filter_unset_own environment).trans hwarn,
    (fallback_of_blank hblank).trans hwarn⟩

end Config

end PidOne
