import PidOne.Config.Json
import PidOne.Proofs.Json.Grammar

/-!
# The grammar of configurations

A document gives settings: those of the two fields, and members that nobody asked for. They overlay
the default. The reader of members does not collect them but fills the two fields as it goes, so the
settings are here brought into the fields one by one, until one of them finds its field filled.
-/

namespace PidOne.Config

open Json

/-- What a member says about the configuration. -/
inductive Setting
  | filter (text : String)
  | json (value : Bool)
  | other (key : String)
  deriving DecidableEq, Repr

namespace Setting

def key : Setting → String
  | filter _ => "filter"
  | json _ => "json"
  | other key => key

def filter? : Setting → Option String
  | filter text => some text
  | _ => none

def json? : Setting → Option Bool
  | json value => some value
  | _ => none

/-- Whether the member is one that was asked for. -/
def isKnown : Setting → Bool
  | other _ => false
  | _ => true

/-- The configuration with the field that is given overwritten. -/
def overwrite (config : Config) : Setting → Config
  | filter text => config.setFilter text
  | json value => config.setJson value
  | other _ => config

end Setting

/-- The default with the fields that are given overwritten. -/
def overlay (settings : List Setting) : Config := settings.foldl Setting.overwrite Config.default

/-- Each field is given once at most. -/
def Single (settings : List Setting) : Prop :=
  (settings.filterMap Setting.filter?).length ≤ 1 ∧ (settings.filterMap Setting.json?).length ≤ 1

/-! ## The grammar -/

/-- A string, with the blanks in front of it. -/
def Text (s : String) : Rule := fun text rest =>
  ∃ inner, Token 0x22 text inner ∧ Quoted.Spelled s.toList inner rest

/-- A truth value, with the blanks in front of it. -/
def Flag (value : Bool) : Rule := fun text rest =>
  ∃ start, Blanks text start ∧ Word (toString value) start rest

/-- A key and the colon behind it. -/
def Name (key : String) : Rule := fun text rest =>
  ∃ after, Text key text after ∧ Token 0x3a after rest

inductive Member : Setting → Rule
  | filter {value : String} {text start rest : List UInt8} (hname : Name "filter" text start)
      (hvalue : Text value start rest) : Member (.filter value) text rest
  | json {value : Bool} {text start rest : List UInt8} (hname : Name "json" text start)
      (hvalue : Flag value start rest) : Member (.json value) text rest
  | other {key : String} {text start rest : List UInt8} (hfilter : key ≠ "filter")
      (hjson : key ≠ "json") (hname : Name key text start) (hvalue : Value .value start rest) :
      Member (.other key) text rest

/-- Members, each with the comma behind it. -/
inductive Members : List Setting → Rule
  | nil (text : List UInt8) : Members [] text text
  | cons {setting : Setting} {settings : List Setting} {text after next rest : List UInt8}
      (hmember : Member setting text after) (hcomma : Token 0x2c after next)
      (hrest : Members settings next rest) : Members (setting :: settings) text rest

/-- An object of members, or a list of the fields in their order. -/
inductive Form : List Setting → Rule
  | emptyObject {text inner rest : List UInt8} (hopen : Token 0x7b text inner)
      (hclose : Token 0x7d inner rest) : Form [] text rest
  | object {settings : List Setting} {setting : Setting} {text inner next after rest : List UInt8}
      (hopen : Token 0x7b text inner) (hmembers : Members settings inner next)
      (hlast : Member setting next after) (hclose : Token 0x7d after rest) :
      Form (settings ++ [setting]) text rest
  | emptyList {text inner rest : List UInt8} (hopen : Token 0x5b text inner)
      (hclose : Token 0x5d inner rest) : Form [] text rest
  | filterOnly {filter : String} {text inner after rest : List UInt8}
      (hopen : Token 0x5b text inner) (hfilter : Text filter inner after)
      (hclose : Token 0x5d after rest) : Form [.filter filter] text rest
  | fields {filter : String} {json : Bool} {text inner after next behind rest : List UInt8}
      (hopen : Token 0x5b text inner) (hfilter : Text filter inner after)
      (hcomma : Token 0x2c after next) (hjson : Flag json next behind)
      (hclose : Token 0x5d behind rest) : Form [.filter filter, .json json] text rest

/-- A whole text that gives the settings, with nothing but blanks around it. -/
def Document (settings : List Setting) (text : List UInt8) : Prop :=
  ∃ rest, Form settings text rest ∧ Blanks rest []

/-! ## Settings and fields -/

variable {fields found : Fields} {setting : Setting} {settings : List Setting}

namespace Fields

/-- The fields with those of a setting, or none when it gives a field a second time. -/
def add? (fields : Fields) : Setting → Option Fields
  | .filter text =>
    if fields.filter.isSome then Option.none else some { fields with filter := some text }
  | .json value =>
    if fields.json.isSome then Option.none else some { fields with json := some value }
  | .other _ => some fields

theorem toConfig_of_add? (h : fields.add? setting = some found) :
    found.toConfig = setting.overwrite fields.toConfig := by
  cases setting with
  | filter text =>
      rw [add?] at h
      split at h
      · cases h
      · cases h
        rfl
  | json value =>
      rw [add?] at h
      split at h
      · cases h
      · cases h
        rfl
  | other key =>
      cases h
      rfl

theorem toConfig_of_foldlM (h : settings.foldlM add? fields = some found) :
    found.toConfig = settings.foldl Setting.overwrite fields.toConfig := by
  induction settings generalizing fields with
  | nil =>
      cases h
      rfl
  | cons setting settings ih =>
      rw [List.foldlM_cons, Option.bind_eq_bind, Option.bind_eq_some_iff] at h
      obtain ⟨between, hadd, hrest⟩ := h
      rw [ih hrest, toConfig_of_add? hadd, List.foldl_cons]

theorem toList_eq_iff {α : Type} {field other : Option α} :
    field.toList = other.toList ↔ field = other := by
  cases field <;> cases other <;> simp

/-- Settings are accepted when there is room for them, and fill what they give. -/
theorem foldlM_add?_eq_some_iff : settings.foldlM add? fields = some found
    ↔ found.filter.toList = fields.filter.toList ++ settings.filterMap Setting.filter?
      ∧ found.json.toList = fields.json.toList ++ settings.filterMap Setting.json? := by
  induction settings generalizing fields with
  | nil =>
      obtain ⟨filter, json⟩ := fields
      obtain ⟨filter', json'⟩ := found
      simp only [List.foldlM_nil, List.filterMap_nil, List.append_nil, Option.pure_def,
        Option.some.injEq, mk.injEq, toList_eq_iff, eq_comm]
  | cons setting settings ih =>
      rw [List.foldlM_cons]
      cases setting with
      | filter text =>
          rw [List.filterMap_cons_some (by rfl), List.filterMap_cons_none (by rfl)]
          cases hfilter : fields.filter with
          | none =>
              have hadd :
                  fields.add? (.filter text) = some { fields with filter := some text } := by
                rw [add?, hfilter]
                rfl
              rw [hadd]
              exact ih
          | some before =>
              have hadd : fields.add? (.filter text) = Option.none := by
                rw [add?, hfilter]
                rfl
              rw [hadd]
              constructor
              · exact nofun
              · rintro ⟨htwice, -⟩
                cases hfound : found.filter <;> simp [hfound] at htwice
      | json value =>
          rw [List.filterMap_cons_none (by rfl), List.filterMap_cons_some (by rfl)]
          cases hjson : fields.json with
          | none =>
              have hadd : fields.add? (.json value) = some { fields with json := some value } := by
                rw [add?, hjson]
                rfl
              rw [hadd]
              exact ih
          | some before =>
              have hadd : fields.add? (.json value) = Option.none := by
                rw [add?, hjson]
                rfl
              rw [hadd]
              constructor
              · exact nofun
              · rintro ⟨-, htwice⟩
                cases hfound : found.json <;> simp [hfound] at htwice
      | other key =>
          rw [List.filterMap_cons_none (by rfl), List.filterMap_cons_none (by rfl)]
          exact ih

theorem toList_length_le {α : Type} (field : Option α) : field.toList.length ≤ 1 := by
  cases field <;> simp

/-- The settings of a document are accepted exactly when no field is given twice. -/
theorem exists_foldlM_add?_iff :
    (∃ found, settings.foldlM add? .none = some found) ↔ Single settings := by
  constructor
  · rintro ⟨found, h⟩
    obtain ⟨hfilter, hjson⟩ := foldlM_add?_eq_some_iff.mp h
    refine ⟨?_, ?_⟩
    · rw [← List.nil_append (settings.filterMap Setting.filter?)]
      exact hfilter ▸ toList_length_le found.filter
    · rw [← List.nil_append (settings.filterMap Setting.json?)]
      exact hjson ▸ toList_length_le found.json
  · rintro ⟨hfilter, hjson⟩
    have hfill : ∀ {α : Type} {given : List α}, given.length ≤ 1 → given.head?.toList = given := by
      intro α given hle
      match given, hle with
      | [], _ => rfl
      | [_], _ => rfl
    refine ⟨⟨(settings.filterMap Setting.filter?).head?, (settings.filterMap Setting.json?).head?⟩,
      foldlM_add?_eq_some_iff.mpr ⟨?_, ?_⟩⟩
    · exact hfill hfilter
    · exact hfill hjson

end Fields

end PidOne.Config
