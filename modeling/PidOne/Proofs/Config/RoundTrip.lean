import PidOne.Config.Json
import PidOne.Proofs.Json.Scanning

/-!
# A configuration is read as it is written

Whatever characters are in its filter. So a configuration that is written and read back somewhere
in a chain of changes is none the worse for it, and the last change to each field decides.
-/

namespace PidOne

theorem Utf8.encode_append (text more : String) :
    encode (text ++ more) = encode text ++ encode more := by
  rw [encode, String.toList_append, List.flatMap_append]
  rfl

namespace Config

open Json

variable {fields found : Fields} {key : String} {text rest after : List UInt8}

/-! ## Members -/

/-- A truth value as JSON. -/
def boolean (value : Bool) : List UInt8 := Utf8.encode (toString value)

theorem readBoolean_boolean (value : Bool) (rest : List UInt8) :
    readBoolean (boolean value ++ rest) = .ok (value, rest) := by
  cases value <;> rfl

theorem readString_body (text : String) (rest : List UInt8) :
    readString (0x22 :: (Quoted.body text ++ 0x22 :: rest)) = .ok (text, rest) :=
  Quoted.read_body text rest

theorem readMember_filter (filter : String) (rest : List UInt8) :
    readMember .none "filter" (0x3a :: 0x22 :: (Quoted.body filter ++ 0x22 :: rest))
      = .ok (⟨some filter, none⟩, rest) := by
  have hcolon : colon (0x3a :: 0x22 :: (Quoted.body filter ++ 0x22 :: rest))
      = .ok (0x22 :: (Quoted.body filter ++ 0x22 :: rest)) := rfl
  rw [readMember, if_pos (by decide), if_neg (by decide), hcolon]
  simp only [readString_body]
  rfl

theorem readMember_json (filter : Option String) (value : Bool) (rest : List UInt8) :
    readMember ⟨filter, none⟩ "json" (0x3a :: (boolean value ++ rest))
      = .ok (⟨filter, some value⟩, rest) := by
  have hcolon : colon (0x3a :: (boolean value ++ rest)) = .ok (boolean value ++ rest) := rfl
  rw [readMember, if_neg (by decide), if_pos (by decide), if_neg nofun, hcolon]
  simp only [readBoolean_boolean]

/-- The byte behind a member tells how it goes on. -/
theorem readMembers_member {c : UInt8} (h : readMember fields key text = .ok (found, c :: after))
    (hblank : isBlank c = false) :
    readMembers fields (0x22 :: (Quoted.body key ++ 0x22 :: text))
      = if c == 0x7d then .ok (found, after)
        else if c == 0x2c then readMembers found after
        else .error ⟨.expectedCommaOrBrace, after⟩ := by
  rw [readMembers]
  split
  · next hquote => cases hquote
  next b rest hquote =>
  cases hquote
  rw [if_pos (by decide)]
  split
  · next hkey =>
    rw [Quoted.read_body] at hkey
    cases hkey
  next hkey =>
  rw [Quoted.read_body] at hkey
  cases hkey
  split
  · next hmember =>
    rw [h] at hmember
    cases hmember
  next hmember =>
  rw [h] at hmember
  cases hmember
  split
  · next hnext =>
    rw [skipBlank_of_not_isBlank hblank] at hnext
    cases hnext
  next hnext =>
  rw [skipBlank_of_not_isBlank hblank] at hnext
  cases hnext
  rfl

/-! ## The whole text -/

theorem encode_write (config : Config) : Utf8.encode config.write
    = 0x7b :: 0x22 :: (Quoted.body "filter" ++ 0x22 :: 0x3a :: 0x22 :: (Quoted.body config.filter
      ++ 0x22 :: 0x2c :: 0x22 :: (Quoted.body "json" ++ 0x22 :: 0x3a
        :: (boolean config.json ++ [0x7d])))) := by
  have hfilter : Utf8.encode "\x7b\"filter\":"
      = 0x7b :: 0x22 :: (Quoted.body "filter" ++ [0x22, 0x3a]) := by decide
  have hjson : Utf8.encode ",\"json\":"
      = 0x2c :: 0x22 :: (Quoted.body "json" ++ [0x22, 0x3a]) := by decide
  have hbrace : Utf8.encode "\x7d" = [0x7d] := by decide
  rw [write, Utf8.encode_append, Utf8.encode_append, Utf8.encode_append, Utf8.encode_append,
    Quoted.encode_write, hfilter, hjson, hbrace, boolean]
  simp only [List.cons_append, List.append_assoc, List.nil_append]

theorem readObject_quote (text : List UInt8) :
    readObject (0x22 :: text) = readMembers .none (0x22 :: text) := rfl

theorem readValue_brace (text : List UInt8) : readValue (0x7b :: text)
    = (readObject text).map fun (fields, rest) => (fields.toConfig, rest) := rfl

/-- **A configuration is read as it is written.** -/
theorem read_write (config : Config) : read (Utf8.encode config.write) = .ok config := by
  obtain ⟨filter, json⟩ := config
  have hjson := readMembers_member (readMember_json (some filter) json [0x7d]) rfl
  have hfilter := readMembers_member (readMember_filter filter (0x2c :: 0x22 :: (Quoted.body "json"
    ++ 0x22 :: 0x3a :: (boolean json ++ [0x7d])))) rfl
  rw [if_pos (by decide)] at hjson
  rw [if_neg (by decide), if_pos (by decide), hjson] at hfilter
  rw [encode_write, read, readWhole, readValue_brace, readObject_quote, hfilter]
  rfl

/-! ## Chains of changes -/

/-- A change that is made to a configuration, or a way through JSON and back. -/
inductive Edit where
  | filter (text : String)
  | json (value : Bool)
  | roundTrip
  deriving DecidableEq, Repr

def edit (config : Config) : Edit → Except ReadError Config
  | .filter text => .ok (config.setFilter text)
  | .json value => .ok (config.setJson value)
  | .roundTrip => read (Utf8.encode config.write)

namespace Edit

def filter? : Edit → Option String
  | filter text => some text
  | _ => none

def json? : Edit → Option Bool
  | json value => some value
  | _ => none

end Edit

/-- The last of some values, or the one there was before. -/
def latest {α : Type} (before : α) (values : List α) : α := values.getLastD before

theorem edit_eq (config : Config) (change : Edit) : config.edit change
    = .ok ⟨change.filter?.getD config.filter, change.json?.getD config.json⟩ := by
  cases change with
  | filter text => rfl
  | json value => rfl
  | roundTrip => exact read_write config

theorem latest_filterMap_cons {α : Type} (before : α) (pick : Edit → Option α) (change : Edit)
    (changes : List Edit) : latest before ((change :: changes).filterMap pick)
      = latest ((pick change).getD before) (changes.filterMap pick) := by
  rw [List.filterMap_cons]
  cases pick change with
  | none => rfl
  | some value => rw [latest, List.getLastD_cons, Option.getD_some, latest]

theorem foldlM_edit (base : Config) (changes : List Edit) :
    changes.foldlM edit base = .ok ⟨latest base.filter (changes.filterMap Edit.filter?),
      latest base.json (changes.filterMap Edit.json?)⟩ := by
  induction changes generalizing base with
  | nil => rfl
  | cons change changes ih =>
      rw [List.foldlM_cons, edit_eq]
      refine (ih _).trans ?_
      rw [latest_filterMap_cons, latest_filterMap_cons]

theorem filterMap_filter_ne {α : Type} (pick : Edit → Option α) (h : pick .roundTrip = none)
    (changes : List Edit) :
    (changes.filter fun change => change ≠ .roundTrip).filterMap pick = changes.filterMap pick := by
  induction changes with
  | nil => rfl
  | cons change changes ih =>
      by_cases hchange : change = .roundTrip
      · subst hchange
        rw [List.filter_cons_of_neg (by simp), ih, List.filterMap_cons_none h]
      · rw [List.filter_cons_of_pos (by simpa using hchange), List.filterMap_cons,
          List.filterMap_cons, ih]

/-- **Through JSON and back.** Every configuration is read as it is written; so in a chain of
changes the ways through JSON may be left out, and each field is the last one that was set. -/
theorem roundTrip_edits :
    (∀ config : Config, read (Utf8.encode config.write) = .ok config)
      ∧ ∀ (base : Config) (changes : List Edit),
        changes.foldlM edit base = (changes.filter fun change => change ≠ .roundTrip).foldlM edit base
          ∧ changes.foldlM edit base = .ok ⟨latest base.filter (changes.filterMap Edit.filter?),
            latest base.json (changes.filterMap Edit.json?)⟩ := by
  refine ⟨read_write, fun base changes => ⟨?_, foldlM_edit base changes⟩⟩
  rw [foldlM_edit, foldlM_edit, filterMap_filter_ne Edit.filter? rfl,
    filterMap_filter_ne Edit.json? rfl]

end Config

end PidOne
