import PidOne.Config
import PidOne.Json.Value

/-!
# Configuration as JSON

A configuration is written as an object of its two fields. It is read from an object that overwrites
fields of the default, at most once each, among members nobody asked for; or from a list of the
fields in their order, the last ones left out if wanted.
-/

namespace PidOne.Config

open Json

def write (config : Config) : String :=
  "\x7b\"filter\":" ++ Quoted.write config.filter ++ ",\"json\":" ++ toString config.json ++ "\x7d"

structure Fields where
  filter : Option String
  json : Option Bool
  deriving DecidableEq, Repr

namespace Fields

def none : Fields := ⟨.none, .none⟩

/-- The default with the fields that were read. -/
def toConfig (fields : Fields) : Config :=
  ⟨fields.filter.getD defaultFilter, fields.json.getD false⟩

end Fields

/-- A field that is there twice is reported after the blanks behind its second key, or after the
brace that closes the object there. -/
def duplicate (name : String) (text : List UInt8) : Fault :=
  match skipBlank text with
  | [] => ⟨.duplicateField name, []⟩
  | b :: rest => ⟨.duplicateField name, if b == 0x7d then rest else b :: rest⟩

/-- Reads the rest of a member whose key has just been read. -/
def readMember (fields : Fields) (key : String) (text : List UInt8) :
    Except Fault (Fields × List UInt8) :=
  if key == "filter" then
    if fields.filter.isSome then .error (duplicate key text)
    else
      match colon text with
      | .error fault => .error fault
      | .ok rest =>
        match readString rest with
        | .error fault => .error fault
        | .ok (value, rest) => .ok ({ fields with filter := some value }, rest)
  else if key == "json" then
    if fields.json.isSome then .error (duplicate key text)
    else
      match colon text with
      | .error fault => .error fault
      | .ok rest =>
        match readBoolean rest with
        | .error fault => .error fault
        | .ok (value, rest) => .ok ({ fields with json := some value }, rest)
  else
    match colon text with
    | .error fault => .error fault
    | .ok rest =>
      match skip rest with
      | .error fault => .error fault
      | .ok rest => .ok (fields, rest)

theorem length_readMember_lt {fields found : Fields} {key : String} {text rest : List UInt8}
    (h : readMember fields key text = .ok (found, rest)) : rest.length < text.length := by
  unfold readMember at h
  split at h
  · split at h
    · cases h
    · split at h
      · cases h
      · next hcolon =>
        have := length_colon_lt hcolon
        split at h
        · cases h
        · next hread =>
          have := length_readString_le hread
          cases h
          omega
  · split at h
    · split at h
      · cases h
      · split at h
        · cases h
        · next hcolon =>
          have := length_colon_lt hcolon
          split at h
          · cases h
          · next hread =>
            have := length_readBoolean_le hread
            cases h
            omega
    · split at h
      · cases h
      · next hcolon =>
        have := length_colon_lt hcolon
        split at h
        · cases h
        · next hskip =>
          have := length_skip_le hskip
          cases h
          omega

/-- Reads members up to the brace that closes the object; the text begins where a key has to be. -/
def readMembers (fields : Fields) (text : List UInt8) : Except Fault (Fields × List UInt8) :=
  match hblank : skipBlank text with
  | [] => .error ⟨.endInValue, []⟩
  | b :: rest =>
    if b == 0x22 then
      match hkey : Quoted.read rest with
      | .error fault => .error fault
      | .ok (key, rest) =>
        match hmember : readMember fields key rest with
        | .error fault => .error fault
        | .ok (fields, rest) =>
          match hnext : skipBlank rest with
          | [] => .error ⟨.endInObject, []⟩
          | c :: after =>
            if c == 0x7d then .ok (fields, after)
            else if c == 0x2c then
              have : after.length < text.length := by
                have := hblank ▸ length_skipBlank_le text
                have := hnext ▸ length_skipBlank_le rest
                have := Quoted.length_read hkey
                have := length_readMember_lt hmember
                simp only [List.length_cons] at *
                omega
              readMembers fields after
            else .error ⟨.expectedCommaOrBrace, after⟩
    else if b == 0x7d then .error ⟨.trailingComma, rest⟩
    else .error ⟨.keyNotString, rest⟩
termination_by text.length

def readObject (text : List UInt8) : Except Fault (Fields × List UInt8) :=
  match skipBlank text with
  | [] => .error ⟨.endInObject, []⟩
  | b :: rest =>
    if b == 0x7d then .ok (.none, rest)
    else if b == 0x2c then .error ⟨.keyNotString, rest⟩
    else readMembers .none (b :: rest)

/-- Whether another element follows in a list; `isFirst` tells that there was none before. -/
def hasElement (isFirst : Bool) (text : List UInt8) : Except Fault (Bool × List UInt8) :=
  match skipBlank text with
  | [] => .error ⟨.endInList, []⟩
  | b :: rest =>
    if b == 0x5d then .ok (false, b :: rest)
    else if isFirst then .ok (true, b :: rest)
    else if b == 0x2c then
      match skipBlank rest with
      | [] => .error ⟨.endInValue, []⟩
      | c :: after =>
        if c == 0x5d then .error ⟨.trailingComma, after⟩ else .ok (true, c :: after)
    else .error ⟨.expectedCommaOrBracket, rest⟩

def closeList (fields : Fields) (text : List UInt8) : Except Fault (Fields × List UInt8) :=
  match skipBlank text with
  | [] => .error ⟨.endInList, []⟩
  | b :: rest =>
    if b == 0x5d then .ok (fields, rest)
    else if b == 0x2c then
      match skipBlank rest with
      | [] => .error ⟨.trailingCharacters, []⟩
      | c :: after => .error ⟨if c == 0x5d then .trailingComma else .trailingCharacters, after⟩
    else .error ⟨.trailingCharacters, rest⟩

def readList (text : List UInt8) : Except Fault (Fields × List UInt8) := do
  let (more, text) ← hasElement true text
  if !more then closeList .none text
  else
    let (filter, text) ← readString text
    let (more, text) ← hasElement false text
    if !more then closeList ⟨some filter, none⟩ text
    else
      let (json, text) ← readBoolean text
      closeList ⟨some filter, some json⟩ text

def readValue (text : List UInt8) : Except Fault (Config × List UInt8) :=
  match skipBlank text with
  | [] => .error ⟨.endInValue, []⟩
  | b :: rest =>
    if b == 0x5b then (readList rest).map fun (fields, rest) => (fields.toConfig, rest)
    else if b == 0x7b then (readObject rest).map fun (fields, rest) => (fields.toConfig, rest)
    else .error (mismatch "struct TracingConfig" (b :: rest))

def read (text : List UInt8) : Except ReadError Config := readWhole readValue text

end PidOne.Config
