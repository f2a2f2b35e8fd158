import PidOne.Proofs.Config.Members

/-!
# The texts that are read as a configuration

They are the documents that give each field once at most. A document is read as its settings and
nothing else, so what the grammar leaves open has no influence on the configuration: blanks, how
keys are spelled, in which order members stand, what the other ones hold, and whether the fields
stand in an object or in a list.
-/

namespace PidOne.Config

open Json

variable {fields found : Fields} {setting : Setting} {settings settings' : List Setting}
  {key s : String} {value : Bool} {b : UInt8} {text inner after next rest : List UInt8}

/-! ## Objects and lists -/

theorem skipBlank_skipBlank (text : List UInt8) : skipBlank (skipBlank text) = skipBlank text :=
  (skipBlank_of_blanks (blanks_skipBlank text)).symm

theorem readString_skipBlank (text : List UInt8) :
    readString (skipBlank text) = readString text := by
  rw [readString, readString, skipBlank_skipBlank]

theorem readBoolean_skipBlank (text : List UInt8) :
    readBoolean (skipBlank text) = readBoolean text := by
  rw [readBoolean, readBoolean, skipBlank_skipBlank]

theorem closeList_skipBlank (fields : Fields) (text : List UInt8) :
    closeList fields (skipBlank text) = closeList fields text := by
  rw [closeList, closeList, skipBlank_skipBlank]

theorem readMembers_skipBlank (fields : Fields) (text : List UInt8) :
    readMembers fields (skipBlank text) = readMembers fields text := by
  have hblank := skipBlank_skipBlank text
  rw [readMembers, readMembers]
  grind

theorem closeList_eq_ok_iff :
    closeList fields text = .ok (found, rest) ↔ found = fields ∧ Token 0x5d text rest := by
  constructor
  · intro h
    unfold closeList at h
    split at h
    · cases h
    next b tail hblank =>
    split at h
    · next hclose =>
      obtain rfl := beq_iff_eq.mp hclose
      cases h
      exact ⟨rfl, token_of_skipBlank hblank⟩
    split at h
    · split at h <;> cases h
    · cases h
  · rintro ⟨rfl, hclose⟩
    rw [closeList, skipBlank_of_token hclose rfl]
    rfl

theorem hasElement_first (h : skipBlank text = b :: rest) :
    hasElement true text = .ok (b != 0x5d, skipBlank text) := by
  rw [hasElement, h]
  by_cases hclose : b = 0x5d
  · rw [hclose]
    rfl
  · simp only [beq_eq_false_iff_ne.mpr hclose, bne, Bool.false_eq_true, if_false, if_true,
      Bool.not_false]

theorem hasElement_comma (hcomma : Token 0x2c text next) (h : skipBlank next = b :: rest)
    (hb : b ≠ 0x5d) : hasElement false text = .ok (true, skipBlank next) := by
  rw [hasElement, skipBlank_of_token hcomma rfl]
  simp only [h, beq_eq_false_iff_ne.mpr hb, Bool.false_eq_true, if_false, beq_self_eq_true, if_true]
  rfl

theorem hasElement_close (hclose : Token 0x5d text rest) :
    hasElement false text = .ok (false, skipBlank text) := by
  rw [hasElement, skipBlank_of_token hclose rfl]
  rfl

/-- Nothing but blanks is passed over in front of a first element, and where there is none. -/
theorem skipBlank_of_hasElement {isFirst more : Bool}
    (h : hasElement isFirst text = .ok (more, next)) (hstays : isFirst = true ∨ more = false) :
    next = skipBlank text := by
  unfold hasElement at h
  split at h
  · cases h
  next b tail hblank =>
  split at h
  · cases h
    exact hblank.symm
  split at h
  · cases h
    exact hblank.symm
  next hfirst =>
  split at h
  · split at h
    · cases h
    split at h
    · cases h
    · cases h
      rcases hstays with hstays | hstays
      · exact absurd hstays hfirst
      · cases hstays
  · cases h

theorem comma_of_hasElement (h : hasElement false text = .ok (true, next)) :
    ∃ after, Token 0x2c text after ∧ next = skipBlank after := by
  unfold hasElement at h
  split at h
  · cases h
  next b tail hblank =>
  split at h
  · cases h
  split at h
  · next hfirst => cases hfirst
  split at h
  · next hcomma =>
    obtain rfl := beq_iff_eq.mp hcomma
    split at h
    · cases h
    next c after hinner =>
    split at h
    · cases h
    · cases h
      exact ⟨tail, token_of_skipBlank hblank, hinner.symm⟩
  · cases h

theorem form_of_readList (hopen : Token 0x5b text inner) (h : readList inner = .ok (found, rest)) :
    ∃ settings, Form settings text rest ∧ settings.foldlM Fields.add? .none = some found := by
  obtain ⟨⟨more, start⟩, hfirst, h⟩ := bind_eq_ok_iff.mp h
  obtain rfl := skipBlank_of_hasElement hfirst (.inl rfl)
  cases more with
  | false =>
      have hread : closeList .none (skipBlank inner) = .ok (found, rest) := h
      rw [closeList_skipBlank] at hread
      obtain ⟨rfl, hclose⟩ := closeList_eq_ok_iff.mp hread
      exact ⟨[], .emptyList hopen hclose, rfl⟩
  | true =>
      obtain ⟨⟨filter, after⟩, hread, h⟩ := bind_eq_ok_iff.mp h
      rw [readString_skipBlank] at hread
      have hfilter := readString_eq_ok_iff.mp hread
      obtain ⟨⟨more, next⟩, hnext, h⟩ := bind_eq_ok_iff.mp h
      cases more with
      | false =>
          obtain rfl := skipBlank_of_hasElement hnext (.inr rfl)
          have hread : closeList ⟨some filter, none⟩ (skipBlank after) = .ok (found, rest) := h
          rw [closeList_skipBlank] at hread
          obtain ⟨rfl, hclose⟩ := closeList_eq_ok_iff.mp hread
          exact ⟨_, .filterOnly hopen hfilter hclose, rfl⟩
      | true =>
          obtain ⟨behind, hcomma, rfl⟩ := comma_of_hasElement hnext
          obtain ⟨⟨json, last⟩, hread, h⟩ := bind_eq_ok_iff.mp h
          rw [readBoolean_skipBlank] at hread
          have hjson := readBoolean_eq_ok_iff.mp hread
          obtain ⟨rfl, hclose⟩ := closeList_eq_ok_iff.mp h
          exact ⟨_, .fields hopen hfilter hcomma hjson hclose, rfl⟩

theorem form_of_readObject (hopen : Token 0x7b text inner)
    (h : readObject inner = .ok (found, rest)) :
    ∃ settings, Form settings text rest ∧ settings.foldlM Fields.add? .none = some found := by
  unfold readObject at h
  split at h
  · cases h
  next b tail hblank =>
  split at h
  · next hclose =>
    obtain rfl := beq_iff_eq.mp hclose
    cases h
    exact ⟨[], .emptyObject hopen (token_of_skipBlank hblank), rfl⟩
  split at h
  · cases h
  · rw [← hblank, readMembers_skipBlank] at h
    obtain ⟨settings, setting, next, after, hmembers, hlast, hclose, hfold⟩ :=
      exists_of_readMembers h
    exact ⟨_, .object hopen hmembers hlast hclose, hfold⟩

theorem form_of_readValue {config : Config} (h : readValue text = .ok (config, rest)) :
    ∃ settings found, Form settings text rest ∧ settings.foldlM Fields.add? .none = some found
      ∧ config = found.toConfig := by
  unfold readValue at h
  split at h
  · cases h
  next b tail hblank =>
  split at h
  · next hlist =>
    obtain rfl := beq_iff_eq.mp hlist
    obtain ⟨⟨found, behind⟩, hread, heq⟩ := exists_of_map h
    cases heq
    obtain ⟨settings, hform, hfold⟩ := form_of_readList (token_of_skipBlank hblank) hread
    exact ⟨settings, found, hform, hfold, rfl⟩
  split at h
  · next hobject =>
    obtain rfl := beq_iff_eq.mp hobject
    obtain ⟨⟨found, behind⟩, hread, heq⟩ := exists_of_map h
    cases heq
    obtain ⟨settings, hform, hfold⟩ := form_of_readObject (token_of_skipBlank hblank) hread
    exact ⟨settings, found, hform, hfold, rfl⟩
  · cases h

/-! ## Documents -/

theorem Members.exists_text (h : Members settings text next) (hnext : Text key next after) :
    ∃ key after, Text key text after := by
  cases h with
  | nil => exact ⟨key, after, hnext⟩
  | cons hmember =>
      obtain ⟨behind, htext⟩ := hmember.exists_text
      exact ⟨_, behind, htext⟩

theorem readObject_of_text (h : Text key text after) :
    readObject text = readMembers .none text := by
  obtain ⟨inner, hquote, -⟩ := h
  have hblank : skipBlank text = 0x22 :: inner := skipBlank_of_token hquote rfl
  rw [readObject, hblank]
  simp only [← hblank, readMembers_skipBlank]
  rfl

theorem readValue_object (hopen : Token 0x7b text inner) :
    readValue text = (readObject inner).map fun (fields, rest) => (fields.toConfig, rest) := by
  rw [readValue, skipBlank_of_token hopen rfl]
  rfl

theorem readValue_list (hopen : Token 0x5b text inner) :
    readValue text = (readList inner).map fun (fields, rest) => (fields.toConfig, rest) := by
  rw [readValue, skipBlank_of_token hopen rfl]
  rfl

theorem readObject_of_members (hmembers : Members settings text next)
    (hlast : Member setting next after) (hclose : Token 0x7d after rest)
    (hfold : (settings ++ [setting]).foldlM Fields.add? .none = some found) :
    readObject text = .ok (found, rest) := by
  obtain ⟨behind, hkey⟩ := hlast.exists_text
  obtain ⟨key, after, htext⟩ := hmembers.exists_text hkey
  rw [List.foldlM_append, Option.bind_eq_bind, Option.bind_eq_some_iff] at hfold
  obtain ⟨between, hbefore, hfold⟩ := hfold
  rw [List.foldlM_cons, Option.bind_eq_bind, Option.bind_eq_some_iff] at hfold
  obtain ⟨all, hadd, hfold⟩ := hfold
  cases hfold
  rw [readObject_of_text htext, hmembers.read hbefore, readMembers_last hlast hclose hadd]

theorem Flag.exists_first (h : Flag value text rest) :
    ∃ b tail, skipBlank text = b :: tail ∧ b ≠ 0x5d := by
  obtain ⟨start, hblanks, hword⟩ := h
  cases value with
  | true =>
      obtain ⟨after, rfl, -⟩ := (word_iff encode_true).mp hword
      exact ⟨_, after, skipBlank_of_token hblanks rfl, by decide⟩
  | false =>
      obtain ⟨after, rfl, -⟩ := (word_iff encode_false).mp hword
      exact ⟨_, after, skipBlank_of_token hblanks rfl, by decide⟩

theorem readList_empty (hclose : Token 0x5d text rest) : readList text = .ok (.none, rest) := by
  have hfirst : hasElement true text = .ok (false, skipBlank text) :=
    hasElement_first (skipBlank_of_token hclose rfl)
  rw [readList, hfirst]
  change closeList .none (skipBlank text) = _
  rw [closeList_skipBlank, closeList_eq_ok_iff]
  exact ⟨rfl, hclose⟩

theorem readList_filter (hfilter : Text s text after) :
    readList text = (hasElement false after).bind fun (more, text) =>
      if !more then closeList ⟨some s, none⟩ text
      else (readBoolean text).bind fun (json, text) => closeList ⟨some s, some json⟩ text := by
  have hfirst : hasElement true text = .ok (true, skipBlank text) :=
    hasElement_first (skipBlank_of_token hfilter.choose_spec.1 rfl)
  rw [readList, hfirst]
  change (readString (skipBlank text)).bind _ = _
  rw [readString_skipBlank, readString_eq_ok_iff.mpr hfilter]
  rfl

theorem readList_filterOnly (hfilter : Text s text after) (hclose : Token 0x5d after rest) :
    readList text = .ok (⟨some s, none⟩, rest) := by
  rw [readList_filter hfilter, hasElement_close hclose]
  change closeList ⟨some s, none⟩ (skipBlank after) = _
  rw [closeList_skipBlank, closeList_eq_ok_iff]
  exact ⟨rfl, hclose⟩

theorem readList_fields (hfilter : Text s text after) (hcomma : Token 0x2c after next)
    (hjson : Flag value next inner) (hclose : Token 0x5d inner rest) :
    readList text = .ok (⟨some s, some value⟩, rest) := by
  obtain ⟨b, tail, hfirst, hne⟩ := hjson.exists_first
  rw [readList_filter hfilter, hasElement_comma hcomma hfirst hne]
  change (readBoolean (skipBlank next)).bind _ = _
  rw [readBoolean_skipBlank, readBoolean_eq_ok_iff.mpr hjson]
  exact closeList_eq_ok_iff.mpr ⟨rfl, hclose⟩

theorem Form.read (h : Form settings text rest)
    (hfold : settings.foldlM Fields.add? .none = some found) :
    readValue text = .ok (found.toConfig, rest) := by
  cases h with
  | emptyObject hopen hclose =>
      cases hfold
      rw [readValue_object hopen, readObject, skipBlank_of_token hclose rfl]
      rfl
  | object hopen hmembers hlast hclose =>
      rw [readValue_object hopen, readObject_of_members hmembers hlast hclose hfold]
      rfl
  | emptyList hopen hclose =>
      cases hfold
      rw [readValue_list hopen, readList_empty hclose]
      rfl
  | filterOnly hopen hfilter hclose =>
      cases hfold
      rw [readValue_list hopen, readList_filterOnly hfilter hclose]
      rfl
  | fields hopen hfilter hcomma hjson hclose =>
      cases hfold
      rw [readValue_list hopen, readList_fields hfilter hcomma hjson hclose]
      rfl

/-- An object that comes to a field a second time is refused there. -/
theorem readValue_twice (hopen : Token 0x7b text inner) (hmembers : Members settings inner next)
    (hkey : Text key next after)
    (htaken : ∀ found, settings.foldlM Fields.add? .none = some found → found.Taken key) :
    ∃ fault, readValue text = .error fault ∧ fault.cause.category = .data := by
  have hrefused : ∃ fault, readMembers .none inner = .error fault
      ∧ fault.cause.category = .data := by
    cases hfold : settings.foldlM Fields.add? .none with
    | none => exact hmembers.refused hfold
    | some found =>
        rw [hmembers.read hfold]
        exact readMembers_taken (htaken found hfold) hkey
  obtain ⟨fault, hfault, hcategory⟩ := hrefused
  obtain ⟨first, behind, htext⟩ := hmembers.exists_text hkey
  refine ⟨fault, ?_, hcategory⟩
  rw [readValue_object hopen, readObject_of_text htext, hfault]
  rfl

/-- A form whose settings are not accepted is refused for its data. -/
theorem Form.refused (h : Form settings text rest)
    (hfold : settings.foldlM Fields.add? .none = none) :
    ∃ fault, readValue text = .error fault ∧ fault.cause.category = .data := by
  cases h with
  | emptyObject => cases hfold
  | emptyList => cases hfold
  | filterOnly => cases hfold
  | fields => cases hfold
  | @object settings setting _ _ _ _ _ hopen hmembers hlast hclose =>
      obtain ⟨behind, hkey⟩ := hlast.exists_text
      refine readValue_twice hopen hmembers hkey fun found hbefore => taken_of_add? ?_
      rw [List.foldlM_append, hbefore, Option.bind_eq_bind, Option.bind_some,
        List.foldlM_cons] at hfold
      cases hadd : found.add? setting with
      | none => rfl
      | some all =>
          rw [hadd] at hfold
          cases hfold

theorem read_eq_ok_iff {config : Config} : Config.read text = .ok config
    ↔ ∃ rest, readValue text = .ok (config, rest) ∧ Blanks rest [] :=
  readWhole_eq_ok_iff

theorem read_of_fault {fault : Fault} (h : readValue text = .error fault) :
    Config.read text = .error (fault.locate text) :=
  readWhole_of_fault h

/-- What a document is read as depends on its settings only. -/
theorem Document.toOption_read (h : Document settings text) : (Config.read text).toOption
    = (settings.foldlM Fields.add? .none).map Fields.toConfig := by
  obtain ⟨rest, hform, hblanks⟩ := h
  cases hfold : settings.foldlM Fields.add? .none with
  | none =>
      obtain ⟨fault, hfault, -⟩ := hform.refused hfold
      rw [read_of_fault hfault]
      rfl
  | some found =>
      rw [read_eq_ok_iff.mpr ⟨rest, hform.read hfold, hblanks⟩]
      rfl

theorem filterMap_filter_isKnown {α : Type} (pick : Setting → Option α)
    (h : ∀ key, pick (.other key) = none) (settings : List Setting) :
    (settings.filter Setting.isKnown).filterMap pick = settings.filterMap pick := by
  rw [List.filterMap_filter]
  refine congrArg (settings.filterMap ·) (funext fun setting => ?_)
  cases setting with
  | filter text => rfl
  | json value => rfl
  | other key => exact (h key).symm

theorem eq_of_perm_toList {α : Type} {field : Option α} {given : List α}
    (h : field.toList.Perm given) : field.toList = given := by
  cases field with
  | none => exact (List.nil_perm.mp h).symm
  | some value => exact List.singleton_perm.mp h

/-- The order of the settings and those of other members have no influence. -/
theorem foldlM_add?_of_perm
    (h : (settings.filter Setting.isKnown).Perm (settings'.filter Setting.isKnown))
    (hfold : settings.foldlM Fields.add? .none = some found) :
    settings'.foldlM Fields.add? .none = some found := by
  obtain ⟨hfilter, hjson⟩ := Fields.foldlM_add?_eq_some_iff.mp hfold
  have hfilters := h.filterMap Setting.filter?
  have hjsons := h.filterMap Setting.json?
  rw [filterMap_filter_isKnown _ fun _ => rfl, filterMap_filter_isKnown _ fun _ => rfl]
    at hfilters hjsons
  refine Fields.foldlM_add?_eq_some_iff.mpr ⟨?_, ?_⟩
  · exact eq_of_perm_toList (hfilter ▸ hfilters)
  · exact eq_of_perm_toList (hjson ▸ hjsons)

theorem isSome_of_mem {α : Type} {field : Option α} {given : List α} {value : α}
    (h : field.toList = given) (hmem : value ∈ given) : field.isSome = true := by
  cases field with
  | none =>
      cases h
      cases hmem
  | some other => rfl

theorem taken_of_mem (h : settings.foldlM Fields.add? .none = some found)
    (hmem : setting ∈ settings) (hknown : setting.isKnown = true) : found.Taken setting.key := by
  obtain ⟨hfilter, hjson⟩ := Fields.foldlM_add?_eq_some_iff.mp h
  cases setting with
  | filter text =>
      exact .inl ⟨rfl, isSome_of_mem hfilter (List.mem_filterMap.mpr ⟨_, hmem, rfl⟩)⟩
  | json value => exact .inr ⟨rfl, isSome_of_mem hjson (List.mem_filterMap.mpr ⟨_, hmem, rfl⟩)⟩
  | other key => cases hknown

/-- **The configuration is read by its grammar.** A text is read exactly when it is a document that
gives each field once at most, and then as the default with the given fields overwritten. Two
documents that give the same fields are read alike, whatever else is in them. And where a key of a
field comes a second time, nothing behind it counts: the text is refused for its data. -/
theorem reads_grammar :
    (∀ text config, read text = .ok config
      ↔ ∃ settings, Document settings text ∧ Single settings ∧ config = overlay settings)
      ∧ (∀ settings settings' text text', Document settings text → Document settings' text' →
        (settings.filter Setting.isKnown).Perm (settings'.filter Setting.isKnown) →
          (read text).toOption = (read text').toOption)
      ∧ ∀ settings setting text inner next after, Token 0x7b text inner →
        Members settings inner next → setting ∈ settings → setting.isKnown = true →
          Text setting.key next after →
            ∃ error, read text = .error error ∧ error.category = .data := by
  refine ⟨?_, ?_, ?_⟩
  · intro text config
    constructor
    · intro h
      obtain ⟨rest, hvalue, hblanks⟩ := read_eq_ok_iff.mp h
      obtain ⟨settings, found, hform, hfold, rfl⟩ := form_of_readValue hvalue
      exact ⟨settings, ⟨rest, hform, hblanks⟩, Fields.exists_foldlM_add?_iff.mp ⟨found, hfold⟩,
        Fields.toConfig_of_foldlM hfold⟩
    · rintro ⟨settings, ⟨rest, hform, hblanks⟩, hsingle, rfl⟩
      obtain ⟨found, hfold⟩ := Fields.exists_foldlM_add?_iff.mpr hsingle
      have hconfig : found.toConfig = overlay settings := Fields.toConfig_of_foldlM hfold
      rw [← hconfig]
      exact read_eq_ok_iff.mpr ⟨rest, hform.read hfold, hblanks⟩
  · intro settings settings' text text' hdocument hdocument' hperm
    rw [hdocument.toOption_read, hdocument'.toOption_read]
    cases hfold : settings.foldlM Fields.add? .none with
    | some found => rw [foldlM_add?_of_perm hperm hfold]
    | none =>
        -- accepted settings would be accepted in the other order too
        cases hfold' : settings'.foldlM Fields.add? .none with
        | none => rfl
        | some found =>
            rw [foldlM_add?_of_perm hperm.symm hfold'] at hfold
            cases hfold
  · intro settings setting text inner next after hopen hmembers hmem hknown hkey
    obtain ⟨fault, hfault, hcategory⟩ := readValue_twice hopen hmembers hkey fun found hfold =>
      taken_of_mem hfold hmem hknown
    exact ⟨fault.locate text, read_of_fault hfault, hcategory⟩

/-- Nothing has to follow the second key. -/
theorem reads_grammar_twice :
    ∃ error, read (Utf8.encode "\x7b\"json\":true,\"json\"") = .error error
      ∧ error.category = .data := by
  have hkey : ∀ rest, Text "json" (0x22 :: (Quoted.body "json" ++ 0x22 :: rest)) rest := fun rest =>
    ⟨_, ⟨[], rfl, nofun⟩, Quoted.read_eq_ok_iff.mp (Quoted.read_body "json" rest)⟩
  have htext : Utf8.encode "\x7b\"json\":true,\"json\"" = 0x7b :: 0x22 :: (Quoted.body "json"
      ++ 0x22 :: 0x3a :: (Utf8.encode (toString true) ++ 0x2c :: 0x22 :: (Quoted.body "json"
        ++ [0x22]))) := by
    decide
  have hmember : Member (.json true) (0x22 :: (Quoted.body "json" ++ 0x22 :: 0x3a
      :: (Utf8.encode (toString true) ++ 0x2c :: 0x22 :: (Quoted.body "json" ++ [0x22]))))
        (0x2c :: 0x22 :: (Quoted.body "json" ++ [0x22])) :=
    .json ⟨_, hkey _, [], rfl, nofun⟩ ⟨_, ⟨[], rfl, nofun⟩, rfl⟩
  rw [htext]
  exact reads_grammar.2.2 [.json true] (.json true) _ _ _ _ ⟨[], rfl, nofun⟩
    (.cons hmember ⟨[], rfl, nofun⟩ (.nil _)) List.mem_cons_self rfl (hkey [])

end PidOne.Config
