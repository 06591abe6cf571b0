import FactoryBundler.Proofs.Configuration.Verdict

/-!
# What errors say of a refused value

A value that its setting or attribute does not admit makes a configuration fail, and the failure
says what was found. An error that is about an entry of a section names the variable as well. But
under which key the value was found is lost on the way: no error says it, be the key that of a
setting or of an attribute, unless the key happens to be part of what is said anyway.
-/

namespace FactoryBundler

namespace CompileError

/-- The texts that come with an error about a setting: what it is called and what is wrong. -/
def texts : CompileError → List String
  | .invalidSetting area identifier fault => [settingName area identifier, fault.message]
  | _ => []

/-- The error is about a setting, and one of its texts mentions the name. -/
def Mentions (error : CompileError) (name : String) : Prop :=
  ∃ text ∈ error.texts, name.toList <:+: text.toList

/-- The error is about a setting, and one of its texts mentions the key in some spelling. -/
def MentionsKey (error : CompileError) (key : String) : Prop :=
  ∃ spelling, Configuration.underscored spelling = key ∧ error.Mentions spelling

theorem mentions_identifier (area identifier : String) (fault : Configuration.EntryFault) :
    (invalidSetting area identifier fault).Mentions identifier := by
  refine ⟨settingName area identifier, List.mem_cons_self, ?_⟩
  rw [settingName, String.toList_append]
  exact (List.suffix_append _ _).isInfix

end CompileError

namespace Configuration

variable {key : String} {value : Json} {failure : Failure}

/-! ## Failures of coercions -/

/-- What a failure tells of a refused value: what was found, or which item of a list, and nothing
about where. -/
inductive Tells : Json → Failure → Prop
  | noText (value : Json) : Tells value (.notText value)
  | noBoolean (value : Json) : Tells value (.notBoolean value)
  | noTextInList {items : List Json} {item : Json} (inItems : item ∈ items) :
      Tells (.array items) (.notText item)
  | nullInList {items : List Json} (inItems : .null ∈ items) : Tells (.array items) .nullEntry
  | noMembers (value : Json) : Tells value (.shape (.wrongType value.found "a map"))

theorem eq_notText_of_text (h : text value = .error failure) : failure = .notText value := by
  cases value <;> cases h
  all_goals rfl

theorem tells_of_text (h : text value = .error failure) : Tells value failure :=
  eq_notText_of_text h ▸ .noText value

theorem tells_of_boolean (h : boolean value = .error failure) : Tells value failure := by
  cases value with
  | string s =>
      rw [boolean] at h
      split at h <;> cases h
      exact .noBoolean _
  | null | bool => cases h
  | _ =>
      cases h
      exact .noBoolean _

theorem eq_null_of_text_none (h : text value = .ok none) : value = .null := by
  cases value <;> cases h
  rfl

/-- The first item that is no text, or is null, is refused. -/
theorem exists_item_of_entries {items : List Json} (h : entries items = .error failure) :
    (∃ item ∈ items, failure = .notText item) ∨ .null ∈ items ∧ failure = .nullEntry := by
  induction items with
  | nil => cases h
  | cons item more ih =>
      rw [entries] at h
      rcases Except.bind_eq_error_iff.mp h with refused | ⟨given, taken, h⟩
      · exact Or.inl ⟨item, List.mem_cons_self, eq_notText_of_text refused⟩
      · cases given with
        | none =>
            cases h
            exact Or.inr ⟨eq_null_of_text_none taken ▸ List.mem_cons_self, rfl⟩
        | some s =>
            rcases Except.bind_eq_error_iff.mp h with refused | ⟨later, -, h⟩
            · rcases ih refused with ⟨item, inMore, rfl⟩ | ⟨inMore, rfl⟩
              · exact Or.inl ⟨item, List.mem_cons_of_mem _ inMore, rfl⟩
              · exact Or.inr ⟨List.mem_cons_of_mem _ inMore, rfl⟩
            · cases h

theorem tells_of_textList (h : textList value = .error failure) : Tells value failure := by
  cases value with
  | array items =>
      rcases exists_item_of_entries (Except.map_eq_error_iff.mp h) with
        ⟨item, inItems, rfl⟩ | ⟨inItems, rfl⟩
      · exact .noTextInList inItems
      · exact .nullInList inItems
  | object members =>
      cases h
      exact .noText _
  | _ => cases h

theorem tells_of_members (h : members value = .error failure) : Tells value failure := by
  obtain ⟨mismatch, refused, rfl⟩ := Except.mapError_eq_error_iff.mp h
  cases value with
  | null | object => cases refused
  | _ =>
      cases refused
      exact .noMembers _

theorem Settings.tells_of_change (isKnown : key ∈ known) (h : change key value = .error failure) :
    Tells value failure := by
  rcases mem_known_iff.mp isKnown with isText | isBoolean | isSection
  · simp only [textKeys, List.mem_cons, List.not_mem_nil, or_false] at isText
    rcases isText with rfl | rfl | rfl | rfl <;>
      exact tells_of_text (Except.map_eq_error_iff.mp h)
  · simp only [booleanKeys, List.mem_cons, List.not_mem_nil, or_false] at isBoolean
    rcases isBoolean with rfl | rfl | rfl | rfl <;>
      exact tells_of_boolean (Except.map_eq_error_iff.mp h)
  · simp only [sections, List.mem_cons, List.not_mem_nil, or_false] at isSection
    rcases isSection with rfl | rfl <;> exact tells_of_members (Except.map_eq_error_iff.mp h)

theorem Attributes.tells_of_change (isKnown : key ∈ keys) (h : change key value = .error failure) :
    Tells value failure := by
  rcases mem_keys_iff.mp isKnown with isText | isBoolean | rfl
  · simp only [textKeys, List.mem_cons, List.not_mem_nil, or_false] at isText
    rcases isText with rfl | rfl | rfl | rfl <;>
      exact tells_of_text (Except.map_eq_error_iff.mp h)
  · simp only [booleanKeys, List.mem_cons, List.not_mem_nil, or_false] at isBoolean
    rcases isBoolean with rfl | rfl <;> exact tells_of_boolean (Except.map_eq_error_iff.mp h)
  · exact tells_of_textList (Except.map_eq_error_iff.mp h)

/-! ## Members that are refused -/

/-- All keys are spellings of the ones listed. -/
def AreSpellingsOf (keys : List String) (members : List (String × Json)) : Prop :=
  ∀ member ∈ members, underscored member.1 ∈ keys

theorem AreSpellingsOf.mem_of_lastSpelled {keys : List String} {members : List (String × Json)}
    (spelled : AreSpellingsOf keys members) (given : lastSpelled key members = some value) :
    key ∈ keys := by
  obtain ⟨spelling, inMembers, rfl⟩ := Configuration.mem_of_lastSpelled given
  exact spelled (spelling, value) inMembers

section Fill

variable {σ : Type} {set : σ → String → Json → Except Failure σ}
  {change : String → Json → Except Failure (σ → σ)} {record : σ} {members : List (String × Json)}

/-- A record is not filled because of one of the members. -/
theorem exists_change_of_fill (fills : Fills set change)
    (h : fill set record members = .error failure) :
    ∃ key value, (key, value) ∈ members ∧ change key value = .error failure := by
  induction members generalizing record with
  | nil => cases h
  | cons member more ih =>
      obtain ⟨key, value⟩ := member
      cases changes : change key value with
      | error refused =>
          rw [fill_cons_of_error fills changes] at h
          cases h
          exact ⟨key, value, List.mem_cons_self, changes⟩
      | ok f =>
          rw [fill_cons_of_ok fills changes] at h
          obtain ⟨key, value, inMore, refused⟩ := ih h
          exact ⟨key, value, List.mem_cons_of_mem _ inMore, refused⟩

/-- A record is not filled because of the value that counts under one of the keys, which its setting
or attribute does not admit. -/
theorem exists_refused_of_fill_respell {keys : List String} {Admits : String → Json → Prop}
    (fills : Fills set change)
    (exists_change_iff : ∀ {key value}, (∃ f, change key value = .ok f) ↔ Admits key value)
    (tells_of_change : ∀ {key value failure}, key ∈ keys → change key value = .error failure →
      Tells value failure)
    (spelled : AreSpellingsOf keys members)
    (h : fill set record (respell members) = .error failure) :
    ∃ key value, lastSpelled key members = some value ∧ ¬ Admits key value ∧
      Tells value failure := by
  obtain ⟨key, value, counts, refused⟩ := exists_change_of_fill fills h
  have given : lastSpelled key members = some value := mem_respell_iff.mp counts
  refine ⟨key, value, given, ?_, tells_of_change (spelled.mem_of_lastSpelled given) refused⟩
  exact exists_change_iff.not.mp (Except.not_ok_of_error refused)

end Fill

theorem Settings.exists_refused {members : List (String × Json)}
    (spelled : AreSpellingsOf known members) (h : ofMembers members = .error failure) :
    ∃ key value, lastSpelled key members = some value ∧ ¬ Admits key value ∧
      Tells value failure := by
  rw [ofMembers, setAll_eq_fill] at h
  exact exists_refused_of_fill_respell fills_change exists_change_iff tells_of_change spelled h

theorem Attributes.exists_refused {members : List (String × Json)}
    (spelled : AreSpellingsOf keys members) (h : ofMembers members = .error failure) :
    ∃ key value, lastSpelled key members = some value ∧ ¬ Admits key value ∧
      Tells value failure := by
  rw [ofMembers, setAll_eq_fill] at h
  exact exists_refused_of_fill_respell fills_change exists_change_iff tells_of_change spelled h

theorem exists_entry_of_hydrateInto {reserved : Option ReservedVariables} {known : List Variable}
    {entries : List (String × Json)} {identifier : String} {fault : EntryFault}
    (h : hydrateInto reserved known entries = .error (identifier, fault)) :
    ∃ entry, (identifier, entry) ∈ entries ∧ attributesOf entry = .error fault := by
  induction entries generalizing known with
  | nil => cases h
  | cons entry more ih =>
      obtain ⟨first, entry⟩ := entry
      rw [hydrateInto] at h
      cases taken : attributesOf entry with
      | error refused =>
          rw [taken] at h
          cases h
          exact ⟨entry, List.mem_cons_self, taken⟩
      | ok attributes =>
          rw [taken] at h
          obtain ⟨entry, inMore, refused⟩ := ih h
          exact ⟨entry, List.mem_cons_of_mem _ inMore, refused⟩

/-! ## Offences and errors -/

/-- What can be refused in a document of known keys. -/
inductive Offence where
  | setting (key : String) (value : Json)
  | attributeOf (area identifier name : String) (value : Json)
  /-- An entry that is neither null nor an object of attributes. -/
  | entry (area identifier : String) (value : Json)

/-- The document gives the value, and it is refused. -/
inductive IsOffence (document : Json) : Offence → Prop
  | setting {members : List (String × Json)} {key : String} {value : Json}
      (isObject : document = .object members) (given : lastSpelled key members = some value)
      (refused : ¬ Settings.Admits key value) : IsOffence document (.setting key value)
  | attributeOf {area identifier name : String} {members : List (String × Json)} {value : Json}
      (isSection : area ∈ sections)
      (inSection : (identifier, .object members) ∈ sectionEntries area document)
      (given : lastSpelled name members = some value)
      (refused : ¬ Attributes.Admits name value) :
      IsOffence document (.attributeOf area identifier name value)
  | entry {area identifier : String} {value : Json} (isSection : area ∈ sections)
      (inSection : (identifier, value) ∈ sectionEntries area document)
      (notNull : value ≠ .null) (notObject : ∀ members, value ≠ .object members) :
      IsOffence document (.entry area identifier value)

/-- The error that an offence is reported with. -/
inductive Reports : Offence → CompileError → Prop
  | setting {key : String} {value : Json} {failure : Failure} (tells : Tells value failure) :
      Reports (.setting key value) (.invalidConfiguration (.setting failure))
  | attributeOf {area identifier name : String} {value : Json} {failure : Failure}
      (tells : Tells value failure) :
      Reports (.attributeOf area identifier name value)
        (.invalidSetting area identifier (.attribute failure))
  | entry {area identifier : String} {value : Json} :
      Reports (.entry area identifier value)
        (.invalidSetting area identifier (.notAttributes value))

/-- The document is an object of known settings, and so are the attributes of all entries. -/
structure HasKnownKeys (document : Json) : Prop where
  settings : ∃ members, document = .object members ∧ AreSpellingsOf Settings.known members
  attributes : ∀ area ∈ sections, ∀ identifier members,
    (identifier, .object members) ∈ sectionEntries area document →
      AreSpellingsOf Attributes.keys members

/-- The error is about a setting, and its texts mention the key of a setting, or the identifier of
a variable and the key of its attribute. -/
def Offence.NamedBy (error : CompileError) : Offence → Prop
  | .setting key _ => error.MentionsKey key
  | .attributeOf _ identifier name _ => error.Mentions identifier ∧ error.MentionsKey name
  | .entry _ identifier _ => error.Mentions identifier

/-- What the error says names the offence: the key of a setting is not part of it, a variable is,
and the key of an attribute is not put there, but may occur in it. -/
def Offence.ShowsIn (error : CompileError) : Offence → Prop
  | .setting _ _ => False
  | .attributeOf _ _ name _ => error.MentionsKey name
  | .entry _ _ _ => True

variable {document : Json} {offence : Offence} {error : CompileError} {template : Option String}
  {catalog : Catalog} {reserved : ReservedVariables}

theorem Reports.namedBy_iff (reports : Reports offence error) :
    offence.NamedBy error ↔ offence.ShowsIn error := by
  cases reports with
  | setting tells =>
      refine iff_of_false ?_ not_false
      rintro ⟨spelling, -, text, inTexts, -⟩
      cases inTexts
  | attributeOf tells => exact and_iff_right (CompileError.mentions_identifier _ _ _)
  | entry => exact iff_of_true (CompileError.mentions_identifier _ _ _) trivial

/-! ## The result -/

/-- A faulty section has an offence, which is reported. -/
theorem exists_reports_of_hydrate {area : String} {known : Option ReservedVariables}
    {entries : Option (List (String × Json))} {identifier : String} {fault : EntryFault}
    (knownKeys : HasKnownKeys document) (isSection : area ∈ sections)
    (entries_eq : entries.getD [] = sectionEntries area document)
    (h : hydrate known entries = .error (identifier, fault)) :
    ∃ offence, IsOffence document offence ∧
      Reports offence (.invalidSetting area identifier fault) := by
  obtain ⟨entry, inEntries, failed⟩ := exists_entry_of_hydrateInto h
  rw [entries_eq] at inEntries
  cases entry with
  | null => cases failed
  | object members =>
      obtain ⟨failure, refused, rfl⟩ := Except.mapError_eq_error_iff.mp failed
      obtain ⟨name, value, given, notAdmitted, tells⟩ := Attributes.exists_refused
        (knownKeys.attributes area isSection identifier members inEntries) refused
      exact ⟨_, .attributeOf isSection inEntries given notAdmitted, .attributeOf tells⟩
  | _ =>
      cases failed
      exact ⟨_, .entry isSection inEntries nofun nofun, .entry⟩

theorem IsAdmitted.not_isOffence_setting (admitted : IsAdmitted document) :
    ¬ ∃ key value, IsOffence document (.setting key value) := by
  obtain ⟨members, rfl, admits⟩ := admitted
  rintro ⟨key, value, isOffence⟩
  cases isOffence with
  | setting isObject given refused =>
      cases isObject
      exact refused (admits key value given)

theorem not_isSound_of_isOffence (isOffence : IsOffence document offence) : ¬ IsSound document := by
  intro sound
  have hydratable {area : String} (isSection : area ∈ sections) : IsHydratable area document := by
    rcases List.mem_pair.mp isSection with rfl | rfl
    · exact sound.policyVariables
    · exact sound.templateVariables
  cases isOffence with
  | setting isObject given refused =>
      exact sound.admitted.not_isOffence_setting ⟨_, _, .setting isObject given refused⟩
  | attributeOf isSection inSection given refused =>
      cases hydratable isSection _ inSection with
      | object admits => exact refused (admits _ _ given)
  | entry isSection inSection notNull notObject =>
      cases hydratable isSection _ inSection with
      | null => exact notNull rfl
      | object => exact notObject _ rfl

/-- Settings that are not admitted are refused before anything else is looked at. -/
theorem exists_reports_of_not_isAdmitted (knownKeys : HasKnownKeys document)
    (fault : ¬ IsAdmitted document) :
    ∃ error key value, build template document catalog reserved = .error error ∧
      IsOffence document (.setting key value) ∧ Reports (.setting key value) error := by
  obtain ⟨members, rfl, spelled⟩ := knownKeys.settings
  cases read : Settings.ofMembers members with
  | error failure =>
      obtain ⟨key, value, given, refused, tells⟩ := Settings.exists_refused spelled read
      refine ⟨_, key, value, ?_, .setting rfl given refused, .setting tells⟩
      rw [build_object, read]
      rfl
  | ok settings =>
      exact absurd ⟨members, rfl, Settings.exists_ofMembers_iff.mp ⟨settings, read⟩⟩ fault

/-- With settings that are admitted it is an entry of a section that is refused. -/
theorem exists_reports_of_isAdmitted (knownKeys : HasKnownKeys document)
    (admitted : IsAdmitted document) (notSound : ¬ IsSound document) :
    ∃ error offence, build template document catalog reserved = .error error ∧
      IsOffence document offence ∧ Reports offence error := by
  obtain ⟨members, settings, -, -, build_eq, policyEntries, templateEntries⟩ :=
    admitted.exists_settings
  rw [build_eq, ofSettings]
  cases hydrated : hydrate none settings.policyVariables with
  | error failed =>
      obtain ⟨offence, isOffence, reports⟩ :=
        exists_reports_of_hydrate knownKeys List.mem_cons_self policyEntries hydrated
      exact ⟨_, offence, rfl, isOffence, reports⟩
  | ok policyVariables =>
      cases hydrated' : hydrate (some reserved) settings.templateVariables with
      | error failed =>
          obtain ⟨offence, isOffence, reports⟩ := exists_reports_of_hydrate knownKeys
            (List.mem_cons_of_mem _ List.mem_cons_self) templateEntries hydrated'
          exact ⟨_, offence, rfl, isOffence, reports⟩
      | ok templateVariables =>
          have fine := exists_hydrate_iff.mp ⟨policyVariables, hydrated⟩
          have fine' := exists_hydrate_iff.mp ⟨templateVariables, hydrated'⟩
          rw [policyEntries] at fine
          rw [templateEntries] at fine'
          exact absurd ⟨admitted, fine, fine'⟩ notSound

/-- How a document is refused: one of its offences is reported, that of a setting if there is one,
and what of it the error names. -/
structure IsRefusedFor (document : Json) (error : CompileError) (offence : Offence) : Prop where
  isOffence : IsOffence document offence
  reports : Reports offence error
  settingsFirst : (∃ key value, IsOffence document (.setting key value)) →
    ∃ key value, offence = .setting key value
  namedBy_iff : offence.NamedBy error ↔ offence.ShowsIn error

/-- A document of known keys with a value that is refused does not build. -/
theorem exists_isRefusedFor (template : Option String) (document : Json) (catalog : Catalog)
    (reserved : ReservedVariables) (knownKeys : HasKnownKeys document)
    (offends : ∃ offence, IsOffence document offence) :
    ∃ error offence, build template document catalog reserved = .error error ∧
      IsRefusedFor document error offence := by
  obtain ⟨offended, isOffended⟩ := offends
  by_cases admitted : IsAdmitted document
  · obtain ⟨error, offence, failed, isOffence, reports⟩ :=
      exists_reports_of_isAdmitted knownKeys admitted (not_isSound_of_isOffence isOffended)
    exact ⟨error, offence, failed, {
      isOffence := isOffence
      reports := reports
      settingsFirst := (absurd · admitted.not_isOffence_setting)
      namedBy_iff := reports.namedBy_iff }⟩
  · obtain ⟨error, key, value, failed, isOffence, reports⟩ :=
      exists_reports_of_not_isAdmitted knownKeys admitted
    exact ⟨error, .setting key value, failed, {
      isOffence := isOffence
      reports := reports
      settingsFirst := fun _ => ⟨key, value, rfl⟩
      namedBy_iff := reports.namedBy_iff }⟩

/-- A document with one attribute of one variable. -/
def withAttribute (identifier name : String) (value : Json) : Json :=
  .object [("variables", .object [(identifier, .object [(name, value)])])]

theorem underscored_variables : underscored "variables" = "variables" := by decide

theorem sectionEntries_withAttribute (area identifier name : String) (value : Json) :
    sectionEntries area (withAttribute identifier name value) =
      if area = "variables" then [(identifier, .object [(name, value)])] else [] := by
  rw [withAttribute, sectionEntries, lastSpelled_singleton, underscored_variables]
  by_cases isArea : "variables" = area
  · rw [if_pos isArea, if_pos isArea.symm]
  · rw [if_neg isArea, if_neg (Ne.symm isArea)]

theorem hasKnownKeys_withAttribute {identifier name : String} {value : Json}
    (isKnown : underscored name ∈ Attributes.keys) :
    HasKnownKeys (withAttribute identifier name value) where
  settings := by
    refine ⟨_, rfl, List.forall_mem_singleton.mpr ?_⟩
    rw [underscored_variables]
    decide
  attributes := by
    intro area _ owner members inSection
    rw [sectionEntries_withAttribute] at inSection
    split at inSection
    · cases List.mem_singleton.mp inSection
      exact List.forall_mem_singleton.mpr isKnown
    · cases inSection

theorem isOffence_withAttribute {identifier name : String} {value : Json}
    (itself : underscored name = name) (refused : ¬ Attributes.Admits name value) :
    IsOffence (withAttribute identifier name value)
      (.attributeOf "variables" identifier name value) := by
  refine .attributeOf List.mem_cons_self ?_ ((lastSpelled_singleton _ _ _).trans (if_pos itself))
    refused
  rw [sectionEntries_withAttribute, if_pos rfl]
  exact List.mem_singleton_self _

theorem exists_isRefusedFor_hidden :
    ∃ error offence, build (some "- !host") (withAttribute "url" "hidden" (.string "maybe")) .empty
        .standard = .error error ∧
      IsRefusedFor (withAttribute "url" "hidden" (.string "maybe")) error offence := by
  have refused : ¬ Attributes.Admits "hidden" (.string "maybe") := by
    have fails : Attributes.change "hidden" (.string "maybe") =
        .error (.notBoolean (.string "maybe")) := rfl
    rw [← Attributes.exists_change_iff]
    exact Except.not_ok_of_error fails
  exact exists_isRefusedFor _ _ _ _ (hasKnownKeys_withAttribute (by decide))
    ⟨_, isOffence_withAttribute (by decide) refused⟩

/-- A document with a number in place of a truth value. -/
def wrongSetting : Json :=
  .object [("wrap_with_policy", .number (.integer 5))]

/-- The error for a setting does not say which one it is, the error for an attribute does not say
which one of its variable it is. -/
theorem not_namedBy_five :
    (HasKnownKeys wrongSetting ∧
      IsOffence wrongSetting (.setting "wrap_with_policy" (.number (.integer 5))) ∧
      ∃ error, build (some "- !host") wrongSetting .empty .standard = .error error ∧
        ¬ Offence.NamedBy error (.setting "wrap_with_policy" (.number (.integer 5)))) ∧
    ∃ error, build (some "- !host") (withAttribute "url" "required" (.number (.integer 5))) .empty
        .standard = .error error ∧
      ¬ Offence.NamedBy error
        (.attributeOf "variables" "url" "required" (.number (.integer 5))) := by
  refine ⟨⟨?known, ?offends, _, rfl, ?setting⟩, _, rfl, ?attributeOf⟩
  case known =>
    refine ⟨⟨_, rfl, List.forall_mem_singleton.mpr (by decide)⟩, ?_⟩
    intro area isSection owner members inSection
    rcases List.mem_pair.mp isSection with rfl | rfl <;> cases inSection
  case offends =>
    have fails : Settings.change "wrap_with_policy" (.number (.integer 5)) =
        .error (.notBoolean (.number (.integer 5))) := rfl
    refine .setting rfl rfl ?_
    rw [← Settings.exists_change_iff]
    exact Except.not_ok_of_error fails
  case setting =>
    rintro ⟨spelling, -, text, inTexts, -⟩
    cases inTexts
  case attributeOf =>
    rintro ⟨-, spelling, spelled, text, inTexts, mentioned⟩
    obtain rfl := (underscored_eq_iff (by decide) (by decide)).mp spelled
    have inText : 'q' ∈ text.toList := mentioned.subset (by decide)
    rcases List.mem_pair.mp inTexts with rfl | rfl
    · exact absurd inText (by decide)
    · exact absurd inText (by decide)

end Configuration

end FactoryBundler
