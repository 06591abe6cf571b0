import FactoryBundler.Compiler
import FactoryBundler.Proofs.Configuration.Hydration
import FactoryBundler.Proofs.Configuration.Settings

/-!
# Configurations that were built

A configuration that was built is assembled from settings, the variables of both sections and the
source of its template, all of which were had without a fault. What a request gives for a setting
is decided by the last member that spells its key and is not void.
-/

namespace FactoryBundler

namespace Configuration

variable {template : Option String} {document : Json} {catalog : Catalog}
  {reserved : ReservedVariables} {configuration : Configuration}

/-- The configuration that settings, variables and a source make. -/
def assemble (settings : Settings) (policyVariables templateVariables : List Variable)
    (source : Source) : Configuration :=
  let toggles := settle settings (!policyVariables.isEmpty) source
  { title := settings.title.getD ""
    description := settings.description.getD ""
    givenBranch := settings.defaultPolicyBranch
    template := source.template
    policyVariables := policyVariables
    templateVariables := templateVariables
    withVariablesGroup := toggles.withVariablesGroup
    wrapWithPolicy := toggles.wrapWithPolicy
    includeIdentifier := toggles.includeIdentifier
    includeAnnotations := toggles.includeAnnotations
    warnings := toggles.warnings }

/-- The parts that a configuration was assembled from. -/
structure IsBuiltFrom (template : Option String) (members : List (String × Json))
    (catalog : Catalog) (reserved : ReservedVariables) (settings : Settings) (source : Source)
    (configuration : Configuration) : Prop where
  settings_ok : Settings.ofMembers members = .ok settings
  policyVariables_ok : hydrate none settings.policyVariables = .ok configuration.policyVariables
  templateVariables_ok :
    hydrate (some reserved) settings.templateVariables = .ok configuration.templateVariables
  source_ok : chooseSource template settings.policyType catalog = .ok source
  assembled : configuration =
    assemble settings configuration.policyVariables configuration.templateVariables source

theorem exists_isBuiltFrom {members : List (String × Json)}
    (h : build template (.object members) catalog reserved = .ok configuration) :
    ∃ settings source,
      IsBuiltFrom template members catalog reserved settings source configuration := by
  rw [build] at h
  obtain ⟨members, isObject, h⟩ := Except.bind_eq_ok_iff.mp h
  cases isObject
  obtain ⟨settings, settings_ok, h⟩ := Except.bind_eq_ok_iff.mp h
  obtain ⟨policyVariables, policyVariables_ok, h⟩ := Except.bind_eq_ok_iff.mp h
  obtain ⟨templateVariables, templateVariables_ok, h⟩ := Except.bind_eq_ok_iff.mp h
  obtain ⟨source, source_ok, h⟩ := Except.bind_eq_ok_iff.mp h
  cases h
  exact ⟨settings, source, {
    settings_ok := Except.mapError_eq_ok_iff.mp settings_ok
    policyVariables_ok := Except.mapError_eq_ok_iff.mp policyVariables_ok
    templateVariables_ok := Except.mapError_eq_ok_iff.mp templateVariables_ok
    source_ok := source_ok
    assembled := rfl }⟩

/-- Parts that are all there make a configuration. -/
theorem IsBuiltFrom.build_eq {members : List (String × Json)} {settings : Settings}
    {source : Source}
    (isBuilt : IsBuiltFrom template members catalog reserved settings source configuration) :
    build template (.object members) catalog reserved = .ok configuration := by
  rw [build]
  refine Except.bind_eq_ok_iff.mpr ⟨members, rfl, ?_⟩
  refine Except.bind_eq_ok_iff.mpr ⟨settings, Except.mapError_eq_ok_iff.mpr isBuilt.settings_ok, ?_⟩
  refine Except.bind_eq_ok_iff.mpr
    ⟨_, Except.mapError_eq_ok_iff.mpr isBuilt.policyVariables_ok, ?_⟩
  refine Except.bind_eq_ok_iff.mpr
    ⟨_, Except.mapError_eq_ok_iff.mpr isBuilt.templateVariables_ok, ?_⟩
  refine Except.bind_eq_ok_iff.mpr ⟨source, isBuilt.source_ok, ?_⟩
  exact congrArg Except.ok isBuilt.assembled.symm

/-- A wrapping policy carries its identifier. -/
theorem includeIdentifier_of_wrapWithPolicy {settings : Settings} {hasVariables : Bool}
    {source : Source} (h : (settle settings hasVariables source).wrapWithPolicy = true) :
    (settle settings hasVariables source).includeIdentifier = true := by
  cases source with
  | written template =>
      simp only [settle] at h ⊢
      rw [h, Bool.or_true]
  | canned body => rfl

/-! ## Sources -/

/-- The source is the template if there is one that is not blank and no policy type is named, and
the body of the policy type that is named if there is no such template. -/
theorem chooseSource_eq_ok_iff {policyType : Option String} {source : Source} :
    chooseSource template policyType catalog = .ok source ↔
      (∃ written, template.filter (fun text => !Text.isBlank text) = some written ∧
        (policyType.map PolicyType.name).filter (fun name => !name.isEmpty) = none ∧
        source = .written written) ∨
      ∃ name body, template.filter (fun text => !Text.isBlank text) = none ∧
        (policyType.map PolicyType.name).filter (fun name => !name.isEmpty) = some name ∧
        catalog.get? name = some body ∧ source = .canned body := by
  rw [chooseSource]
  generalize template.filter _ = written?
  generalize (policyType.map PolicyType.name).filter _ = name?
  cases written? with
  | some written => cases name? <;> simp [eq_comm]
  | none =>
      cases name? with
      | none => simp
      | some name => cases held : catalog.get? name <;> simp [held, eq_comm]

/-- A blank template counts as none. -/
theorem build_of_blank {written : String} (blank : Text.isBlank written = true) :
    build (some written) document catalog reserved = build none document catalog reserved := by
  have dropped : (some written).filter (fun text => !Text.isBlank text) = none := by
    rw [Option.filter_some, blank]
    rfl
  simp only [build, chooseSource, dropped, Option.filter_none]

/-- A template that is not blank can be exchanged for another one. -/
theorem build_of_not_blank {written other : String} (visible : Text.isBlank written = false)
    (visible' : Text.isBlank other = false)
    (built : build (some written) document catalog reserved = .ok configuration) :
    configuration.template = written ∧
      build (some other) document catalog reserved =
        .ok { configuration with template := other } := by
  have kept {text : String} (visible : Text.isBlank text = false) :
      (some text).filter (fun text => !Text.isBlank text) = some text := by
    rw [Option.filter_some, visible]
    rfl
  cases document with
  | object members =>
      obtain ⟨settings, source, isBuilt⟩ := exists_isBuiltFrom built
      have assembled := isBuilt.assembled
      rcases chooseSource_eq_ok_iff.mp isBuilt.source_ok with
        ⟨template, isTemplate, notNamed, rfl⟩ | ⟨name, body, notWritten, -⟩
      · cases (kept visible).symm.trans isTemplate
        have exchanged : IsBuiltFrom (some other) members catalog reserved settings (.written other)
            { configuration with template := other } :=
          { isBuilt with
            source_ok := chooseSource_eq_ok_iff.mpr (Or.inl ⟨other, kept visible', notNamed, rfl⟩)
            assembled := by
              rw [assembled]
              rfl }
        refine ⟨?_, exchanged.build_eq⟩
        rw [assembled]
        rfl
      · cases (kept visible).symm.trans notWritten
  | _ => cases built

/-! ## Sections -/

/-- The entries that a document gives for a section, in order; none if it does not give any. -/
def sectionEntries (setting : String) (document : Json) : List (String × Json) :=
  match document with
  | .object members =>
    match lastSpelled setting members with
    | some (.object entries) => entries
    | _ => []
  | _ => []

/-- The entries that end up in a field for a section are those of the document. -/
theorem Settings.Belongs.getD_eq_sectionEntries {setting : String}
    {members : List (String × Json)} {settings : Settings}
    {field : Settings → Option (List (String × Json))}
    (belongs : Settings.Belongs setting Configuration.members field)
    (atFirst : field .unset = none) (settings_ok : Settings.ofMembers members = .ok settings) :
    (field settings).getD [] = sectionEntries setting (.object members) := by
  rw [sectionEntries]
  cases given : lastSpelled setting members with
  | none =>
      rw [belongs.ofMembers_none given settings_ok, atFirst]
      rfl
  | some value =>
      have coerced := belongs.ofMembers_some given settings_ok
      rw [Configuration.members, Except.mapError_eq_ok_iff] at coerced
      cases value with
      | null | object entries =>
          rw [← Except.ok.inj coerced]
          rfl
      | _ => cases coerced

/-- The variables of both sections come from the entries that the document gives for them. -/
theorem hydrate_sectionEntries (built : build template document catalog reserved =
    .ok configuration) :
    hydrate none (sectionEntries "variables" document) = .ok configuration.policyVariables ∧
    hydrate (some reserved) (sectionEntries "policy_template_variables" document) =
      .ok configuration.templateVariables := by
  cases document with
  | object members =>
      obtain ⟨settings, source, isBuilt⟩ := exists_isBuiltFrom built
      rw [← Settings.belongs_policyVariables.getD_eq_sectionEntries rfl isBuilt.settings_ok,
        ← Settings.belongs_templateVariables.getD_eq_sectionEntries rfl isBuilt.settings_ok]
      exact ⟨isBuilt.policyVariables_ok, isBuilt.templateVariables_ok⟩
  | _ => cases built

/-- The policy's own variables have the keys of their section's entries for identifiers. -/
theorem mem_identifiers_policyVariables (built : build template document catalog reserved =
    .ok configuration) (identifier : String) :
    identifier ∈ Variable.identifiers configuration.policyVariables ↔
      identifier ∈ Members.keys (sectionEntries "variables" document) := by
  rw [mem_identifiers_hydrateInto (hydrate_sectionEntries built).1]
  exact or_iff_right List.not_mem_nil

theorem policyVariables_eq_nil_iff (built : build template document catalog reserved =
    .ok configuration) :
    configuration.policyVariables = [] ↔ sectionEntries "variables" document = [] := by
  calc configuration.policyVariables = []
    _ ↔ Variable.identifiers configuration.policyVariables = [] := List.map_eq_nil_iff.symm
    _ ↔ Members.keys (sectionEntries "variables" document) = [] := by
      simp only [List.eq_nil_iff_forall_not_mem, mem_identifiers_policyVariables built]
    _ ↔ sectionEntries "variables" document = [] := List.map_eq_nil_iff

/-! ## Coercions of values that are not void -/

theorem exists_text_of_not_void {value : Json} {coerced : Option String}
    (notVoid : value.isVoid = false) (h : text value = .ok coerced) :
    ∃ given, coerced = some given ∧ given ≠ "" := by
  cases value with
  | null => cases notVoid
  | bool b =>
      cases h
      refine ⟨_, rfl, ?_⟩
      cases b <;> decide
  | number n =>
      cases h
      refine ⟨_, rfl, ?_⟩
      intro empty
      rw [Json.compact, Json.compactChars, String.ofList_eq_empty_iff] at empty
      exact Json.numberChars_ne_nil n empty
  | string s =>
      cases h
      refine ⟨s, rfl, ?_⟩
      rintro rfl
      cases notVoid
  | array items => cases h
  | object members => cases h

theorem exists_members_of_not_void {value : Json} {coerced : Option (List (String × Json))}
    (notVoid : value.isVoid = false) (h : members value = .ok coerced) :
    ∃ given, coerced = some given ∧ given ≠ [] := by
  rw [members, Except.mapError_eq_ok_iff] at h
  cases value with
  | null => cases notVoid
  | object given =>
      cases h
      refine ⟨given, rfl, ?_⟩
      rintro rfl
      cases notVoid
  | _ => cases h

/-! ## What a built configuration guarantees -/

namespace IsBuiltFrom

variable {members : List (String × Json)} {settings : Settings} {source : Source}

theorem includeIdentifier (built : IsBuiltFrom template members catalog reserved settings source
    configuration) (wrapped : configuration.wrapWithPolicy = true) :
    configuration.includeIdentifier = true := by
  rw [built.assembled] at wrapped ⊢
  exact includeIdentifier_of_wrapWithPolicy wrapped

theorem givenBranch (built : IsBuiltFrom template members catalog reserved settings source
    configuration) : configuration.givenBranch = settings.defaultPolicyBranch := by
  rw [built.assembled]
  rfl

/-- Without a branch the caller is asked for one. -/
theorem includePolicyBranch_of_none (built : IsBuiltFrom template members catalog reserved settings
    source configuration) (absent : lastSpelled "default_policy_branch" members = none) :
    configuration.includePolicyBranch = true ∧
      configuration.policyBranch = branchPlaceholder := by
  have unset := Settings.belongs_defaultPolicyBranch.ofMembers_none absent built.settings_ok
  rw [includePolicyBranch, policyBranch, defaultBranch?, built.givenBranch, unset]
  exact ⟨rfl, rfl⟩

/-- With a branch the caller is not asked. -/
theorem includePolicyBranch_of_some (built : IsBuiltFrom template members catalog reserved settings
    source configuration) {value : Json}
    (given : lastSpelled "default_policy_branch" members = some value)
    (notVoid : value.isVoid = false) :
    text value = .ok (some configuration.policyBranch) ∧ configuration.policyBranch ≠ "" ∧
      configuration.includePolicyBranch = false := by
  have coerced := Settings.belongs_defaultPolicyBranch.ofMembers_some given built.settings_ok
  obtain ⟨branch, isBranch, nonempty⟩ := exists_text_of_not_void notVoid coerced
  have default : configuration.defaultBranch? = some branch := by
    rw [defaultBranch?, built.givenBranch, isBranch]
    simp [nonempty]
  rw [includePolicyBranch, policyBranch, default]
  exact ⟨coerced.trans (congrArg _ isBranch), nonempty, rfl⟩

theorem policyVariables_of_none (built : IsBuiltFrom template members catalog reserved settings
    source configuration) (absent : lastSpelled "variables" members = none) :
    configuration.policyVariables = [] := by
  have unset := Settings.belongs_policyVariables.ofMembers_none absent built.settings_ok
  have hydrated := built.policyVariables_ok
  rw [unset] at hydrated
  exact hydrate_none_none hydrated

theorem policyVariables_of_some (built : IsBuiltFrom template members catalog reserved settings
    source configuration) {value : Json} (given : lastSpelled "variables" members = some value)
    (notVoid : value.isVoid = false) : configuration.policyVariables ≠ [] := by
  have coerced := Settings.belongs_policyVariables.ofMembers_some given built.settings_ok
  obtain ⟨entries, isEntries, nonempty⟩ := exists_members_of_not_void notVoid coerced
  have hydrated := built.policyVariables_ok
  rw [isEntries] at hydrated
  exact hydrate_none_ne_nil nonempty hydrated

end IsBuiltFrom

theorem includeIdentifier_of_build (built : build template document catalog reserved =
    .ok configuration) (wrapped : configuration.wrapWithPolicy = true) :
    configuration.includeIdentifier = true := by
  cases document with
  | object members =>
      obtain ⟨settings, source, isBuilt⟩ := exists_isBuiltFrom built
      exact isBuilt.includeIdentifier wrapped
  | _ => cases built

end Configuration

/-! ## Requests -/

/-- The value that a request gives for a setting: the last one that is not void. -/
def Request.given? (request : Request) (setting : String) : Option Json :=
  match request.configuration with
  | .object members =>
    Configuration.lastSpelled setting (members.filter fun (_, value) => !value.isVoid)
  | _ => none

namespace Compiler

variable {compiler : Compiler} {request : Request} {configuration : Configuration}

theorem lastSpelled_eq_given? {members : List (String × Json)}
    (readable : configurationMembers request.configuration = .ok members) (setting : String) :
    Configuration.lastSpelled setting members = request.given? setting := by
  rw [Request.given?]
  unfold configurationMembers at readable
  split at readable <;> cases readable
  · simp only [*]
  · simp only [*]
    rfl

/-- A configuration that was built comes from settings which are given by the request, save for the
title. -/
theorem exists_isBuiltFrom_of_configure (h : compiler.configure request = .ok configuration) :
    ∃ members settings source,
      Configuration.IsBuiltFrom request.policyTemplate members compiler.catalog compiler.reserved
        settings source configuration ∧
      ∀ setting, setting ≠ "title" →
        Configuration.lastSpelled setting members = request.given? setting := by
  obtain ⟨given, readable, built⟩ := Except.bind_eq_ok_iff.mp h
  obtain ⟨settings, source, isBuilt⟩ := Configuration.exists_isBuiltFrom built
  refine ⟨withTitle request.name given, settings, source, isBuilt, fun setting notTitle => ?_⟩
  have untitled : Configuration.lastSpelled setting (withTitle request.name given) =
      Configuration.lastSpelled setting given := by
    unfold withTitle
    split
    · rfl
    · exact Configuration.lastSpelled_concat_of_ne (Ne.symm notTitle)
  exact untitled.trans (lastSpelled_eq_given? readable setting)

theorem not_void_of_given? {setting : String} {value : Json}
    (h : request.given? setting = some value) : value.isVoid = false := by
  unfold Request.given? at h
  split at h
  · obtain ⟨key, inMembers, -⟩ := Configuration.mem_of_lastSpelled h
    simpa using (List.mem_filter.mp inMembers).2
  · cases h

/-- A compiled bundle is that of the request's configuration. -/
theorem exists_bundleOf {compiled : Compiled} (h : compiler.compile request = .ok compiled) :
    ∃ configuration, compiler.configure request = .ok configuration ∧
      compiled.bundle = bundleOf request.version configuration := by
  obtain ⟨configuration, configured, h⟩ := Except.bind_eq_ok_iff.mp h
  cases h
  exact ⟨configuration, configured, rfl⟩

end Compiler

end FactoryBundler
