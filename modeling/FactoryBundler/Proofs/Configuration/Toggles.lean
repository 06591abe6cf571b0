import FactoryBundler.Proofs.Configuration.Verdict

/-!
# On-off settings

Four settings are on or off. Two of them may be overridden: a policy type calls for a wrapping
policy, and a wrapping policy calls for the identifier. An explicit value that is overridden is
warned about, once, and no other value is, however many of the rules apply to it.
-/

namespace FactoryBundler.Configuration

/-- The settings that are on or off. -/
inductive Toggle where
  | variablesGroup
  | wrapping
  | identifier
  | annotations
deriving Repr, DecidableEq

namespace Toggle

/-- The key of a setting. -/
def key : Toggle → String
  | variablesGroup => "with_variables_group"
  | wrapping => "wrap_with_policy"
  | identifier => "include_identifier"
  | annotations => "include_annotations"

/-- The value that settings hold, before anything is concluded from it. -/
def held : Toggle → Settings → Option Bool
  | variablesGroup => Settings.withVariablesGroup
  | wrapping => Settings.wrapWithPolicy
  | identifier => Settings.includeIdentifier
  | annotations => Settings.includeAnnotations

/-- The value that a configuration ends up with. -/
def final : Toggle → Configuration → Bool
  | variablesGroup => Configuration.withVariablesGroup
  | wrapping => Configuration.wrapWithPolicy
  | identifier => Configuration.includeIdentifier
  | annotations => Configuration.includeAnnotations

/-- The value that a document gives explicitly: that of the last spelling of the key, unless it is
null. -/
def given (toggle : Toggle) (document : Json) : Option Bool :=
  match document with
  | .object members =>
    (lastSpelled toggle.key members).bind fun value => (boolean value).toOption.join
  | _ => none

theorem belongs (toggle : Toggle) : Settings.Belongs toggle.key boolean toggle.held where
  own h := by
    cases toggle <;> cases Settings.isSet_of_set h
    all_goals first | assumption | contradiction
  others different h := by
    cases toggle <;> cases Settings.isSet_of_set h
    all_goals first | rfl | contradiction

/-- Settings hold what the document gives. -/
theorem held_eq_given (toggle : Toggle) {members : List (String × Json)} {settings : Settings}
    (read : Settings.ofMembers members = .ok settings) :
    toggle.held settings = toggle.given (.object members) := by
  rw [given]
  cases spelled : lastSpelled toggle.key members with
  | none =>
      rw [toggle.belongs.ofMembers_none spelled read]
      cases toggle <;> rfl
  | some value =>
      have coerced := toggle.belongs.ofMembers_some spelled read
      rw [Option.bind_some, coerced]
      rfl

end Toggle

variable {template : Option String} {document : Json} {catalog : Catalog}
  {reserved : ReservedVariables} {configuration : Configuration} {toggle : Toggle}

/-! ## What calls for a wrapping policy -/

/-- The document gives a policy type. -/
def UsesPolicyType (document : Json) : Prop :=
  ∃ name, NamesPolicyType document name

/-- The document calls for a wrapping policy apart from a policy type: outright, or by its variables
if it does not say. -/
def CallsForWrapping (document : Json) : Prop :=
  Toggle.wrapping.given document = some true ∨
    Toggle.wrapping.given document = none ∧ sectionEntries "variables" document ≠ []

/-- The name of the policy type that the document gives. -/
def namedPolicyType? (document : Json) : Option String :=
  match document with
  | .object members =>
    (((lastSpelled "policy_type" members).bind fun value => (text value).toOption.join).map
      PolicyType.name).filter fun name => !name.isEmpty
  | _ => none

theorem namedPolicyType?_eq_some_iff {name : String} :
    namedPolicyType? document = some name ↔ NamesPolicyType document name := by
  cases document with
  | object members =>
      have nonempty : (!name.isEmpty) = true ↔ name ≠ "" := by simp
      have spells (value : Json) (spelling : String) :
          (text value).toOption.join = some spelling ↔ text value = .ok (some spelling) := by
        cases text value <;> simp [Except.toOption]
      simp only [namedPolicyType?, NamesPolicyType, Option.filter_eq_some_iff,
        Option.map_eq_some_iff, Option.bind_eq_some_iff, nonempty, spells]
      constructor
      · rintro ⟨⟨spelling, ⟨value, given, isSpelling⟩, named⟩, nonempty⟩
        exact ⟨members, value, spelling, rfl, given, isSpelling, named, nonempty⟩
      · rintro ⟨_, value, spelling, isObject, given, isSpelling, named, nonempty⟩
        cases isObject
        exact ⟨⟨spelling, ⟨value, given, isSpelling⟩, named⟩, nonempty⟩
  | _ =>
      constructor
      · intro named
        cases named
      · rintro ⟨members, -, -, isObject, -⟩
        cases isObject

theorem callsForWrapping_iff : CallsForWrapping document ↔
    (Toggle.wrapping.given document).getD (sectionEntries "variables" document ≠ []) = true := by
  rw [CallsForWrapping]
  cases Toggle.wrapping.given document <;> simp

instance : DecidablePred UsesPolicyType := fun document =>
  decidable_of_iff ((namedPolicyType? document).isSome = true) (by
    rw [Option.isSome_iff_exists, UsesPolicyType]
    exact exists_congr fun name => namedPolicyType?_eq_some_iff)

instance : DecidablePred CallsForWrapping := fun document =>
  inferInstanceAs (Decidable (Toggle.wrapping.given document = some true ∨
    Toggle.wrapping.given document = none ∧ sectionEntries "variables" document ≠ []))

/-! ## Settling -/

/-- Whether a source is the body of a policy type. -/
def Source.isCanned : Source → Bool
  | .written _ => false
  | .canned _ => true

section

variable (settings : Settings) (hasVariables : Bool) (source : Source)

theorem withVariablesGroup_settle :
    (settle settings hasVariables source).withVariablesGroup =
      (Toggle.variablesGroup.held settings).getD hasVariables := by
  cases source <;> rfl

theorem wrapWithPolicy_settle :
    (settle settings hasVariables source).wrapWithPolicy =
      (source.isCanned || (Toggle.wrapping.held settings).getD hasVariables) := by
  cases source <;> rfl

theorem includeIdentifier_settle :
    (settle settings hasVariables source).includeIdentifier =
      ((Toggle.identifier.held settings).getD true ||
        (settle settings hasVariables source).wrapWithPolicy) := by
  cases source with
  | written template => rfl
  | canned body => exact (Bool.or_true _).symm

theorem includeAnnotations_settle :
    (settle settings hasVariables source).includeAnnotations =
      (Toggle.annotations.held settings).getD true := by
  cases source <;> rfl

/-- The identifier is warned about by one rule at most: if the policy is wrapped before the policy
type is looked at, the identifier is there by then. The other setting is warned about only if it is
not, so that its warning comes first. -/
theorem warnings_settle :
    (settle settings hasVariables source).warnings =
      warnIf (source.isCanned = true ∧ Toggle.wrapping.held settings = some false)
        "wrap_with_policy" .policyType ++
      warnIf (Toggle.identifier.held settings = some false ∧
          (settle settings hasVariables source).wrapWithPolicy = true)
        "include_identifier"
        (if (Toggle.wrapping.held settings).getD hasVariables = true then .wrappedPolicy
          else .policyType) := by
  have off (value : Option Bool) : (!value.getD true) = decide (value = some false) := by
    cases value with
    | none => rfl
    | some value => cases value <;> rfl
  cases source with
  | written template =>
      simp only [settle, Source.isCanned, Toggle.held, off]
      by_cases wrapped : settings.wrapWithPolicy.getD hasVariables = true
      · simp [warnIf, wrapped]
      · simp [warnIf, wrapped]
  | canned body =>
      simp only [settle, Source.isCanned, Toggle.held, Bool.not_or, off]
      by_cases wrapped : settings.wrapWithPolicy.getD hasVariables = true
      · -- The policy was wrapped already, so the settings do not say otherwise.
        have notFalse : settings.wrapWithPolicy ≠ some false := by
          intro isFalse
          rw [isFalse] at wrapped
          cases wrapped
        simp [warnIf, wrapped, notFalse]
      · simp [warnIf, wrapped]

end

theorem mem_map_setting_warnIf {condition : Bool} {setting other : String}
    {reason : Warning.Reason} :
    other ∈ (warnIf condition setting reason).map Warning.setting ↔
      condition = true ∧ other = setting := by
  cases condition <;> simp [warnIf]

/-! ## Settings of a document -/

/-- The configuration has the values that the on-off settings of the document come to, and its
warnings are the ones that are due. -/
structure IsSettled (document : Json) (configuration : Configuration) : Prop where
  group_eq : configuration.withVariablesGroup =
    (Toggle.variablesGroup.given document).getD (sectionEntries "variables" document ≠ [])
  wrapping_iff : configuration.wrapWithPolicy = true ↔
    UsesPolicyType document ∨ CallsForWrapping document
  identifier_eq : configuration.includeIdentifier =
    ((Toggle.identifier.given document).getD true || configuration.wrapWithPolicy)
  annotations_eq : configuration.includeAnnotations =
    (Toggle.annotations.given document).getD true
  warnings_eq : configuration.warnings =
    warnIf (UsesPolicyType document ∧ Toggle.wrapping.given document = some false)
      "wrap_with_policy" .policyType ++
    warnIf (Toggle.identifier.given document = some false ∧ configuration.wrapWithPolicy = true)
      "include_identifier"
      (if CallsForWrapping document then .wrappedPolicy else .policyType)

/-- The on-off settings of a configuration, with its warnings. -/
def toggles (configuration : Configuration) : Toggles where
  withVariablesGroup := configuration.withVariablesGroup
  wrapWithPolicy := configuration.wrapWithPolicy
  includeIdentifier := configuration.includeIdentifier
  includeAnnotations := configuration.includeAnnotations
  warnings := configuration.warnings

theorem toggles_eq_settle {members : List (String × Json)} {settings : Settings} {source : Source}
    (built : IsBuiltFrom template members catalog reserved settings source configuration) :
    configuration.toggles =
      settle settings (!configuration.policyVariables.isEmpty) source :=
  congrArg toggles built.assembled

theorem isCanned_iff_usesPolicyType {members : List (String × Json)} {settings : Settings}
    {source : Source}
    (built : IsBuiltFrom template members catalog reserved settings source configuration) :
    source.isCanned = true ↔ UsesPolicyType (.object members) := by
  have named_iff (name : String) : _ ↔ NamesPolicyType (.object members) name :=
    namesPolicyType_iff built.settings_ok
  rcases chooseSource_eq_ok_iff.mp built.source_ok with
    ⟨written, -, notNamed, rfl⟩ | ⟨name, body, -, named, -, rfl⟩
  · refine iff_of_false Bool.false_ne_true ?_
    rintro ⟨name, named⟩
    cases notNamed.symm.trans ((named_iff name).mpr named)
  · exact iff_of_true rfl ⟨name, (named_iff name).mp named⟩

theorem isSettled_of_build (built : build template document catalog reserved = .ok configuration) :
    IsSettled document configuration := by
  cases document with
  | object members =>
      obtain ⟨settings, source, isBuilt⟩ := exists_isBuiltFrom built
      have toggles_eq := toggles_eq_settle isBuilt
      have typed_iff := isCanned_iff_usesPolicyType isBuilt
      have given (toggle : Toggle) := toggle.held_eq_given isBuilt.settings_ok
      have hasVariables : (!configuration.policyVariables.isEmpty) =
          decide (sectionEntries "variables" (.object members) ≠ []) := by
        rw [Bool.eq_iff_iff, decide_eq_true_iff, ne_eq, ← policyVariables_eq_nil_iff built]
        simp
      rw [hasVariables] at toggles_eq
      exact {
        group_eq := by
          have settled := congrArg Toggles.withVariablesGroup toggles_eq
          rwa [withVariablesGroup_settle, given] at settled
        wrapping_iff := by
          have settled := congrArg Toggles.wrapWithPolicy toggles_eq
          rw [wrapWithPolicy_settle, given, Bool.eq_iff_iff, Bool.or_eq_true, typed_iff,
            ← callsForWrapping_iff] at settled
          exact settled
        identifier_eq := by
          have settled := congrArg Toggles.includeIdentifier toggles_eq
          rwa [includeIdentifier_settle, given, ← toggles_eq] at settled
        annotations_eq := by
          have settled := congrArg Toggles.includeAnnotations toggles_eq
          rwa [includeAnnotations_settle, given] at settled
        warnings_eq := by
          have settled := congrArg Toggles.warnings toggles_eq
          rw [warnings_settle, given, given, ← toggles_eq] at settled
          simp only [typed_iff, ← callsForWrapping_iff] at settled
          exact settled }
  | _ => cases built

/-! ## Overridden settings -/

/-- The value that a document gives explicitly does not count. -/
def Toggle.IsOverridden (toggle : Toggle) (document : Json) (configuration : Configuration) :
    Prop :=
  toggle.given document = some (!toggle.final configuration)

theorem ne_some_not_getD (value : Option Bool) (default : Bool) :
    value ≠ some (!value.getD default) := by
  cases value <;> simp

namespace IsSettled

theorem not_isOverridden_variablesGroup (settled : IsSettled document configuration) :
    ¬ Toggle.variablesGroup.IsOverridden document configuration := by
  rw [Toggle.IsOverridden, Toggle.final, settled.group_eq]
  exact ne_some_not_getD _ _

theorem not_isOverridden_annotations (settled : IsSettled document configuration) :
    ¬ Toggle.annotations.IsOverridden document configuration := by
  rw [Toggle.IsOverridden, Toggle.final, settled.annotations_eq]
  exact ne_some_not_getD _ _

theorem isOverridden_wrapping_iff (settled : IsSettled document configuration) :
    Toggle.wrapping.IsOverridden document configuration ↔
      UsesPolicyType document ∧ Toggle.wrapping.given document = some false := by
  have wraps := settled.wrapping_iff
  rw [Toggle.IsOverridden, Toggle.final]
  rw [CallsForWrapping] at wraps
  -- An explicit `true` calls for wrapping by itself, so only an explicit `false` can lose.
  cases given : Toggle.wrapping.given document with
  | none => simp
  | some value => cases value <;> simp_all

theorem isOverridden_identifier_iff (settled : IsSettled document configuration) :
    Toggle.identifier.IsOverridden document configuration ↔
      Toggle.identifier.given document = some false ∧ configuration.wrapWithPolicy = true := by
  rw [Toggle.IsOverridden, Toggle.final, settled.identifier_eq]
  cases Toggle.identifier.given document with
  | none => simp
  | some value => cases value <;> simp

/-- A setting is warned about exactly if its explicit value does not count. -/
theorem mem_warnings_iff_isOverridden (settled : IsSettled document configuration)
    (toggle : Toggle) : toggle.key ∈ configuration.warnings.map Warning.setting ↔
      toggle.IsOverridden document configuration := by
  rw [settled.warnings_eq, List.map_append, List.mem_append, mem_map_setting_warnIf,
    mem_map_setting_warnIf, decide_eq_true_iff, decide_eq_true_iff,
    ← settled.isOverridden_wrapping_iff, ← settled.isOverridden_identifier_iff]
  cases toggle with
  | variablesGroup => simp [Toggle.key, settled.not_isOverridden_variablesGroup]
  | wrapping => simp [Toggle.key]
  | identifier => simp [Toggle.key]
  | annotations => simp [Toggle.key, settled.not_isOverridden_annotations]

theorem nodup_warnings (settled : IsSettled document configuration) :
    (configuration.warnings.map Warning.setting).Nodup := by
  rw [settled.warnings_eq, List.map_append, warnIf, warnIf]
  split <;> split <;> simp

end IsSettled

/-- The on-off settings of a document are settled, and of the explicit values those that do not
count are reported, each of them once. -/
structure IsReconciled (document : Json) (configuration : Configuration) : Prop
    extends IsSettled document configuration where
  identifier_of_wrapping : configuration.wrapWithPolicy = true →
    configuration.includeIdentifier = true
  kept : ∀ toggle ∈ [Toggle.variablesGroup, .annotations], ∀ value,
    toggle.given document = some value → toggle.final configuration = value
  warned_iff : ∀ toggle : Toggle, toggle.key ∈ configuration.warnings.map Warning.setting ↔
    toggle.IsOverridden document configuration
  once : (configuration.warnings.map Warning.setting).Nodup

/-- The on-off settings of every configuration that is accepted are reconciled. -/
theorem isReconciled_of_build
    (built : build template document catalog reserved = .ok configuration) :
    IsReconciled document configuration := by
  have settled := isSettled_of_build built
  exact {
    settled with
    identifier_of_wrapping := includeIdentifier_of_build built
    kept := by
      intro toggle isKept value given
      rcases List.mem_pair.mp isKept with rfl | rfl
      · rw [Toggle.final, settled.group_eq, given, Option.getD_some]
      · rw [Toggle.final, settled.annotations_eq, given, Option.getD_some]
    warned_iff := settled.mem_warnings_iff_isOverridden
    once := settled.nodup_warnings }

/-- Settings with a policy type and two explicit values that do not count beside it. -/
def overruled : Json :=
  .object [("policy-type", .string "host-set"), ("wrap_with_policy", .string " False"),
    ("include-identifier", .bool false), ("with_variables_group", .bool true)]

theorem isReconciled_of_build_overruled :
    ∃ configuration, build none overruled (Catalog.empty.register "HostSet" "- !host") .standard =
        .ok configuration ∧
      configuration.wrapWithPolicy = true ∧ configuration.includeIdentifier = true ∧
      configuration.withVariablesGroup = true ∧
      configuration.warnings.map Warning.message =
        ["When 'policy-type' is defined, the 'wrap-with-policy' setting is ignored.",
          "When 'policy-type' is defined, the 'include-identifier' setting is ignored."] := by
  obtain ⟨configuration, built⟩ : ∃ configuration, build none overruled
      (Catalog.empty.register "HostSet" "- !host") .standard = .ok configuration := ⟨_, rfl⟩
  have reconciled := isReconciled_of_build built
  have wrapped : configuration.wrapWithPolicy = true :=
    reconciled.wrapping_iff.mpr (Or.inl (by decide))
  have grouped : configuration.withVariablesGroup = true :=
    reconciled.kept .variablesGroup (by decide) true (by decide)
  have warnings := reconciled.warnings_eq
  rw [wrapped] at warnings
  refine ⟨configuration, built, wrapped, reconciled.identifier_of_wrapping wrapped, grouped, ?_⟩
  rw [warnings]
  decide

example : (build (some "- !host")
    (.object [("variables", .object [("url", .null)]), ("include_identifier", .bool false)])
    .empty .standard).map (fun configuration => configuration.warnings.map Warning.message) =
      .ok ["When 'wrap-with-policy' is true, 'include-identifier' is ignored."] := by
  rfl

end FactoryBundler.Configuration
