import FactoryBundler.Proofs.Configuration.Admission
import FactoryBundler.Proofs.PolicyType.Catalog

/-!
# What becomes of a configuration

A document is checked in order: its settings, then the entries of both sections, then where the
policy comes from. The first check that fails decides which error there is, and if none does the
configuration is built. The checks are said in terms of the document alone. A policy type is looked
up by the name of its name, which is its name wherever names are settled.
-/

namespace FactoryBundler.Configuration

/-- What becomes of a configuration: one of the errors with what it names, or the template. -/
inductive Verdict where
  | invalidConfiguration
  | invalidSetting (setting : String)
  | configurationConflict
  | missingTemplate
  | unknownPolicyType (name : String)
  | accepted (template : String)
deriving Repr, DecidableEq

/-- The verdict that an error stands for. -/
def Verdict.ofError : CompileError → Verdict
  | .invalidConfiguration _ => .invalidConfiguration
  | .invalidSetting area identifier _ => .invalidSetting (CompileError.settingName area identifier)
  | .configurationConflict => .configurationConflict
  | .missingTemplate => .missingTemplate
  | .unknownPolicyType name => .unknownPolicyType name

/-- The verdict of a computation. -/
def verdict : Except CompileError Configuration → Verdict
  | .error fault => .ofError fault
  | .ok configuration => .accepted configuration.template

/-! ## The checks -/

/-- The document is an object of known settings, and of all spellings of a key the last value is one
that the setting admits. -/
def IsAdmitted (document : Json) : Prop :=
  ∃ members, document = .object members ∧
    ∀ key value, lastSpelled key members = some value → Settings.Admits key value

/-- All entries of a section are admitted. -/
def IsHydratable (setting : String) (document : Json) : Prop :=
  ∀ entry ∈ sectionEntries setting document, IsEntry entry.2

/-- The document has no fault of its own. -/
structure IsSound (document : Json) : Prop where
  admitted : IsAdmitted document
  policyVariables : IsHydratable "variables" document
  templateVariables : IsHydratable "policy_template_variables" document

/-- The template is there and is not blank. -/
def IsWritten (template : Option String) (written : String) : Prop :=
  template = some written ∧ Text.isBlank written = false

/-- The document gives a policy type of this name, which is not empty. -/
def NamesPolicyType (document : Json) (name : String) : Prop :=
  ∃ members value spelling, document = .object members ∧
    lastSpelled "policy_type" members = some value ∧ text value = .ok (some spelling) ∧
    PolicyType.name spelling = name ∧ name ≠ ""

/-- The verdict of the checks in order, when `body?` tells which body is held under a name. -/
inductive Reaches (body? : String → Option String) (template : Option String) (document : Json) :
    Verdict → Prop
  | invalidConfiguration (fault : ¬ IsAdmitted document) :
      Reaches body? template document .invalidConfiguration
  | invalidVariable {identifier : String} (admitted : IsAdmitted document)
      (fault : FirstFault (sectionEntries "variables" document) identifier) :
      Reaches body? template document (.invalidSetting ("variables." ++ identifier))
  | invalidTemplateVariable {identifier : String} (admitted : IsAdmitted document)
      (fine : IsHydratable "variables" document)
      (fault : FirstFault (sectionEntries "policy_template_variables" document) identifier) :
      Reaches body? template document (.invalidSetting ("policy_template_variables." ++ identifier))
  | configurationConflict {written name : String} (sound : IsSound document)
      (isWritten : IsWritten template written) (named : NamesPolicyType document name) :
      Reaches body? template document .configurationConflict
  | missingTemplate (sound : IsSound document)
      (notWritten : ∀ written, ¬ IsWritten template written)
      (notNamed : ∀ name, ¬ NamesPolicyType document name) :
      Reaches body? template document .missingTemplate
  | unknownPolicyType {name : String} (sound : IsSound document)
      (notWritten : ∀ written, ¬ IsWritten template written)
      (named : NamesPolicyType document name) (notHeld : body? name = none) :
      Reaches body? template document (.unknownPolicyType name)
  | held {name body : String} (sound : IsSound document)
      (notWritten : ∀ written, ¬ IsWritten template written)
      (named : NamesPolicyType document name) (isHeld : body? name = some body) :
      Reaches body? template document (.accepted body)
  | written {written : String} (sound : IsSound document) (isWritten : IsWritten template written)
      (notNamed : ∀ name, ¬ NamesPolicyType document name) :
      Reaches body? template document (.accepted written)

variable {template : Option String} {document : Json} {catalog : Catalog}
  {reserved : ReservedVariables} {identifier : String}

/-! ## Check by check -/

theorem verdict_build_of_not_admitted (fault : ¬ IsAdmitted document) :
    verdict (build template document catalog reserved) = .invalidConfiguration := by
  cases document with
  | object members =>
    cases read : Settings.ofMembers members with
    | error failure =>
        rw [build_object, read]
        rfl
    | ok settings =>
        exact absurd ⟨members, rfl, Settings.exists_ofMembers_iff.mp ⟨settings, read⟩⟩ fault
  | _ => rfl

/-- An admitted document has settings, which decide the verdict with the entries of the sections. -/
theorem IsAdmitted.exists_settings (admitted : IsAdmitted document) :
    ∃ members settings, document = .object members ∧ Settings.ofMembers members = .ok settings ∧
      (∀ template catalog reserved, build template document catalog reserved =
        ofSettings template catalog reserved settings) ∧
      settings.policyVariables.getD [] = sectionEntries "variables" document ∧
      settings.templateVariables.getD [] = sectionEntries "policy_template_variables" document := by
  obtain ⟨members, rfl, admits⟩ := admitted
  obtain ⟨settings, read⟩ := Settings.exists_ofMembers_iff.mpr admits
  refine ⟨members, settings, rfl, read, fun template catalog reserved => ?_,
    Settings.belongs_policyVariables.getD_eq_sectionEntries rfl read,
    Settings.belongs_templateVariables.getD_eq_sectionEntries rfl read⟩
  rw [build_object, read]
  rfl

theorem verdict_build_of_variable (admitted : IsAdmitted document)
    (fault : FirstFault (sectionEntries "variables" document) identifier) :
    verdict (build template document catalog reserved) =
      .invalidSetting ("variables." ++ identifier) := by
  obtain ⟨members, settings, rfl, -, build_eq, policyEntries, -⟩ := admitted.exists_settings
  rw [← policyEntries] at fault
  obtain ⟨fault, failed⟩ :
      ∃ fault, hydrate none settings.policyVariables = .error (identifier, fault) :=
    exists_hydrate_error_iff.mpr fault
  rw [build_eq, ofSettings, failed]
  rfl

theorem verdict_build_of_templateVariable (admitted : IsAdmitted document)
    (fine : IsHydratable "variables" document)
    (fault : FirstFault (sectionEntries "policy_template_variables" document) identifier) :
    verdict (build template document catalog reserved) =
      .invalidSetting ("policy_template_variables." ++ identifier) := by
  obtain ⟨members, settings, rfl, -, build_eq, policyEntries, templateEntries⟩ :=
    admitted.exists_settings
  rw [IsHydratable, ← policyEntries] at fine
  rw [← templateEntries] at fault
  obtain ⟨policyVariables, hydrated⟩ :
      ∃ hydrated, hydrate none settings.policyVariables = .ok hydrated :=
    exists_hydrate_iff.mpr fine
  obtain ⟨fault, failed⟩ :
      ∃ fault, hydrate (some reserved) settings.templateVariables = .error (identifier, fault) :=
    exists_hydrate_error_iff.mpr fault
  rw [build_eq, ofSettings, hydrated, failed]
  rfl

/-- The verdict of the choice between a template that is not blank and a policy type that has a
name. -/
def choose (body? : String → Option String) : Option String → Option String → Verdict
  | some _, some _ => .configurationConflict
  | none, none => .missingTemplate
  | some written, none => .accepted written
  | none, some name =>
    match body? name with
    | some body => .accepted body
    | none => .unknownPolicyType name

theorem verdict_of_chooseSource {policyType : Option String} (settings : Settings)
    (policyVariables templateVariables : List Variable) :
    verdict (do
        let source ← chooseSource template policyType catalog
        return assemble settings policyVariables templateVariables source) =
      choose catalog.get? (template.filter fun text => !Text.isBlank text)
        ((policyType.map PolicyType.name).filter fun name => !name.isEmpty) := by
  rw [chooseSource]
  generalize template.filter _ = written?
  generalize (policyType.map PolicyType.name).filter _ = name?
  cases written? with
  | none =>
      cases name? with
      | none => rfl
      | some name =>
          simp only [choose]
          cases catalog.get? name <;> rfl
  | some written => cases name? <;> rfl

theorem filter_eq_some_iff_isWritten {written : String} :
    template.filter (fun text => !Text.isBlank text) = some written ↔
      IsWritten template written := by
  rw [Option.filter_eq_some_iff, IsWritten, Bool.not_eq_true']

theorem namesPolicyType_iff {members : List (String × Json)} {settings : Settings} {name : String}
    (read : Settings.ofMembers members = .ok settings) :
    (settings.policyType.map PolicyType.name).filter (fun name => !name.isEmpty) = some name ↔
      NamesPolicyType (.object members) name := by
  rw [Option.filter_eq_some_iff, Option.map_eq_some_iff]
  have nonempty : (!name.isEmpty) = true ↔ name ≠ "" := by simp
  rw [nonempty]
  constructor
  · rintro ⟨⟨spelling, isSpelling, named⟩, nonempty⟩
    cases given : lastSpelled "policy_type" members with
    | none =>
        rw [Settings.belongs_policyType.ofMembers_none given read] at isSpelling
        cases isSpelling
    | some value =>
        have coerced := Settings.belongs_policyType.ofMembers_some given read
        rw [isSpelling] at coerced
        exact ⟨members, value, spelling, rfl, given, coerced, named, nonempty⟩
  · rintro ⟨_, value, spelling, isObject, given, isSpelling, named, nonempty⟩
    cases isObject
    have coerced := Settings.belongs_policyType.ofMembers_some given read
    rw [isSpelling] at coerced
    exact ⟨⟨spelling, (Except.ok.inj coerced).symm, named⟩, nonempty⟩

/-- Without another fault, the verdict is that of the choice between what is written and what is
named. -/
theorem verdict_build_of_sound (template : Option String) (catalog : Catalog)
    (reserved : ReservedVariables) (sound : IsSound document) :
    ∃ written? name?,
      (∀ written, written? = some written ↔ IsWritten template written) ∧
      (∀ name, name? = some name ↔ NamesPolicyType document name) ∧
      verdict (build template document catalog reserved) =
        choose catalog.get? written? name? := by
  obtain ⟨members, settings, rfl, read, build_eq, policyEntries, templateEntries⟩ :=
    sound.admitted.exists_settings
  obtain ⟨policyVariables, hydrated⟩ :
      ∃ hydrated, hydrate none settings.policyVariables = .ok hydrated :=
    exists_hydrate_iff.mpr (policyEntries ▸ sound.policyVariables)
  obtain ⟨templateVariables, hydrated'⟩ :
      ∃ hydrated, hydrate (some reserved) settings.templateVariables = .ok hydrated :=
    exists_hydrate_iff.mpr (templateEntries ▸ sound.templateVariables)
  refine ⟨_, _, fun _ => filter_eq_some_iff_isWritten, fun _ => namesPolicyType_iff read, ?_⟩
  rw [build_eq, ofSettings, hydrated, hydrated']
  exact verdict_of_chooseSource settings policyVariables templateVariables

/-! ## All checks -/

theorem eq_none_of_forall_not {α : Type} {p : α → Prop} {chosen : Option α}
    (isChosen : ∀ a, chosen = some a ↔ p a) (nothing : ∀ a, ¬ p a) : chosen = none :=
  Option.eq_none_iff_forall_ne_some.mpr fun a found => nothing a ((isChosen a).mp found)

theorem reaches_choose {body? : String → Option String} (sound : IsSound document)
    {written? name? : Option String}
    (isWritten : ∀ written, written? = some written ↔ IsWritten template written)
    (isNamed : ∀ name, name? = some name ↔ NamesPolicyType document name) :
    Reaches body? template document (choose body? written? name?) := by
  cases written? with
  | some written =>
      have given := (isWritten written).mp rfl
      cases name? with
      | some name => exact .configurationConflict sound given ((isNamed name).mp rfl)
      | none => exact .written sound given fun name named => nomatch (isNamed name).mpr named
  | none =>
      have notWritten : ∀ written, ¬ IsWritten template written :=
        fun written given => nomatch (isWritten written).mpr given
      cases name? with
      | none =>
          exact .missingTemplate sound notWritten fun name named =>
            nomatch (isNamed name).mpr named
      | some name =>
          have named := (isNamed name).mp rfl
          rw [choose]
          split
          · next body isHeld => exact .held sound notWritten named isHeld
          · next notHeld => exact .unknownPolicyType sound notWritten named notHeld

/-- Every document reaches the verdict of its computation. -/
theorem reaches_verdict (template : Option String) (document : Json) (catalog : Catalog)
    (reserved : ReservedVariables) :
    Reaches catalog.get? template document
      (verdict (build template document catalog reserved)) := by
  by_cases admitted : IsAdmitted document
  · by_cases fine : IsHydratable "variables" document
    · by_cases fine' : IsHydratable "policy_template_variables" document
      · have sound : IsSound document := ⟨admitted, fine, fine'⟩
        obtain ⟨written?, name?, isWritten, isNamed, verdict_eq⟩ :=
          verdict_build_of_sound template catalog reserved sound
        exact verdict_eq ▸ reaches_choose sound isWritten isNamed
      · obtain ⟨identifier, fault⟩ := exists_firstFault fine'
        rw [verdict_build_of_templateVariable admitted fine fault]
        exact .invalidTemplateVariable admitted fine fault
    · obtain ⟨identifier, fault⟩ := exists_firstFault fine
      rw [verdict_build_of_variable admitted fault]
      exact .invalidVariable admitted fault
  · rw [verdict_build_of_not_admitted admitted]
    exact .invalidConfiguration admitted

/-- A verdict that is reached is that of the computation. -/
theorem Reaches.verdict_eq {reached : Verdict} (reserved : ReservedVariables)
    (reaches : Reaches catalog.get? template document reached) :
    verdict (build template document catalog reserved) = reached := by
  cases reaches with
  | invalidConfiguration fault => exact verdict_build_of_not_admitted fault
  | invalidVariable admitted fault => exact verdict_build_of_variable admitted fault
  | invalidTemplateVariable admitted fine fault =>
      exact verdict_build_of_templateVariable admitted fine fault
  | configurationConflict sound given named =>
      obtain ⟨written?, name?, isWritten, isNamed, verdict_eq⟩ :=
        verdict_build_of_sound template catalog reserved sound
      rw [verdict_eq, (isWritten _).mpr given, (isNamed _).mpr named]
      rfl
  | missingTemplate sound notWritten notNamed =>
      obtain ⟨written?, name?, isWritten, isNamed, verdict_eq⟩ :=
        verdict_build_of_sound template catalog reserved sound
      rw [verdict_eq, eq_none_of_forall_not isWritten notWritten,
        eq_none_of_forall_not isNamed notNamed]
      rfl
  | unknownPolicyType sound notWritten named notHeld =>
      obtain ⟨written?, name?, isWritten, isNamed, verdict_eq⟩ :=
        verdict_build_of_sound template catalog reserved sound
      rw [verdict_eq, eq_none_of_forall_not isWritten notWritten, (isNamed _).mpr named]
      simp only [choose, notHeld]
  | held sound notWritten named isHeld =>
      obtain ⟨written?, name?, isWritten, isNamed, verdict_eq⟩ :=
        verdict_build_of_sound template catalog reserved sound
      rw [verdict_eq, eq_none_of_forall_not isWritten notWritten, (isNamed _).mpr named]
      simp only [choose, isHeld]
  | written sound given notNamed =>
      obtain ⟨written?, name?, isWritten, isNamed, verdict_eq⟩ :=
        verdict_build_of_sound template catalog reserved sound
      rw [verdict_eq, (isWritten _).mpr given, eq_none_of_forall_not isNamed notNamed]
      rfl

/-- Only what is held under the name that the document gives matters. -/
theorem Reaches.congr {body? body?' : String → Option String} {reached : Verdict}
    (same : ∀ name, NamesPolicyType document name → body? name = body?' name)
    (reaches : Reaches body? template document reached) :
    Reaches body?' template document reached := by
  cases reaches with
  | invalidConfiguration fault => exact .invalidConfiguration fault
  | invalidVariable admitted fault => exact .invalidVariable admitted fault
  | invalidTemplateVariable admitted fine fault =>
      exact .invalidTemplateVariable admitted fine fault
  | configurationConflict sound given named => exact .configurationConflict sound given named
  | missingTemplate sound notWritten notNamed => exact .missingTemplate sound notWritten notNamed
  | unknownPolicyType sound notWritten named notHeld =>
      exact .unknownPolicyType sound notWritten named ((same _ named).symm.trans notHeld)
  | held sound notWritten named isHeld =>
      exact .held sound notWritten named ((same _ named).symm.trans isHeld)
  | written sound given notNamed => exact .written sound given notNamed

/-- What becomes of a configuration is what the checks in order say, if what a catalog holds under a
name is what it finds there; and as long as the name that the document gives is the name of itself,
that is the body that was registered under it. -/
theorem verdict_build_iff (template : Option String) (document : Json) (catalog : Catalog)
    (reserved : ReservedVariables) (reached : Verdict) :
    (verdict (build template document catalog reserved) = reached ↔
      Reaches catalog.get? template document reached) ∧
    ((∀ name, NamesPolicyType document name → PolicyType.name name = name) →
      (verdict (build template document catalog reserved) = reached ↔
        Reaches (fun name => catalog.entries.lookup name) template document reached)) := by
  have found : verdict (build template document catalog reserved) = reached ↔
      Reaches catalog.get? template document reached := by
    refine ⟨fun isVerdict => ?_, Reaches.verdict_eq reserved⟩
    rw [← isVerdict]
    exact reaches_verdict template document catalog reserved
  refine ⟨found, fun settled => found.trans ⟨Reaches.congr ?_, Reaches.congr ?_⟩⟩
  · intro name named
    rw [Catalog.get?, settled name named]
  · intro name named
    rw [Catalog.get?, settled name named]

/-- A configuration with nothing but a policy type. -/
def typed (spelling : String) : Json :=
  .object [("policy_type", .string spelling)]

theorem lastSpelled_typed (setting spelling : String) :
    lastSpelled setting [("policy_type", .string spelling)] =
      if setting = "policy_type" then some (.string spelling) else none := by
  have itself : underscored "policy_type" = "policy_type" := by decide
  rw [lastSpelled_singleton, itself]
  simp only [eq_comm]

theorem isSound_typed (spelling : String) : IsSound (typed spelling) where
  admitted := ⟨_, rfl, Settings.exists_ofMembers_iff.mp ⟨_, rfl⟩⟩
  policyVariables := by simp [IsHydratable, sectionEntries, typed, lastSpelled_typed]
  templateVariables := by simp [IsHydratable, sectionEntries, typed, lastSpelled_typed]

theorem namesPolicyType_typed_iff {spelling name : String} :
    NamesPolicyType (typed spelling) name ↔ PolicyType.name spelling = name ∧ name ≠ "" := by
  constructor
  · rintro ⟨members, value, given, isObject, isLast, isText, named, nonempty⟩
    cases isObject
    rw [lastSpelled_typed, if_pos rfl] at isLast
    cases isLast
    cases isText
    exact ⟨named, nonempty⟩
  · rintro ⟨named, nonempty⟩
    exact ⟨_, .string spelling, spelling, rfl, lastSpelled_typed _ _, rfl, named, nonempty⟩

theorem verdict_build_iff_hostSet :
    (∀ name, NamesPolicyType (typed "HostSet") name → PolicyType.name name = name) ∧
      verdict (build none (typed "HostSet") (Catalog.empty.register "HostSet" "- !host\n")
        .standard) = .accepted "- !host\n" := by
  have settled (name : String) (named : NamesPolicyType (typed "HostSet") name) :
      PolicyType.name name = name := by
    obtain ⟨rfl, -⟩ := namesPolicyType_typed_iff.mp named
    decide +kernel
  have named : NamesPolicyType (typed "HostSet") "host_set" :=
    namesPolicyType_typed_iff.mpr ⟨by decide +kernel, by decide⟩
  refine ⟨settled, ((verdict_build_iff _ _ _ _ _).2 settled).mpr ?_⟩
  exact .held (isSound_typed _) (fun written given => nomatch given.1) named (by decide +kernel)

set_option maxRecDepth 2000 in
/-- A policy type that the catalog holds under the name that the document gives, and that is unknown
all the same: the name of the name is another one. -/
theorem verdict_build_unmapped :
    Reaches (fun name => (Catalog.empty.register "Aℂ" "x").entries.lookup name) none (typed "Aℂ")
        (.accepted "x") ∧
      verdict (build none (typed "Aℂ") (Catalog.empty.register "Aℂ" "x") .standard) =
        .unknownPolicyType "aℂ" := by
  have named : NamesPolicyType (typed "Aℂ") "aℂ" :=
    namesPolicyType_typed_iff.mpr ⟨by decide +kernel, by decide⟩
  refine ⟨.held (isSound_typed _) (fun written given => nomatch given.1) named ?_, by rfl⟩
  decide +kernel

end FactoryBundler.Configuration
