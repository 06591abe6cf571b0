import FactoryBundler.Proofs.Configuration.Build
import FactoryBundler.Proofs.Configuration.Filling
import FactoryBundler.Proofs.Configuration.Spelling

/-!
# Configurations that come out alike

Two configurations come out alike if their settings do, and settings come out alike if the values
are coerced to the same and the entries of both sections give the same attributes. All of it is
stated for computations that agree strictly, with the same faults, and for computations that agree
up to the fault.
-/

namespace FactoryBundler

namespace Configuration

variable {strict : Prop}

/-! ## Entries of a section -/

/-- Entries of one identifier with attributes that come out alike. -/
def SameEntry (strict : Prop) (_identifier : String) (first second : Json) : Prop :=
  Except.Agree strict Eq (attributesOf first) (attributesOf second)

/-- The entries of two sections come out alike, one for one. -/
def SameEntries (strict : Prop) (first second : List (String × Json)) : Prop :=
  Members.Alike (SameEntry strict) first second

theorem SameEntries.refl (entries : List (String × Json)) : SameEntries strict entries entries :=
  List.forall₂_same.mpr fun _ _ => ⟨rfl, .of_eq rfl⟩

theorem hydrateInto_agree {entries entries' : List (String × Json)}
    (same : SameEntries strict entries entries') (reserved : Option ReservedVariables)
    (known : List Variable) :
    Except.Agree strict Eq (hydrateInto reserved known entries)
      (hydrateInto reserved known entries') := by
  induction same generalizing known with
  | nil => exact .of_eq rfl
  | @cons entry entry' more more' here _ ih =>
      obtain ⟨identifier, value⟩ := entry
      obtain ⟨_, value'⟩ := entry'
      obtain ⟨rfl, agree⟩ := here
      rw [SameEntry] at agree
      rw [hydrateInto, hydrateInto]
      generalize attributesOf value = outcome at agree
      generalize attributesOf value' = outcome' at agree
      cases agree with
      | ok equal =>
          subst equal
          exact ih _
      | error same => exact .error fun isStrict => congrArg (Prod.mk identifier) (same isStrict)

theorem hydrate_agree {entries entries' : Option (List (String × Json))}
    (same : Option.Rel (SameEntries strict) entries entries')
    (reserved : Option ReservedVariables) :
    Except.Agree strict Eq (hydrate reserved entries) (hydrate reserved entries') := by
  cases same with
  | none => exact .of_eq rfl
  | some same => exact hydrateInto_agree same reserved _

/-! ## Settings -/

/-- The settings without the sections of variables. -/
def Settings.withoutSections (settings : Settings) : Settings :=
  { settings with policyVariables := none, templateVariables := none }

/-- Settings that come out alike: the entries of both sections do, and the others are the same. -/
structure Settings.Same (strict : Prop) (first second : Settings) : Prop where
  policyVariables :
    Option.Rel (SameEntries strict) first.policyVariables second.policyVariables
  templateVariables :
    Option.Rel (SameEntries strict) first.templateVariables second.templateVariables
  others : first.withoutSections = second.withoutSections

theorem sameSection_refl (entries : Option (List (String × Json))) :
    Option.Rel (SameEntries strict) entries entries := by
  cases entries with
  | none => exact .none
  | some entries => exact .some (.refl entries)

theorem Settings.Same.refl (settings : Settings) : settings.Same strict settings :=
  ⟨sameSection_refl _, sameSection_refl _, rfl⟩

/-- The sections of variables. -/
def sections : List String := ["variables", "policy_template_variables"]

/-- Values that come out alike as a setting: they are coerced to the same, or they are sections
whose entries come out alike. -/
inductive SameSetting (strict : Prop) (key : String) : Json → Json → Prop
  | coerced {value value' : Json} (same : Settings.change key value = Settings.change key value') :
      SameSetting strict key value value'
  | entries {entries entries' : List (String × Json)} (isSection : key ∈ sections)
      (same : SameEntries strict entries entries') :
      SameSetting strict key (.object entries) (.object entries')

theorem Settings.Same.change {settings settings' : Settings} {key : String}
    {f : Settings → Settings} (same : settings.Same strict settings') (changes : Changes key f) :
    (f settings).Same strict (f settings') := by
  obtain ⟨policyVariables, templateVariables, others⟩ := same
  cases changes with
  | policyVariables entries => exact ⟨sameSection_refl entries, templateVariables, others⟩
  | templateVariables entries => exact ⟨policyVariables, sameSection_refl entries, others⟩
  | title title =>
      exact ⟨policyVariables, templateVariables, congrArg (fun s => { s with title }) others⟩
  | description description =>
      exact ⟨policyVariables, templateVariables, congrArg (fun s => { s with description }) others⟩
  | defaultPolicyBranch defaultPolicyBranch =>
      exact ⟨policyVariables, templateVariables,
        congrArg (fun s => { s with defaultPolicyBranch }) others⟩
  | policyType policyType =>
      exact ⟨policyVariables, templateVariables, congrArg (fun s => { s with policyType }) others⟩
  | withVariablesGroup withVariablesGroup =>
      exact ⟨policyVariables, templateVariables,
        congrArg (fun s => { s with withVariablesGroup }) others⟩
  | wrapWithPolicy wrapWithPolicy =>
      exact ⟨policyVariables, templateVariables,
        congrArg (fun s => { s with wrapWithPolicy }) others⟩
  | includeIdentifier includeIdentifier =>
      exact ⟨policyVariables, templateVariables,
        congrArg (fun s => { s with includeIdentifier }) others⟩
  | includeAnnotations includeAnnotations =>
      exact ⟨policyVariables, templateVariables,
        congrArg (fun s => { s with includeAnnotations }) others⟩

theorem Settings.Same.set {settings settings' : Settings} {key : String} {value value' : Json}
    (same : settings.Same strict settings') (alike : SameSetting strict key value value') :
    Except.Agree strict (Settings.Same strict) (settings.set key value)
      (settings'.set key value') := by
  rw [set_eq_change, set_eq_change]
  cases alike with
  | coerced equal =>
      rw [equal]
      cases changes : Settings.change key value' with
      | error failure => exact .error fun _ => rfl
      | ok f => exact .ok (same.change (changes_of_change changes))
  | entries isSection alike =>
      obtain ⟨policyVariables, templateVariables, others⟩ := same
      simp only [sections, List.mem_cons, List.not_mem_nil, or_false] at isSection
      rcases isSection with rfl | rfl
      · exact .ok ⟨.some alike, templateVariables, others⟩
      · exact .ok ⟨policyVariables, .some alike, others⟩

theorem Settings.Same.setAll {settings settings' : Settings}
    {members members' : List (String × Json)} (same : settings.Same strict settings')
    (alike : Members.Alike (SameSetting strict) members members') :
    Except.Agree strict (Settings.Same strict) (settings.setAll members)
      (settings'.setAll members') := by
  induction alike generalizing settings settings' with
  | nil => exact .ok same
  | @cons member member' more more' here _ ih =>
      obtain ⟨key, value⟩ := member
      obtain ⟨_, value'⟩ := member'
      obtain ⟨rfl, alike⟩ := here
      exact (same.set alike).bind fun _ _ same => ih same

theorem ofMembers_agree {members members' : List (String × Json)}
    (alike : SpelledAlike (SameSetting strict) members members') :
    Except.Agree strict (Settings.Same strict) (Settings.ofMembers members)
      (Settings.ofMembers members') :=
  (Settings.Same.refl Settings.unset).setAll alike.respell

/-! ## Whole configurations -/

variable {template : Option String} {catalog : Catalog} {reserved : ReservedVariables}

/-- The configuration that settings make. -/
def ofSettings (template : Option String) (catalog : Catalog) (reserved : ReservedVariables)
    (settings : Settings) : Except CompileError Configuration := do
  let policyVariables ←
    (hydrate none settings.policyVariables).mapError fun (identifier, fault) =>
      .invalidSetting "variables" identifier fault
  let templateVariables ←
    (hydrate (some reserved) settings.templateVariables).mapError fun (identifier, fault) =>
      .invalidSetting "policy_template_variables" identifier fault
  let source ← chooseSource template settings.policyType catalog
  return assemble settings policyVariables templateVariables source

theorem build_object (members : List (String × Json)) :
    build template (.object members) catalog reserved = (do
      let settings ← (Settings.ofMembers members).mapError fun failure =>
        CompileError.invalidConfiguration (.setting failure)
      ofSettings template catalog reserved settings) := rfl

theorem Settings.policyType_withoutSections (settings : Settings) :
    settings.withoutSections.policyType = settings.policyType := rfl

/-- Nothing but the hydrated variables comes from the sections. -/
theorem assemble_withoutSections (settings : Settings)
    (policyVariables templateVariables : List Variable) (source : Source) :
    assemble settings.withoutSections policyVariables templateVariables source =
      assemble settings policyVariables templateVariables source := rfl

theorem ofSettings_agree {settings settings' : Settings}
    (same : settings.Same strict settings') :
    Except.Agree strict Eq (ofSettings template catalog reserved settings)
      (ofSettings template catalog reserved settings') := by
  have policyType : settings.policyType = settings'.policyType := by
    rw [← Settings.policyType_withoutSections, same.others, Settings.policyType_withoutSections]
  refine ((hydrate_agree same.policyVariables none).mapError _).bind ?_
  rintro policyVariables _ rfl
  refine ((hydrate_agree same.templateVariables (some reserved)).mapError _).bind ?_
  rintro templateVariables _ rfl
  rw [policyType]
  refine Except.Agree.bind (.of_eq rfl) ?_
  rintro source _ rfl
  rw [← assemble_withoutSections, same.others, assemble_withoutSections]
  exact .of_eq rfl

theorem build_agree {members members' : List (String × Json)}
    (agree : Except.Agree strict (Settings.Same strict) (Settings.ofMembers members)
      (Settings.ofMembers members')) :
    Except.Agree strict Eq (build template (.object members) catalog reserved)
      (build template (.object members') catalog reserved) := by
  rw [build_object, build_object]
  exact (agree.mapError _).bind fun _ _ same => ofSettings_agree same

end Configuration

end FactoryBundler
