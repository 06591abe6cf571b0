import FactoryBundler.Proofs.Schema.Shadowing

/-!
# Required inputs

Whether the flag of a template variable reaches the list of required inputs. It does for every
variable with a property in the schema but one: the annotations are never required, whatever their
variable says.
-/

namespace FactoryBundler.Schema

open Variable (reservedIdentifiers)
open FactoryBundler.Configuration (attributesOf lastEntry sectionEntries)

variable {configuration : Configuration} {v : Variable}

theorem not_requires_annotations (configuration : Configuration) :
    ¬ (ofConfiguration configuration).toJson.Requires "annotations" := by
  rw [requires_toJson_iff]
  intro inFields
  obtain ⟨d, declared, required, isAnnotations⟩ := mem_required_ofDeclarations.mp inFields
  have included := included_of_mem_declarations declared (isAnnotations ▸ by decide)
  simp [isAnnotations, required] at included

/-- A reserved input with a property is required, unless it is the annotations. -/
theorem requires_of_hasProperty_reserved {key : String}
    (emitted : (ofConfiguration configuration).toJson.HasProperty key)
    (reserved : key ∈ reservedIdentifiers) (notAnnotations : key ≠ "annotations") :
    (ofConfiguration configuration).toJson.Requires key := by
  obtain ⟨d, declared, rfl⟩ := mem_keys_ofDeclarations.mp (hasProperty_toJson_iff.mp emitted)
  have required : d.required = true := by
    rcases included_of_mem_declarations declared reserved with id | annotations | branch
    · exact id.2.2
    · exact absurd annotations.2.1 notAnnotations
    · exact branch.2.2
  exact (hasProperty_and_requires_of_mem declared required).2

/-- A required variable that is not reserved is required in the schema. -/
theorem requires_of_mem_templateVariables (inTemplate : v ∈ configuration.templateVariables)
    (required : v.required = true) (notReserved : v.identifier ∉ reservedIdentifiers) :
    (ofConfiguration configuration).toJson.Requires v.identifier := by
  have declared := declareOwn_mem_declarations inTemplate notReserved
  exact (hasProperty_and_requires_of_mem declared required).2

/-- A required template variable with a property in the schema is required there exactly if it is
not the annotations. And an entry that asks for it makes its variable required, reserved or not. -/
theorem requires_iff_ne_annotations {template : Option String} {document : Json}
    {catalog : Catalog} {reserved : ReservedVariables}
    (built : Configuration.build template document catalog reserved = .ok configuration) :
    (∀ v ∈ configuration.templateVariables, v.required = true →
      (ofConfiguration configuration).toJson.HasProperty v.identifier →
      ((ofConfiguration configuration).toJson.Requires v.identifier ↔
        v.identifier ≠ "annotations")) ∧
    (∀ identifier entry attributes,
      lastEntry identifier (sectionEntries "policy_template_variables" document) = some entry →
      attributesOf entry = .ok attributes → attributes.required = some true →
      ∃ v ∈ configuration.templateVariables, v.identifier = identifier ∧ v.required = true) := by
  refine ⟨?listed, ?asked⟩
  case listed =>
    intro v inTemplate required emitted
    constructor
    · intro isRequired isAnnotations
      exact not_requires_annotations configuration (isAnnotations ▸ isRequired)
    · intro notAnnotations
      by_cases reserved : v.identifier ∈ reservedIdentifiers
      · exact requires_of_hasProperty_reserved emitted reserved notAnnotations
      · exact requires_of_mem_templateVariables inTemplate required reserved
  case asked =>
    intro identifier entry attributes given isAttributes asked
    have hydrated := (Configuration.hydrate_sectionEntries built).2
    obtain ⟨attributes', isAttributes', inTemplate⟩ :=
      Configuration.exists_mem_hydrateInto given hydrated
    cases isAttributes.symm.trans isAttributes'
    refine ⟨_, inTemplate, Configuration.identifier_applyTo_baseOf _ _, ?_⟩
    rw [Configuration.Attributes.applyTo, asked]
    rfl

/-- Settings that ask for two inputs, one of them the annotations. -/
def asking : Json :=
  .object [("policy_template_variables", .object [
    ("size", .object [("required", .bool true)]),
    ("annotations", .object [("required", .string "true")])])]

theorem requires_iff_ne_annotations_asking :
    ∃ configuration v w,
      Configuration.build (some "- !host") asking .empty .standard = .ok configuration ∧
      v ∈ configuration.templateVariables ∧ v.required = true ∧ v.identifier = "size" ∧
      (ofConfiguration configuration).toJson.Requires "size" ∧
      w ∈ configuration.templateVariables ∧ w.required = true ∧ w.identifier = "annotations" ∧
      ¬ (ofConfiguration configuration).toJson.Requires "annotations" := by
  obtain ⟨configuration, built⟩ : ∃ configuration,
      Configuration.build (some "- !host") asking .empty .standard = .ok configuration := ⟨_, rfl⟩
  have isBuilt := built
  obtain ⟨listed, asked⟩ := requires_iff_ne_annotations built
  obtain ⟨v, vInTemplate, isSize, vRequired⟩ := asked "size" _ _ rfl rfl rfl
  obtain ⟨w, wInTemplate, isAnnotations, wRequired⟩ := asked "annotations" _ _ rfl rfl rfl
  have sizeEmitted : (ofConfiguration configuration).toJson.HasProperty "size" := by
    cases built
    exact ⟨_, rfl, by decide⟩
  have annotationsEmitted : (ofConfiguration configuration).toJson.HasProperty "annotations" := by
    cases built
    exact ⟨_, rfl, by decide⟩
  have sizeListed := listed v vInTemplate vRequired (isSize ▸ sizeEmitted)
  have annotationsListed := listed w wInTemplate wRequired (isAnnotations ▸ annotationsEmitted)
  rw [isSize] at sizeListed
  rw [isAnnotations] at annotationsListed
  exact ⟨configuration, v, w, isBuilt, vInTemplate, vRequired, isSize,
    sizeListed.mpr (by decide), wInTemplate, wRequired, isAnnotations,
    annotationsListed.not.mpr (by decide)⟩

/-- Annotations that are asked for have a property and are not required. -/
theorem not_requires_asked :
    ∃ configuration v,
      Configuration.build (some "- !host") asking .empty .standard = .ok configuration ∧
      v ∈ configuration.templateVariables ∧ v.required = true ∧
      (ofConfiguration configuration).toJson.HasProperty v.identifier ∧
      ¬ (ofConfiguration configuration).toJson.Requires v.identifier := by
  obtain ⟨configuration, built⟩ : ∃ configuration,
      Configuration.build (some "- !host") asking .empty .standard = .ok configuration := ⟨_, rfl⟩
  have isBuilt := built
  cases built
  exact ⟨_, { ReservedVariables.standard.annotations with required := true }, isBuilt,
    by decide, rfl, ⟨_, rfl, by decide⟩, not_requires_annotations _⟩

end FactoryBundler.Schema
