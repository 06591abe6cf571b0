import FactoryBundler.Proofs.Configuration.Hydration
import FactoryBundler.Proofs.Schema.Fields

/-!
# Inputs that a schema lists

Which of the reserved inputs a schema has and requires, and what the group of the policy's own
variables lists. No declaration but the reserved ones uses a reserved key, and the group is
declared last, so nothing takes its place.
-/

namespace FactoryBundler

namespace Json

/-- What the document of a schema says of the property under a key. -/
def property? (schema : Json) (key : String) : Option Json :=
  (schema.get? "properties").bind (get? key)

/-- The document of a schema has a property under the key. -/
def HasProperty (schema : Json) (key : String) : Prop :=
  ∃ members, schema.get? "properties" = some (.object members) ∧ key ∈ Members.keys members

/-- The document of a schema lists the key as required. -/
def Requires (schema : Json) (key : String) : Prop :=
  ∃ keys, schema.get? "required" = some (.array keys) ∧ .string key ∈ keys

/-- The keys of the properties in a group of a schema, in order. -/
def GroupLists (schema : Json) (group : String) (keys : List String) : Prop :=
  ∃ members inner, schema.get? "properties" = some (.object members) ∧
    (members.lookup group).bind (get? "properties") = some (.object inner) ∧
    Members.keys inner = keys

end Json

namespace Schema

open Variable (reservedIdentifiers)

variable {configuration : Configuration} {schema : Schema} {key : String}

/-! ## Documents and fields -/

theorem hasProperty_toJson_iff :
    schema.toJson.HasProperty key ↔ key ∈ Members.keys schema.fields.properties := by
  have properties : schema.toJson.get? "properties" =
      some (.object (schema.fields.properties.map fun member => (member.1, member.2.toJson))) := rfl
  rw [Json.HasProperty, properties]
  constructor
  · rintro ⟨members, isMembers, inMembers⟩
    cases isMembers
    rwa [Members.keys_map_snd] at inMembers
  · intro inFields
    exact ⟨_, rfl, by rwa [Members.keys_map_snd]⟩

theorem property?_toJson (schema : Schema) (key : String) :
    schema.toJson.property? key = (schema.fields.properties.lookup key).map Entry.toJson := by
  have properties : schema.toJson.get? "properties" =
      some (.object (schema.fields.properties.map fun member => (member.1, member.2.toJson))) := rfl
  rw [Json.property?, properties]
  exact Members.lookup_map_snd Entry.toJson key _

theorem requires_toJson_iff :
    schema.toJson.Requires key ↔ key ∈ schema.fields.required := by
  have required : schema.toJson.get? "required" = some (keysToJson schema.fields.required) := rfl
  rw [Json.Requires, required, keysToJson]
  constructor
  · rintro ⟨keys, isKeys, inKeys⟩
    cases isKeys
    simpa using inKeys
  · intro inFields
    exact ⟨_, rfl, List.mem_map.mpr ⟨key, inFields, rfl⟩⟩

/-! ## Reserved inputs -/

theorem declareReserved_of_included {kind : String} {required : Bool} {v : Variable}
    (found : configuration.reserved? key = some v) :
    declareReserved configuration true key kind required =
      [⟨key, .input (.ofVariable v kind), required⟩] := by
  rw [declareReserved, found]
  rfl

theorem of_mem_declareReserved {included : Bool} {kind : String} {required : Bool}
    {d : Declaration Entry} (h : d ∈ declareReserved configuration included key kind required) :
    included = true ∧ d.key = key ∧ d.required = required := by
  unfold declareReserved at h
  split at h
  · next isIncluded =>
    split at h
    · rw [List.mem_singleton.mp h]
      exact ⟨isIncluded, rfl, rfl⟩
    · cases h
  · cases h

theorem key_of_mem_declareGroup {policyVariables : List Variable} {d : Declaration Entry}
    (h : d ∈ declareGroup policyVariables) : d.key = "variables" := by
  unfold declareGroup at h
  split at h
  · cases h
  · rw [List.mem_singleton.mp h]

/-- A declaration under a reserved key is that of the reserved input, if it is included. All of them
are required but the annotations. -/
theorem included_of_mem_declarations {d : Declaration Entry}
    (h : d ∈ declarations configuration) (reserved : d.key ∈ reservedIdentifiers) :
    (configuration.includeIdentifier = true ∧ d.key = "id" ∧ d.required = true) ∨
      (configuration.includeAnnotations = true ∧ d.key = "annotations" ∧ d.required = false) ∨
      (configuration.includePolicyBranch = true ∧ d.key = "branch" ∧ d.required = true) := by
  simp only [declarations, List.mem_append] at h
  rcases h with (((id | annotations) | branch) | own) | group
  · exact Or.inl (of_mem_declareReserved id)
  · exact Or.inr (Or.inl (of_mem_declareReserved annotations))
  · exact Or.inr (Or.inr (of_mem_declareReserved branch))
  · obtain ⟨v, inOwn, rfl⟩ := List.mem_map.mp own
    have notReserved : v.identifier ∉ reservedIdentifiers := by
      simpa [Variable.isReserved] using (List.mem_filter.mp inOwn).2
    exact absurd reserved notReserved
  · rw [key_of_mem_declareGroup group] at reserved
    exact absurd reserved (by decide)

theorem hasProperty_and_requires_of_mem {d : Declaration Entry}
    (h : d ∈ declarations configuration) (required : d.required = true) :
    (ofConfiguration configuration).toJson.HasProperty d.key ∧
      (ofConfiguration configuration).toJson.Requires d.key := by
  rw [hasProperty_toJson_iff, requires_toJson_iff]
  exact ⟨mem_keys_ofDeclarations.mpr ⟨d, h, rfl⟩,
    mem_required_ofDeclarations.mpr ⟨d, h, required, rfl⟩⟩

variable (first : reservedIdentifiers <+: Variable.identifiers configuration.templateVariables)

include first

theorem hasProperty_and_requires_id (included : configuration.includeIdentifier = true) :
    (ofConfiguration configuration).toJson.HasProperty "id" ∧
      (ofConfiguration configuration).toJson.Requires "id" := by
  obtain ⟨v, found⟩ := Configuration.exists_reserved? first "id" (by decide)
  have declared : ⟨"id", .input (.ofVariable v "string"), true⟩ ∈ declarations configuration := by
    simp [declarations, included, declareReserved_of_included found]
  exact hasProperty_and_requires_of_mem declared rfl

theorem hasProperty_and_requires_branch (included : configuration.includePolicyBranch = true) :
    (ofConfiguration configuration).toJson.HasProperty "branch" ∧
      (ofConfiguration configuration).toJson.Requires "branch" := by
  obtain ⟨v, found⟩ := Configuration.exists_reserved? first "branch" (by decide)
  have declared : ⟨"branch", .input (.ofVariable v "string"), true⟩ ∈
      declarations configuration := by
    simp [declarations, included, declareReserved_of_included found]
  exact hasProperty_and_requires_of_mem declared rfl

omit first

theorem not_hasProperty_branch (fixed : configuration.includePolicyBranch = false) :
    ¬ (ofConfiguration configuration).toJson.HasProperty "branch" := by
  rw [hasProperty_toJson_iff]
  intro inFields
  obtain ⟨d, declared, isBranch⟩ := mem_keys_ofDeclarations.mp inFields
  have included := included_of_mem_declarations declared (isBranch ▸ by decide)
  simp [isBranch, fixed] at included

theorem not_requires_branch (fixed : configuration.includePolicyBranch = false) :
    ¬ (ofConfiguration configuration).toJson.Requires "branch" := by
  rw [requires_toJson_iff]
  intro inFields
  obtain ⟨d, declared, -, isBranch⟩ := mem_required_ofDeclarations.mp inFields
  have included := included_of_mem_declarations declared (isBranch ▸ by decide)
  simp [isBranch, fixed] at included

/-! ## The group -/

/-- The group is declared last, so that it is what the schema says under its key. -/
theorem lookup_variables (declared : configuration.policyVariables ≠ []) :
    (ofConfiguration configuration).fields.properties.lookup "variables" =
      some (.group (variableGroup configuration.policyVariables)) := by
  have nonempty : configuration.policyVariables.isEmpty = false := by simpa using declared
  rw [ofConfiguration, Fields.ofDeclarations, Members.lookup_ofList, declarations, declareGroup,
    nonempty]
  simp

/-- The group lists the policy's own variables, under their identifiers and in order. -/
theorem groupLists_identifiers (declared : configuration.policyVariables ≠ [])
    (distinct : (Variable.identifiers configuration.policyVariables).Nodup) :
    (ofConfiguration configuration).toJson.GroupLists "variables"
      (Variable.identifiers configuration.policyVariables) := by
  have keys : Members.keys (variableGroup configuration.policyVariables).properties =
      Variable.identifiers configuration.policyVariables := by
    rw [variableGroup, properties_ofDeclarations_of_nodup (by rwa [List.map_map])]
    rw [Members.keys, List.map_map, List.map_map]
    rfl
  have inner : (groupToJson (variableGroup configuration.policyVariables)).get? "properties" =
      some (.object ((variableGroup configuration.policyVariables).properties.map
        fun member => (member.1, member.2.toJson))) := rfl
  refine ⟨_, _, rfl, ?_, (Members.keys_map_snd Property.toJson _).trans keys⟩
  rw [Members.lookup_map_snd, lookup_variables declared]
  exact inner

end Schema

end FactoryBundler
