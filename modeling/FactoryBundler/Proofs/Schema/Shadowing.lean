import FactoryBundler.Proofs.Schema.Listing

/-!
# Template variables beside the group

Template variables and the group of the policy's own variables share the root of a schema. The key
of the group is fixed and the group is declared last, so it takes the place of a template variable
that is called `variables`; if that variable is required, its key stays so. Every other template
variable that is not reserved keeps the property that its entry describes.
-/

namespace FactoryBundler

/-- The document of a schema describes a variable under its identifier, as an input of its own
type. -/
def Json.DescribesInput (schema : Json) (v : Variable) : Prop :=
  ∃ attributes, schema.property? v.identifier = some (.object attributes) ∧
    Schema.Describes v v.kind attributes

namespace Schema

open Variable (identifiers reservedIdentifiers)
open FactoryBundler.Configuration (attributesOf baseOf_of_not_mem_reservedIdentifiers lastEntry
  sectionEntries)

/-! ## Declarations that come last -/

theorem lookup_ofDeclarations_of_last {α : Type} {declarations before after : List (Declaration α)}
    {d : Declaration α} (parts : declarations = before ++ d :: after)
    (last : ∀ other ∈ after, other.key ≠ d.key) :
    (Fields.ofDeclarations declarations).properties.lookup d.key = some d.entry := by
  have nothingBehind : (after.map fun other => (other.key, other.entry)).reverse.lookup d.key =
      none := by
    rw [List.lookup_eq_none_iff]
    intro member inAfter
    obtain ⟨other, isOther, rfl⟩ := List.mem_map.mp (List.mem_reverse.mp inAfter)
    simpa using (last other isOther).symm
  rw [parts, Fields.ofDeclarations, Members.lookup_ofList, List.map_append, List.map_cons,
    List.reverse_append, List.reverse_cons, List.append_assoc, List.lookup_append, nothingBehind,
    List.singleton_append, Members.lookup_cons, if_pos rfl]
  rfl

/-- The declaration of a template variable that is not reserved. -/
def declareOwn (v : Variable) : Declaration Entry :=
  ⟨v.identifier, .input (.ofVariable v v.kind), v.required⟩

variable {configuration : Configuration} {v : Variable}

theorem mem_ownTemplateVariables_iff :
    v ∈ ownTemplateVariables configuration ↔
      v ∈ configuration.templateVariables ∧ v.identifier ∉ reservedIdentifiers := by
  simp [ownTemplateVariables, Variable.isReserved]

/-! ## Variables and their properties -/

section

variable (nodup : (identifiers configuration.templateVariables).Nodup)
  (inTemplate : v ∈ configuration.templateVariables)
  (notReserved : v.identifier ∉ reservedIdentifiers)

include nodup inTemplate notReserved

theorem lookup_of_mem_templateVariables
    (free : v.identifier ≠ "variables" ∨ configuration.policyVariables = []) :
    (ofConfiguration configuration).fields.properties.lookup v.identifier =
      some (.input (.ofVariable v v.kind)) := by
  have inOwn := mem_ownTemplateVariables_iff.mpr ⟨inTemplate, notReserved⟩
  obtain ⟨front, back, split⟩ := List.append_of_mem inOwn
  have nodupOwn : (identifiers (front ++ v :: back)).Nodup :=
    split ▸ nodup.sublist (List.filter_sublist.map _)
  have notInBack : v.identifier ∉ identifiers back := by
    rw [identifiers, List.map_append, List.map_cons] at nodupOwn
    exact (List.nodup_cons.mp nodupOwn.of_append_right).1
  obtain ⟨before, parts⟩ : ∃ before, declarations configuration = before ++ declareOwn v ::
      (back.map declareOwn ++ declareGroup configuration.policyVariables) := by
    rw [declarations, split, List.map_append, List.map_cons, ← List.append_assoc,
      List.append_assoc _ (_ :: _), List.cons_append]
    exact ⟨_, rfl⟩
  refine lookup_ofDeclarations_of_last parts ?_
  intro other inAfter
  rcases List.mem_append.mp inAfter with inBack | inGroup
  · obtain ⟨w, isLater, rfl⟩ := List.mem_map.mp inBack
    intro (same : w.identifier = v.identifier)
    have later : w.identifier ∈ identifiers back := List.mem_map_of_mem isLater
    exact notInBack (same ▸ later)
  · rw [key_of_mem_declareGroup inGroup]
    rcases free with different | undeclared
    · exact different.symm
    · rw [undeclared] at inGroup
      cases inGroup

/-- A template variable keeps its property exactly if the group does not take its place. -/
theorem describesInput_iff_of_mem :
    (ofConfiguration configuration).toJson.DescribesInput v ↔
      v.identifier ≠ "variables" ∨ configuration.policyVariables = [] := by
  rw [Json.DescribesInput, property?_toJson]
  constructor
  · rintro ⟨attributes, isProperty, describes⟩
    by_contra taken
    obtain ⟨isVariables, declared⟩ := not_or.mp taken
    rw [not_not.mp isVariables, lookup_variables declared] at isProperty
    -- A group starts with its type, a property with its title.
    have keys := describes.keys
    cases isProperty
    simp [Members.keys] at keys
  · intro free
    obtain ⟨attributes, isObject, describes⟩ := describes_ofVariable v v.kind
    rw [lookup_of_mem_templateVariables nodup inTemplate notReserved free]
    exact ⟨attributes, congrArg some isObject, describes⟩

end

/-! ## The key of the group -/

theorem mem_declarations_iff {d : Declaration Entry} (notReserved : d.key ∉ reservedIdentifiers) :
    d ∈ declarations configuration ↔
      d ∈ (ownTemplateVariables configuration).map declareOwn ∨
        d ∈ declareGroup configuration.policyVariables := by
  have notDeclared {included : Bool} {key kind : String} {required : Bool}
      (isReserved : key ∈ reservedIdentifiers) :
      d ∉ declareReserved configuration included key kind required := by
    intro declared
    obtain ⟨-, rfl, -⟩ := of_mem_declareReserved declared
    exact notReserved isReserved
  rw [declarations, List.mem_append, List.mem_append, List.mem_append, List.mem_append,
    or_iff_right (not_or.mpr ⟨not_or.mpr ⟨notDeclared (by decide), notDeclared (by decide)⟩,
      notDeclared (by decide)⟩)]
  rfl

theorem declareOwn_mem_declarations (inTemplate : v ∈ configuration.templateVariables)
    (notReserved : v.identifier ∉ reservedIdentifiers) :
    declareOwn v ∈ declarations configuration := by
  have inOwn := mem_ownTemplateVariables_iff.mpr ⟨inTemplate, notReserved⟩
  exact (mem_declarations_iff (d := declareOwn v) notReserved).mpr
    (Or.inl (List.mem_map_of_mem inOwn))

/-- The key of the group is required for the group's sake if one of its variables is required, and
otherwise only for the sake of a template variable of that name. -/
theorem requires_variables_iff :
    (ofConfiguration configuration).toJson.Requires "variables" ↔
      (∃ v ∈ configuration.policyVariables, v.required) ∨
        ∃ v ∈ configuration.templateVariables, v.identifier = "variables" ∧ v.required := by
  have inGroup : (∃ d ∈ declareGroup configuration.policyVariables, d.required ∧
      d.key = "variables") ↔ ∃ v ∈ configuration.policyVariables, v.required := by
    have keys := congrArg ("variables" ∈ ·) (required_declareGroup configuration.policyVariables)
    simpa [and_assoc] using keys
  have notReserved {d : Declaration Entry} (isVariables : d.key = "variables") :
      d.key ∉ reservedIdentifiers := isVariables ▸ by decide
  rw [requires_toJson_iff, ofConfiguration, mem_required_ofDeclarations, ← inGroup]
  constructor
  · rintro ⟨d, declared, required, isVariables⟩
    rcases (mem_declarations_iff (notReserved isVariables)).mp declared with own | group
    · obtain ⟨v, inOwn, rfl⟩ := List.mem_map.mp own
      exact Or.inr ⟨v, (mem_ownTemplateVariables_iff.mp inOwn).1, isVariables, required⟩
    · exact Or.inl ⟨d, group, required, isVariables⟩
  · rintro (⟨d, group, required, isVariables⟩ | ⟨v, inTemplate, isVariables, required⟩)
    · have declared := (mem_declarations_iff (notReserved isVariables)).mpr (Or.inr group)
      exact ⟨d, declared, required, isVariables⟩
    · have declared := declareOwn_mem_declarations inTemplate
        (notReserved (d := declareOwn v) isVariables)
      exact ⟨declareOwn v, declared, required, isVariables⟩

/-! ## Accepted configurations -/

/-- An entry of the template section that is not for a reserved variable has a property of its own
in the schema exactly if it is not called `variables` or the document declares no variables of the
policy. The group by itself makes its key required only if one of its variables is. -/
theorem describesInput_iff {template : Option String} {document : Json} {catalog : Catalog}
    {reserved : ReservedVariables} (carry : reserved.CarryIdentifiers)
    (built : Configuration.build template document catalog reserved = .ok configuration) :
    (∀ identifier entry,
      lastEntry identifier (sectionEntries "policy_template_variables" document) = some entry →
      identifier ∉ reservedIdentifiers →
      ∃ attributes v, attributesOf entry = .ok attributes ∧
        v = attributes.applyTo (.plain identifier) ∧ v ∈ configuration.templateVariables ∧
        ((ofConfiguration configuration).toJson.DescribesInput v ↔
          identifier ≠ "variables" ∨ sectionEntries "variables" document = [])) ∧
    ((ofConfiguration configuration).toJson.Requires "variables" ↔
      (∃ v ∈ configuration.policyVariables, v.required) ∨
        ∃ v ∈ configuration.templateVariables, v.identifier = "variables" ∧ v.required) := by
  refine ⟨?_, requires_variables_iff⟩
  intro identifier entry given notReserved
  have hydrated := (Configuration.hydrate_sectionEntries built).2
  have nodup := Configuration.nodup_hydrate_some carry hydrated
  obtain ⟨attributes, isAttributes, inTemplate⟩ :=
    Configuration.exists_mem_hydrateInto given hydrated
  rw [baseOf_of_not_mem_reservedIdentifiers notReserved] at inTemplate
  refine ⟨attributes, _, isAttributes, rfl, inTemplate, ?_⟩
  rw [describesInput_iff_of_mem nodup inTemplate notReserved,
    Configuration.policyVariables_eq_nil_iff built]
  rfl

/-- Settings with two template variables, one of them under the key of the group, and a variable of
the policy's own. -/
def shadowing : Json :=
  .object [
    ("policy_template_variables", .object [
      ("size", .object [("title", .string "Size")]),
      ("variables", .object [("title", .string "Count")])]),
    ("variables", .object [("url", .null)])]

theorem describesInput_iff_shadowing :
    ∃ configuration v w,
      Configuration.build (some "- !host") shadowing .empty .standard = .ok configuration ∧
      v ∈ configuration.templateVariables ∧ v.identifier = "size" ∧
      (ofConfiguration configuration).toJson.DescribesInput v ∧
      w ∈ configuration.templateVariables ∧ w.identifier = "variables" ∧
      ¬ (ofConfiguration configuration).toJson.DescribesInput w := by
  obtain ⟨configuration, built⟩ : ∃ configuration,
      Configuration.build (some "- !host") shadowing .empty .standard = .ok configuration :=
    ⟨_, rfl⟩
  obtain ⟨entries, -⟩ := describesInput_iff ⟨rfl, rfl, rfl⟩ built
  obtain ⟨attributes, v, -, isSize, vInTemplate, kept⟩ := entries "size" _ rfl (by decide)
  obtain ⟨attributes', w, -, isVariables, wInTemplate, shadowed⟩ :=
    entries "variables" _ rfl (by decide)
  refine ⟨configuration, v, w, built, vInTemplate, isSize ▸ rfl, kept.mpr (Or.inl (by decide)),
    wInTemplate, isVariables ▸ rfl, ?_⟩
  rw [shadowed]
  decide

/-- A template variable under the key of the group has no property of its own. -/
theorem not_describesInput_shadowed :
    ∃ configuration v,
      Configuration.build (some "- !host") shadowing .empty .standard = .ok configuration ∧
      v ∈ configuration.templateVariables ∧ v.identifier ∉ reservedIdentifiers ∧
      ¬ (ofConfiguration configuration).toJson.DescribesInput v := by
  obtain ⟨configuration, built⟩ : ∃ configuration,
      Configuration.build (some "- !host") shadowing .empty .standard = .ok configuration :=
    ⟨_, rfl⟩
  have isBuilt := built
  cases built
  refine ⟨_, { Variable.plain "variables" with explicitTitle := some "Count" }, isBuilt,
    by decide, by decide, ?_⟩
  rw [describesInput_iff_of_mem (by decide) (by decide) (by decide)]
  decide

end Schema

end FactoryBundler
