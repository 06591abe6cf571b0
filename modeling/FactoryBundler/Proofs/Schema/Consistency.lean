import FactoryBundler.Proofs.Configuration.Build
import FactoryBundler.Proofs.Schema.Inputs

/-!
# Consistency of schemas

What a schema requires are keys of its own properties, none of them twice. Properties and required
keys grow side by side, one declaration after the other; a declaration under a key that is already
there replaces the property and never takes the key away, so consistency holds all along, whatever
the declarations are. Nothing is assumed of the reserved variables.
-/

namespace FactoryBundler

/-- The document of a schema lists no required key twice, and has a property under each. -/
def Json.IsConsistent (schema : Json) : Prop :=
  ∃ members keys, schema.get? "properties" = some (.object members) ∧
    schema.get? "required" = some (.array (keys.map .string)) ∧
    keys.Nodup ∧ keys ⊆ Members.keys members

namespace Schema

open FactoryBundler.Configuration (sectionEntries)

variable {α : Type} {fields : Fields α}

/-! ## One declaration after the other -/

/-- The fields with one more declaration taken in. -/
def Fields.add (fields : Fields α) (d : Declaration α) : Fields α where
  properties := Members.insert d.key d.entry fields.properties
  required :=
    if d.required ∧ d.key ∉ fields.required then fields.required ++ [d.key] else fields.required

/-- No required key comes twice, and there is a property under each. -/
structure Fields.IsConsistent (fields : Fields α) : Prop where
  nodup : fields.required.Nodup
  declared : fields.required ⊆ Members.keys fields.properties

theorem ofDeclarations_concat (declarations : List (Declaration α)) (d : Declaration α) :
    Fields.ofDeclarations (declarations ++ [d]) = (Fields.ofDeclarations declarations).add d := by
  have properties : Members.ofList ((declarations ++ [d]).map fun d => (d.key, d.entry)) =
      ((Fields.ofDeclarations declarations).add d).properties := by
    rw [List.map_append]
    exact Members.ofList_concat _
  have required : distinct (((declarations ++ [d]).filter (·.required)).map (·.key)) =
      ((Fields.ofDeclarations declarations).add d).required := by
    rw [List.filter_append, List.map_append, Fields.add]
    cases asked : d.required with
    | false => simp [asked, Fields.ofDeclarations]
    | true =>
        rw [List.filter_singleton, asked, cond_true, List.map_singleton, distinct_concat]
        simp [Fields.ofDeclarations]
  exact congrArg₂ Fields.mk properties required

theorem Fields.IsConsistent.add (consistent : fields.IsConsistent) (d : Declaration α) :
    (fields.add d).IsConsistent := by
  rw [Fields.add]
  by_cases asked : d.required ∧ d.key ∉ fields.required
  · rw [if_pos asked]
    refine ⟨?nodup, ?declared⟩
    case nodup =>
      rw [← List.concat_eq_append]
      exact consistent.nodup.concat asked.2
    case declared =>
      intro key inRequired
      apply Members.mem_keys_insert.mpr
      rcases List.mem_append.mp inRequired with before | new
      · exact Or.inr (consistent.declared before)
      · exact Or.inl (List.mem_singleton.mp new)
  · rw [if_neg asked]
    refine ⟨consistent.nodup, ?_⟩
    intro key inRequired
    exact Members.mem_keys_insert.mpr (Or.inr (consistent.declared inRequired))

theorem isConsistent_ofDeclarations (declarations : List (Declaration α)) :
    (Fields.ofDeclarations declarations).IsConsistent := by
  induction declarations using List.reverseRecOn with
  | nil => exact ⟨List.nodup_nil, List.nil_subset _⟩
  | append_singleton declarations d ih =>
      rw [ofDeclarations_concat]
      exact ih.add d

/-! ## Documents -/

theorem Fields.IsConsistent.document {keyJson : α → Json} (consistent : fields.IsConsistent)
    {document : Json}
    (properties : document.get? "properties" =
      some (.object (fields.properties.map fun member => (member.1, keyJson member.2))))
    (required : document.get? "required" = some (keysToJson fields.required)) :
    document.IsConsistent := by
  refine ⟨_, fields.required, properties, required, consistent.nodup, ?_⟩
  rw [Members.keys_map_snd]
  exact consistent.declared

theorem isConsistent_groupToJson (policyVariables : List Variable) :
    (groupToJson (variableGroup policyVariables)).IsConsistent :=
  (isConsistent_ofDeclarations _).document rfl rfl

theorem isConsistent_toJson (configuration : Configuration) :
    (ofConfiguration configuration).toJson.IsConsistent :=
  (isConsistent_ofDeclarations _).document rfl rfl

/-- The schema of an accepted configuration is consistent, and so is the group of the policy's own
variables if the document declares any. The reserved variables may carry any identifiers, one of
them several times or another input's, and the template variables may have any names. -/
theorem isConsistent_of_build {template : Option String} {document : Json} {catalog : Catalog}
    {reserved : ReservedVariables} {configuration : Configuration}
    (built : Configuration.build template document catalog reserved = .ok configuration) :
    (ofConfiguration configuration).toJson.IsConsistent ∧
      (sectionEntries "variables" document ≠ [] →
        ∃ group, (ofConfiguration configuration).toJson.property? "variables" = some group ∧
          group.IsConsistent) := by
  refine ⟨isConsistent_toJson configuration, ?_⟩
  intro given
  have declared : configuration.policyVariables ≠ [] :=
    (Configuration.policyVariables_eq_nil_iff built).not.mpr given
  refine ⟨groupToJson (variableGroup configuration.policyVariables), ?_,
    isConsistent_groupToJson _⟩
  rw [property?_toJson, lookup_variables declared]
  rfl

/-- Reserved variables in the wrong slots, one identifier twice and one that is not reserved. -/
def misplaced : ReservedVariables :=
  ⟨.plain "branch", .plain "variables", .plain "branch"⟩

/-- Settings that require template variables under the key of a reserved input and of the group, and
declare variables of the policy's own. -/
def clashing : Json :=
  .object [
    ("policy_template_variables", .object [
      ("branch", .object [("required", .bool true)]),
      ("variables", .object [("required", .bool true)]),
      ("id", .object [("required", .bool true)])]),
    ("variables", .object [("url", .object [("required", .bool true)]), ("key", .null)])]

theorem isConsistent_of_build_clashing :
    ∃ configuration group,
      Configuration.build (some "- !host") clashing .empty misplaced = .ok configuration ∧
      sectionEntries "variables" clashing ≠ [] ∧
      (ofConfiguration configuration).toJson.IsConsistent ∧
      (ofConfiguration configuration).toJson.property? "variables" = some group ∧
      group.IsConsistent := by
  obtain ⟨configuration, built⟩ : ∃ configuration,
      Configuration.build (some "- !host") clashing .empty misplaced = .ok configuration :=
    ⟨_, rfl⟩
  have given : sectionEntries "variables" clashing ≠ [] := by decide
  obtain ⟨consistent, hasGroup⟩ := isConsistent_of_build built
  obtain ⟨group, isGroup, groupConsistent⟩ := hasGroup given
  exact ⟨configuration, group, built, given, consistent, isGroup, groupConsistent⟩

example : (ofConfiguration <$> (Configuration.build (some "- !host") clashing .empty
    misplaced).toOption).map (·.fields.required) = some ["branch", "variables"] := by
  decide

end Schema

end FactoryBundler
