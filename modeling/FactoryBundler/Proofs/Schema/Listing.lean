import FactoryBundler.Proofs.Configuration.Build
import FactoryBundler.Proofs.Schema.Inputs

/-!
# Schemas as listings

What the schema of a configuration looks like when nothing is declared twice: the inputs one after
the other, every one described by its variable, then the group of the policy's own variables, and
the same inputs again as far as they are required. Nothing of the listing is left to insertion or to
the removal of repetitions, because the identifiers of a section are distinct and the group has a
key of its own.
-/

namespace FactoryBundler

open Variable (identifiers reservedIdentifiers)
open FactoryBundler.Configuration (sectionEntries)

namespace Schema

variable {configuration : Configuration} {keys : List String}

/-! ## Keys without repetitions -/

theorem distinct_append (keys more : List String) :
    distinct (keys ++ more) =
      distinct keys ++ (distinct more).filter fun key => decide (key ∉ keys) := by
  induction more using List.reverseRecOn with
  | nil =>
      rw [List.append_nil]
      exact (List.append_nil _).symm
  | append_singleton more key ih =>
      have seen : (distinct (keys ++ more)).contains key = true ↔
          key ∈ keys ∨ (distinct more).contains key = true := by
        rw [List.contains_iff_mem, List.contains_iff_mem, mem_distinct, mem_distinct,
          List.mem_append]
      rw [← List.append_assoc, distinct_concat, distinct_concat]
      by_cases again : (distinct more).contains key = true
      · rw [if_pos (seen.mpr (Or.inr again)), if_pos again, ih]
      · rw [if_neg again, List.filter_append]
        by_cases before : key ∈ keys
        · rw [if_pos (seen.mpr (Or.inl before)), ih, List.filter_singleton]
          simp [before]
        · rw [if_neg fun h => (seen.mp h).elim before again, ih, List.filter_singleton]
          simp [before]

theorem distinct_of_nodup (nodup : keys.Nodup) : distinct keys = keys := by
  induction keys using List.reverseRecOn with
  | nil => rfl
  | append_singleton keys key ih =>
      obtain ⟨nodup, -, new⟩ := List.nodup_append.mp nodup
      have notSeen : key ∉ distinct keys := fun seen =>
        new key (mem_distinct.mp seen) key (List.mem_singleton_self key) rfl
      rw [distinct_concat, if_neg (by simpa using notSeen), ih nodup]

/-- Distinct keys are required in the order of their declarations. -/
theorem required_ofDeclarations_of_nodup {α : Type} {declarations : List (Declaration α)}
    (nodup : (declarations.map (·.key)).Nodup) :
    (Fields.ofDeclarations declarations).required =
      (declarations.filter (·.required)).map (·.key) :=
  distinct_of_nodup (nodup.sublist (List.filter_sublist.map _))

/-! ## What a listing says -/

/-- An input of a schema: the variable that describes it, the type that is stated for it, and
whether it has to be supplied. -/
structure Input where
  described : Variable
  kind : String
  required : Bool

/-- A variable as an input of its own type. -/
def Input.ofVariable (v : Variable) : Input :=
  ⟨v, v.kind, v.required⟩

/-- The identifiers of the inputs that have to be supplied, in order. -/
def requiredKeys (inputs : List Input) : List String :=
  (inputs.filter (·.required)).map (·.described.identifier)

/-- The attributes under which a schema describes a variable: three that are always there and three
that are there only if the variable says something about them. -/
structure Describes (v : Variable) (kind : String) (attributes : List (String × Json)) :
    Prop where
  keys : Members.keys attributes =
    ["title", "description", "type"] ++ (if v.defaultValue = none then [] else ["default"]) ++
      (if v.validValues.getD [] = [] then [] else ["enum"]) ++
      (if v.hidden then ["readOnly"] else [])
  title : ("title", .string v.title) ∈ attributes
  description : ("description", .string v.description) ∈ attributes
  kind : ("type", .string kind) ∈ attributes
  default : ∀ value, v.defaultValue = some value → ("default", .string value) ∈ attributes
  choices : ∀ values, v.validValues = some values → values ≠ [] →
    ("enum", .array (values.map .string)) ∈ attributes
  readOnly : v.hidden = true → ("readOnly", .bool true) ∈ attributes

/-- The properties are the inputs in order, each under its identifier, with no key twice. -/
structure Lists (inputs : List Input) (properties : List (String × Json)) : Prop where
  each : List.Forall₂ (fun input property =>
    property.1 = input.described.identifier ∧
      ∃ attributes, property.2 = .object attributes ∧
        Describes input.described input.kind attributes) inputs properties
  distinct : (Members.keys properties).Nodup

/-- The property for the policy's own variables: none if there are none, otherwise an object schema
that lists them. -/
inductive ListsGroup : List Variable → List (String × Json) → Prop
  | absent : ListsGroup [] []
  | present {policyVariables : List Variable} {properties : List (String × Json)} :
      policyVariables ≠ [] → Lists (policyVariables.map .ofVariable) properties →
      ListsGroup policyVariables [("variables", .object [
        ("type", .string "object"),
        ("properties", .object properties),
        ("required", .array ((requiredKeys (policyVariables.map .ofVariable)).map .string))])]

/-- The inputs at the root before the group: the reserved ones that the configuration includes, and
those of its own. -/
def rootInputs (configuration : Configuration) (id annotations branch : Variable)
    (own : List Variable) : List Input :=
  (if configuration.includeIdentifier then [⟨id, "string", true⟩] else []) ++
    (if configuration.includeAnnotations then [⟨annotations, "object", false⟩] else []) ++
    (if configuration.defaultBranch? = none then [⟨branch, "string", true⟩] else []) ++
    own.map .ofVariable

/-! ## Declarations of inputs -/

/-- The declaration of an input, with what is said of it wrapped as it is needed. -/
def Input.declaration {α : Type} (wrap : Property → α) (input : Input) : Declaration α :=
  ⟨input.described.identifier, wrap (.ofVariable input.described input.kind), input.required⟩

theorem describes_ofVariable (v : Variable) (kind : String) :
    ∃ attributes, (Property.ofVariable v kind).toJson = .object attributes ∧
      Describes v kind attributes := by
  refine ⟨_, rfl, ?keys, ?title, ?description, ?kind, ?default, ?choices, ?readOnly⟩
  case keys =>
    rw [Members.keys, List.map_append, List.map_append, List.map_append]
    congr 1
    · congr 1
      · congr 1
        cases given : v.defaultValue <;> simp [Property.ofVariable, given]
      · cases given : v.validValues.getD [] <;> simp [Property.ofVariable, given]
    · cases given : v.hidden <;> simp [Property.ofVariable, given]
  case default =>
    intro value given
    simp [Property.ofVariable, given]
  case choices =>
    intro values given nonempty
    simp [Property.ofVariable, given, nonempty]
  case readOnly =>
    intro isHidden
    simp [Property.ofVariable, isHidden]
  all_goals simp [Property.ofVariable]

theorem map_key_declaration {α : Type} (wrap : Property → α) (inputs : List Input) :
    (inputs.map (Input.declaration wrap)).map (·.key) =
      inputs.map (·.described.identifier) := by
  rw [List.map_map]
  rfl

theorem required_declaration {α : Type} (wrap : Property → α) (inputs : List Input) :
    ((inputs.map (Input.declaration wrap)).filter (·.required)).map (·.key) =
      requiredKeys inputs := by
  rw [List.filter_map, List.map_map]
  rfl

/-- Distinct inputs that are declared one after the other are listed as they are. -/
theorem lists_declaration {α : Type} (wrap : Property → α) (toJson : α → Json)
    (unwrap : ∀ property, toJson (wrap property) = property.toJson) {inputs : List Input}
    (nodup : (inputs.map (·.described.identifier)).Nodup) :
    Lists inputs ((inputs.map (Input.declaration wrap)).map fun d => (d.key, toJson d.entry)) where
  each := by
    rw [List.map_map, List.forall₂_map_right_iff, List.forall₂_same]
    intro input _
    obtain ⟨attributes, isObject, describes⟩ :=
      describes_ofVariable input.described input.kind
    exact ⟨rfl, attributes, (unwrap _).trans isObject, describes⟩
  distinct := by
    rw [Members.keys, List.map_map, List.map_map]
    exact nodup

/-! ## Variables in the order of the document -/

theorem identifiers_hydrateInto_eq_distinct {reserved : Option ReservedVariables}
    {known hydrated : List Variable} {entries : List (String × Json)}
    (nodup : (identifiers known).Nodup)
    (h : Configuration.hydrateInto reserved known entries = .ok hydrated) :
    identifiers hydrated = distinct (identifiers known ++ Members.keys entries) := by
  rw [distinct, List.foldl_append]
  change _ = (Members.keys entries).foldl _ (distinct (identifiers known))
  rw [distinct_of_nodup nodup]
  clear nodup
  induction entries generalizing known with
  | nil =>
      cases h
      rfl
  | cons entry more ih =>
      obtain ⟨identifier, value⟩ := entry
      rw [Configuration.hydrateInto] at h
      split at h
      · cases h
      · rw [ih h, Configuration.identifiers_placeVariable,
          Configuration.identifier_applyTo_baseOf, Members.keys, Members.keys, List.map_cons,
          List.foldl_cons]
        simp only [List.contains_iff_mem]

/-! ## The schema of a configuration -/

theorem declareReserved_eq {included : Bool} {key kind : String} {required : Bool} {v : Variable}
    (carries : v.identifier = key) (found : configuration.reserved? key = some v) :
    declareReserved configuration included key kind required =
      (if included then [⟨v, kind, required⟩] else []).map (Input.declaration .input) := by
  cases included with
  | false => rfl
  | true =>
      rw [declareReserved_of_included found, ← carries]
      rfl

section

variable {id annotations branch : Variable} {own : List Variable}
  (slots : configuration.templateVariables = id :: annotations :: branch :: own)
  (carry : identifiers [id, annotations, branch] = reservedIdentifiers)

include slots carry

theorem ownTemplateVariables_eq (notReserved : ∀ v ∈ own, v.identifier ∉ reservedIdentifiers) :
    ownTemplateVariables configuration = own := by
  have slotsReserved : ∀ v ∈ [id, annotations, branch], v.identifier ∈ reservedIdentifiers :=
    fun v inSlots => carry ▸ List.mem_map_of_mem inSlots
  have front : [id, annotations, branch].filter (fun v => !Variable.isReserved v.identifier) =
      [] := by
    simpa [List.filter_eq_nil_iff, Variable.isReserved] using slotsReserved
  have back : own.filter (fun v => !Variable.isReserved v.identifier) = own := by
    simpa [List.filter_eq_self, Variable.isReserved] using notReserved
  have split : configuration.templateVariables = [id, annotations, branch] ++ own := slots
  rw [ownTemplateVariables, split, List.filter_append, front, back, List.nil_append]

/-- What a configuration declares are its inputs at the root, and behind them the group. -/
theorem declarations_eq (notReserved : ∀ v ∈ own, v.identifier ∉ reservedIdentifiers) :
    declarations configuration =
      (rootInputs configuration id annotations branch own).map (Input.declaration .input) ++
        declareGroup configuration.policyVariables := by
  obtain ⟨isId, isAnnotations, isBranch⟩ : id.identifier = "id" ∧
      annotations.identifier = "annotations" ∧ branch.identifier = "branch" := by
    simpa [identifiers, reservedIdentifiers] using carry
  have found {key : String} {v : Variable} (inSlots : [id, annotations, branch].find?
      (fun v => v.identifier == key) = some v) : configuration.reserved? key = some v := by
    rw [Configuration.reserved?, slots]
    exact inSlots
  rw [declarations, declareReserved_eq isId (found (by simp [isId])),
    declareReserved_eq isAnnotations (found (by simp [isId, isAnnotations])),
    declareReserved_eq isBranch (found (by simp [isId, isAnnotations, isBranch])),
    ownTemplateVariables_eq slots carry notReserved, rootInputs, List.map_append, List.map_append,
    List.map_append, List.map_map]
  simp only [Configuration.includePolicyBranch, Option.isNone_iff_eq_none]
  rfl

end

/-- The slots of a hydrated template section, and behind them the variables of the entries that are
not for a slot. -/
theorem exists_slots {reserved : ReservedVariables} {hydrated : List Variable}
    {entries : Option (List (String × Json))} (carry : reserved.CarryIdentifiers)
    (h : Configuration.hydrate (some reserved) entries = .ok hydrated) :
    ∃ id annotations branch own, hydrated = id :: annotations :: branch :: own ∧
      identifiers [id, annotations, branch] = reservedIdentifiers ∧
      identifiers own = (distinct (Members.keys (entries.getD []))).filter
        fun key => decide (key ∉ reservedIdentifiers) := by
  have slots : identifiers reserved.toList = reservedIdentifiers :=
    Configuration.identifiers_toList carry
  have nodup : reservedIdentifiers.Nodup := by decide
  have order : identifiers hydrated =
      distinct (identifiers reserved.toList ++ Members.keys (entries.getD [])) :=
    identifiers_hydrateInto_eq_distinct (slots.symm ▸ nodup) h
  rw [slots, distinct_append, distinct_of_nodup nodup] at order
  obtain ⟨front, own, rfl, isFront, isOwn⟩ := List.map_eq_append_iff.mp order
  have three : front.length = 3 := by
    simpa [reservedIdentifiers] using congrArg List.length isFront
  obtain ⟨id, annotations, branch, rfl⟩ := List.length_eq_three.mp three
  exact ⟨id, annotations, branch, own, rfl, isFront, isOwn⟩

theorem described_rootInputs_sublist (configuration : Configuration)
    (id annotations branch : Variable) (own : List Variable) :
    ((rootInputs configuration id annotations branch own).map (·.described)).Sublist
      (id :: annotations :: branch :: own) := by
  have part (included : Prop) [Decidable included] (input : Input) :
      ((if included then [input] else []).map (·.described)).Sublist [input.described] := by
    split
    · exact List.Sublist.refl _
    · exact List.nil_sublist _
  have itself : (own.map Input.ofVariable).map (·.described) = own := by
    rw [List.map_map]
    exact List.map_id own
  rw [rootInputs, List.map_append, List.map_append, List.map_append, itself]
  exact (((part _ ⟨id, "string", true⟩).append (part _ ⟨annotations, "object", false⟩)).append
    (part _ ⟨branch, "string", true⟩)).append (List.Sublist.refl own)

/-! ## The group -/

variable {policyVariables : List Variable}

theorem map_declare (policyVariables : List Variable) :
    policyVariables.map declare =
      (policyVariables.map Input.ofVariable).map (Input.declaration fun property => property) := by
  rw [List.map_map]
  rfl

theorem identifiers_map_ofVariable (policyVariables : List Variable) :
    (policyVariables.map Input.ofVariable).map (·.described.identifier) =
      identifiers policyVariables := by
  rw [List.map_map]
  rfl

theorem nodup_keys_map_declare (nodup : (identifiers policyVariables).Nodup) :
    ((policyVariables.map declare).map (·.key)).Nodup := by
  rwa [map_declare, map_key_declaration, identifiers_map_ofVariable]

theorem required_variableGroup (nodup : (identifiers policyVariables).Nodup) :
    (variableGroup policyVariables).required =
      requiredKeys (policyVariables.map .ofVariable) := by
  rw [variableGroup, required_ofDeclarations_of_nodup (nodup_keys_map_declare nodup), map_declare,
    required_declaration]

theorem listsGroup_declareGroup (nodup : (identifiers policyVariables).Nodup) :
    ListsGroup policyVariables
      ((declareGroup policyVariables).map fun d => (d.key, d.entry.toJson)) := by
  rw [declareGroup]
  split
  · next isEmpty =>
    rw [List.isEmpty_iff.mp isEmpty]
    exact .absent
  · next notEmpty =>
    have lists : Lists (policyVariables.map Input.ofVariable)
        ((variableGroup policyVariables).properties.map fun member =>
          (member.1, member.2.toJson)) := by
      rw [variableGroup, properties_ofDeclarations_of_nodup (nodup_keys_map_declare nodup),
        map_declare, List.map_map]
      exact lists_declaration _ _ (fun _ => rfl) (identifiers_map_ofVariable _ ▸ nodup)
    have group := ListsGroup.present (by simpa using notEmpty) lists
    rw [← required_variableGroup nodup] at group
    exact group

theorem required_declareGroup (policyVariables : List Variable) :
    ((declareGroup policyVariables).filter (·.required)).map (·.key) =
      if ∃ v ∈ policyVariables, v.required then ["variables"] else [] := by
  have isRequired : (!(variableGroup policyVariables).required.isEmpty) = true ↔
      ∃ v ∈ policyVariables, v.required := by
    rw [Bool.not_eq_true', List.isEmpty_eq_false_iff_exists_mem]
    simp only [variableGroup, mem_required_ofDeclarations, List.mem_map]
    constructor
    · rintro ⟨key, d, ⟨v, inVariables, rfl⟩, required, -⟩
      exact ⟨v, inVariables, required⟩
    · rintro ⟨v, inVariables, required⟩
      exact ⟨v.identifier, declare v, ⟨v, inVariables, rfl⟩, required, rfl⟩
  rw [declareGroup]
  split
  · next isEmpty =>
    rw [List.isEmpty_iff.mp isEmpty]
    rfl
  · by_cases some : ∃ v ∈ policyVariables, v.required
    · simp [isRequired.mpr some, if_pos some]
    · simp [eq_false_of_ne_true (mt isRequired.mp some), if_neg some]

/-! ## Whole schemas -/

theorem identifiers_rootInputs_sublist {id annotations branch : Variable} {own : List Variable}
    (slots : configuration.templateVariables = id :: annotations :: branch :: own) :
    ((rootInputs configuration id annotations branch own).map
      (·.described.identifier)).Sublist (identifiers configuration.templateVariables) := by
  have described := (described_rootInputs_sublist configuration id annotations branch own).map
    (·.identifier)
  rwa [List.map_map, ← slots] at described

theorem nodup_keys_declareGroup (policyVariables : List Variable) :
    ((declareGroup policyVariables).map (·.key)).Nodup := by
  rw [declareGroup]
  split
  · exact List.nodup_nil
  · exact List.nodup_singleton _

/-- No key is declared twice: the group has a key that no input at the root uses. -/
theorem nodup_keys_declarations {id annotations branch : Variable} {own : List Variable}
    (slots : configuration.templateVariables = id :: annotations :: branch :: own)
    (carry : identifiers [id, annotations, branch] = reservedIdentifiers)
    (notReserved : ∀ v ∈ own, v.identifier ∉ reservedIdentifiers)
    (nodupTemplate : (identifiers configuration.templateVariables).Nodup)
    (free : "variables" ∉ identifiers configuration.templateVariables) :
    ((declarations configuration).map (·.key)).Nodup := by
  have rootsListed := identifiers_rootInputs_sublist slots
  rw [declarations_eq slots carry notReserved, List.map_append, map_key_declaration]
  refine List.nodup_append.mpr ⟨rootsListed.nodup nodupTemplate, nodup_keys_declareGroup _, ?_⟩
  intro key inRoots other inGroup same
  obtain ⟨d, isGroup, rfl⟩ := List.mem_map.mp inGroup
  rw [same, key_of_mem_declareGroup isGroup] at inRoots
  exact free (rootsListed.subset inRoots)

/-- The slots and the distinct identifiers are all that a schema needs to be the listing of its
inputs. -/
theorem exists_listing {id annotations branch : Variable} {own : List Variable}
    (slots : configuration.templateVariables = id :: annotations :: branch :: own)
    (carry : identifiers [id, annotations, branch] = reservedIdentifiers)
    (notReserved : ∀ v ∈ own, v.identifier ∉ reservedIdentifiers)
    (nodupTemplate : (identifiers configuration.templateVariables).Nodup)
    (nodupPolicy : (identifiers configuration.policyVariables).Nodup)
    (free : "variables" ∉ identifiers configuration.templateVariables) :
    ∃ properties group,
      Lists (rootInputs configuration id annotations branch own) properties ∧
      ListsGroup configuration.policyVariables group ∧
      (Members.keys (properties ++ group)).Nodup ∧
      (ofConfiguration configuration).toJson = .object [
        ("$schema", .string draft),
        ("type", .string "object"),
        ("title", .string configuration.title),
        ("description", .string configuration.description),
        ("properties", .object (properties ++ group)),
        ("required", .array ((
          requiredKeys (rootInputs configuration id annotations branch own) ++
            if ∃ v ∈ configuration.policyVariables, v.required then ["variables"]
            else []).map .string))] := by
  have declared := declarations_eq slots carry notReserved
  have rootsNodup := (identifiers_rootInputs_sublist slots).nodup nodupTemplate
  have keysNodup := nodup_keys_declarations slots carry notReserved nodupTemplate free
  have properties : (ofConfiguration configuration).fields.properties.map
      (fun member => (member.1, member.2.toJson)) =
      ((rootInputs configuration id annotations branch own).map
        (Input.declaration Entry.input)).map (fun d => (d.key, d.entry.toJson)) ++
      (declareGroup configuration.policyVariables).map fun d => (d.key, d.entry.toJson) := by
    rw [ofConfiguration, properties_ofDeclarations_of_nodup keysNodup, List.map_map, declared,
      List.map_append]
    rfl
  have required : (ofConfiguration configuration).fields.required =
      requiredKeys (rootInputs configuration id annotations branch own) ++
        if ∃ v ∈ configuration.policyVariables, v.required then ["variables"] else [] := by
    rw [ofConfiguration, required_ofDeclarations_of_nodup keysNodup, declared,
      List.filter_append, List.map_append, required_declaration, required_declareGroup]
  refine ⟨_, _, lists_declaration Entry.input Entry.toJson (fun _ => rfl) rootsNodup,
    listsGroup_declareGroup nodupPolicy, ?nodup, ?document⟩
  case nodup =>
    rw [← List.map_append, ← declared, Members.keys, List.map_map]
    exact keysNodup
  case document =>
    rw [← properties, ← required]
    rfl

/-- The schema of a configuration lists exactly the inputs that it declares, in order: the reserved
ones that it includes, those of the template section that are not reserved, and the group. The
identifiers of both sections come in the order of the document. -/
theorem toJson_lists {template : Option String} {document : Json} {catalog : Catalog}
    {reserved : ReservedVariables} (carry : reserved.CarryIdentifiers)
    (built : Configuration.build template document catalog reserved = .ok configuration)
    (free : "variables" ∉ identifiers configuration.templateVariables) :
    ∃ id annotations branch own properties group,
      configuration.templateVariables = id :: annotations :: branch :: own ∧
      identifiers [id, annotations, branch] = reservedIdentifiers ∧
      identifiers own =
        (distinct (Members.keys (sectionEntries "policy_template_variables" document))).filter
          (fun key => decide (key ∉ reservedIdentifiers)) ∧
      identifiers configuration.policyVariables =
        distinct (Members.keys (sectionEntries "variables" document)) ∧
      Lists (rootInputs configuration id annotations branch own) properties ∧
      ListsGroup configuration.policyVariables group ∧
      (Members.keys (properties ++ group)).Nodup ∧
      (ofConfiguration configuration).toJson = .object [
        ("$schema", .string draft),
        ("type", .string "object"),
        ("title", .string configuration.title),
        ("description", .string configuration.description),
        ("properties", .object (properties ++ group)),
        ("required", .array ((
          requiredKeys (rootInputs configuration id annotations branch own) ++
            if ∃ v ∈ configuration.policyVariables, v.required then ["variables"]
            else []).map .string))] := by
  cases document with
  | object members =>
    obtain ⟨settings, source, isBuilt⟩ := Configuration.exists_isBuiltFrom built
    obtain ⟨id, annotations, branch, own, slots, carries, ownOrder⟩ :=
      exists_slots carry isBuilt.templateVariables_ok
    have notReserved : ∀ v ∈ own, v.identifier ∉ reservedIdentifiers := by
      intro v inOwn
      have kept : v.identifier ∈ identifiers own := List.mem_map_of_mem inOwn
      rw [ownOrder] at kept
      exact of_decide_eq_true (List.mem_filter.mp kept).2
    have policyOrder : identifiers configuration.policyVariables =
        distinct (identifiers [] ++ Members.keys (settings.policyVariables.getD [])) :=
      identifiers_hydrateInto_eq_distinct List.nodup_nil isBuilt.policyVariables_ok
    rw [Configuration.Settings.belongs_templateVariables.getD_eq_sectionEntries rfl
      isBuilt.settings_ok] at ownOrder
    rw [Configuration.Settings.belongs_policyVariables.getD_eq_sectionEntries rfl
      isBuilt.settings_ok] at policyOrder
    obtain ⟨properties, group, lists, listsGroup, nodup, isListing⟩ :=
      exists_listing slots carries notReserved
        (Configuration.nodup_hydrate_some carry isBuilt.templateVariables_ok)
        (Configuration.nodup_hydrate_none isBuilt.policyVariables_ok) free
    exact ⟨id, annotations, branch, own, properties, group, slots, carries, ownOrder, policyOrder,
      lists, listsGroup, nodup, isListing⟩
  | _ => cases built

/-- Settings that leave one reserved input out, describe another one anew and declare variables of
both kinds, one of the policy's own under a reserved identifier. -/
def crowded : Json :=
  .object [
    ("include-annotations", .bool false),
    ("policy-template-variables", .object [
      ("size", .object [("required", .bool true), ("valid-values", .array [.string "s"])]),
      ("id", .object [("hidden", .bool true)])]),
    ("variables", .object [("url", .null), ("id", .object [("required", .bool true)])])]

theorem toJson_lists_crowded :
    ∃ configuration id annotations branch own properties group,
      Configuration.build (some "- !host") crowded .empty .standard = .ok configuration ∧
      configuration.templateVariables = id :: annotations :: branch :: own ∧
      identifiers own = ["size"] ∧
      Lists ([⟨id, "string", true⟩, ⟨branch, "string", true⟩] ++ own.map .ofVariable)
        properties ∧
      (ofConfiguration configuration).toJson = .object [
        ("$schema", .string draft),
        ("type", .string "object"),
        ("title", .string ""),
        ("description", .string ""),
        ("properties", .object (properties ++ group)),
        ("required", .array (["id", "branch", "size", "variables"].map .string))] := by
  obtain ⟨configuration, built⟩ : ∃ configuration,
      Configuration.build (some "- !host") crowded .empty .standard = .ok configuration := ⟨_, rfl⟩
  have isBuilt := built
  cases built
  obtain ⟨id, annotations, branch, own, properties, group, slots, -, order, -, lists, -, -,
    isListing⟩ := toJson_lists ⟨rfl, rfl, rfl⟩ isBuilt (by decide)
  refine ⟨_, id, annotations, branch, own, properties, group, isBuilt, slots, order, ?_, ?_⟩
  · cases slots
    exact lists
  · cases slots
    exact isListing

end Schema

end FactoryBundler
