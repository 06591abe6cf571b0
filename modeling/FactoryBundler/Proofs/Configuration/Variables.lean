import FactoryBundler.Proofs.Configuration.Filling
import FactoryBundler.Proofs.Schema.Listing

/-!
# Variables of a configuration

Every variable starts from what is known of its identifier: a reserved variable from its slot, any
other from nothing but the identifier. The last entry under the identifier is laid over that,
attribute by attribute: what the entry gives takes the place of the attribute, and what it does not
give is kept. Where among the other entries it stands makes no difference to the variable.
-/

namespace FactoryBundler.Configuration

open Variable (identifiers reservedIdentifiers)
open Schema (distinct)

/-! ## Attributes -/

/-- The attributes that a variable has besides its identifier. -/
inductive Attribute where
  | title
  | description
  | defaultValue
  | validValues
  | required
  | hidden
  | kind
deriving Repr, DecidableEq

namespace Attribute

/-- What the values of an attribute are. -/
def Value : Attribute → Type
  | title | description | defaultValue | kind => String
  | validValues => List String
  | required | hidden => Bool

/-- The key of an attribute, with underscores. -/
def key : Attribute → String
  | title => "title"
  | description => "description"
  | defaultValue => "default"
  | validValues => "valid_values"
  | required => "required"
  | hidden => "hidden"
  | kind => "type"

/-- What is made of the value under the key of an field. -/
def coerce : (field : Attribute) → Json → Except Failure (Option field.Value)
  | title | description | defaultValue | kind => text
  | validValues => textList
  | required | hidden => boolean

/-- The value that is among given attributes. -/
def held : (field : Attribute) → Attributes → Option field.Value
  | title => Attributes.title
  | description => Attributes.description
  | defaultValue => Attributes.defaultValue
  | validValues => Attributes.validValues
  | required => Attributes.required
  | hidden => Attributes.hidden
  | kind => Attributes.kind

/-- The value that a variable has. -/
def has : (field : Attribute) → Variable → Option field.Value
  | title => Variable.explicitTitle
  | description => fun v => some v.description
  | defaultValue => Variable.defaultValue
  | validValues => Variable.validValues
  | required => fun v => some v.required
  | hidden => fun v => some v.hidden
  | kind => fun v => some v.kind

variable (field : Attribute) {attributes : Attributes} {base v : Variable} {value : Json}
  {entry : Option Json}

theorem fieldOf : FieldOf Attributes.set field.key field.coerce field.held where
  own isSet := by
    rw [Attributes.set_eq_change] at isSet
    obtain ⟨f, changes, rfl⟩ := Except.map_eq_ok_iff.mp isSet
    cases field
    all_goals
      obtain ⟨coerced, isValue, rfl⟩ := Except.map_eq_ok_iff.mp changes
      exact isValue
  others different isSet := by
    rw [Attributes.set_eq_change] at isSet
    obtain ⟨f, changes, rfl⟩ := Except.map_eq_ok_iff.mp isSet
    cases field <;> cases Attributes.changes_of_change changes
    all_goals first | rfl | contradiction

theorem has_applyTo : field.has (attributes.applyTo base) =
    (field.held attributes).or (field.has base) := by
  cases field with
  | title => exact Option.orElse_eq_or ..
  | defaultValue => exact Option.orElse_eq_or ..
  | validValues => exact Option.orElse_eq_or ..
  | description => exact Option.or_some.symm
  | required => exact Option.or_some.symm
  | hidden => exact Option.or_some.symm
  | kind => exact Option.or_some.symm

/-- Null says nothing, and whatever can be coerced and is not null says something. -/
theorem coerce_eq_ok_none_iff : field.coerce value = .ok none ↔ value = .null := by
  have text_iff : text value = .ok none ↔ value = .null := by
    cases value <;> simp [text]
  have boolean_iff : boolean value = .ok none ↔ value = .null := by
    cases value with
    | string word =>
        rw [boolean]
        cases booleanWord? word <;> simp
    | _ => simp [boolean]
  have textList_iff : textList value = .ok none ↔ value = .null := by
    cases value with
    | array items =>
        rw [textList]
        cases entries items <;> simp [Except.map]
    | _ => simp [textList, text, Except.map]
  cases field with
  | title | description | defaultValue | kind => exact text_iff
  | validValues => exact textList_iff
  | required | hidden => exact boolean_iff

/-- An entry gives a value for an attribute: the last one under any spelling of its key, unless that
is null. -/
def Gives (entry : Option Json) (value : Json) : Prop :=
  ∃ members, entry = some (.object members) ∧ lastSpelled field.key members = some value ∧
    value ≠ .null

theorem gives_object_iff {members : List (String × Json)} :
    field.Gives (some (.object members)) value ↔
      lastSpelled field.key members = some value ∧ value ≠ .null := by
  constructor
  · rintro ⟨_, isObject, given⟩
    cases isObject
    exact given
  · exact fun given => ⟨members, rfl, given⟩

/-- An attribute of a variable that an entry is laid over: what the entry gives for it, or what it
was before. -/
inductive IsLaidOver (entry : Option Json) (base v : Variable) : Prop
  | given {value : Json} {now : field.Value} (gives : field.Gives entry value)
      (isValue : field.coerce value = .ok (some now)) (now_eq : field.has v = some now)
  | kept (notGiven : ∀ value, ¬ field.Gives entry value) (same : field.has v = field.has base)

/-- What attributes hold is what is made of the values that their entry gives. -/
theorem held_eq_none_or {entry : Json} (isAttributes : attributesOf entry = .ok attributes) :
    (field.held attributes = none ∧ ∀ value, ¬ field.Gives (some entry) value) ∨
      ∃ value, field.Gives (some entry) value ∧
        field.coerce value = .ok (field.held attributes) := by
  cases entry with
  | null =>
      cases isAttributes
      refine Or.inl ⟨by cases field <;> rfl, ?_⟩
      rintro value ⟨members, isObject, -⟩
      cases isObject
  | object members =>
      rw [attributesOf, Except.mapError_eq_ok_iff, Attributes.ofMembers,
        Attributes.setAll_eq_fill] at isAttributes
      cases spelled : lastSpelled field.key members with
      | none =>
          have unset := field.fieldOf.fill_respell_none spelled isAttributes
          refine Or.inl ⟨unset.trans (by cases field <;> rfl), fun value gives => ?_⟩
          cases spelled.symm.trans (field.gives_object_iff.mp gives).1
      | some value =>
          have coerced := field.fieldOf.fill_respell_some spelled isAttributes
          by_cases isNull : value = .null
          · rw [field.coerce_eq_ok_none_iff.mpr isNull] at coerced
            refine Or.inl ⟨(Except.ok.inj coerced).symm, fun other gives => ?_⟩
            obtain ⟨given, notNull⟩ := field.gives_object_iff.mp gives
            cases spelled.symm.trans given
            exact notNull isNull
          · exact Or.inr ⟨value, field.gives_object_iff.mpr ⟨spelled, isNull⟩, coerced⟩
  | _ => cases isAttributes

/-- The attributes of an entry, laid over a base. -/
theorem isLaidOver_applyTo {entry : Json} (isAttributes : attributesOf entry = .ok attributes)
    (base : Variable) :
    field.IsLaidOver (some entry) base (attributes.applyTo base) := by
  rcases field.held_eq_none_or isAttributes with ⟨notHeld, notGiven⟩ | ⟨value, gives, coerced⟩
  · refine .kept notGiven ?_
    rw [has_applyTo, notHeld, Option.none_or]
  · cases held : field.held attributes with
    | none =>
        rw [held, coerce_eq_ok_none_iff] at coerced
        obtain ⟨-, -, -, notNull⟩ := gives
        exact absurd coerced notNull
    | some now =>
        refine .given gives (held ▸ coerced) ?_
        rw [has_applyTo, held, Option.some_or]

theorem isLaidOver_none : field.IsLaidOver none base base := by
  refine .kept ?_ rfl
  rintro value ⟨members, isObject, -⟩
  cases isObject

end Attribute

/-! ## Hydrated variables -/

/-- A variable is what an entry, if there is one, makes of a base. -/
structure IsMadeFrom (base : Variable) (entry : Option Json) (v : Variable) : Prop where
  identifier_eq : v.identifier = base.identifier
  isLaidOver : ∀ field : Attribute, field.IsLaidOver entry base v

section

variable {reserved : Option ReservedVariables} {known hydrated : List Variable} {v : Variable}
  {entries : List (String × Json)}

theorem not_mem_keys_of_lastEntry {identifier : String}
    (none : lastEntry identifier entries = none) : identifier ∉ Members.keys entries := by
  have absent := not_mem_keys_of_lookup none
  rwa [Members.keys, List.map_reverse, List.mem_reverse] at absent

/-- If every variable of the start is what its identifier starts from, every hydrated variable is
made from what its identifier starts from by the last entry under its identifier. -/
theorem isMadeFrom_of_mem_hydrateInto
    (start : ∀ base ∈ known, baseOf reserved base.identifier = base)
    (nodup : (identifiers hydrated).Nodup)
    (isHydrated : hydrateInto reserved known entries = .ok hydrated) (inHydrated : v ∈ hydrated) :
    IsMadeFrom (baseOf reserved v.identifier) (lastEntry v.identifier entries) v := by
  cases given : lastEntry v.identifier entries with
  | none =>
      -- Without an entry the variable is there from the start, and nothing takes its place.
      have noEntry := not_mem_keys_of_lastEntry given
      have inKnown := ((mem_identifiers_hydrateInto isHydrated _).mp
        (List.mem_map_of_mem inHydrated)).resolve_right noEntry
      obtain ⟨base, baseInKnown, same⟩ := List.mem_map.mp inKnown
      have isKept := mem_hydrateInto_of_not_mem_keys baseInKnown (same ▸ noEntry) isHydrated
      obtain rfl := List.inj_on_of_nodup_map nodup isKept inHydrated same
      rw [start base baseInKnown]
      exact ⟨rfl, fun field => field.isLaidOver_none⟩
  | some entry =>
      obtain ⟨attributes, isAttributes, isLaid⟩ := exists_mem_hydrateInto given isHydrated
      have carries : (attributes.applyTo (baseOf reserved v.identifier)).identifier =
          v.identifier := identifier_applyTo_baseOf attributes v.identifier
      have same := List.inj_on_of_nodup_map nodup isLaid inHydrated carries
      refine ⟨carries.symm, fun field => ?_⟩
      have isLaidOver := field.isLaidOver_applyTo isAttributes (baseOf reserved v.identifier)
      rwa [same] at isLaidOver

end

/-! ## Variables of accepted configurations -/

section

variable {reserved : ReservedVariables} {configuration : Configuration} {v : Variable}
  {identifier : String}

theorem reserved?_eq_some_iff
    (first : reservedIdentifiers <+: identifiers configuration.templateVariables)
    (nodup : (identifiers configuration.templateVariables).Nodup) :
    configuration.reserved? identifier = some v ↔ identifier ∈ reservedIdentifiers ∧
      v ∈ configuration.templateVariables ∧ v.identifier = identifier := by
  have slots : identifiers (configuration.templateVariables.take reservedIdentifiers.length) =
      reservedIdentifiers := by
    rw [identifiers, List.map_take]
    exact (List.prefix_iff_eq_take.mp first).symm
  have isSlot {v : Variable} (found : configuration.reserved? identifier = some v) :
      identifier ∈ reservedIdentifiers ∧ v ∈ configuration.templateVariables ∧
        v.identifier = identifier := by
    have inSlots := List.mem_of_find?_eq_some found
    have carries : v.identifier = identifier := by simpa using List.find?_some found
    refine ⟨?_, List.mem_of_mem_take inSlots, carries⟩
    rw [← slots, ← carries]
    exact List.mem_map_of_mem inSlots
  refine ⟨isSlot, ?_⟩
  rintro ⟨isReserved, inTemplate, carries⟩
  obtain ⟨w, found⟩ := exists_reserved? first identifier isReserved
  obtain ⟨-, inTemplate', carries'⟩ := isSlot found
  have same := List.inj_on_of_nodup_map nodup inTemplate' inTemplate (carries'.trans carries.symm)
  rw [found, same]

/-- The variables that a document and the reserved variables make: in the template section the
reserved ones and behind them those of the other keys in order, in the section of the policy those
of its keys in order, each made from what is known of its identifier by the last entry under it. A
key that is repeated counts where it comes first. -/
structure HasVariables (document : Json) (reserved : ReservedVariables)
    (configuration : Configuration) : Prop where
  identifiers_templateVariables : identifiers configuration.templateVariables =
    reservedIdentifiers ++
      (distinct (Members.keys (sectionEntries "policy_template_variables" document))).filter
        fun key => decide (key ∉ reservedIdentifiers)
  nodup : (identifiers configuration.templateVariables).Nodup
  identifiers_policyVariables : identifiers configuration.policyVariables =
    distinct (Members.keys (sectionEntries "variables" document))
  exists_reserved : ∀ base ∈ reserved.toList, ∃ v ∈ configuration.templateVariables,
    IsMadeFrom base
      (lastEntry base.identifier (sectionEntries "policy_template_variables" document)) v
  own_templateVariables : ∀ v ∈ configuration.templateVariables,
    v.identifier ∉ reservedIdentifiers → IsMadeFrom (.plain v.identifier)
      (lastEntry v.identifier (sectionEntries "policy_template_variables" document)) v
  policyVariables : ∀ v ∈ configuration.policyVariables, IsMadeFrom (.plain v.identifier)
    (lastEntry v.identifier (sectionEntries "variables" document)) v
  reserved?_iff : ∀ identifier v, configuration.reserved? identifier = some v ↔
    identifier ∈ reservedIdentifiers ∧ v ∈ configuration.templateVariables ∧
      v.identifier = identifier

/-- An accepted configuration has exactly the variables that its document and the reserved variables
make. -/
theorem hasVariables_of_build {template : Option String} {document : Json} {catalog : Catalog}
    (carry : reserved.CarryIdentifiers)
    (built : build template document catalog reserved = .ok configuration) :
    HasVariables document reserved configuration := by
  obtain ⟨policyOk, templateOk⟩ := hydrate_sectionEntries built
  have nodup := nodup_hydrate_some carry templateOk
  have first := reservedIdentifiers_prefix carry templateOk
  have policyHydrated : hydrateInto none [] (sectionEntries "variables" document) =
      .ok configuration.policyVariables := policyOk
  have templateHydrated : hydrateInto (some reserved) reserved.toList
      (sectionEntries "policy_template_variables" document) =
        .ok configuration.templateVariables := templateOk
  have made {v : Variable} (inTemplate : v ∈ configuration.templateVariables) :=
    isMadeFrom_of_mem_hydrateInto (fun base => baseOf_of_mem_toList carry) nodup templateHydrated
      inTemplate
  have nothing : (identifiers []).Nodup := List.nodup_nil
  exact {
    identifiers_templateVariables := by
      obtain ⟨id, annotations, branch, own, slots, carries, ownOrder⟩ :=
        Schema.exists_slots carry templateOk
      rw [Option.getD_some] at ownOrder
      rw [slots, ← ownOrder]
      exact congrArg (· ++ identifiers own) carries
    nodup
    identifiers_policyVariables :=
      Schema.identifiers_hydrateInto_eq_distinct nothing policyHydrated
    exists_reserved := by
      intro base inSlots
      have isReserved : base.identifier ∈ reservedIdentifiers := by
        rw [← identifiers_toList carry]
        exact List.mem_map_of_mem inSlots
      obtain ⟨v, inTemplate, same⟩ := List.mem_map.mp (first.subset isReserved)
      have isMade := made inTemplate
      rw [same, baseOf_of_mem_toList carry inSlots] at isMade
      exact ⟨v, inTemplate, isMade⟩
    own_templateVariables := by
      intro v inTemplate notReserved
      have isMade := made inTemplate
      rwa [baseOf_of_not_mem_reservedIdentifiers notReserved] at isMade
    policyVariables := fun v inPolicy =>
      isMadeFrom_of_mem_hydrateInto (fun _ inNothing => absurd inNothing List.not_mem_nil)
        (nodup_hydrate_none policyOk) policyHydrated inPolicy
    reserved?_iff := fun identifier v => reserved?_eq_some_iff first nodup }

/-- Settings that describe one variable of the template section and lay an entry over a reserved one
behind it, with an attribute that is null, one that is repeated in another spelling, and a truth
value that is written as a word. -/
def layered : Json :=
  .object [
    ("policy-template-variables", .object [
      ("size", .object [("type", .string "number")]),
      ("branch", .object [("title", .string "Branch"), ("description", .null),
        ("valid-values", .null), ("required", .string "True"), ("valid_values", .string "main")])]),
    ("variables", .object [("url", .null), ("id", .object [("hidden", .bool true)])])]

theorem hasVariables_of_build_layered :
    ReservedVariables.standard.CarryIdentifiers ∧ ∃ configuration,
      build (some "- !host") layered .empty .standard = .ok configuration ∧
      identifiers configuration.templateVariables = ["id", "annotations", "branch", "size"] ∧
      identifiers configuration.policyVariables = ["url", "id"] ∧
      configuration.reserved? "size" = none ∧
      configuration.reserved? "branch" = some { ReservedVariables.standard.branch with
        explicitTitle := some "Branch", validValues := some ["main"], required := true } ∧
      IsMadeFrom ReservedVariables.standard.id none ReservedVariables.standard.id := by
  have carry : ReservedVariables.standard.CarryIdentifiers := ⟨rfl, rfl, rfl⟩
  obtain ⟨configuration, built⟩ : ∃ configuration,
      build (some "- !host") layered .empty .standard = .ok configuration := ⟨_, rfl⟩
  have has := hasVariables_of_build carry built
  have templateOrder := has.identifiers_templateVariables
  have policyOrder := has.identifiers_policyVariables
  have notReserved : configuration.reserved? "size" = none := by
    rw [Option.eq_none_iff_forall_ne_some]
    intro v found
    exact absurd ((has.reserved?_iff "size" v).mp found).1 (by decide)
  obtain ⟨v, inTemplate, isMade⟩ := has.exists_reserved ReservedVariables.standard.id (by decide)
  have isBuilt := built
  cases built
  refine ⟨carry, _, isBuilt, templateOrder, policyOrder, notReserved, ?_, ?_⟩
  · rw [has.reserved?_iff]
    exact ⟨by decide, by decide, rfl⟩
  · have found := (has.reserved?_iff "id" v).mpr ⟨by decide, inTemplate, isMade.identifier_eq⟩
    cases found
    exact isMade

end

end FactoryBundler.Configuration
