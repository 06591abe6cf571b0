import FactoryBundler.Configuration

/-!
# Input schemas

The schema of a factory describes the inputs that a caller supplies: the reserved ones that the
configuration includes, the other template variables, and the policy's own variables as one group.
Each input is declared once, in the order of processing; properties and required inputs are read
off the declarations. If one key is declared twice, the property keeps its place and the later
declaration counts.
-/

namespace FactoryBundler

namespace Schema

/-- What a schema says of one input. -/
structure Property where
  title : String
  description : String
  kind : String
  defaultValue : Option String
  /-- The admitted values; none are listed if any will do. -/
  choices : List String
  readOnly : Bool
deriving Repr, DecidableEq

/-- A key with what is said of it, and whether it is required. -/
structure Declaration (α : Type) where
  key : String
  entry : α
  required : Bool
deriving Repr, DecidableEq

/-- Properties in order, and the keys of the required ones. -/
structure Fields (α : Type) where
  properties : List (String × α)
  required : List String
deriving Repr, DecidableEq

/-- The keys without repetitions, each in its first place. -/
def distinct (keys : List String) : List String :=
  keys.foldl (fun seen key => if seen.contains key then seen else seen ++ [key]) []

/-- The fields that declarations amount to. -/
def Fields.ofDeclarations {α : Type} (declarations : List (Declaration α)) : Fields α where
  properties := Members.ofList (declarations.map fun d => (d.key, d.entry))
  required := distinct ((declarations.filter (·.required)).map (·.key))

/-- A root entry: one input, or the group of the policy's own variables. -/
inductive Entry where
  | input (property : Property)
  | group (fields : Fields Property)
deriving Repr, DecidableEq

/-- The property of a variable, with the given type. -/
def Property.ofVariable (v : Variable) (kind : String) : Property where
  title := v.title
  description := v.description
  kind := kind
  defaultValue := v.defaultValue
  choices := v.validValues.getD []
  readOnly := v.hidden

/-- A property as a document. -/
def Property.toJson (property : Property) : Json :=
  .object (
    [("title", .string property.title),
      ("description", .string property.description),
      ("type", .string property.kind)] ++
    (match property.defaultValue with
      | some value => [("default", .string value)]
      | none => []) ++
    (if property.choices.isEmpty then []
      else [("enum", .array (property.choices.map .string))]) ++
    (if property.readOnly then [("readOnly", .bool true)] else []))

/-- A list of keys as a document. -/
def keysToJson (keys : List String) : Json :=
  .array (keys.map .string)

/-- A group as a document. -/
def groupToJson (fields : Fields Property) : Json :=
  .object [
    ("type", .string "object"),
    ("properties", .object (fields.properties.map fun (key, property) => (key, property.toJson))),
    ("required", keysToJson fields.required)]

/-- A root entry as a document. -/
def Entry.toJson : Entry → Json
  | .input property => property.toJson
  | .group fields => groupToJson fields

/-- The declaration of a variable that is not reserved, under its own type. -/
def declare (v : Variable) : Declaration Property :=
  ⟨v.identifier, .ofVariable v v.kind, v.required⟩

/-- The group of the policy's own variables. -/
def variableGroup (policyVariables : List Variable) : Fields Property :=
  .ofDeclarations (policyVariables.map declare)

/-- The declaration of a reserved variable, if it is included. -/
def declareReserved (configuration : Configuration) (included : Bool) (key kind : String)
    (required : Bool) : List (Declaration Entry) :=
  if included then
    match configuration.reserved? key with
    | some v => [⟨key, .input (.ofVariable v kind), required⟩]
    | none => []
  else []

/-- The template variables that are not reserved. -/
def ownTemplateVariables (configuration : Configuration) : List Variable :=
  configuration.templateVariables.filter fun v => !Variable.isReserved v.identifier

/-- The declaration of the group, if there are variables. It is required if one of them is. -/
def declareGroup (policyVariables : List Variable) : List (Declaration Entry) :=
  if policyVariables.isEmpty then []
  else
    let group := variableGroup policyVariables
    [⟨"variables", .group group, !group.required.isEmpty⟩]

/-- The root declarations. A configured branch is fixed, so the caller never supplies it. -/
def declarations (configuration : Configuration) : List (Declaration Entry) :=
  declareReserved configuration configuration.includeIdentifier "id" "string" true ++
    declareReserved configuration configuration.includeAnnotations "annotations" "object" false ++
    declareReserved configuration configuration.includePolicyBranch "branch" "string" true ++
    (ownTemplateVariables configuration).map (fun v =>
      ⟨v.identifier, .input (.ofVariable v v.kind), v.required⟩) ++
    declareGroup configuration.policyVariables

end Schema

/-- The inputs of a factory. -/
structure Schema where
  title : String
  description : String
  fields : Schema.Fields Schema.Entry
deriving Repr, DecidableEq

namespace Schema

/-- The schema of a configuration. -/
def ofConfiguration (configuration : Configuration) : Schema where
  title := configuration.title
  description := configuration.description
  fields := .ofDeclarations (declarations configuration)

/-- The draft of the schema language. -/
def draft : String := "http://json-schema.org/draft-06/schema#"

/-- A schema as a document. -/
def toJson (schema : Schema) : Json :=
  .object [
    ("$schema", .string draft),
    ("type", .string "object"),
    ("title", .string schema.title),
    ("description", .string schema.description),
    ("properties",
      .object (schema.fields.properties.map fun (key, entry) => (key, entry.toJson))),
    ("required", keysToJson schema.fields.required)]

end Schema

end FactoryBundler
