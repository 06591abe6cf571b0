import FactoryBundler.Json.Value
import FactoryBundler.Text.Letter

/-!
# Variables

A variable describes one input of a factory. Three identifiers are reserved: every factory has
`id`, `annotations` and `branch`, and a table of reserved variables holds what is known of them
before a configuration says more.
-/

namespace FactoryBundler

/-- One input of a factory. A title that is not given is made from the identifier. -/
structure Variable where
  identifier : String
  explicitTitle : Option String
  description : String
  defaultValue : Option String
  validValues : Option (List String)
  required : Bool
  hidden : Bool
  kind : String
deriving Repr, DecidableEq

namespace Variable

/-- A variable of which nothing but the identifier is given. -/
def plain (identifier : String) : Variable :=
  ⟨identifier, none, "", none, none, false, false, "string"⟩

/-- The given title, or the capitalized identifier. -/
def title (v : Variable) : String :=
  v.explicitTitle.getD (Text.capitalize v.identifier)

/-- A variable as a document, with every attribute. -/
def toJson (v : Variable) : Json :=
  .object [
    ("identifier", .string v.identifier),
    ("title", .ofOption v.explicitTitle),
    ("description", .string v.description),
    ("default", .ofOption v.defaultValue),
    ("valid_values",
      match v.validValues with
      | some values => .array (values.map .string)
      | none => .null),
    ("required", .bool v.required),
    ("hidden", .bool v.hidden),
    ("type", .string v.kind)]

/-- The identifiers that every factory has. -/
def reservedIdentifiers : List String := ["id", "annotations", "branch"]

/-- Whether an identifier is one that every factory has. -/
def isReserved (identifier : String) : Bool :=
  reservedIdentifiers.contains identifier

end Variable

/-- What is known of the reserved variables before a configuration says more. Each slot serves one
reserved identifier, whatever the variable in it calls itself. -/
structure ReservedVariables where
  id : Variable
  annotations : Variable
  branch : Variable
deriving Repr, DecidableEq

namespace ReservedVariables

/-- The variable in the slot for an identifier. -/
def get? (reserved : ReservedVariables) (identifier : String) : Option Variable :=
  if identifier == "id" then some reserved.id
  else if identifier == "annotations" then some reserved.annotations
  else if identifier == "branch" then some reserved.branch
  else none

/-- The three variables in order. -/
def toList (reserved : ReservedVariables) : List Variable :=
  [reserved.id, reserved.annotations, reserved.branch]

/-- The reserved variables that a compiler starts with. -/
def standard : ReservedVariables where
  id := { Variable.plain "id" with explicitTitle := some "Resource Identifier" }
  annotations :=
    { Variable.plain "annotations" with
      explicitTitle := some "Annotations"
      description := "Additional annotations"
      kind := "object" }
  branch :=
    { Variable.plain "branch" with
      explicitTitle := some "Policy Branch"
      description := "Policy branch to apply this policy into" }

end ReservedVariables

end FactoryBundler
