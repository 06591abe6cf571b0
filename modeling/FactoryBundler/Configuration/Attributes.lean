import FactoryBundler.Configuration.Coercion
import FactoryBundler.Variable

/-!
# Attributes of a variable

The attributes that a configuration gives for one variable, and the variable that they make of a
base: what is given replaces the base's attribute, what is not given keeps it.
-/

namespace FactoryBundler.Configuration

/-- The attributes given for a variable. -/
structure Attributes where
  title : Option String
  description : Option String
  defaultValue : Option String
  validValues : Option (List String)
  required : Option Bool
  hidden : Option Bool
  kind : Option String
deriving Repr, DecidableEq

namespace Attributes

/-- No attribute. -/
def unset : Attributes :=
  ⟨none, none, none, none, none, none, none⟩

/-- The names of the attributes, as a reader is told them. -/
def known : List String :=
  ["title", "description", "default", "valid-values", "valid_values", "required", "hidden", "type"]

/-- Take in one attribute. -/
def set (attributes : Attributes) (key : String) (value : Json) : Except Failure Attributes :=
  match key with
  | "title" => return { attributes with title := ← text value }
  | "description" => return { attributes with description := ← text value }
  | "default" => return { attributes with defaultValue := ← text value }
  | "valid_values" => return { attributes with validValues := ← textList value }
  | "required" => return { attributes with required := ← boolean value }
  | "hidden" => return { attributes with hidden := ← boolean value }
  | "type" => return { attributes with kind := ← text value }
  | other => .error (.shape (.unknownField other known))

/-- Take in members one after the other; the first that fails is the failure. -/
def setAll (attributes : Attributes) : List (String × Json) → Except Failure Attributes
  | [] => .ok attributes
  | (key, value) :: more => do setAll (← attributes.set key value) more

/-- The attributes that members give, dashes and underscores being the same in their keys. -/
def ofMembers (members : List (String × Json)) : Except Failure Attributes :=
  unset.setAll (respell members)

/-- The variable with the given attributes in place of the base's. -/
def applyTo (attributes : Attributes) (base : Variable) : Variable where
  identifier := base.identifier
  explicitTitle := attributes.title <|> base.explicitTitle
  description := attributes.description.getD base.description
  defaultValue := attributes.defaultValue <|> base.defaultValue
  validValues := attributes.validValues <|> base.validValues
  required := attributes.required.getD base.required
  hidden := attributes.hidden.getD base.hidden
  kind := attributes.kind.getD base.kind

end Attributes

end FactoryBundler.Configuration
