import FactoryBundler.Json.Shape

/-!
# Compile requests

A request carries the labels of a factory, its template if it has one, and its configuration as it
was written. It is read from an object, of which unknown members are ignored, or from an array of
the fields in order; the template may be missing or null, and a missing configuration is empty.
-/

namespace FactoryBundler

/-- What a compiler is asked to compile. -/
structure Request where
  name : String
  version : String
  category : String
  policyTemplate : Option String
  configuration : Json
deriving Repr, DecidableEq

namespace Request

/-- A request as far as it has been read. -/
structure Partial where
  name : Option String
  version : Option String
  category : Option String
  policyTemplate : Option String
  configuration : Option Json
deriving Repr, DecidableEq

/-- Take in one member. -/
def Partial.set (known : Partial) (key : String) (value : Json) : Except Json.Mismatch Partial :=
  match key with
  | "name" => return { known with name := some (← value.asString) }
  | "version" => return { known with version := some (← value.asString) }
  | "category" => return { known with category := some (← value.asString) }
  | "policy_template" => return { known with policyTemplate := ← value.asOptionalString }
  | "configuration" => return { known with configuration := some value }
  | _ => return known

/-- Take in members one after the other; the first that fails is the failure. -/
def Partial.setAll (known : Partial) : List (String × Json) → Except Json.Mismatch Partial
  | [] => .ok known
  | (key, value) :: more => do setAll (← known.set key value) more

/-- A field that may not be missing. -/
def required (field : String) : Option String → Except Json.Mismatch String
  | some value => .ok value
  | none => .error (.missingField field)

/-- Read the members of an object. Missing fields are looked at last. -/
def ofMembers (members : List (String × Json)) : Except Json.Mismatch Request := do
  let known ← (Partial.mk none none none none none).setAll members
  return {
    name := ← required "name" known.name
    version := ← required "version" known.version
    category := ← required "category" known.category
    policyTemplate := known.policyTemplate
    configuration := known.configuration.getD (.object []) }

/-- What an array that is too short was expected to be. -/
def expectedItems : String := "struct CompileRequest with 5 elements"

/-- Read the items of an array. -/
def ofItems (items : List Json) : Except Json.Mismatch Request :=
  match items with
  | [] => .error (.wrongLength 0 expectedItems)
  | name :: items => do
    let name ← name.asString
    match items with
    | [] => .error (.wrongLength 1 expectedItems)
    | version :: items =>
      let version ← version.asString
      match items with
      | [] => .error (.wrongLength 2 expectedItems)
      | category :: items =>
        let category ← category.asString
        let policyTemplate ←
          match items.head? with
          | some template => template.asOptionalString
          | none => pure none
        if items.length > 2 then
          .error (.wrongLength (items.length + 3) "fewer elements in array")
        else
          return {
            name := name
            version := version
            category := category
            policyTemplate := policyTemplate
            configuration := (items.drop 1).head?.getD (.object []) }

/-- Read a request. -/
def ofJson (document : Json) : Except Json.Mismatch Request :=
  match document with
  | .object members => ofMembers members
  | .array items => ofItems items
  | other => .error (.wrongType other.found "struct CompileRequest")

/-- A request as a document. -/
def toJson (request : Request) : Json :=
  .object [
    ("name", .string request.name),
    ("version", .string request.version),
    ("category", .string request.category),
    ("policy_template", .ofOption request.policyTemplate),
    ("configuration", request.configuration)]

end Request

end FactoryBundler
