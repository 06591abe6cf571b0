import FactoryBundler.Json.Printer
import FactoryBundler.Text.Quoted

/-!
# Values of the wrong shape

A record is read from an object whose members are its fields, or from an array of the fields in
order. What can be wrong with the shape is a type, a length, or a field that is missing, repeated
or unknown. Names are shown between backquotes and texts between double quotes.
-/

namespace FactoryBundler.Json

/-- What kind of value was found, with the value if it is a scalar. -/
inductive Found where
  | null
  | bool (b : Bool)
  | number (n : Number)
  | string (s : String)
  | array
  | object
deriving Repr, DecidableEq

/-- The kind of a value. -/
def found : Json → Found
  | .null => .null
  | .bool b => .bool b
  | .number n => .number n
  | .string s => .string s
  | .array _ => .array
  | .object _ => .object

/-- A name between backquotes. -/
def backquoted (name : String) : String :=
  "\x60" ++ name ++ "\x60"

/-- The wording of what was found. -/
def Found.describe : Found → String
  | .null => "null"
  | .bool b => "boolean " ++ backquoted (String.ofList (boolChars b))
  | .number (.integer n) => "integer " ++ backquoted (String.ofList (numberChars (.integer n)))
  | .number (.double d) => "floating point " ++ backquoted (String.ofList d.chars)
  | .string s => "string " ++ Text.Quoted.encode s
  | .array => "sequence"
  | .object => "map"

/-- What is wrong with the shape of a value. -/
inductive Mismatch where
  | wrongType (found : Found) (expected : String)
  | missingField (field : String)
  | repeatedField (field : String)
  | unknownField (field : String) (known : List String)
  | wrongLength (length : Nat) (expected : String)
deriving Repr, DecidableEq

/-- The wording of a mismatch. -/
def Mismatch.message : Mismatch → String
  | .wrongType found expected => s!"invalid type: {found.describe}, expected {expected}"
  | .missingField field => s!"missing field {backquoted field}"
  | .repeatedField field => s!"duplicate field {backquoted field}"
  | .unknownField field known =>
    s!"unknown field {backquoted field}, expected one of " ++
      ", ".intercalate (known.map backquoted)
  | .wrongLength length expected => s!"invalid length {length}, expected {expected}"

/-- A string field. -/
def asString (value : Json) : Except Mismatch String :=
  match value with
  | .string s => .ok s
  | other => .error (.wrongType other.found "a string")

/-- A string field that may be null. -/
def asOptionalString (value : Json) : Except Mismatch (Option String) :=
  match value with
  | .null => .ok none
  | other => (asString other).map some

/-- A field of named members that may be null. -/
def asOptionalMembers (value : Json) : Except Mismatch (Option (List (String × Json))) :=
  match value with
  | .null => .ok none
  | .object members => .ok (some members)
  | other => .error (.wrongType other.found "a map")

end FactoryBundler.Json
