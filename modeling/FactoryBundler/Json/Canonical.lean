import FactoryBundler.Json.Printer

/-!
# Canonical JSON

The canonical form of a value orders the members of every object by their keys, at every depth,
and leaves arrays alone; its compact text is the canonical text. Keys are compared character by
character, which is also the order of their UTF-8 bytes.
-/

namespace FactoryBundler.Json

mutual

/-- The value with the members of every object in ascending order of their keys. -/
def canonical : Json → Json
  | .array items => .array (canonicalItems items)
  | .object members =>
    .object ((canonicalMembers members).mergeSort fun a b => decide (a.1 ≤ b.1))
  | .null => .null
  | .bool b => .bool b
  | .number n => .number n
  | .string s => .string s

/-- The canonical forms of the items, in place. -/
def canonicalItems : List Json → List Json
  | [] => []
  | item :: more => canonical item :: canonicalItems more

/-- The members with canonical values, in place. -/
def canonicalMembers : List (String × Json) → List (String × Json)
  | [] => []
  | (key, value) :: more => (key, canonical value) :: canonicalMembers more

end

/-- The compact text of the canonical form. -/
def canonicalText (value : Json) : String :=
  value.canonical.compact

end FactoryBundler.Json
