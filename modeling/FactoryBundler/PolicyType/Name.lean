import FactoryBundler.Text.Blank
import FactoryBundler.Text.Letter

/-!
# Names of policy types

A policy type has many spellings and one name: `variable-set`, `Variable Set` and `VariableSet` are
all `variable_set`. The name is read off from left to right. A run of separators becomes one
underscore, an upper-case letter becomes lower case, and one that directly follows a lower-case
letter or a digit begins a new word.
-/

namespace FactoryBundler.PolicyType

/-- A character that separates words. -/
def isSeparator (c : Char) : Bool :=
  c == '-' || c == ' ' || c == '_'

/-- Whether an upper-case letter behind this character begins a new word. -/
def endsWord : Option Char → Bool
  | some c => Text.isLower c || Text.isDigit c
  | none => false

/-- The name of a spelling without blanks around it. `previous` is the character before the ones
given, and `underscored` tells whether the name so far ends in an underscore. -/
def nameFrom (previous : Option Char) (underscored : Bool) : List Char → List Char
  | [] => []
  | c :: rest =>
    if isSeparator c then
      (if underscored then [] else ['_']) ++ nameFrom (some c) true rest
    else if Text.isUpper c then
      (if endsWord previous then ['_'] else []) ++ Text.toLower c ++ nameFrom (some c) false rest
    else c :: nameFrom (some c) false rest

/-- The name of a spelling. -/
def nameChars (spelling : List Char) : List Char :=
  nameFrom none false (Text.trimChars spelling)

/-- The name of a spelling. -/
def name (spelling : String) : String :=
  String.ofList (nameChars spelling.toList)

end FactoryBundler.PolicyType
