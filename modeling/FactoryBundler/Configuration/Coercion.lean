import FactoryBundler.Json.Shape
import FactoryBundler.Text.Blank
import FactoryBundler.Text.Letter

/-!
# Coercions

Settings are written by hand, so a text may be given as a number or a truth value, a truth value as
a word, a list as its only entry, and a key with dashes for underscores. Null stands for a setting
that is not given. What cannot be coerced is a failure that says what was found.
-/

namespace FactoryBundler.Configuration

/-- Why a value cannot serve as a setting. -/
inductive Failure where
  | notText (found : Json)
  | notBoolean (found : Json)
  | nullEntry
  | shape (mismatch : Json.Mismatch)
deriving Repr, DecidableEq

/-- The wording of a failure. A word that is no truth value is shown as it stands. -/
def Failure.message : Failure → String
  | .notText found => s!"expected a string, found {found.compact}"
  | .notBoolean (.string s) => "expected a boolean, found \"" ++ s ++ "\""
  | .notBoolean found => s!"expected a boolean, found {found.compact}"
  | .nullEntry => "list entries cannot be null"
  | .shape mismatch => mismatch.message

/-- A text: a string as it is, a number or a truth value as its JSON text. -/
def text (value : Json) : Except Failure (Option String) :=
  match value with
  | .null => .ok none
  | .string s => .ok (some s)
  | .number n => .ok (some (Json.number n).compact)
  | .bool b => .ok (some (Json.bool b).compact)
  | other => .error (.notText other)

/-- The word for a truth value, in any case and with blanks around it. -/
def booleanWord? (word : String) : Option Bool :=
  let letters := (Text.trimChars word.toList).map Text.lowerAscii
  if letters == ['t', 'r', 'u', 'e'] then some true
  else if letters == ['f', 'a', 'l', 's', 'e'] then some false
  else none

/-- A truth value, or the word for one. -/
def boolean (value : Json) : Except Failure (Option Bool) :=
  match value with
  | .null => .ok none
  | .bool b => .ok (some b)
  | .string s =>
    match booleanWord? s with
    | some b => .ok (some b)
    | none => .error (.notBoolean (.string s))
  | other => .error (.notBoolean other)

/-- The texts of list entries, none of which may be null. -/
def entries : List Json → Except Failure (List String)
  | [] => .ok []
  | item :: more => do
    match ← text item with
    | none => .error .nullEntry
    | some s => return s :: (← entries more)

/-- A list of texts, or its only entry. -/
def textList (value : Json) : Except Failure (Option (List String)) :=
  match value with
  | .array items => (entries items).map some
  | single => (text single).map (·.map ([·]))

/-- Named members, whose values are looked at later. -/
def members (value : Json) : Except Failure (Option (List (String × Json))) :=
  value.asOptionalMembers.mapError .shape

/-- A key with underscores for dashes. -/
def underscored (key : String) : String :=
  String.ofList (key.toList.map fun c => if c == '-' then '_' else c)

/-- Members with underscores for dashes in their keys. Of two keys that become the same the first
place and the last value count. -/
def respell (members : List (String × Json)) : List (String × Json) :=
  Members.ofList (members.map fun (key, value) => (underscored key, value))

end FactoryBundler.Configuration
