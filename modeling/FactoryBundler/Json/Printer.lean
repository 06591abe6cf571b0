import FactoryBundler.Decimal.Shortest
import FactoryBundler.Json.Value

/-!
# Writing JSON

Two layouts of the same tokens: compact, without any blank, and pretty, with one member or item
a line and two blanks of indentation a level. A string escapes the quote, the backslash and the
control characters below the blank, and nothing else.
-/

namespace FactoryBundler.Json

/-- One character inside a string. -/
def escapeChar (c : Char) : List Char :=
  match c with
  | '"' => ['\\', '"']
  | '\\' => ['\\', '\\']
  | '\x08' => ['\\', 'b']
  | '\x0c' => ['\\', 'f']
  | '\n' => ['\\', 'n']
  | '\r' => ['\\', 'r']
  | '\t' => ['\\', 't']
  | c =>
    if c.toNat < 0x20 then
      ['\\', 'u', '0', '0', Nat.digitChar (c.toNat / 16), Nat.digitChar (c.toNat % 16)]
    else [c]

/-- A string with its quotes. -/
def stringChars (s : String) : List Char :=
  '"' :: (s.toList.flatMap escapeChar ++ ['"'])

/-- An integer in decimal digits, or the shortest text of a double. -/
def numberChars : Number → List Char
  | .integer n => (if n < 0 then ['-'] else []) ++ Nat.toDigits 10 n.natAbs
  | .double d => d.chars

/-- The text of a truth value. -/
def boolChars (b : Bool) : List Char :=
  if b then ['t', 'r', 'u', 'e'] else ['f', 'a', 'l', 's', 'e']

mutual

/-- A value without blanks. -/
def compactChars : Json → List Char
  | .null => ['n', 'u', 'l', 'l']
  | .bool b => boolChars b
  | .number n => numberChars n
  | .string s => stringChars s
  | .array items => '[' :: (compactItems items ++ [']'])
  | .object members => '\x7b' :: (compactMembers members ++ ['\x7d'])

/-- Items with a comma between each two. -/
def compactItems : List Json → List Char
  | [] => []
  | [item] => compactChars item
  | item :: more => compactChars item ++ ',' :: compactItems more

/-- Members with a comma between each two. -/
def compactMembers : List (String × Json) → List Char
  | [] => []
  | [(key, value)] => stringChars key ++ ':' :: compactChars value
  | (key, value) :: more =>
    stringChars key ++ ':' :: compactChars value ++ ',' :: compactMembers more

end

/-- The compact text of a value. -/
def compact (value : Json) : String :=
  String.ofList (compactChars value)

/-- A new line, indented by `level`. -/
def newline (level : Nat) : List Char :=
  '\n' :: List.replicate (2 * level) ' '

mutual

/-- A value that begins at indentation `level`, one item or member a line. -/
def prettyChars (level : Nat) : Json → List Char
  | .array [] => ['[', ']']
  | .array (item :: more) =>
    '[' :: (prettyItems (level + 1) (item :: more) ++ newline level ++ [']'])
  | .object [] => ['\x7b', '\x7d']
  | .object (member :: more) =>
    '\x7b' :: (prettyMembers (level + 1) (member :: more) ++ newline level ++ ['\x7d'])
  | .null => ['n', 'u', 'l', 'l']
  | .bool b => boolChars b
  | .number n => numberChars n
  | .string s => stringChars s

/-- Items on lines of their own. -/
def prettyItems (level : Nat) : List Json → List Char
  | [] => []
  | [item] => newline level ++ prettyChars level item
  | item :: more => newline level ++ prettyChars level item ++ ',' :: prettyItems level more

/-- Members on lines of their own. -/
def prettyMembers (level : Nat) : List (String × Json) → List Char
  | [] => []
  | [(key, value)] => newline level ++ stringChars key ++ [':', ' '] ++ prettyChars level value
  | (key, value) :: more =>
    newline level ++ stringChars key ++ [':', ' '] ++ prettyChars level value ++
      ',' :: prettyMembers level more

end

/-- The text of a value on indented lines. -/
def pretty (value : Json) : String :=
  String.ofList (prettyChars 0 value)

end FactoryBundler.Json
