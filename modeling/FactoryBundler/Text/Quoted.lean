import FactoryBundler.Text.EscapedTable

/-!
# Quoted texts

A text between double quotes, for messages: the quote and the backslash are escaped, the common
controls have their letters, and every other character that does not show as itself is written
by its code point in braces.
-/

namespace FactoryBundler.Text.Quoted

/-- Whether a character is written by its code point. -/
def isEscaped (c : Char) : Bool :=
  escapedRanges.any fun (first, last) => first ≤ c.toNat && c.toNat ≤ last

/-- One character between the quotes. -/
def encodeChar (c : Char) : List Char :=
  match c with
  | '\x00' => ['\\', '0']
  | '\t' => ['\\', 't']
  | '\r' => ['\\', 'r']
  | '\n' => ['\\', 'n']
  | '"' => ['\\', '"']
  | '\\' => ['\\', '\\']
  | c =>
    if isEscaped c then ['\\', 'u', '\x7b'] ++ Nat.toDigits 16 c.toNat ++ ['\x7d'] else [c]

/-- A text in double quotes. -/
def encode (text : String) : String :=
  String.ofList (['"'] ++ text.toList.flatMap encodeChar ++ ['"'])

end FactoryBundler.Text.Quoted
