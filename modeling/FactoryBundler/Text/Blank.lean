/-!
# Blank characters

A character is blank when it has the Unicode property White_Space. Trimming removes blank
characters from both ends of a text and none from inside it; a text is blank when trimming
leaves nothing. The property is wider than the ASCII blanks and narrower than "invisible":
zero-width spaces and the byte order mark are not blank.
-/

namespace FactoryBundler.Text

/-- The Unicode property White_Space. -/
def isBlankChar (c : Char) : Bool :=
  let n := c.toNat
  (0x09 ≤ n && n ≤ 0x0D) || n == 0x20 || n == 0x85 || n == 0xA0 || n == 0x1680 ||
    (0x2000 ≤ n && n ≤ 0x200A) || n == 0x2028 || n == 0x2029 || n == 0x202F || n == 0x205F ||
    n == 0x3000

/-- A text without its blank characters at either end. -/
def trimChars (text : List Char) : List Char :=
  ((text.dropWhile isBlankChar).reverse.dropWhile isBlankChar).reverse

/-- A text without its blank characters at either end. -/
def trim (text : String) : String :=
  String.ofList (trimChars text.toList)

/-- A text of blank characters only; the empty text is one. -/
def isBlank (text : String) : Bool :=
  text.toList.all isBlankChar

end FactoryBundler.Text
