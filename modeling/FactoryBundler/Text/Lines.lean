/-!
# Lines

A line ends at a newline, which belongs to no line, and a carriage return directly before the
newline goes with it. Text after the last newline is a line of its own, and keeps a carriage
return at its end; the empty text after a final newline is not a line.
-/

namespace FactoryBundler.Text

/-- The lines of a text, without their line ends. -/
def linesChars : List Char → List (List Char)
  | [] => []
  | '\n' :: rest => [] :: linesChars rest
  | '\r' :: '\n' :: rest => [] :: linesChars rest
  | c :: rest =>
    match linesChars rest with
    | [] => [[c]]
    | line :: more => (c :: line) :: more

/-- The lines of a text, without their line ends. -/
def lines (text : String) : List String :=
  (linesChars text.toList).map String.ofList

/-- The texts with a newline between each two neighbours. -/
def joinLines (texts : List String) : String :=
  "\n".intercalate texts

end FactoryBundler.Text
