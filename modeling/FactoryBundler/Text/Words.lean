/-!
# Words

Cutting a text at separators. There is one piece more than there are separators, so pieces between
neighbouring separators are empty.
-/

namespace FactoryBundler.Text

/-- The pieces between separators. -/
def cutAt {α : Type} (isSeparator : α → Bool) : List α → List (List α)
  | [] => [[]]
  | c :: rest =>
    match cutAt isSeparator rest with
    | [] => [[c]]
    | piece :: more => if isSeparator c then [] :: piece :: more else (c :: piece) :: more

/-- The pieces between separators that are not empty. -/
def words (isSeparator : Char → Bool) (text : List Char) : List (List Char) :=
  (cutAt isSeparator text).filter fun piece => !piece.isEmpty

end FactoryBundler.Text
