import FactoryBundler.Files.RawText
import FactoryBundler.Text.Words

/-!
# Paths

A path is raw text; what it says is its components. Repeated and trailing slashes and every `.` but
a leading one say nothing, while a root, a leading `.` and every `..` count.
-/

namespace FactoryBundler.Path

/-- One step of a path. -/
inductive Component where
  | root
  | current
  | parent
  | entry (name : RawText)
deriving Repr, DecidableEq

/-- The text of a component, if it is one. -/
def Component.text? : Component → Option String
  | .root => some "/"
  | .current => some "."
  | .parent => some ".."
  | .entry name => name.text?

/-- The byte between components. -/
def slash : UInt8 := '/'.toUInt8

/-- The byte that stands for the place itself. -/
def dot : UInt8 := '.'.toUInt8

/-- The component that a piece between slashes is, if it counts. -/
def component? (piece : List UInt8) : Option Component :=
  if piece = [] ∨ piece = [dot] then none
  else if piece = [dot, dot] then some .parent
  else some (.entry ⟨piece⟩)

/-- The component that the beginning of a path is, if it counts. -/
def lead (path : List UInt8) : List Component :=
  if path.take 1 = [slash] then [.root]
  else if path = [dot] ∨ path.take 2 = [dot, slash] then [.current]
  else []

/-- The components of a path. -/
def components (path : RawText) : List Component :=
  lead path.bytes ++ (Text.cutAt (· == slash) path.bytes).filterMap component?

/-- A path followed by a name, with one slash between. -/
def join (path name : RawText) : RawText :=
  if path.isEmpty then name
  else if path.bytes.getLast? = some slash then path ++ name
  else path ++ "/" ++ name

/-- A text without the slashes at its end. -/
def dropTrailingSlashes (path : String) : String :=
  String.ofList ((path.toList.reverse.dropWhile (· == '/')).reverse)

/-- A file name cut at its last dot, unless it has none or only a leading one: the stem and the
extension. -/
def splitExtension? (name : RawText) : Option (RawText × RawText) :=
  let reversed := name.bytes.reverse
  match reversed.dropWhile (· != dot) with
  | [] | [_] => none
  | _ :: stem => some (⟨stem.reverse⟩, ⟨(reversed.takeWhile (· != dot)).reverse⟩)

end FactoryBundler.Path
