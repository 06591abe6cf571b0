import FactoryBundler.Files.Path
import FactoryBundler.Text.Utf8

/-!
# File trees

A tree of directories and files as far as a program can see it. The entries of a directory stand in
the order in which they are listed. A path is followed from a working directory, from which one can
climb no higher; absolute paths lead out of the tree and are not found.
-/

namespace FactoryBundler

/-- A file with its bytes, or a directory with its entries. -/
inductive Node where
  | file (content : List UInt8)
  | directory (entries : List (RawText × Node))
deriving Repr, Inhabited

/-- Why a file or directory cannot be used. -/
inductive FileError where
  | notFound
  | notADirectory
  | isADirectory
  | notUtf8
deriving Repr, DecidableEq

/-- The wording of a file error. -/
def FileError.message : FileError → String
  | .notFound => "No such file or directory (os error 2)"
  | .notADirectory => "Not a directory (os error 20)"
  | .isADirectory => "Is a directory (os error 21)"
  | .notUtf8 => "stream did not contain valid UTF-8"

/-- What each path leads to. -/
abbrev Workspace : Type := RawText → Except FileError Node

namespace Node

/-- The entries of a directory. -/
def list : Node → Except FileError (List (RawText × Node))
  | .directory entries => .ok entries
  | .file _ => .error .notADirectory

/-- The text of a file. -/
def read : Node → Except FileError String
  | .file content => (Text.Utf8.decode content).mapError fun _ => .notUtf8
  | .directory _ => .error .isADirectory

/-- Follow components from a node; `above` are the directories around it, the innermost first. -/
def follow (above : List Node) (here : Node) : List Path.Component → Except FileError Node
  | [] => .ok here
  | .root :: _ => .error .notFound
  | .current :: rest => follow above here rest
  | .parent :: rest =>
    match here, above with
    | .file _, _ => .error .notADirectory
    | .directory _, [] => .error .notFound
    | .directory _, up :: above => follow above up rest
  | .entry name :: rest =>
    match here with
    | .file _ => .error .notADirectory
    | .directory entries =>
      match entries.lookup name with
      | none => .error .notFound
      | some child => follow (here :: above) child rest

/-- What a path leads to from a working directory. The empty path leads nowhere. -/
def resolve (tree : Node) : Workspace := fun path =>
  if path.isEmpty then .error .notFound else tree.follow [] (Path.components path)

/-- Put an entry under a name, in place of the one of that name or in ascending order. -/
def placeEntry (name : RawText) (node : Node) : List (RawText × Node) → List (RawText × Node)
  | [] => [(name, node)]
  | (other, old) :: rest =>
    if other == name then (name, node) :: rest
    else if name < other then (name, node) :: (other, old) :: rest
    else (other, old) :: placeEntry name node rest

/-- The tree with a leaf at the end of the names, in directories made as needed. An empty directory
leaves an existing one as it is. -/
def place (leaf : Node) : List RawText → Node → Node
  | [], here =>
    match leaf, here with
    | .directory [], .directory _ => here
    | leaf, _ => leaf
  | name :: rest, here =>
    let entries :=
      match here with
      | .directory entries => entries
      | .file _ => []
    let child := (entries.lookup name).getD (.directory [])
    .directory (placeEntry name (place leaf rest child) entries)

/-- The names that a path goes through. -/
def pathNames (path : RawText) : List RawText :=
  (Path.components path).filterMap fun
    | .entry name => some name
    | _ => none

/-- The tree that holds the given files and empty directories at their paths. -/
def ofLeaves (leaves : List (String × Node)) : Node :=
  leaves.foldl (fun tree (path, leaf) => place leaf (pathNames path) tree) (.directory [])

end Node

end FactoryBundler
