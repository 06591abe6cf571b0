import FactoryBundler.Files.Tree
import FactoryBundler.Json.Reader
import FactoryBundler.Request

/-!
# Factory definitions

A factory is defined in a directory of its own, which holds a configuration and may hold a policy
template. The directory lies at `<category>/<name>/<version>`, so its path tells the labels as well.
-/

namespace FactoryBundler

/-- A factory as it is defined in a directory. -/
structure Definition where
  category : String
  name : String
  version : String
  directory : RawText
  policyTemplate : Option String
  configuration : Json
deriving Repr, DecidableEq

/-- Why a definition cannot be had. -/
inductive DiscoveryError where
  | unreadable (path : RawText) (error : FileError)
  | malformed (path : RawText) (error : Json.Located Json.Cause)
  /-- A path that does not tell the labels. -/
  | layout (path : RawText)
deriving Repr, DecidableEq

/-- The wording of an error. A path is worded as it is shown. -/
def DiscoveryError.message : DiscoveryError → String
  | .unreadable path error => s!"Failed to read {path.display}: {error.message}"
  | .malformed path error => s!"Failed to parse {path.display}: {error.message}"
  | .layout path => s!"Cannot infer category/name/version from {path.display}"

/-- The path of a factory's variable inside the target policy. -/
def variablePath (category name version : String) : String :=
  category ++ "/" ++ version ++ "/" ++ name

namespace Definition

/-- The file that holds the configuration. -/
def configurationFile : RawText := "config.json"

/-- The file that holds the template. -/
def templateFile : RawText := "policy.yml"

/-- The path of the factory's variable inside the target policy. -/
def variablePath (definition : Definition) : String :=
  FactoryBundler.variablePath definition.category definition.name definition.version

/-- The request that compiles the factory. -/
def toRequest (definition : Definition) : Request where
  name := definition.name
  version := definition.version
  category := definition.category
  policyTemplate := definition.policyTemplate
  configuration := definition.configuration

/-- The configuration in a directory with the given entries. -/
def readConfiguration (directory : RawText) (entries : List (RawText × Node)) :
    Except DiscoveryError Json := do
  let path := Path.join directory configurationFile
  let text ←
    match entries.lookup configurationFile with
    | some node => node.read.mapError (.unreadable path)
    | none => .error (.unreadable path .notFound)
  (Json.readText text).mapError (.malformed path)

/-- The template in a directory with the given entries. Anything but a file counts as none. -/
def readTemplate (directory : RawText) (entries : List (RawText × Node)) :
    Except DiscoveryError (Option String) :=
  match entries.lookup templateFile with
  | some (.file content) =>
    ((Node.file content).read.map some).mapError (.unreadable (Path.join directory templateFile))
  | _ => .ok none

/-- The definition in a directory with the given entries. -/
def ofEntries (directory : RawText) (category name version : String)
    (entries : List (RawText × Node)) : Except DiscoveryError Definition := do
  let configuration ← readConfiguration directory entries
  let policyTemplate ← readTemplate directory entries
  return ⟨category, name, version, directory, policyTemplate, configuration⟩

/-- The entries of a directory, at the empty path those of the working directory. If there is no
such directory its configuration cannot be read. -/
def entriesAt (workspace : Workspace) (directory : RawText) :
    Except DiscoveryError (List (RawText × Node)) :=
  let path : RawText := if directory.isEmpty then "." else directory
  ((workspace path).bind Node.list).mapError
    (.unreadable (Path.join directory configurationFile))

/-- The definition in a directory, with labels of the caller's choice. -/
def load (workspace : Workspace) (directory : RawText) (category name version : String) :
    Except DiscoveryError Definition := do
  ofEntries directory category name version (← entriesAt workspace directory)

/-- The labels that a path tells: category, name and version are the texts of its last three
components. It tells none if there are fewer components or one of them is no text. -/
def labels? (path : RawText) : Option (String × String × String) :=
  match ((Path.components path).reverse.take 3).filterMap Path.Component.text? with
  | [version, name, category] => some (category, name, version)
  | _ => none

/-- The definition in a directory, with the labels that its path tells. -/
def fromDirectory (workspace : Workspace) (directory : RawText) :
    Except DiscoveryError Definition :=
  match labels? directory with
  | some (category, name, version) => load workspace directory category name version
  | none => .error (.layout directory)

end Definition

end FactoryBundler
