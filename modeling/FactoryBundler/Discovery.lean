import FactoryBundler.Definition

/-!
# Discovery

Every directory at depth three under a root whose entries include a configuration file defines a
factory. The walk goes through the names in the order of their bytes, whatever order they are listed
in, and labels what it finds with the names as they are shown. A definition that cannot be had is
recorded beside the others and never ends the walk; only a root that cannot be listed does.
-/

namespace FactoryBundler

/-- A directory that defines a factory: the names on the way to it, its path, and its entries. -/
structure Site where
  category : RawText
  name : RawText
  version : RawText
  directory : RawText
  entries : List (RawText × Node)
deriving Repr

/-- A site whose definition cannot be had. -/
structure LoadFailure where
  category : String
  name : String
  version : String
  error : DiscoveryError
deriving Repr, DecidableEq

/-- The path of the factory's variable inside the target policy. -/
def LoadFailure.variablePath (failure : LoadFailure) : String :=
  FactoryBundler.variablePath failure.category failure.name failure.version

/-- What the sites under a root give, each list in the order of the walk. -/
structure Discovery where
  definitions : List Definition
  failures : List LoadFailure
deriving Repr, DecidableEq

namespace Site

/-- The definition of a site, or its failure. -/
def load (site : Site) : Except LoadFailure Definition :=
  let category := site.category.display
  let name := site.name.display
  let version := site.version.display
  (Definition.ofEntries site.directory category name version site.entries).mapError
    fun error => ⟨category, name, version, error⟩

end Site

namespace Discovery

/-- The directories among the entries, in the order of their names. -/
def subdirectories (entries : List (RawText × Node)) : List (RawText × List (RawText × Node)) :=
  (entries.filterMap fun (name, node) =>
    match node with
    | .directory inner => some (name, inner)
    | .file _ => none).mergeSort fun first second => first.1 ≤ second.1

/-- Whether the entries include a configuration file. -/
def hasConfiguration (entries : List (RawText × Node)) : Bool :=
  match entries.lookup Definition.configurationFile with
  | some (.file _) => true
  | _ => false

/-- The sites under a root with the given entries. -/
def sites (root : RawText) (entries : List (RawText × Node)) : List Site :=
  (subdirectories entries).flatMap fun (category, names) =>
    (subdirectories names).flatMap fun (name, versions) =>
      ((subdirectories versions).filter fun (_, inner) => hasConfiguration inner).map
        fun (version, inner) =>
          { category := category
            name := name
            version := version
            directory := Path.join (Path.join (Path.join root category) name) version
            entries := inner }

/-- The definitions and the failures among what the sites give. -/
def ofSites (sites : List Site) : Discovery where
  definitions := sites.filterMap fun site =>
    match site.load with
    | .ok definition => some definition
    | .error _ => none
  failures := sites.filterMap fun site =>
    match site.load with
    | .ok _ => none
    | .error failure => some failure

/-- The discovery under the root at a path. -/
def walk (workspace : Workspace) (root : RawText) : Except DiscoveryError Discovery := do
  let entries ← ((workspace root).bind Node.list).mapError (.unreadable root)
  return ofSites (sites root entries)

end Discovery

end FactoryBundler
