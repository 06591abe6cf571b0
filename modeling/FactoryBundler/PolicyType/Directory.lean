import FactoryBundler.Files.Tree
import FactoryBundler.PolicyType.Catalog

/-!
# Catalogs in directories

A directory of policy bodies: every entry with the extension `yml` and a stem that is a text is a
body, registered under that stem. Entries are taken as they are listed, and the first body that
cannot be read is the error.
-/

namespace FactoryBundler.Catalog

/-- The stem of a name whose extension is `yml`, if it is a text. -/
def bodyStem? (name : RawText) : Option String :=
  match Path.splitExtension? name with
  | some (stem, extension) => if extension = "yml" then stem.text? else none
  | none => none

/-- Register the bodies among the entries. -/
def registerEntries (catalog : Catalog) : List (RawText × Node) → Except FileError Catalog
  | [] => .ok catalog
  | (name, node) :: rest =>
    match bodyStem? name with
    | none => registerEntries catalog rest
    | some stem => do registerEntries (catalog.register stem (← node.read)) rest

/-- The catalog in the directory at a path. -/
def load (workspace : Workspace) (path : RawText) : Except FileError Catalog := do
  registerEntries .empty (← (← workspace path).list)

end FactoryBundler.Catalog
