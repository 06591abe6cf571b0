import FactoryBundler.Compiler
import FactoryBundler.PolicyType.Directory

/-!
# Sessions

A session is a run of steps over one catalog: policy types are registered, taken over from other
catalogs and directories, looked up, and used to compile. A step that fails leaves the catalog as
it was.
-/

namespace FactoryBundler.Session

/-- One step of a session. -/
inductive Step where
  | register (spelling body : String)
  | extend (other : Catalog)
  /-- Extend with the catalog in the directory at a path. -/
  | load (directory : RawText)
  | replace (other : Catalog)
  | get (spelling : String)
  | compile (request : Request) (reserved : ReservedVariables)

/-- What a step answers. -/
inductive Answer where
  | done
  | body (found : Option String)
  | compiled (result : Except CompileError Compiled)
  | unreadable (error : FileError)

/-- Take a step. -/
def Step.run (workspace : Workspace) (catalog : Catalog) : Step → Catalog × Answer
  | .register spelling body => (catalog.register spelling body, .done)
  | .extend other => (catalog.extend other, .done)
  | .load directory =>
    match Catalog.load workspace directory with
    | .ok other => (catalog.extend other, .done)
    | .error error => (catalog, .unreadable error)
  | .replace other => (other, .done)
  | .get spelling => (catalog, .body (catalog.get? spelling))
  | .compile request reserved =>
    (catalog, .compiled (Compiler.compile ⟨catalog, reserved⟩ request))

/-- Take steps one after the other, keeping the catalog and the answer after each. -/
def run (workspace : Workspace) (catalog : Catalog) : List Step → List (Catalog × Answer)
  | [] => []
  | step :: rest =>
    let after := step.run workspace catalog
    after :: run workspace after.1 rest

end FactoryBundler.Session
