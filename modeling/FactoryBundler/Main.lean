import FactoryBundler.CommandLine.Outcome

/-!
# The program

Reads from the file system what an invocation needs, hands it over as a workspace, and writes the
outcome. Everything that is decided is decided by the invocation and its outcome.
-/

namespace FactoryBundler.CommandLine

/-- What is said to someone who asks for help or uses the program wrongly. -/
def usage : String :=
  "\n".intercalate [
    "Usage: policy-factory [--log-level LEVEL] [--catalog-dir DIR] COMMAND",
    "",
    "  compile DIR [--name NAME] [--category CATEGORY] [--factory-version VERSION]",
    "  plan ROOT [--target-policy POLICY]",
    "  policy-types",
    "  inspect BLOB",
    "  help [COMMAND]"]

/-- A failure of the file system as an error of the library. -/
def fileErrorOf : IO.Error → FileError
  | .inappropriateType .. => .notADirectory
  | _ => .notFound

/-- Whether the content of files of this name is ever looked at. -/
def isRead (name : RawText) : Bool :=
  name == Definition.configurationFile || name == Definition.templateFile ||
    (Catalog.bodyStem? name).isSome

/-- The entries of the directory at a path, `depth` levels deep. -/
def readEntries : Nat → String → IO (List (RawText × Node))
  | 0, _ => return []
  | depth + 1, path => do
    let listed ← (← IO.FS.realPath path).readDir
    listed.toList.filterMapM fun entry => do
      let name : RawText := entry.fileName
      match ← entry.path.metadata.toBaseIO with
      | .error _ => return none
      | .ok found =>
        match found.type with
        | .dir =>
          return some (name, .directory (← readEntries depth entry.path.toString))
        | .file =>
          if isRead name then return some (name, .file (← IO.FS.readBinFile entry.path).toList)
          else return some (name, .file [])
        | _ => return none

/-- The directories that an invocation looks into, and how many levels deep. -/
def directoriesOf (invocation : Invocation) : List (String × Nat) :=
  (match invocation.command with
    | .compile directory _ _ _ => [(directory, 1)]
    | .plan root _ => [(root, 4)]
    | _ => []) ++
  (invocation.catalogDirectory.map fun directory => (directory, 1)).toList

/-- What an invocation can see of the file system. -/
def workspaceOf (invocation : Invocation) : IO Workspace := do
  let seen ← (directoriesOf invocation).mapM fun (path, depth) => do
    match ← (readEntries depth path).toBaseIO with
    | .ok entries => return (RawText.ofText path, Except.ok (Node.directory entries))
    | .error error => return (RawText.ofText path, Except.error (fileErrorOf error))
  return fun path => (seen.lookup path).getD (.error .notFound)

/-- Write an outcome and end with its code. -/
def Outcome.finish (outcome : Outcome) : IO UInt32 := do
  IO.print outcome.output
  return outcome.code.toUInt32

end FactoryBundler.CommandLine

open FactoryBundler.CommandLine in
/-- Run the program with the words that it is called with. -/
def main (words : List String) : IO UInt32 := do
  match Invocation.ofWords words with
  | .ok invocation => (Outcome.ofInvocation (← workspaceOf invocation) invocation).finish
  | .error reason =>
    if reason != .version then IO.eprintln usage
    (Outcome.ofStop reason).finish
