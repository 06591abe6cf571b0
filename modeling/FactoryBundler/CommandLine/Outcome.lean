import FactoryBundler.CommandLine.Invocation
import FactoryBundler.PolicyType.Directory

/-!
# Outcomes

What the program writes and how it ends. It ends with 0 if all went well, with 1 if something could
not be read, and with 2 if a factory does not compile, a plan has failures, or the words it is
called with make no sense. What it writes is one document.
-/

namespace FactoryBundler.CommandLine

/-- The text that is written and the code that the program ends with. -/
structure Outcome where
  code : Nat
  output : String
deriving Repr, DecidableEq

/-- The version of the program. -/
def programVersion : String := "1.0.0"

namespace Outcome

/-- End with a document. -/
def ofJson (code : Nat) (document : Json) : Outcome :=
  ⟨code, document.pretty ++ "\n"⟩

/-- End with an error. -/
def failure (code : Nat) (message : String) : Outcome :=
  ofJson code (.object [("success", .bool false), ("error", .string message)])

/-- End because nothing is run. -/
def ofStop : Stop → Outcome
  | .help => ⟨0, ""⟩
  | .version => ⟨0, "policy-factory " ++ programVersion ++ "\n"⟩
  | .misuse => ⟨2, ""⟩

/-- A compiled factory as a document. -/
def compiledJson (compiled : Compiled) : Json :=
  .object [
    ("success", .bool true),
    ("factory", .string compiled.bundle.encode),
    ("fingerprint", .string compiled.bundle.fingerprint),
    ("policy", .string compiled.bundle.policy),
    ("policy_branch", .string compiled.bundle.policyBranch),
    ("schema", compiled.bundle.schema),
    ("warnings", .array (compiled.warnings.map Warning.toJson))]

/-- Compile the factory in one directory. -/
def ofCompile (workspace : Workspace) (compiler : Compiler) (directory : RawText)
    (name category version : Option String) : Outcome :=
  match Definition.fromDirectory workspace directory with
  | .error error => failure 1 error.message
  | .ok definition =>
    let request := definition.toRequest
    let request := { request with
      name := name.getD request.name
      category := category.getD request.category
      version := version.getD request.version }
    match compiler.compile request with
    | .error error => failure 2 error.message
    | .ok compiled => ofJson 0 (compiledJson compiled)

/-- Compile all factories under a root. -/
def ofPlan (workspace : Workspace) (compiler : Compiler) (root : RawText) (target : String) :
    Outcome :=
  match Discovery.walk workspace root with
  | .error error => failure 1 error.message
  | .ok discovery =>
    let plan := Plan.ofDiscovery compiler discovery target
    ofJson (if plan.isComplete then 0 else 2) <|
      .object [
        ("success", .bool plan.isComplete),
        ("engine_version", .string programVersion),
        ("plan", plan.toJson)]

/-- List the policy types. -/
def ofPolicyTypes (catalog : Catalog) : Outcome :=
  ofJson 0 (.array (catalog.names.map Json.string))

/-- Show what an encoded factory holds. -/
def ofInspect (blob : String) : Outcome :=
  match Bundle.decode blob with
  | .error fault => failure 1 fault.message
  | .ok bundle =>
    ofJson 0 <|
      .object [
        ("version", .string bundle.version),
        ("policy", .string bundle.policy),
        ("policy_branch", .string bundle.policyBranch),
        ("schema", bundle.schema)]

/-- Carry out a command. -/
def ofCommand (workspace : Workspace) (catalog : Catalog) : Command → Outcome
  | .compile directory name category version =>
    ofCompile workspace ⟨catalog, .standard⟩ directory name category version
  | .plan root target => ofPlan workspace ⟨catalog, .standard⟩ root target
  | .policyTypes => ofPolicyTypes catalog
  | .inspect blob => ofInspect blob

/-- The policy types that come with the program and those in a directory. -/
def catalogWith (workspace : Workspace) : Option String → Except (String × FileError) Catalog
  | none => .ok PolicyType.builtin
  | some directory =>
    match Catalog.load workspace directory with
    | .ok additional => .ok (PolicyType.builtin.extend additional)
    | .error error => .error (directory, error)

/-- Carry out an invocation. -/
def ofInvocation (workspace : Workspace) (invocation : Invocation) : Outcome :=
  match catalogWith workspace invocation.catalogDirectory with
  | .ok catalog => ofCommand workspace catalog invocation.command
  | .error (directory, error) =>
    failure 1 s!"Failed to load policy types from {directory}: {error.message}"

/-- The outcome of calling the program with some words. -/
def ofWords (workspace : Workspace) (words : List String) : Outcome :=
  match Invocation.ofWords words with
  | .ok invocation => ofInvocation workspace invocation
  | .error reason => ofStop reason

end Outcome

end FactoryBundler.CommandLine
