import FactoryBundler.Compiler
import FactoryBundler.Discovery

/-!
# Load plans

A plan lists, for everything that a discovery found, either the encoded factory with the path of
the variable that it is loaded into, or the failure. What is recorded for one definition does not
depend on the others, and a definition that fails never ends the batch.
-/

namespace FactoryBundler

/-- Why a factory is not part of a plan's factories. -/
inductive PlanError where
  | load (error : DiscoveryError)
  | compile (error : CompileError)
deriving Repr, DecidableEq

/-- The wording of an error. -/
def PlanError.message : PlanError → String
  | .load error => error.message
  | .compile error => error.message

/-- A factory that is ready to be loaded. -/
structure PlanEntry where
  path : String
  title : String
  description : String
  factory : String
  fingerprint : String
deriving Repr, DecidableEq

/-- A factory that cannot be loaded. -/
structure PlanFailure where
  path : String
  error : PlanError
deriving Repr, DecidableEq

/-- The factories in the order of their discovery, and the failures in the order of their paths. -/
structure Plan where
  factories : List PlanEntry
  failures : List PlanFailure
deriving Repr, DecidableEq

/-- The entry of a bundle. -/
def PlanEntry.ofBundle (path : String) (bundle : Bundle) : PlanEntry where
  path := path
  title := bundle.title
  description := bundle.description
  factory := bundle.encode
  fingerprint := bundle.fingerprint

/-- An entry as a document. -/
def PlanEntry.toJson (entry : PlanEntry) : Json :=
  .object [
    ("path", .string entry.path),
    ("title", .string entry.title),
    ("description", .string entry.description),
    ("factory", .string entry.factory),
    ("fingerprint", .string entry.fingerprint)]

/-- A failure as a document. -/
def PlanFailure.toJson (failure : PlanFailure) : Json :=
  .object [
    ("path", .string failure.path),
    ("error", .string failure.error.message)]

namespace Plan

/-- The policy that factories are loaded into unless another one is named. -/
def defaultTarget : String := "conjur/factories"

/-- The path of a variable in the target policy, whose trailing slashes do not count. -/
def targetPath (target inner : String) : String :=
  Path.dropTrailingSlashes target ++ "/" ++ inner

/-- What is recorded for a definition. -/
def ofDefinition (compiler : Compiler) (target : String) (definition : Definition) :
    Except PlanFailure PlanEntry :=
  let path := targetPath target definition.variablePath
  match compiler.compile definition.toRequest with
  | .ok compiled => .ok (.ofBundle path compiled.bundle)
  | .error error => .error ⟨path, .compile error⟩

/-- What is recorded for a site whose definition cannot be had. -/
def ofLoadFailure (target : String) (failure : LoadFailure) : PlanFailure :=
  ⟨targetPath target failure.variablePath, .load failure.error⟩

/-- Failures in ascending order of their paths. Those of one path keep their order. -/
def sortFailures (failures : List PlanFailure) : List PlanFailure :=
  failures.mergeSort fun first second => first.path ≤ second.path

/-- The plan for everything that was discovered. -/
def ofDiscovery (compiler : Compiler) (discovery : Discovery) (target : String) : Plan where
  factories := discovery.definitions.filterMap fun definition =>
    match ofDefinition compiler target definition with
    | .ok entry => some entry
    | .error _ => none
  failures := sortFailures <|
    discovery.failures.map (ofLoadFailure target) ++
      discovery.definitions.filterMap fun definition =>
        match ofDefinition compiler target definition with
        | .ok _ => none
        | .error failure => some failure

/-- Whether nothing failed. -/
def isComplete (plan : Plan) : Bool :=
  plan.failures.isEmpty

/-- A plan as a document. -/
def toJson (plan : Plan) : Json :=
  .object [
    ("factories", .array (plan.factories.map PlanEntry.toJson)),
    ("failures", .array (plan.failures.map PlanFailure.toJson))]

end Plan

end FactoryBundler
