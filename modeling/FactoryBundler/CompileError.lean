import FactoryBundler.Configuration.Hydration

/-!
# Compile errors

Why a factory does not compile. Each error keeps its cause; `message` gives the wording.
-/

namespace FactoryBundler

/-- What makes a whole configuration invalid. -/
inductive ConfigurationFault where
  | notAnObject
  /-- The same, found before anything else of the request is looked at. -/
  | notAnObjectButFound (found : Json)
  | setting (failure : Configuration.Failure)
deriving Repr, DecidableEq

/-- The wording of what makes a configuration invalid. -/
def ConfigurationFault.message : ConfigurationFault → String
  | .notAnObject => "configuration must be a JSON object"
  | .notAnObjectButFound found => s!"configuration must be a JSON object, found {found.compact}"
  | .setting failure => failure.message

/-- Why a factory does not compile. -/
inductive CompileError where
  /-- A policy type and a template of its own. -/
  | configurationConflict
  /-- Neither a policy type nor a template. -/
  | missingTemplate
  /-- A policy type that the catalog does not hold, by its name. -/
  | unknownPolicyType (name : String)
  | invalidConfiguration (fault : ConfigurationFault)
  /-- A faulty variable, by section and identifier. -/
  | invalidSetting (area identifier : String) (fault : Configuration.EntryFault)
deriving Repr, DecidableEq

namespace CompileError

/-- A variable as it is named in errors. -/
def settingName (area identifier : String) : String :=
  area ++ "." ++ identifier

/-- The wording of an error. -/
def message : CompileError → String
  | .configurationConflict =>
    "A factory cannot define 'policy-type' and include a policy.yml template. " ++
      "Please choose one or the other."
  | .missingTemplate => "No policy template found (and policy-type was not set)."
  | .unknownPolicyType name =>
    s!"Factory defines 'policy-type' but the template '{name}' is not a valid template option."
  | .invalidConfiguration fault => s!"Invalid factory configuration: {fault.message}"
  | .invalidSetting area identifier fault =>
    s!"Invalid value for '{settingName area identifier}': {fault.message}"

end CompileError

end FactoryBundler
