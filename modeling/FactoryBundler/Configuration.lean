import FactoryBundler.CompileError
import FactoryBundler.Configuration.Settings
import FactoryBundler.PolicyType.Catalog
import FactoryBundler.Warning

/-!
# Configurations

A configuration is what remains of a factory's settings once every coercion, default and override
has been applied: both artifacts of the factory are made from it alone. Contradictory settings are
errors; settings that another one overrides are warned about when they had been given explicitly.

The settings are looked at in a fixed order, and the first fault found is the error: first each
setting by itself, then the variables of both sections, then the template.
-/

namespace FactoryBundler

/-- A factory's settings in their final form. -/
structure Configuration where
  title : String
  description : String
  givenBranch : Option String
  template : String
  policyVariables : List Variable
  /-- The reserved variables, and behind them the others of this section. -/
  templateVariables : List Variable
  withVariablesGroup : Bool
  wrapWithPolicy : Bool
  includeIdentifier : Bool
  includeAnnotations : Bool
  warnings : List Warning
deriving Repr, DecidableEq

namespace Configuration

/-- Where a policy comes from. -/
inductive Source where
  /-- A template written for the factory. -/
  | written (template : String)
  /-- The body of a policy type. -/
  | canned (body : String)
deriving Repr, DecidableEq

/-- The text of a source. -/
def Source.template : Source → String
  | .written template => template
  | .canned body => body

/-- Choose between a template and a policy type. A blank template and a policy type without a name
count as not given. -/
def chooseSource (template policyType : Option String) (catalog : Catalog) :
    Except CompileError Source :=
  let template := template.filter fun text => !Text.isBlank text
  let policyType := (policyType.map PolicyType.name).filter fun name => !name.isEmpty
  match template, policyType with
  | some _, some _ => .error .configurationConflict
  | none, none => .error .missingTemplate
  | some text, none => .ok (.written text)
  | none, some name =>
    match catalog.get? name with
    | some body => .ok (.canned body)
    | none => .error (.unknownPolicyType name)

/-- The on-off settings in their final form, with the warnings on the way. -/
structure Toggles where
  withVariablesGroup : Bool
  wrapWithPolicy : Bool
  includeIdentifier : Bool
  includeAnnotations : Bool
  warnings : List Warning
deriving Repr, DecidableEq

/-- A warning if the condition holds. -/
def warnIf (condition : Bool) (setting : String) (reason : Warning.Reason) : List Warning :=
  if condition then [⟨setting, reason⟩] else []

/-- Settle the on-off settings. Variables call for a group and a wrapping policy unless the
settings say otherwise; a wrapping policy calls for the identifier; a policy type calls for both,
whatever the settings say. -/
def settle (settings : Settings) (hasVariables : Bool) (source : Source) : Toggles :=
  let wrapped := settings.wrapWithPolicy.getD hasVariables
  let identified := settings.includeIdentifier.getD true
  let wrappedWarnings := warnIf (wrapped && !identified) "include_identifier" .wrappedPolicy
  let toggles : Toggles := {
    withVariablesGroup := settings.withVariablesGroup.getD hasVariables
    wrapWithPolicy := wrapped
    includeIdentifier := identified || wrapped
    includeAnnotations := settings.includeAnnotations.getD true
    warnings := wrappedWarnings }
  match source with
  | .written _ => toggles
  | .canned _ =>
    { toggles with
      wrapWithPolicy := true
      includeIdentifier := true
      warnings := wrappedWarnings ++
        warnIf (settings.wrapWithPolicy == some false) "wrap_with_policy" .policyType ++
        warnIf (!toggles.includeIdentifier) "include_identifier" .policyType }

/-- The configuration of a factory with this template, if it has one, and these settings. -/
def build (template : Option String) (document : Json) (catalog : Catalog)
    (reserved : ReservedVariables) : Except CompileError Configuration := do
  let members ←
    match document with
    | .object members => pure members
    | _ => .error (.invalidConfiguration .notAnObject)
  let settings ← (Settings.ofMembers members).mapError fun failure =>
    .invalidConfiguration (.setting failure)
  let policyVariables ←
    (hydrate none settings.policyVariables).mapError fun (identifier, fault) =>
      .invalidSetting "variables" identifier fault
  let templateVariables ←
    (hydrate (some reserved) settings.templateVariables).mapError fun (identifier, fault) =>
      .invalidSetting "policy_template_variables" identifier fault
  let source ← chooseSource template settings.policyType catalog
  let toggles := settle settings (!policyVariables.isEmpty) source
  return {
    title := settings.title.getD ""
    description := settings.description.getD ""
    givenBranch := settings.defaultPolicyBranch
    template := source.template
    policyVariables := policyVariables
    templateVariables := templateVariables
    withVariablesGroup := toggles.withVariablesGroup
    wrapWithPolicy := toggles.wrapWithPolicy
    includeIdentifier := toggles.includeIdentifier
    includeAnnotations := toggles.includeAnnotations
    warnings := toggles.warnings }

variable (configuration : Configuration)

/-- The branch that policies are loaded into; an empty text counts as not given. -/
def defaultBranch? : Option String :=
  configuration.givenBranch.filter fun branch => !branch.isEmpty

/-- Whether the caller has to name the branch. -/
def includePolicyBranch : Bool :=
  configuration.defaultBranch?.isNone

/-- What is filled in where the caller names the branch. -/
def branchPlaceholder : String := "\x7b\x7b branch \x7d\x7d"

/-- The branch, or the placeholder for the one that the caller names. -/
def policyBranch : String :=
  configuration.defaultBranch?.getD branchPlaceholder

/-- The variable for a reserved identifier. Only the slots of the reserved variables count. -/
def reserved? (identifier : String) : Option Variable :=
  (configuration.templateVariables.take Variable.reservedIdentifiers.length).find?
    fun v => v.identifier == identifier

end Configuration

end FactoryBundler
