import FactoryBundler.Configuration.Coercion

/-!
# Settings

The settings that a configuration gives, each coerced to its type, before anything is concluded from
them. The variables of the two sections are not yet looked at.
-/

namespace FactoryBundler.Configuration

/-- The settings given in a configuration. -/
structure Settings where
  title : Option String
  description : Option String
  defaultPolicyBranch : Option String
  policyType : Option String
  policyVariables : Option (List (String × Json))
  templateVariables : Option (List (String × Json))
  withVariablesGroup : Option Bool
  wrapWithPolicy : Option Bool
  includeIdentifier : Option Bool
  includeAnnotations : Option Bool
deriving Repr, DecidableEq

namespace Settings

/-- No setting. -/
def unset : Settings :=
  ⟨none, none, none, none, none, none, none, none, none, none⟩

/-- The names of the settings. -/
def known : List String :=
  ["title", "description", "default_policy_branch", "policy_type", "variables",
    "policy_template_variables", "with_variables_group", "wrap_with_policy", "include_identifier",
    "include_annotations"]

/-- Take in one setting. -/
def set (settings : Settings) (key : String) (value : Json) : Except Failure Settings :=
  match key with
  | "title" => return { settings with title := ← text value }
  | "description" => return { settings with description := ← text value }
  | "default_policy_branch" => return { settings with defaultPolicyBranch := ← text value }
  | "policy_type" => return { settings with policyType := ← text value }
  | "variables" => return { settings with policyVariables := ← members value }
  | "policy_template_variables" =>
    return { settings with templateVariables := ← members value }
  | "with_variables_group" => return { settings with withVariablesGroup := ← boolean value }
  | "wrap_with_policy" => return { settings with wrapWithPolicy := ← boolean value }
  | "include_identifier" => return { settings with includeIdentifier := ← boolean value }
  | "include_annotations" => return { settings with includeAnnotations := ← boolean value }
  | other => .error (.shape (.unknownField other known))

/-- Take in members one after the other; the first that fails is the failure. -/
def setAll (settings : Settings) : List (String × Json) → Except Failure Settings
  | [] => .ok settings
  | (key, value) :: more => do setAll (← settings.set key value) more

/-- The settings that members give, dashes and underscores being the same in their keys. -/
def ofMembers (members : List (String × Json)) : Except Failure Settings :=
  unset.setAll (respell members)

end Settings

end FactoryBundler.Configuration
