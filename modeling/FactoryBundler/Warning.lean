import FactoryBundler.Json.Value

/-!
# Warnings

A setting that contradicts another one, but can be overridden, is overridden and reported. A
warning names the setting whose explicit value did not count and the reason.
-/

namespace FactoryBundler

/-- A setting name with dashes for underscores, as it is written in prose. -/
def dashed (setting : String) : String :=
  String.ofList (setting.toList.map fun c => if c == '_' then '-' else c)

/-- Why an explicit value did not count. -/
inductive Warning.Reason where
  /-- The policy is wrapped, which settles the setting. -/
  | wrappedPolicy
  /-- A policy type is used, which settles the setting. -/
  | policyType
deriving Repr, DecidableEq

/-- A setting whose explicit value did not count. -/
structure Warning where
  setting : String
  reason : Warning.Reason
deriving Repr, DecidableEq

namespace Warning

/-- The wording of a warning. -/
def message (warning : Warning) : String :=
  match warning.reason with
  | .wrappedPolicy => s!"When 'wrap-with-policy' is true, '{dashed warning.setting}' is ignored."
  | .policyType =>
    s!"When 'policy-type' is defined, the '{dashed warning.setting}' setting is ignored."

/-- A warning as a document. -/
def toJson (warning : Warning) : Json :=
  .object [("setting", .string warning.setting), ("message", .string warning.message)]

end Warning

end FactoryBundler
