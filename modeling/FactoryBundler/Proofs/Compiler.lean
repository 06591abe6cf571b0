import FactoryBundler.Proofs.Configuration.Build
import FactoryBundler.Proofs.Policy
import FactoryBundler.Proofs.Schema.Inputs

/-!
# Agreement of the two artifacts

The policy and the schema of a bundle are made from one configuration by two generators that do not
look at each other. What the policy leaves to be filled in is what the schema asks the caller for.
-/

namespace FactoryBundler

open Policy (headerLines declarationLines nestedLines)

namespace Compiler

/-- How the policy and the schema of a bundle fit together, for what a request gives and for the
configuration that was built from it. -/
structure Agree (request : Request) (configuration : Configuration) (bundle : Bundle) : Prop where
  /-- A wrapped policy opens with its identifier, and the schema asks for it. -/
  identifier : configuration.wrapWithPolicy = true →
    (∃ rest, bundle.policy = "\n".intercalate (headerLines ++ rest)) ∧
      bundle.schema.HasProperty "id" ∧ bundle.schema.Requires "id"
  /-- If no branch is given it is left to be filled in, and the schema asks for it. -/
  branch_asked : request.given? "default_policy_branch" = none →
    bundle.policyBranch = "\x7b\x7b branch \x7d\x7d" ∧
      bundle.schema.HasProperty "branch" ∧ bundle.schema.Requires "branch"
  /-- A branch that is given is the bundle's, and the schema does not mention one. -/
  branch_fixed : ∀ value, request.given? "default_policy_branch" = some value →
    Configuration.text value = .ok (some bundle.policyBranch) ∧ bundle.policyBranch ≠ "" ∧
      ¬ bundle.schema.HasProperty "branch" ∧ ¬ bundle.schema.Requires "branch"
  /-- If variables are given, a wrapped policy declares those that the schema's group lists, in
  number and order, right behind its header. -/
  declared : ∀ value, request.given? "variables" = some value →
    configuration.wrapWithPolicy = true →
    ∃ identifiers, identifiers ≠ [] ∧ bundle.schema.GroupLists "variables" identifiers ∧
      bundle.policy = "\n".intercalate (headerLines ++ ["", "  body:"] ++
        declarationLines configuration.withVariablesGroup identifiers ++
        nestedLines configuration.template)
  /-- If no variables are given, a policy is its template, nested or not, and declares none. -/
  undeclared : request.given? "variables" = none →
    bundle.policy =
      if configuration.wrapWithPolicy then
        "\n".intercalate (headerLines ++
          if nestedLines configuration.template = [] then []
          else ["", "  body:"] ++ nestedLines configuration.template)
      else configuration.template

/-- The artifacts of one compilation agree, whatever the catalog and the settings are, as long as
the reserved variables carry the identifiers of their slots. -/
theorem artifacts_agree (compiler : Compiler) (carry : compiler.reserved.CarryIdentifiers)
    (request : Request) (compiled : Compiled) (h : compiler.compile request = .ok compiled) :
    ∃ configuration, compiler.configure request = .ok configuration ∧
      Agree request configuration compiled.bundle := by
  obtain ⟨configuration, configured, bundle⟩ := exists_bundleOf h
  obtain ⟨members, settings, source, built, spelled⟩ := exists_isBuiltFrom_of_configure configured
  have first := Configuration.reservedIdentifiers_prefix carry built.templateVariables_ok
  have branchSpelled := spelled "default_policy_branch" (by decide)
  have groupSpelled := spelled "variables" (by decide)
  rw [bundle]
  refine ⟨configuration, configured,
    ?identifier, ?branch_asked, ?branch_fixed, ?declared, ?undeclared⟩
  case identifier =>
    intro wrapped
    have identified := built.includeIdentifier wrapped
    exact ⟨Policy.render_of_wrapped wrapped identified,
      Schema.hasProperty_and_requires_id first identified⟩
  case branch_asked =>
    intro absent
    obtain ⟨asked, placeholder⟩ := built.includePolicyBranch_of_none (branchSpelled.trans absent)
    exact ⟨placeholder, Schema.hasProperty_and_requires_branch first asked⟩
  case branch_fixed =>
    intro value given
    obtain ⟨coerced, nonempty, fixed⟩ :=
      built.includePolicyBranch_of_some (branchSpelled.trans given) (not_void_of_given? given)
    exact ⟨coerced, nonempty, Schema.not_hasProperty_branch fixed,
      Schema.not_requires_branch fixed⟩
  case declared =>
    intro value given wrapped
    have declared :=
      built.policyVariables_of_some (groupSpelled.trans given) (not_void_of_given? given)
    have distinct := Configuration.nodup_hydrate_none built.policyVariables_ok
    refine ⟨Variable.identifiers configuration.policyVariables, ?_, ?_, ?_⟩
    · simpa [Variable.identifiers] using declared
    · exact Schema.groupLists_identifiers declared distinct
    · exact Policy.render_of_policyVariables wrapped (built.includeIdentifier wrapped) declared
  case undeclared =>
    intro absent
    have undeclared := built.policyVariables_of_none (groupSpelled.trans absent)
    split
    · next wrapped =>
      exact Policy.render_of_no_policyVariables wrapped (built.includeIdentifier wrapped) undeclared
    · next unwrapped =>
      exact Policy.render_of_not_wrapped (eq_false_of_ne_true unwrapped)

/-- A request with a branch and two variables. -/
def withVariables : Request where
  name := "db"
  version := "v1"
  category := "core"
  policyTemplate := some "- !host"
  configuration := .object [
    ("title", .string "Database"),
    ("default-policy-branch", .string "root"),
    ("variables", .object [("url", .null), ("password", .null)])]

theorem artifacts_agree_withVariables :
    ∃ compiled, standard.compile withVariables = .ok compiled ∧
      Configuration.text (.string "root") = .ok (some compiled.bundle.policyBranch) ∧
      ¬ compiled.bundle.schema.Requires "branch" ∧
      ∃ identifiers rest, compiled.bundle.schema.GroupLists "variables" identifiers ∧
        compiled.bundle.policy = "\n".intercalate (headerLines ++ ["", "  body:"] ++
          declarationLines true identifiers ++ rest) := by
  obtain ⟨compiled, compiles⟩ : ∃ compiled, standard.compile withVariables = .ok compiled :=
    ⟨_, rfl⟩
  obtain ⟨configuration, configured, agree⟩ :=
    artifacts_agree standard ⟨rfl, rfl, rfl⟩ withVariables compiled compiles
  obtain ⟨branch, -, -, notRequired⟩ := agree.branch_fixed (.string "root") rfl
  cases configured
  obtain ⟨identifiers, -, lists, policy⟩ := agree.declared _ rfl rfl
  exact ⟨compiled, compiles, branch, notRequired, identifiers, _, lists, policy⟩

end Compiler

end FactoryBundler
