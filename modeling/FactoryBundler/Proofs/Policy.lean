import FactoryBundler.Proofs.Configuration.Hydration
import FactoryBundler.Proofs.Policy.Writer

/-!
# Layout of policy texts

A wrapped policy with an identifier, line by line: six lines that open it, the declarations of its
variables by their identifiers, and the lines of the template one level deeper. The writer is one
level inside the policy wherever one of these parts ends.
-/

namespace FactoryBundler.Policy

open Text (joinLines)
open Variable (identifiers)

variable {configuration : Configuration}

/-- The lines that open a wrapping policy with an identifier. -/
def headerLines : List String :=
  ["- !policy",
    "  id: \x7b\x7b id \x7d\x7d",
    "  annotations:",
    "  \x7b\x7b# annotations \x7d\x7d",
    "    \x7b\x7b key \x7d\x7d: \x7b\x7b value \x7d\x7d",
    "  \x7b\x7b/ annotations \x7d\x7d"]

/-- The lines that declare variables with these identifiers, at least one. -/
def declarationLines (grouped : Bool) (identifiers : List String) : List String :=
  if grouped then
    "  - &variables" :: identifiers.map ("    - !variable " ++ ·) ++ [""]
  else identifiers.map ("  - !variable " ++ ·)

/-- The template's lines inside a wrapping policy. -/
def nestedLines (template : String) : List String :=
  (bodyLines template).map (indented 1)

/-- All lines between those that open a wrapping policy and those of the template. -/
def preambleLines (grouped : Bool) (identifiers body : List String) : List String :=
  if body = [] ∧ identifiers = [] then []
  else ["", "  body:"] ++ if identifiers = [] then [] else declarationLines grouped identifiers

/-! ## Parts of a wrapped policy -/

theorem indented_declaration (level : Nat) (identifier : String) :
    indented level ("- !variable " ++ identifier) =
      String.ofList (List.replicate (2 * level) ' ') ++ "- !variable " ++ identifier := by
  have visible : Text.isBlank ("- !variable " ++ identifier) = false := by
    simp [Text.isBlank, Text.isBlankChar]
  rw [indented, visible, String.append_assoc]
  rfl

theorem writes_map_declaration (level : Nat) (policyVariables : List Variable) :
    Writes level (policyVariables.map declaration)
      ((identifiers policyVariables).map fun identifier =>
        String.ofList (List.replicate (2 * level) ' ') ++ "- !variable " ++ identifier) := by
  have writes := Writes.map_line level ((identifiers policyVariables).map ("- !variable " ++ ·))
  simp only [identifiers, List.map_map, Function.comp_def, indented_declaration] at writes ⊢
  exact writes

theorem writes_declarations (grouped : Bool) (policyVariables : List Variable) :
    Writes 1 (declarations grouped policyVariables)
      (if identifiers policyVariables = [] then []
        else declarationLines grouped (identifiers policyVariables)) := by
  by_cases undeclared : policyVariables = []
  · rw [undeclared]
    exact .nil
  · have declared : identifiers policyVariables ≠ [] := by simpa [identifiers] using undeclared
    rw [declarations, if_neg (by simpa using undeclared), if_neg declared, declarationLines]
    cases grouped with
    | false => exact writes_map_declaration 1 policyVariables
    | true =>
        have anchor : indented 1 "- &variables" = "  - &variables" := by decide
        have group := Writes.line "- &variables"
          (.nested (writes_map_declaration 2 policyVariables) (.blank .nil))
        rw [anchor, List.append_assoc _ [Step.leave]] at group
        exact group

theorem opens_opening : Opens (opening true) headerLines where
  run_eq := by decide
  leavesEntered := by simp [Writer.LeavesEntered, Writer.take, opening, Writer.start]

/-- In front of the template's lines the writer is one level inside the policy. -/
theorem exists_opens_steps (identified : configuration.includeIdentifier = true) :
    ∃ before, steps configuration = before ++ (bodyLines configuration.template).map .line ∧
      Opens before (headerLines ++ preambleLines configuration.withVariablesGroup
        (identifiers configuration.policyVariables) (bodyLines configuration.template)) := by
  have undeclared : identifiers configuration.policyVariables = [] ↔
      configuration.policyVariables = [] := List.map_eq_nil_iff
  rw [steps, identified, preambleLines]
  by_cases nothing : bodyLines configuration.template = [] ∧
      identifiers configuration.policyVariables = []
  · refine ⟨opening true, ?_, ?_⟩
    · simp [nothing, undeclared.mp nothing.2]
    · rw [if_pos nothing, List.append_nil]
      exact opens_opening
  · have marker : indented 1 "body:" = "  body:" := by decide
    have preamble := Writes.blank (.line "body:" (writes_declarations
      configuration.withVariablesGroup configuration.policyVariables))
    rw [marker] at preamble
    rw [if_neg nothing]
    refine ⟨_, ?_, opens_opening.append preamble⟩
    rw [undeclared] at nothing
    simp [nothing]

/-! ## Rendered policies -/

theorem render_of_not_wrapped (unwrapped : configuration.wrapWithPolicy = false) :
    render configuration = configuration.template := by
  rw [render, unwrapped]
  rfl

/-- A wrapped policy is its opening lines, what stands in front of the template's lines, and these
lines one level deeper. -/
theorem render_eq_joinLines (wrapped : configuration.wrapWithPolicy = true)
    (identified : configuration.includeIdentifier = true) :
    render configuration =
      joinLines (headerLines ++ preambleLines configuration.withVariablesGroup
        (identifiers configuration.policyVariables) (bodyLines configuration.template) ++
        nestedLines configuration.template) := by
  obtain ⟨before, stepsEq, opens⟩ := exists_opens_steps identified
  have whole := opens.append (Writes.map_line 1 (bodyLines configuration.template))
  rw [render, if_pos wrapped, stepsEq, Writer.text, whole.run_eq]
  rfl

theorem render_of_wrapped (wrapped : configuration.wrapWithPolicy = true)
    (identified : configuration.includeIdentifier = true) :
    ∃ rest, render configuration = joinLines (headerLines ++ rest) := by
  rw [render_eq_joinLines wrapped identified, List.append_assoc]
  exact ⟨_, rfl⟩

theorem render_of_policyVariables (wrapped : configuration.wrapWithPolicy = true)
    (identified : configuration.includeIdentifier = true)
    (declared : configuration.policyVariables ≠ []) :
    render configuration =
      joinLines (headerLines ++ ["", "  body:"] ++
        declarationLines configuration.withVariablesGroup
          (identifiers configuration.policyVariables) ++
        nestedLines configuration.template) := by
  have nonempty : identifiers configuration.policyVariables ≠ [] := by
    simpa [identifiers] using declared
  rw [render_eq_joinLines wrapped identified, preambleLines, if_neg (nonempty ·.2),
    if_neg nonempty, ← List.append_assoc headerLines]

theorem render_of_no_policyVariables (wrapped : configuration.wrapWithPolicy = true)
    (identified : configuration.includeIdentifier = true)
    (undeclared : configuration.policyVariables = []) :
    render configuration =
      joinLines (headerLines ++
        if nestedLines configuration.template = [] then []
        else ["", "  body:"] ++ nestedLines configuration.template) := by
  rw [render_eq_joinLines wrapped identified, undeclared, nestedLines, preambleLines]
  cases bodyLines configuration.template <;> simp [identifiers]

end FactoryBundler.Policy
