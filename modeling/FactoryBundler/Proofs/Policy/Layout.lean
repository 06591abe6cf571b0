import FactoryBundler.Proofs.Configuration.Build
import FactoryBundler.Proofs.Policy
import Mathlib.Data.List.DropRight

/-!
# Policies of accepted configurations

The exact text of every policy, said without the writer: which lines it has, in which order and how
deep, for any variables and any template. The writer enters and leaves levels in pairs on the way,
whichever of the parts it writes.
-/

namespace FactoryBundler.Policy

open Text (isBlank lines)
open Variable (identifiers)

/-- The body of a template: its lines up to the last one that is not blank. -/
structure IsBody (template : String) (body : List String) : Prop where
  rest_isBlank : ∃ rest, lines template = body ++ rest ∧ ∀ line ∈ rest, isBlank line
  last_not_isBlank : ∀ nonempty : body ≠ [], ¬ isBlank (body.getLast nonempty)

theorem isBody_bodyLines (template : String) : IsBody template (bodyLines template) where
  rest_isBlank := ⟨(lines template).rtakeWhile isBlank,
    List.rdropWhile_append_rtakeWhile.symm,
    fun _ inRest => List.mem_rtakeWhile_imp inRest⟩
  last_not_isBlank := List.rdropWhile_last_not isBlank (lines template)

variable {template : Option String} {document : Json} {catalog : Catalog}
  {reserved : ReservedVariables} {configuration : Configuration}

/-- The policy of an accepted configuration is its template or, if it is wrapped, six lines that
open it, the declarations of its variables, and the template's body two blanks deeper. On the way no
level is left that was not entered, and the body starts one level deep. -/
theorem render_layout
    (built : Configuration.build template document catalog reserved = .ok configuration) :
    (configuration.wrapWithPolicy = false → render configuration = configuration.template) ∧
    (configuration.wrapWithPolicy = true → ∃ body before,
      IsBody configuration.template body ∧
      render configuration = "\n".intercalate (headerLines ++
        preambleLines configuration.withVariablesGroup
          (identifiers configuration.policyVariables) body ++
        body.map fun line => if isBlank line then "" else "  " ++ line) ∧
      steps configuration = before ++ body.map .line ∧
      (Writer.start.run before).depth = 1 ∧
      Writer.start.LeavesEntered (steps configuration)) := by
  refine ⟨render_of_not_wrapped, ?_⟩
  intro wrapped
  have identified : configuration.includeIdentifier = true := by
    cases document with
    | object members =>
        obtain ⟨settings, source, isBuilt⟩ := Configuration.exists_isBuiltFrom built
        exact isBuilt.includeIdentifier wrapped
    | _ => cases built
  obtain ⟨before, stepsEq, opens⟩ := exists_opens_steps identified
  have whole := opens.append (Writes.map_line 1 (bodyLines configuration.template))
  rw [← stepsEq] at whole
  refine ⟨bodyLines configuration.template, before, isBody_bodyLines _, ?_, stepsEq, ?_,
    whole.leavesEntered⟩
  · exact render_eq_joinLines wrapped identified
  · rw [opens.run_eq]

/-- Settings that declare two variables. -/
def declaring : Json :=
  .object [("variables", .object [("url", .null), ("key", .null)])]

/-- A template with a carriage return, a line of blanks between two others, and blank lines at its
end. -/
def ragged : String :=
  "- !host a\r\n \u2003\n- !host b\n  id: b\n\t\n\n"

theorem render_layout_ragged :
    ∃ configuration body before,
      Configuration.build (some ragged) declaring .empty .standard = .ok configuration ∧
      configuration.wrapWithPolicy = true ∧
      IsBody ragged body ∧
      render configuration = "\n".intercalate (headerLines ++
        preambleLines true ["url", "key"] body ++
          body.map fun line => if isBlank line then "" else "  " ++ line) ∧
      steps configuration = before ++ body.map .line ∧
      (Writer.start.run before).depth = 1 ∧
      Writer.start.LeavesEntered (steps configuration) := by
  obtain ⟨configuration, built⟩ : ∃ configuration,
      Configuration.build (some ragged) declaring .empty .standard = .ok configuration := ⟨_, rfl⟩
  have isBuilt := built
  cases built
  obtain ⟨body, before, layout⟩ := (render_layout isBuilt).2 rfl
  exact ⟨_, body, before, isBuilt, rfl, layout⟩

example : bodyLines ragged = ["- !host a", " \u2003", "- !host b", "  id: b"] := by decide

end FactoryBundler.Policy
