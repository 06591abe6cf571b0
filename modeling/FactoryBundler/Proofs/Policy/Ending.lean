import FactoryBundler.Proofs.Configuration.Verdict
import FactoryBundler.Proofs.Policy.Body

/-!
# How a wrapped policy ends

The last line of a wrapped policy is the last one of its template, or of its header or declarations
if the template has none to nest, and no newline follows it. But a group of variables has an empty
line behind it to separate it from the template, and has it as well if there is nothing to separate.
-/

namespace FactoryBundler.Policy

open Text (isBlank isBlankChar joinLines rows)
open FactoryBundler.Configuration (IsWritten sectionEntries)

/-- The last character of a text is a newline. -/
def EndsInNewline (text : String) : Prop :=
  ∃ front, text = front ++ "\n"

/-- The last row of a text is blank. -/
def EndsBlank (text : String) : Prop :=
  ∃ row ∈ (rows text).getLast?, row.all isBlankChar = true

/-- The last of some lines is not blank, and there is no newline in it. -/
def EndsVisibly (lines : List String) : Prop :=
  ∃ before line, lines = before ++ [line] ∧ '\n' ∉ line.toList ∧ isBlank line = false

variable {text template : String} {lines identifiers : List String}

/-! ## Ends of texts -/

theorem EndsInNewline.endsBlank (ends : EndsInNewline text) : EndsBlank text := by
  obtain ⟨front, rfl⟩ := ends
  have split := Text.rows_append_newline front ""
  rw [String.append_empty] at split
  refine ⟨[], ?_, rfl⟩
  rw [split]
  exact List.getLast?_append_cons _ _ _

theorem endsInNewline_joinLines_concat (nonempty : lines ≠ []) :
    EndsInNewline (joinLines (lines ++ [""])) := by
  refine ⟨joinLines lines, ?_⟩
  rw [Text.joinLines_append nonempty (List.cons_ne_nil _ _)]
  exact String.append_empty

theorem EndsVisibly.not_endsBlank (visibly : EndsVisibly lines) :
    ¬ EndsBlank (joinLines lines) := by
  obtain ⟨before, line, rfl, free, visible⟩ := visibly
  rintro ⟨row, isLast, blank⟩
  rw [Text.rows_joinLines (List.concat_ne_nil line before), List.flatMap_append,
    List.flatMap_singleton, Text.rows_of_not_mem free, List.getLast?_concat] at isLast
  cases isLast
  exact absurd (visible.symm.trans blank) (by decide)

theorem EndsVisibly.append_left (visibly : EndsVisibly lines) (front : List String) :
    EndsVisibly (front ++ lines) := by
  obtain ⟨before, line, rfl, ends⟩ := visibly
  exact ⟨front ++ before, line, (List.append_assoc _ _ _).symm, ends⟩

/-- A line with something in front of it ends as visibly. -/
theorem endsVisibly_concat_append {front line : String} (before : List String)
    (freeFront : '\n' ∉ front.toList) (free : '\n' ∉ line.toList)
    (visible : isBlank front = false ∨ isBlank line = false) :
    EndsVisibly (before ++ [front ++ line]) := by
  refine ⟨before, front ++ line, rfl, ?_, ?_⟩
  · rw [String.toList_append, List.mem_append, not_or]
    exact ⟨freeFront, free⟩
  · rw [Text.isBlank_append, Bool.and_eq_false_iff]
    exact visible

/-! ## The last line of a wrapped policy -/

theorem endsVisibly_headerLines : EndsVisibly headerLines :=
  ⟨headerLines.dropLast, "  \x7b\x7b/ annotations \x7d\x7d", rfl, by decide, by decide⟩

theorem endsVisibly_nestedLines (nonempty : bodyLines template ≠ []) :
    EndsVisibly (nestedLines template) := by
  have visible : ¬ isBlank ((bodyLines template).getLast nonempty) :=
    List.rdropWhile_last_not isBlank (Text.lines template) nonempty
  have free := not_mem_of_mem_bodyLines (List.getLast_mem nonempty)
  obtain ⟨before, line, split⟩ :=
    (List.eq_nil_or_concat' (bodyLines template)).resolve_left nonempty
  simp only [split, List.getLast_concat] at visible free
  rw [nestedLines, split, List.map_append, List.map_singleton, indented, if_neg visible]
  exact endsVisibly_concat_append _ (by decide) free (Or.inr (eq_false_of_ne_true visible))

theorem endsVisibly_declarationLines (declared : identifiers ≠ [])
    (free : ∀ identifier ∈ identifiers, '\n' ∉ identifier.toList) :
    EndsVisibly (declarationLines false identifiers) := by
  obtain ⟨before, identifier, rfl⟩ := (List.eq_nil_or_concat' identifiers).resolve_left declared
  have isLast : identifier ∈ before ++ [identifier] :=
    List.mem_append_right before List.mem_cons_self
  rw [declarationLines, if_neg Bool.false_ne_true, List.map_append, List.map_singleton]
  exact endsVisibly_concat_append _ (by decide) (free identifier isLast) (Or.inl (by decide))

variable {configuration : Configuration}

/-- A group of variables stands at the end of the policy, since the template has no lines to nest
behind it. -/
structure EndsWithGroup (configuration : Configuration) : Prop where
  blank : isBlank configuration.template = true
  declared : configuration.policyVariables ≠ []
  grouped : configuration.withVariablesGroup = true

theorem EndsWithGroup.endsInNewline_render (ends : EndsWithGroup configuration)
    (wrapped : configuration.wrapWithPolicy = true)
    (identified : configuration.includeIdentifier = true) :
    EndsInNewline (render configuration) := by
  rw [render_of_policyVariables wrapped identified ends.declared, nestedLines,
    bodyLines_eq_nil_iff.mpr ends.blank, List.map_nil, List.append_nil, declarationLines,
    if_pos ends.grouped, ← List.append_assoc]
  exact endsInNewline_joinLines_concat (List.append_ne_nil_of_left_ne_nil (by decide) _)

theorem endsVisibly_of_not_endsWithGroup (notEnds : ¬ EndsWithGroup configuration)
    (free : ∀ identifier ∈ Variable.identifiers configuration.policyVariables,
      '\n' ∉ identifier.toList) :
    EndsVisibly (headerLines ++ preambleLines configuration.withVariablesGroup
      (Variable.identifiers configuration.policyVariables) (bodyLines configuration.template) ++
      nestedLines configuration.template) := by
  by_cases empty : bodyLines configuration.template = []
  · rw [nestedLines, empty, List.map_nil, List.append_nil, preambleLines]
    by_cases undeclared : Variable.identifiers configuration.policyVariables = []
    · rw [if_pos ⟨rfl, undeclared⟩, List.append_nil]
      exact endsVisibly_headerLines
    · have ungrouped : configuration.withVariablesGroup = false := by
        by_contra grouped
        exact notEnds {
          blank := bodyLines_eq_nil_iff.mp empty
          declared := fun none => undeclared (List.map_eq_nil_iff.mpr none)
          grouped := eq_true_of_ne_false grouped }
      rw [if_neg (undeclared ·.2), if_neg undeclared, ungrouped]
      exact ((endsVisibly_declarationLines undeclared free).append_left _).append_left _
  · exact (endsVisibly_nestedLines empty).append_left _

/-! ## Accepted configurations -/

/-- The policy of an accepted configuration that is wrapped and whose variables have no newline in
their identifiers ends in a newline, or in a blank line, exactly if it ends with a group. So it
never does with a template of its own. -/
theorem endsInNewline_render_iff {template : Option String} {document : Json} {catalog : Catalog}
    {reserved : ReservedVariables}
    (built : Configuration.build template document catalog reserved = .ok configuration)
    (wrapped : configuration.wrapWithPolicy = true)
    (free : ∀ identifier ∈ Members.keys (sectionEntries "variables" document),
      '\n' ∉ identifier.toList) :
    (EndsInNewline (render configuration) ↔ EndsWithGroup configuration) ∧
    (EndsBlank (render configuration) ↔ EndsWithGroup configuration) ∧
    (∀ written, IsWritten template written → ¬ EndsWithGroup configuration) := by
  have identified := Configuration.includeIdentifier_of_build built wrapped
  have ofGroup (ends : EndsWithGroup configuration) : EndsInNewline (render configuration) :=
    ends.endsInNewline_render wrapped identified
  have group_of_endsBlank (ends : EndsBlank (render configuration)) :
      EndsWithGroup configuration := by
    by_contra notEnds
    rw [render_eq_joinLines wrapped identified] at ends
    refine (endsVisibly_of_not_endsWithGroup notEnds fun identifier isKnown => ?_).not_endsBlank
      ends
    have isKey := (Configuration.mem_identifiers_policyVariables built identifier).mp isKnown
    exact free identifier isKey
  refine ⟨⟨fun ends => group_of_endsBlank ends.endsBlank, ofGroup⟩,
    ⟨group_of_endsBlank, fun ends => (ofGroup ends).endsBlank⟩, ?_⟩
  rintro written ⟨rfl, visible⟩ ends
  have isTemplate := (Configuration.build_of_not_blank visible visible built).1
  exact absurd (visible.symm.trans (isTemplate ▸ ends.blank)) (by decide)

/-- Settings with a policy type and a variable. -/
def stocked : Json :=
  .object [("policy_type", .string "host-set"), ("variables", .object [("url", .null)])]

theorem endsInNewline_render_iff_stocked :
    (∀ identifier ∈ Members.keys (sectionEntries "variables" stocked),
      '\n' ∉ identifier.toList) ∧
    ∃ configuration, Configuration.build none stocked
        (Catalog.empty.register "HostSet" "- !host\n\n") .standard = .ok configuration ∧
      configuration.wrapWithPolicy = true ∧ ¬ EndsInNewline (render configuration) ∧
      ¬ EndsBlank (render configuration) := by
  have free : ∀ identifier ∈ Members.keys (sectionEntries "variables" stocked),
      '\n' ∉ identifier.toList := by decide
  obtain ⟨configuration, built⟩ : ∃ configuration, Configuration.build none stocked
      (Catalog.empty.register "HostSet" "- !host\n\n") .standard = .ok configuration := ⟨_, rfl⟩
  have wrapped : configuration.wrapWithPolicy = true := by
    cases built
    rfl
  have notEnds : ¬ EndsWithGroup configuration := by
    intro ends
    have blank := ends.blank
    cases built
    exact absurd blank (by decide)
  obtain ⟨newline_iff, blank_iff, -⟩ := endsInNewline_render_iff built wrapped free
  exact ⟨free, configuration, built, wrapped, newline_iff.not.mpr notEnds,
    blank_iff.not.mpr notEnds⟩

/-- The policy of a policy type without a body ends in a newline behind its group of variables. -/
theorem endsInNewline_render_stocked :
    (∀ identifier ∈ Members.keys (sectionEntries "variables" stocked),
      '\n' ∉ identifier.toList) ∧
    ∃ configuration, Configuration.build none stocked (Catalog.empty.register "HostSet" "")
        .standard = .ok configuration ∧
      configuration.wrapWithPolicy = true ∧ EndsInNewline (render configuration) := by
  obtain ⟨configuration, built⟩ : ∃ configuration, Configuration.build none stocked
      (Catalog.empty.register "HostSet" "") .standard = .ok configuration := ⟨_, rfl⟩
  have wrapped : configuration.wrapWithPolicy = true := by
    cases built
    rfl
  have ends : EndsWithGroup configuration := by
    cases built
    exact ⟨by decide, by decide, by decide⟩
  exact ⟨by decide, configuration, built, wrapped,
    ends.endsInNewline_render wrapped (Configuration.includeIdentifier_of_build built wrapped)⟩

end FactoryBundler.Policy
