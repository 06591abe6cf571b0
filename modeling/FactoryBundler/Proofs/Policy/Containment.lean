import FactoryBundler.Proofs.Configuration.Build
import FactoryBundler.Proofs.Policy.Body

/-!
# What stays inside a wrapping policy

A wrapping policy holds what is indented below its first row. A template is cut into its lines
before it is indented, so none of them gets out. An identifier is put into a line as it stands; if
it has newlines of its own, its further rows keep the indentation that they bring along.
-/

namespace FactoryBundler.Policy

open Text (joinLines rows)
open Variable (identifiers)
open FactoryBundler.Configuration (sectionEntries)

/-- A row that a policy around it holds: it is empty or begins one level deep. -/
def IsInside (row : List Char) : Prop :=
  row = [] ∨ [' ', ' '] <+: row

/-- The first row of a text holds all others. -/
def IsNested (text : String) : Prop :=
  ∀ row ∈ (rows text).tail, IsInside row

/-- All rows of a line are inside. -/
def StaysInside (line : String) : Prop :=
  ∀ row ∈ rows line, IsInside row

instance : DecidablePred IsInside := fun row =>
  inferInstanceAs (Decidable (row = [] ∨ [' ', ' '] <+: row))

instance : DecidablePred IsNested := fun text =>
  inferInstanceAs (Decidable (∀ row ∈ (rows text).tail, IsInside row))

instance : DecidablePred StaysInside := fun line =>
  inferInstanceAs (Decidable (∀ row ∈ rows line, IsInside row))

variable {front text template line : String} {configuration : Configuration}

/-! ## Lines -/

theorem isNested_of_not_mem (free : '\n' ∉ text.toList) : IsNested text := by
  rw [IsNested, Text.rows_of_not_mem free]
  exact nofun

/-- Behind an indented beginning a text stays inside exactly if its own rows do. -/
theorem staysInside_append_iff (free : '\n' ∉ front.toList)
    (indented : [' ', ' '] <+: front.toList) (text : String) :
    StaysInside (front ++ text) ↔ IsNested text := by
  obtain ⟨row, more, isSplit⟩ := List.exists_cons_of_ne_nil (List.splitOn_ne_nil '\n' text.toList)
  have first : IsInside (front.toList ++ row) :=
    Or.inr (indented.trans (List.prefix_append _ _))
  rw [StaysInside, Text.rows_append free, IsNested, rows, isSplit, List.modifyHead_cons,
    List.forall_mem_cons, List.tail_cons]
  exact and_iff_right first

theorem isNested_joinLines_cons_iff {first : String} {more : List String}
    (free : '\n' ∉ first.toList) :
    IsNested (joinLines (first :: more)) ↔ ∀ line ∈ more, StaysInside line := by
  rw [IsNested, Text.rows_joinLines (List.cons_ne_nil _ _), List.flatMap_cons,
    Text.rows_of_not_mem free, List.singleton_append, List.tail_cons]
  simp only [List.mem_flatMap, StaysInside]
  exact ⟨fun inside line inMore row inLine => inside row ⟨line, inMore, inLine⟩,
    fun inside row ⟨line, inMore, inLine⟩ => inside line inMore row inLine⟩

/-! ## Parts of a wrapped policy -/

theorem staysInside_of_mem_nestedLines (inNested : line ∈ nestedLines template) :
    StaysInside line := by
  obtain ⟨line, inBody, rfl⟩ := List.mem_map.mp inNested
  have free := not_mem_of_mem_bodyLines inBody
  rw [indented]
  split
  · decide
  · exact (staysInside_append_iff (by decide) (by decide) line).mpr (isNested_of_not_mem free)

theorem staysInside_declarationLines_iff (grouped : Bool) (identifiers : List String) :
    (∀ line ∈ declarationLines grouped identifiers, StaysInside line) ↔
      ∀ identifier ∈ identifiers, IsNested identifier := by
  have anchor : StaysInside "  - &variables" := by decide
  have empty : StaysInside "" := by decide
  have grouped_iff (identifier : String) :
      StaysInside ("    - !variable " ++ identifier) ↔ IsNested identifier :=
    staysInside_append_iff (by decide) (by decide) identifier
  have single_iff (identifier : String) :
      StaysInside ("  - !variable " ++ identifier) ↔ IsNested identifier :=
    staysInside_append_iff (by decide) (by decide) identifier
  cases grouped with
  | false => simp [declarationLines, single_iff]
  | true => simp [declarationLines, anchor, empty, grouped_iff, or_imp, forall_and]

theorem staysInside_preambleLines_iff (grouped : Bool) (identifiers body : List String) :
    (∀ line ∈ preambleLines grouped identifiers body, StaysInside line) ↔
      ∀ identifier ∈ identifiers, IsNested identifier := by
  have marker : ∀ line ∈ ["", "  body:"], StaysInside line := by decide
  rw [preambleLines]
  split
  · next nothing => simp [nothing]
  · rw [List.forall_mem_append, and_iff_right marker]
    split
    · next undeclared => simp [undeclared]
    · exact staysInside_declarationLines_iff grouped identifiers

/-! ## Rendered policies -/

theorem isNested_render (wrapped : configuration.wrapWithPolicy = true)
    (identified : configuration.includeIdentifier = true) :
    IsNested (render configuration) ↔
      ∀ identifier ∈ identifiers configuration.policyVariables, IsNested identifier := by
  have header : ∀ line ∈ headerLines.tail, StaysInside line := by decide
  have nested : ∀ line ∈ nestedLines configuration.template, StaysInside line :=
    fun line inNested => staysInside_of_mem_nestedLines inNested
  have first : headerLines = "- !policy" :: headerLines.tail := rfl
  rw [render_eq_joinLines wrapped identified, first, List.cons_append, List.cons_append,
    isNested_joinLines_cons_iff (by decide), List.forall_mem_append, List.forall_mem_append,
    and_iff_right header, and_iff_left nested, staysInside_preambleLines_iff]

/-- The policy of an accepted configuration that is wrapped holds all that is written into it
exactly if every identifier holds what it brings along itself. The lines of the template, of
whatever kind, are held in any case. -/
theorem isNested_render_iff {template : Option String} {document : Json} {catalog : Catalog}
    {reserved : ReservedVariables}
    (built : Configuration.build template document catalog reserved = .ok configuration)
    (wrapped : configuration.wrapWithPolicy = true) :
    IsNested (render configuration) ↔
      ∀ identifier ∈ Members.keys (sectionEntries "variables" document), IsNested identifier := by
  rw [isNested_render wrapped (Configuration.includeIdentifier_of_build built wrapped)]
  simp only [Configuration.mem_identifiers_policyVariables built]

/-- Settings with two variables. The identifier of the second one goes on in a row of its own, one
level deep. -/
def folded : Json :=
  .object [("variables", .object [("url", .null), ("key\n  # rotated", .null)])]

theorem isNested_render_iff_folded :
    ∃ configuration, Configuration.build (some "- !host\n") folded .empty .standard =
        .ok configuration ∧
      configuration.wrapWithPolicy = true ∧ IsNested (render configuration) := by
  obtain ⟨configuration, built⟩ : ∃ configuration,
      Configuration.build (some "- !host\n") folded .empty .standard = .ok configuration := ⟨_, rfl⟩
  have wrapped : configuration.wrapWithPolicy = true := by
    cases built
    rfl
  exact ⟨configuration, built, wrapped, (isNested_render_iff built wrapped).mpr (by decide)⟩

/-- Settings with a variable whose identifier goes on in a row that is not indented. -/
def escaping : Json :=
  .object [("variables", .object [("url\n- !user", .null)])]

/-- The second row of an identifier stands beside the policy that its first row is inside of. -/
theorem not_isNested_render_escaping :
    ∃ configuration, Configuration.build (some "- !host") escaping .empty .standard =
        .ok configuration ∧
      configuration.wrapWithPolicy = true ∧ ¬ IsNested (render configuration) := by
  obtain ⟨configuration, built⟩ : ∃ configuration,
      Configuration.build (some "- !host") escaping .empty .standard = .ok configuration := ⟨_, rfl⟩
  have wrapped : configuration.wrapWithPolicy = true := by
    cases built
    rfl
  have declared : identifiers configuration.policyVariables = ["url\n- !user"] := by
    cases built
    rfl
  refine ⟨configuration, built, wrapped, ?_⟩
  rw [isNested_render wrapped (Configuration.includeIdentifier_of_build built wrapped), declared]
  decide

end FactoryBundler.Policy
