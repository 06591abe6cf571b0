import FactoryBundler.Proofs.Compiler.Spelling
import FactoryBundler.Proofs.Configuration.Toggles
import FactoryBundler.Proofs.Policy.Body
import FactoryBundler.Proofs.PolicyType.Catalog

/-!
# The anchor of a set of variables

A group of declared variables stands under an anchor, and the canned body for sets of variables
refers to it. The two come from different places: the anchor is written if there are variables and
they are grouped, the body is chosen by the policy type alone. So a policy of this type may refer to
an anchor that nothing defines.
-/

namespace FactoryBundler

open Text (lines rows isBlank)
open Variable (identifiers)
open PolicyType (bodyOf variableSetLines)

namespace Policy

variable {configuration : Configuration} {text template line : String}

/-! ## Anchors and references -/

/-- The row that defines the anchor of the variables in a wrapping policy. -/
def anchorRow : List Char := "  - &variables".toList

/-- A row refers to the anchor. -/
def RefersToAnchor (row : List Char) : Prop :=
  "*variables".toList <:+: row

/-- The anchor is defined, and no row in front of its own refers to it. -/
def DefinesAnchorFirst (text : String) : Prop :=
  ∃ before after, rows text = before ++ anchorRow :: after ∧ ∀ row ∈ before, ¬ RefersToAnchor row

theorem anchorRow_eq :
    anchorRow = [' ', ' ', '-', ' ', '&', 'v', 'a', 'r', 'i', 'a', 'b', 'l', 'e', 's'] :=
  String.toList_ofList

theorem not_refersToAnchor {row : List Char} (free : '*' ∉ row) : ¬ RefersToAnchor row := by
  intro refers
  exact free (refers.subset (by rw [String.toList_ofList]; exact List.mem_cons_self))

theorem DefinesAnchorFirst.mem (defines : DefinesAnchorFirst text) : anchorRow ∈ rows text := by
  obtain ⟨before, after, isSplit, -⟩ := defines
  rw [isSplit]
  exact List.mem_append_right _ List.mem_cons_self

/-! ## Rows of a wrapped policy -/

/-- What stands in front of the declarations of a wrapped policy. -/
def introLines : List String := headerLines ++ ["", "  body:"]

theorem plain_introLines : ∀ line ∈ introLines, '\n' ∉ line.toList ∧ '*' ∉ line.toList ∧
    '&' ∉ line.toList := by
  simp only [introLines, headerLines, List.cons_append, List.nil_append, List.forall_mem_cons,
    List.not_mem_nil, false_implies, implies_true, and_true]
  and_intros <;> (rw [String.toList_ofList]; decide)

theorem rows_introLines : introLines.flatMap rows = introLines.map String.toList := by
  rw [List.map_eq_flatMap]
  exact List.flatMap_congr fun line inIntro =>
    Text.rows_of_not_mem (plain_introLines line inIntro).1

theorem rows_of_mem_bodyLines (inBody : line ∈ bodyLines template) :
    rows (indented 1 line) = [if isBlank line then [] else ' ' :: ' ' :: line.toList] := by
  rw [indented]
  split
  · rfl
  · rw [Text.rows_append (by decide), Text.rows_of_not_mem (not_mem_of_mem_bodyLines inBody),
      String.toList_ofList]
    rfl

/-- The anchor comes from a template only if it is a line of it. -/
theorem mem_lines_of_mem_rows_nestedLines
    (inRows : anchorRow ∈ (nestedLines template).flatMap rows) :
    "- &variables" ∈ lines template := by
  obtain ⟨nested, inNested, inRows⟩ := List.mem_flatMap.mp inRows
  obtain ⟨line, inBody, rfl⟩ := List.mem_map.mp inNested
  rw [rows_of_mem_bodyLines inBody, List.mem_singleton, anchorRow_eq] at inRows
  split at inRows
  · cases inRows
  · have isLine : "- &variables" = line := by
      rw [← String.toList_inj, String.toList_ofList]
      exact (List.cons.inj (List.cons.inj inRows).2).2
    exact isLine ▸ mem_lines_of_mem_bodyLines inBody

/-- A line that refers to the anchor does so in a wrapping policy. -/
theorem exists_refersToAnchor_nestedLines (inLines : line ∈ lines template)
    (refers : RefersToAnchor line.toList) :
    ∃ row ∈ (nestedLines template).flatMap rows, RefersToAnchor row := by
  have visible : isBlank line = false := by
    rw [isBlank, List.all_eq_false]
    refine ⟨'*', refers.subset ?_, by decide⟩
    rw [String.toList_ofList]
    exact List.mem_cons_self
  have inBody := mem_bodyLines_of_not_isBlank inLines visible
  refine ⟨' ' :: ' ' :: line.toList, List.mem_flatMap.mpr ⟨_, List.mem_map_of_mem inBody, ?_⟩, ?_⟩
  · rw [rows_of_mem_bodyLines inBody, visible, List.mem_singleton]
    rfl
  · exact refers.trans (List.suffix_append [' ', ' '] line.toList).isInfix

theorem nestedLines_ne_nil_of_refersToAnchor (inLines : line ∈ lines template)
    (refers : RefersToAnchor line.toList) : nestedLines template ≠ [] := by
  obtain ⟨row, inRows, -⟩ := exists_refersToAnchor_nestedLines inLines refers
  intro nothing
  rw [nothing] at inRows
  cases inRows

/-- Ungrouped variables bring the anchor along only with an identifier that has newlines of its
own. -/
theorem exists_mem_rows_of_ungrouped {identifiers : List String}
    (inRows : anchorRow ∈ (declarationLines false identifiers).flatMap rows) :
    ∃ identifier ∈ identifiers, anchorRow ∈ rows identifier := by
  obtain ⟨declared, inLines, inRows⟩ := List.mem_flatMap.mp inRows
  obtain ⟨identifier, inIdentifiers, rfl⟩ := List.mem_map.mp inLines
  refine ⟨identifier, inIdentifiers, ?_⟩
  obtain ⟨row, more, isSplit⟩ :=
    List.exists_cons_of_ne_nil (List.splitOn_ne_nil '\n' identifier.toList)
  rw [Text.rows_append (by decide), rows, isSplit, List.modifyHead_cons, List.mem_cons] at inRows
  rw [rows, isSplit]
  rcases inRows with first | later
  · -- The first row of a declaration says that it is one.
    rw [anchorRow_eq, String.toList_ofList] at first
    cases first
  · exact List.mem_cons_of_mem row later

/-! ## Wrapped policies -/

section

variable (wrapped : configuration.wrapWithPolicy = true)
  (identified : configuration.includeIdentifier = true)
include wrapped identified

/-- The rows of a wrapped policy that has variables or a body. -/
theorem rows_render (something : configuration.policyVariables ≠ [] ∨
    nestedLines configuration.template ≠ []) :
    rows (render configuration) = introLines.flatMap rows ++
      (if configuration.policyVariables = [] then []
        else declarationLines configuration.withVariablesGroup
          (identifiers configuration.policyVariables)).flatMap rows ++
      (nestedLines configuration.template).flatMap rows := by
  split
  · next undeclared =>
    have visible := something.resolve_left (absurd undeclared)
    rw [render_of_no_policyVariables wrapped identified undeclared, if_neg visible,
      ← List.append_assoc, ← introLines, Text.rows_joinLines (by simp [introLines]),
      List.flatMap_append, List.flatMap_nil, List.append_nil]
  · next declared =>
    rw [render_of_policyVariables wrapped identified declared, ← introLines,
      Text.rows_joinLines (by simp [introLines]), List.flatMap_append, List.flatMap_append]

/-- A wrapped policy that groups its variables defines the anchor, whatever its template is and
whatever the variables are called. -/
theorem definesAnchorFirst_render (declared : configuration.policyVariables ≠ [])
    (grouped : configuration.withVariablesGroup = true) :
    DefinesAnchorFirst (render configuration) := by
  have anchor : rows "  - &variables" = [anchorRow] := Text.rows_of_not_mem (by decide)
  have split := rows_render wrapped identified (Or.inl declared)
  rw [if_neg declared, grouped, declarationLines, if_pos rfl, List.cons_append, List.flatMap_cons,
    anchor, rows_introLines, List.append_assoc, List.singleton_append, List.cons_append] at split
  refine ⟨_, _, split, ?_⟩
  rw [List.forall_mem_map]
  exact fun line inIntro => not_refersToAnchor (plain_introLines line inIntro).2.1

theorem exists_refersToAnchor_render (inLines : line ∈ lines configuration.template)
    (refers : RefersToAnchor line.toList) :
    ∃ row ∈ rows (render configuration), RefersToAnchor row := by
  obtain ⟨row, inRows, refersHere⟩ := exists_refersToAnchor_nestedLines inLines refers
  have visible := nestedLines_ne_nil_of_refersToAnchor inLines refers
  rw [rows_render wrapped identified (Or.inr visible)]
  exact ⟨row, List.mem_append_right _ inRows, refersHere⟩

/-- A wrapped policy around a template without the anchor defines it only for a group of variables,
or where an identifier brings it along. -/
theorem grouped_of_definesAnchorFirst (visible : nestedLines configuration.template ≠ [])
    (free : "- &variables" ∉ lines configuration.template)
    (defines : DefinesAnchorFirst (render configuration)) :
    (configuration.policyVariables ≠ [] ∧ configuration.withVariablesGroup = true) ∨
      ∃ identifier ∈ identifiers configuration.policyVariables, anchorRow ∈ rows identifier := by
  have inRows := defines.mem
  rw [rows_render wrapped identified (Or.inr visible), List.mem_append, List.mem_append] at inRows
  rcases inRows with (inIntro | inDeclarations) | inBody
  · rw [rows_introLines] at inIntro
    obtain ⟨line, inIntro, isAnchor⟩ := List.mem_map.mp inIntro
    refine absurd ?_ (plain_introLines line inIntro).2.2
    rw [isAnchor, anchorRow_eq]
    decide
  · split at inDeclarations
    · cases inDeclarations
    · next declared =>
      cases grouped : configuration.withVariablesGroup with
      | true => exact Or.inl ⟨declared, rfl⟩
      | false =>
          rw [grouped] at inDeclarations
          exact Or.inr (exists_mem_rows_of_ungrouped inDeclarations)
  · exact absurd (mem_lines_of_mem_rows_nestedLines inBody) free

end

end Policy

/-! ## The policy type for sets of variables -/

namespace PolicyType

/-- The lines of a canned body are those that it was made of. -/
theorem lines_bodyOf {texts : List String}
    (plain : ∀ text ∈ texts, '\n' ∉ text.toList ∧ '\r' ∉ text.toList) :
    lines (bodyOf texts) = texts := by
  induction texts with
  | nil => rfl
  | cons text texts ih =>
      obtain ⟨here, later⟩ := List.forall_mem_cons.mp plain
      have split : (bodyOf (text :: texts)).toList =
          text.toList ++ '\n' :: (bodyOf texts).toList := by
        simp [bodyOf, String.join_cons]
      rw [lines, split, Text.linesChars_append_newline here.1 here.2, List.map_cons,
        String.ofList_toList]
      exact congrArg _ (ih later)

theorem plain_variableSetLines :
    ∀ line ∈ variableSetLines, '\n' ∉ line.toList ∧ '\r' ∉ line.toList := by
  simp only [variableSetLines, List.forall_mem_cons, List.not_mem_nil, false_implies, implies_true,
    and_true]
  and_intros <;> (rw [String.toList_ofList]; decide)

theorem get?_builtin_variable_set :
    builtin.get? "variable_set" = some (bodyOf variableSetLines) := by
  unfold builtin
  rw [Catalog.get?_register, if_pos (by decide)]

theorem lines_variableSet : lines (bodyOf variableSetLines) = variableSetLines :=
  lines_bodyOf plain_variableSetLines

theorem anchor_not_mem_variableSetLines : "- &variables" ∉ variableSetLines := by
  simp [variableSetLines]

/-- The first of two references. -/
theorem reference_mem_variableSetLines : "  resource: *variables" ∈ variableSetLines :=
  List.mem_of_getElem? (i := 23) rfl

theorem refersToAnchor_reference :
    Policy.RefersToAnchor "  resource: *variables".toList :=
  ⟨"  resource: ".toList, [], by simp⟩

end PolicyType

/-- The request names a policy type, in any spelling. -/
def Request.NamesPolicyType (request : Request) (name : String) : Prop :=
  ∃ value spelling, request.given? "policy_type" = some value ∧
    Configuration.text value = .ok (some spelling) ∧ PolicyType.name spelling = name

/-- The request says explicitly that variables are not to be grouped. -/
def Request.Ungroups (request : Request) : Prop :=
  ∃ value, request.given? "with_variables_group" = some value ∧
    Configuration.boolean value = .ok (some false)

/-- The request has variables, and does not say that they are not to be grouped. -/
def Request.GroupsVariables (request : Request) : Prop :=
  request.entriesOf "variables" ≠ [] ∧ ¬ request.Ungroups

namespace Compiler

open FactoryBundler.Configuration (Toggle lastSpelled sectionEntries)
open FactoryBundler.Policy (RefersToAnchor DefinesAnchorFirst anchorRow render nestedLines)

variable {reserved : ReservedVariables} {request : Request} {configuration : Configuration}
  {compiled : Compiled}

/-- The configuration of a request for a set of variables, as far as the anchor depends on it. -/
structure IsVariableSet (request : Request) (configuration : Configuration) : Prop where
  template_eq : configuration.template = bodyOf variableSetLines
  wrapped : configuration.wrapWithPolicy = true
  identified : configuration.includeIdentifier = true
  groups_iff : configuration.policyVariables ≠ [] ∧ configuration.withVariablesGroup = true ↔
    request.GroupsVariables
  mem_identifiers_iff : ∀ identifier, identifier ∈ identifiers configuration.policyVariables ↔
    identifier ∈ Members.keys (request.entriesOf "variables")

theorem given_eq_some_false_iff {members : List (String × Json)}
    (spelled : lastSpelled "with_variables_group" members =
      request.given? "with_variables_group") :
    Toggle.variablesGroup.given (.object members) = some false ↔ request.Ungroups := by
  simp only [Toggle.given, Toggle.key, spelled, Option.bind_eq_some_iff, Request.Ungroups]
  refine exists_congr fun value => and_congr_right fun _ => ?_
  cases Configuration.boolean value <;> simp [Except.toOption]

theorem sectionEntries_eq_entriesOf {members : List (String × Json)} {setting : String}
    (spelled : lastSpelled setting members = request.given? setting) :
    sectionEntries setting (.object members) = request.entriesOf setting := by
  rewrite [sectionEntries, Request.entriesOf, spelled]
  rfl

/-- The body comes from the policy type. -/
theorem template_eq_of_isBuiltFrom {members : List (String × Json)}
    {settings : Configuration.Settings} {source : Configuration.Source} {template : Option String}
    (isBuilt : Configuration.IsBuiltFrom template members PolicyType.builtin reserved settings
      source configuration)
    (named : Configuration.NamesPolicyType (.object members) "variable_set") :
    configuration.template = bodyOf variableSetLines := by
  have isNamed := (Configuration.namesPolicyType_iff isBuilt.settings_ok).mpr named
  have assembled : configuration.template = source.template := by
    rw [isBuilt.assembled]
    rfl
  rcases Configuration.chooseSource_eq_ok_iff.mp isBuilt.source_ok with
    ⟨written, -, notNamed, -⟩ | ⟨name, body, -, isNamed', held, rfl⟩
  · cases notNamed.symm.trans isNamed
  · cases isNamed'.symm.trans isNamed
    exact assembled.trans (Option.some.inj (held.symm.trans PolicyType.get?_builtin_variable_set))

theorem isVariableSet_of_configure (named : request.NamesPolicyType "variable_set")
    (configured : (Compiler.mk PolicyType.builtin reserved).configure request =
      .ok configuration) : IsVariableSet request configuration := by
  obtain ⟨members, settings, source, isBuilt, spelled⟩ := exists_isBuiltFrom_of_configure configured
  obtain ⟨value, spelling, given, isSpelling, isName⟩ := named
  have built := isBuilt.build_eq
  have settled := Configuration.isSettled_of_build built
  have entries := sectionEntries_eq_entriesOf (spelled "variables" (by decide))
  have ungroups := given_eq_some_false_iff (spelled "with_variables_group" (by decide))
  have named : Configuration.NamesPolicyType (.object members) "variable_set" :=
    ⟨members, value, spelling, rfl, (spelled _ (by decide)).trans given, isSpelling, isName,
      by decide⟩
  have wrapped : configuration.wrapWithPolicy = true :=
    settled.wrapping_iff.mpr (Or.inl ⟨_, named⟩)
  exact {
    template_eq := template_eq_of_isBuiltFrom isBuilt named
    wrapped := wrapped
    identified := isBuilt.includeIdentifier wrapped
    groups_iff := by
      rw [settled.group_eq, ne_eq, Configuration.policyVariables_eq_nil_iff built, entries,
        Request.GroupsVariables, ← ungroups]
      refine and_congr_right fun declared => ?_
      rw [decide_eq_true declared]
      cases Toggle.variablesGroup.given (.object members) <;> simp
    mem_identifiers_iff := by
      intro identifier
      rw [Configuration.mem_identifiers_policyVariables built, entries] }

namespace IsVariableSet

theorem reference_mem_lines (isSet : IsVariableSet request configuration) :
    "  resource: *variables" ∈ lines configuration.template := by
  rw [isSet.template_eq, PolicyType.lines_variableSet]
  exact PolicyType.reference_mem_variableSetLines

theorem refers (isSet : IsVariableSet request configuration) :
    ∃ row ∈ rows (render configuration), RefersToAnchor row :=
  Policy.exists_refersToAnchor_render isSet.wrapped isSet.identified isSet.reference_mem_lines
    PolicyType.refersToAnchor_reference

theorem defines (isSet : IsVariableSet request configuration) (groups : request.GroupsVariables) :
    DefinesAnchorFirst (render configuration) :=
  have ⟨declared, grouped⟩ := isSet.groups_iff.mpr groups
  Policy.definesAnchorFirst_render isSet.wrapped isSet.identified declared grouped

theorem groups_of_defines (isSet : IsVariableSet request configuration)
    (defines : DefinesAnchorFirst (render configuration)) :
    request.GroupsVariables ∨
      ∃ identifier ∈ Members.keys (request.entriesOf "variables"), anchorRow ∈ rows identifier := by
  have free : "- &variables" ∉ lines configuration.template := by
    rw [isSet.template_eq, PolicyType.lines_variableSet]
    exact PolicyType.anchor_not_mem_variableSetLines
  have visible := Policy.nestedLines_ne_nil_of_refersToAnchor isSet.reference_mem_lines
    PolicyType.refersToAnchor_reference
  have grouped := Policy.grouped_of_definesAnchorFirst isSet.wrapped isSet.identified visible free
    defines
  simp only [isSet.groups_iff, isSet.mem_identifiers_iff] at grouped
  exact grouped

end IsVariableSet

/-! ## The result -/

/-- What the policy of a set of variables makes of the anchor. -/
structure RefersToVariables (request : Request) (policy : String) : Prop where
  refers : ∃ row ∈ rows policy, RefersToAnchor row
  /-- The anchor is there for variables that are grouped, whatever they are called. -/
  defines : request.GroupsVariables → DefinesAnchorFirst policy
  /-- It is there for no others, unless it is a row of an identifier. -/
  onlyThen : DefinesAnchorFirst policy → request.GroupsVariables ∨
    ∃ identifier ∈ Members.keys (request.entriesOf "variables"), anchorRow ∈ rows identifier

/-- The policy of a set of variables always refers to the anchor, and defines it in front of that
for variables that are grouped. -/
theorem refersToVariables_of_compile (reserved : ReservedVariables) (request : Request)
    (compiled : Compiled) (named : request.NamesPolicyType "variable_set")
    (compiles : (Compiler.mk PolicyType.builtin reserved).compile request = .ok compiled) :
    RefersToVariables request compiled.bundle.policy := by
  obtain ⟨configuration, configured, bundle⟩ := exists_bundleOf compiles
  have isSet := isVariableSet_of_configure named configured
  rw [bundle]
  exact ⟨isSet.refers, isSet.defines, isSet.groups_of_defines⟩

/-- A request for a set of one variable. -/
def variableSet : Request where
  name := "db"
  version := "v1"
  category := "core"
  policyTemplate := none
  configuration := .object [
    ("policy_type", .string "variable_set"),
    ("variables", .object [("url", .null)])]

theorem refersToVariables_of_compile_variableSet :
    ∃ compiled, standard.compile variableSet = .ok compiled ∧
      DefinesAnchorFirst compiled.bundle.policy := by
  obtain ⟨compiled, compiles⟩ : ∃ compiled, standard.compile variableSet = .ok compiled :=
    ⟨_, rfl⟩
  have named : variableSet.NamesPolicyType "variable_set" := ⟨_, _, rfl, rfl, by decide⟩
  have groups : variableSet.GroupsVariables := by
    refine ⟨List.cons_ne_nil _ _, ?_⟩
    rintro ⟨value, given, -⟩
    cases given
  exact ⟨compiled, compiles,
    (refersToVariables_of_compile .standard variableSet compiled named compiles).defines groups⟩

/-- The same request, with variables that are not to be grouped. -/
def ungrouped : Request :=
  { variableSet with
    configuration := .object [
      ("policy_type", .string "variable-set"),
      ("variables", .object [("url", .object [])]),
      ("with_variables_group", .bool false)] }

/-- A policy refers to an anchor that is not there. -/
theorem not_definesAnchorFirst_ungrouped :
    ∃ compiled, standard.compile ungrouped = .ok compiled ∧
      ungrouped.NamesPolicyType "variable_set" ∧
      (∃ row ∈ rows compiled.bundle.policy, RefersToAnchor row) ∧
      ¬ DefinesAnchorFirst compiled.bundle.policy := by
  obtain ⟨compiled, compiles⟩ : ∃ compiled, standard.compile ungrouped = .ok compiled := ⟨_, rfl⟩
  have named : ungrouped.NamesPolicyType "variable_set" := ⟨_, _, rfl, rfl, by decide⟩
  obtain ⟨configuration, configured, bundle⟩ := exists_bundleOf compiles
  have isSet := isVariableSet_of_configure named configured
  refine ⟨compiled, compiles, named, bundle ▸ isSet.refers, ?_⟩
  rw [bundle]
  intro defines
  rcases isSet.groups_of_defines defines with ⟨-, grouped⟩ | ⟨identifier, inKeys, inRows⟩
  · exact grouped ⟨.bool false, rfl, rfl⟩
  · cases List.mem_singleton.mp inKeys
    rw [Text.rows_of_not_mem (by decide), List.mem_singleton, Policy.anchorRow_eq,
      String.toList_ofList] at inRows
    cases inRows

end Compiler

end FactoryBundler
