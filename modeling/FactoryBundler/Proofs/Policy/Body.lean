import FactoryBundler.Proofs.Policy
import FactoryBundler.Proofs.Text.Lines
import Mathlib.Data.List.DropRight
import Mathlib.Data.List.Forall2

/-!
# Bodies of templates

The body of a template is what a wrapping policy takes from it: its lines up to the last one that is
not blank, each a level deeper. Blank lines count as empty ones, and line ends do not count at all.
-/

namespace FactoryBundler.Policy

open Text (isBlank lines)

variable {template template' noise line : String}

/-! ## Lines of a body -/

theorem mem_lines_of_mem_bodyLines (inBody : line ∈ bodyLines template) : line ∈ lines template :=
  (List.rdropWhile_prefix isBlank (lines template)).subset inBody

/-- Only blank lines are dropped. -/
theorem mem_bodyLines_of_not_isBlank (inLines : line ∈ lines template)
    (visible : isBlank line = false) : line ∈ bodyLines template := by
  rw [← List.rdropWhile_append_rtakeWhile (p := isBlank) (l := lines template), List.mem_append]
    at inLines
  refine inLines.resolve_right fun dropped => ?_
  rw [List.mem_rtakeWhile_imp dropped] at visible
  cases visible

theorem not_mem_of_mem_bodyLines (inBody : line ∈ bodyLines template) : '\n' ∉ line.toList := by
  obtain ⟨chars, inLines, rfl⟩ := List.mem_map.mp (mem_lines_of_mem_bodyLines inBody)
  rw [String.toList_ofList]
  exact Text.not_mem_of_mem_linesChars inLines

/-- Only a blank template has nothing to nest. -/
theorem bodyLines_eq_nil_iff : bodyLines template = [] ↔ isBlank template = true := by
  rw [← Text.all_isBlank_lines, List.all_eq_true]
  exact List.rdropWhile_eq_nil_iff

/-- Another kind of line ends and blank lines at the end leave the body as it is. -/
theorem bodyLines_crlf_append (free : '\r' ∉ template.toList)
    (adds : Text.AddsBlankLines (Text.crlf template) noise) :
    bodyLines (Text.crlf template ++ noise) = bodyLines template := by
  obtain ⟨blanks, lines_eq, areBlank⟩ := Text.exists_lines_crlf_append free adds
  rw [bodyLines, lines_eq, List.reverse_append, List.dropWhile_append_of_pos]
  · rfl
  · simpa using areBlank

/-! ## What shows of a template -/

/-- The lines of a template as far as they show in a wrapping policy: those that are blank are
dropped at the end and empty elsewhere. -/
def visibleLines (template : String) : List String :=
  ((lines template).rdropWhile isBlank).map fun line => if isBlank line then "" else line

theorem visibleLines_crlf_append (free : '\r' ∉ template.toList)
    (adds : Text.AddsBlankLines (Text.crlf template) noise) :
    visibleLines (Text.crlf template ++ noise) = visibleLines template :=
  congrArg (List.map _) (bodyLines_crlf_append free adds)

theorem indented_eq_iff (line line' : String) :
    indented 1 line = indented 1 line' ↔
      (if isBlank line then "" else line) = if isBlank line' then "" else line' := by
  have ne_empty {line : String} (visible : isBlank line = false) : line ≠ "" := by
    rintro rfl
    cases visible
  rw [indented, indented]
  cases blank : isBlank line <;> cases blank' : isBlank line'
  · simp
  · simp [ne_empty blank]
  · simp [Ne.symm (ne_empty blank')]
  · simp

/-- Nested lines tell as much as visible ones. -/
theorem nestedLines_eq_iff :
    nestedLines template = nestedLines template' ↔
      visibleLines template = visibleLines template' := by
  have map_eq_iff (f : String → String) : (bodyLines template).map f = (bodyLines template').map f ↔
      List.Forall₂ (fun line line' => f line = f line') (bodyLines template)
        (bodyLines template') := by
    rw [← List.forall₂_eq_eq_eq, List.forall₂_map_left_iff, List.forall₂_map_right_iff]
  rw [nestedLines, nestedLines, map_eq_iff]
  simp only [indented_eq_iff]
  exact (map_eq_iff _).symm

end FactoryBundler.Policy
