import FactoryBundler.Compiler
import FactoryBundler.Proofs.Configuration.Build
import FactoryBundler.Proofs.Policy.Body

/-!
# Templates in exchange

If the template of a wrapped policy is exchanged for another one, the policy stays the same exactly
if the same lines show of both. So it tells a template up to its line ends and the blanks in lines
that have nothing else, and nothing in front of the template hides a difference.
-/

namespace FactoryBundler.Policy

open Text (AddsBlankLines crlf isBlank joinLines)
open Variable (identifiers)

variable {configuration : Configuration} {line template other : String}

/-- The lines in front of those of a template, if it has some. -/
def outerLines (configuration : Configuration) : List String :=
  headerLines ++ (["", "  body:"] ++
    if identifiers configuration.policyVariables = [] then []
    else declarationLines configuration.withVariablesGroup
      (identifiers configuration.policyVariables))

theorem bodyLines_ne_nil (visible : isBlank template = false) : bodyLines template ≠ [] := by
  rw [ne_eq, bodyLines_eq_nil_iff, visible]
  exact Bool.false_ne_true

theorem not_mem_of_mem_nestedLines (inNested : line ∈ nestedLines template) :
    '\n' ∉ line.toList := by
  obtain ⟨line, inBody, rfl⟩ := List.mem_map.mp inNested
  rw [indented]
  split
  · exact List.not_mem_nil
  · rw [String.toList_append, List.mem_append, not_or]
    exact ⟨by decide, not_mem_of_mem_bodyLines inBody⟩

theorem render_of_not_blank (wrapped : configuration.wrapWithPolicy = true)
    (identified : configuration.includeIdentifier = true)
    (visible : isBlank configuration.template = false) :
    render configuration =
      joinLines (outerLines configuration ++ nestedLines configuration.template) := by
  rw [render_eq_joinLines wrapped identified, preambleLines,
    if_neg fun nothing => bodyLines_ne_nil visible nothing.1]
  rfl

/-- All that stands in front of a template's lines is the same for every template. -/
theorem render_exchange_eq_iff (wrapped : configuration.wrapWithPolicy = true)
    (identified : configuration.includeIdentifier = true)
    (visible : isBlank configuration.template = false) (visible' : isBlank other = false) :
    render { configuration with template := other } = render configuration ↔
      visibleLines other = visibleLines configuration.template := by
  have nonempty {template : String} (visible : isBlank template = false) :
      nestedLines template ≠ [] := List.map_eq_nil_iff.not.mpr (bodyLines_ne_nil visible)
  have exchanged : render { configuration with template := other } =
      joinLines (outerLines configuration ++ nestedLines other) :=
    render_of_not_blank wrapped identified visible'
  rw [exchanged, render_of_not_blank wrapped identified visible, ← nestedLines_eq_iff]
  exact Text.joinLines_append_inj (List.append_ne_nil_of_left_ne_nil (by decide) _)
    (nonempty visible') (nonempty visible) (fun _ => not_mem_of_mem_nestedLines)
    (fun _ => not_mem_of_mem_nestedLines)

/-- The policy of a wrapped configuration tells any two templates that are not blank up to what
shows of them. And other line ends and blank lines at the end, which do not show, change nothing of
what is made of a configuration. -/
theorem exchange_shows_visibleLines {document : Json} {catalog : Catalog}
    {reserved : ReservedVariables}
    (built : Configuration.build (some template) document catalog reserved = .ok configuration)
    (wrapped : configuration.wrapWithPolicy = true) :
    (isBlank template = false → ∀ other, isBlank other = false →
      ∃ exchanged,
        Configuration.build (some other) document catalog reserved = .ok exchanged ∧
        exchanged.wrapWithPolicy = true ∧
        (render exchanged = render configuration ↔
          visibleLines other = visibleLines template)) ∧
    ('\r' ∉ template.toList → ∀ noise, AddsBlankLines (crlf template) noise →
      ∃ exchanged,
        Configuration.build (some (crlf template ++ noise)) document catalog reserved =
          .ok exchanged ∧
        render exchanged = render configuration ∧
        Schema.ofConfiguration exchanged = Schema.ofConfiguration configuration ∧
        ∀ version, (Compiler.bundleOf version exchanged).fingerprint =
          (Compiler.bundleOf version configuration).fingerprint) := by
  have identified := Configuration.includeIdentifier_of_build built wrapped
  have exchange {other : String} (visible : isBlank template = false)
      (visible' : isBlank other = false) :
      Configuration.build (some other) document catalog reserved =
          .ok { configuration with template := other } ∧
        (render { configuration with template := other } = render configuration ↔
          visibleLines other = visibleLines template) := by
    obtain ⟨rfl, built'⟩ := Configuration.build_of_not_blank visible visible' built
    exact ⟨built', render_exchange_eq_iff wrapped identified visible visible'⟩
  refine ⟨fun visible other visible' => ?shown, fun free noise adds => ?hidden⟩
  case shown =>
    obtain ⟨built', shown⟩ := exchange visible visible'
    exact ⟨_, built', wrapped, shown⟩
  case hidden =>
    have same := Text.isBlank_crlf_append free adds
    cases blank : isBlank template with
    | true =>
        rw [Configuration.build_of_blank blank] at built
        rw [Configuration.build_of_blank (same.trans blank)]
        exact ⟨configuration, built, rfl, rfl, fun _ => rfl⟩
    | false =>
        obtain ⟨built', shown⟩ := exchange blank (same.trans blank)
        have rendered := shown.mpr (visibleLines_crlf_append free adds)
        refine ⟨_, built', rendered, rfl, fun version => ?_⟩
        rw [Compiler.bundleOf, rendered]
        rfl

/-- Settings that ask for a wrapping policy. -/
def wrapping : Json :=
  .object [("wrap_with_policy", .string "true")]

/-- A template with a line of blanks between two others. -/
def spaced : String := "- !host\n \t\n- !user"

theorem exchange_shows_visibleLines_spaced :
    ∃ configuration,
      Configuration.build (some spaced) wrapping .empty .standard = .ok configuration ∧
      configuration.wrapWithPolicy = true ∧ isBlank spaced = false ∧
      (∃ exchanged,
        Configuration.build (some "- !host\n- !user") wrapping .empty .standard = .ok exchanged ∧
        render exchanged ≠ render configuration) ∧
      '\r' ∉ spaced.toList ∧ AddsBlankLines (crlf spaced) "\r\n\u2003\n" ∧
      ∃ exchanged,
        Configuration.build (some (crlf spaced ++ "\r\n\u2003\n")) wrapping .empty .standard =
          .ok exchanged ∧
        render exchanged = render configuration := by
  obtain ⟨configuration, built⟩ : ∃ configuration,
      Configuration.build (some spaced) wrapping .empty .standard = .ok configuration := ⟨_, rfl⟩
  have wrapped : configuration.wrapWithPolicy = true := by
    cases built
    rfl
  have free : '\r' ∉ spaced.toList := by decide
  have adds : AddsBlankLines (crlf spaced) "\r\n\u2003\n" :=
    ⟨by decide, Or.inr (.crlf ['\u2003', '\n'])⟩
  obtain ⟨shown, hidden⟩ := exchange_shows_visibleLines built wrapped
  obtain ⟨changed, built', -, same_iff⟩ := shown (by decide) "- !host\n- !user" (by decide)
  obtain ⟨exchanged, built'', same, -⟩ := hidden free _ adds
  exact ⟨configuration, built, wrapped, by decide, ⟨changed, built', same_iff.not.mpr (by decide)⟩,
    free, adds, exchanged, built'', same⟩

example : visibleLines spaced = ["- !host", "", "- !user"] := by decide

end FactoryBundler.Policy
