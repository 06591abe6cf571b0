import FactoryBundler.Configuration
import FactoryBundler.Text.Lines

/-!
# Policy texts

The policy of a factory is its template as it stands or, if it is wrapped, the template's lines
nested in a policy of their own, behind the declarations of its variables. Placeholders are left
for whoever renders the policy.

A wrapped policy is written in steps by a writer that keeps the level of nesting: a line goes to the
level at which it is written, and groups of lines enter a level and leave it. A line of blanks only
is written empty, and a wrapped policy has no newline at its end.
-/

namespace FactoryBundler.Policy

/-- A line at a level of nesting, two blanks each; a blank line is empty. -/
def indented (level : Nat) (text : String) : String :=
  if Text.isBlank text then "" else String.ofList (List.replicate (2 * level) ' ') ++ text

/-- A step of writing: one level in, one level out, a line at the level reached, an empty line. -/
inductive Step where
  | enter
  | leave
  | line (text : String)
  | blank
deriving Repr, DecidableEq

/-- The lines written so far, and the level of the next one. -/
structure Writer where
  lines : List String
  depth : Nat
deriving Repr, DecidableEq

namespace Writer

/-- Nothing is written yet, at the outermost level. -/
def start : Writer := ⟨[], 0⟩

/-- Take one step. There is no way out of the outermost level. -/
def take (writer : Writer) : Step → Writer
  | .enter => { writer with depth := writer.depth + 1 }
  | .leave => { writer with depth := writer.depth - 1 }
  | .line text => { writer with lines := writer.lines ++ [indented writer.depth text] }
  | .blank => { writer with lines := writer.lines ++ [""] }

/-- Take steps one after the other. -/
def run (writer : Writer) (steps : List Step) : Writer :=
  steps.foldl take writer

/-- The lines as a text. -/
def text (writer : Writer) : String :=
  Text.joinLines writer.lines

end Writer

/-- The lines of a template without the blank ones at its end. -/
def bodyLines (template : String) : List String :=
  ((Text.lines template).reverse.dropWhile Text.isBlank).reverse

/-- The steps that open a wrapping policy. They end inside it. -/
def opening (includeIdentifier : Bool) : List Step :=
  [.line "- !policy", .enter] ++
    (if includeIdentifier then [.line "id: \x7b\x7b id \x7d\x7d"] else []) ++
    [.line "annotations:", .line "\x7b\x7b# annotations \x7d\x7d",
      .enter, .line "\x7b\x7b key \x7d\x7d: \x7b\x7b value \x7d\x7d", .leave,
      .line "\x7b\x7b/ annotations \x7d\x7d"]

/-- The step that declares a variable. -/
def declaration (v : Variable) : Step :=
  .line ("- !variable " ++ v.identifier)

/-- The steps that declare variables: as a group under an anchor with an empty line behind it, or
one by one. -/
def declarations (grouped : Bool) (policyVariables : List Variable) : List Step :=
  if policyVariables.isEmpty then []
  else if grouped then
    [.line "- &variables", .enter] ++ policyVariables.map declaration ++ [.leave, .blank]
  else policyVariables.map declaration

/-- The steps of a wrapped policy. Without variables and body there is nothing to nest. -/
def steps (configuration : Configuration) : List Step :=
  let body := bodyLines configuration.template
  opening configuration.includeIdentifier ++
    if body.isEmpty && configuration.policyVariables.isEmpty then []
    else
      [.blank, .line "body:"] ++
        declarations configuration.withVariablesGroup configuration.policyVariables ++
        body.map .line

/-- The policy of a configuration. -/
def render (configuration : Configuration) : String :=
  if configuration.wrapWithPolicy then (Writer.start.run (steps configuration)).text
  else configuration.template

end FactoryBundler.Policy
