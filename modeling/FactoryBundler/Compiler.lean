import FactoryBundler.Bundle
import FactoryBundler.Policy
import FactoryBundler.PolicyType.Builtin
import FactoryBundler.Request
import FactoryBundler.Schema
import FactoryBundler.Text.Words

/-!
# Compiling

A compiler holds the tables that it looks things up in and nothing else. It brings a request's
configuration into its final form and makes both artifacts from that form. Settings with empty
values are dropped before anything is looked at, and a factory without a title is given one made
from its name.
-/

namespace FactoryBundler

/-- Whether a value says nothing: null, or an empty text, array or object. -/
def Json.isVoid : Json → Bool
  | .null => true
  | .string s => s.isEmpty
  | .array items => items.isEmpty
  | .object members => members.isEmpty
  | .bool _ | .number _ => false

/-- A character that separates the words of a factory's name. -/
def separatesWords (c : Char) : Bool :=
  c == '-' || c == '_' || Text.isBlankChar c

/-- The title of a factory that is given none: the words of its name, capitalized, and the word
"Factory". -/
def defaultTitle (name : String) : String :=
  let words := (Text.words separatesWords name.toList).map Text.capitalizeChars
  " ".intercalate (words.map String.ofList ++ ["Factory"])

/-- A bundle, and what was overridden on the way to it. -/
structure Compiled where
  bundle : Bundle
  warnings : List Warning
deriving Repr, DecidableEq

/-- The policy types and reserved variables that factories are compiled with. -/
structure Compiler where
  catalog : Catalog
  reserved : ReservedVariables

namespace Compiler

/-- The members of a request's configuration; null has none. -/
def configurationMembers (document : Json) : Except CompileError (List (String × Json)) :=
  match document with
  | .object members => .ok (members.filter fun (_, value) => !value.isVoid)
  | .null => .ok []
  | other => .error (.invalidConfiguration (.notAnObjectButFound other))

/-- Members with a title at the end if they have none. -/
def withTitle (name : String) (members : List (String × Json)) : List (String × Json) :=
  if Members.contains "title" members then members
  else members ++ [("title", .string (defaultTitle name))]

/-- The configuration of a request in its final form. -/
def configure (compiler : Compiler) (request : Request) : Except CompileError Configuration := do
  let members ← configurationMembers request.configuration
  Configuration.build request.policyTemplate (.object (withTitle request.name members))
    compiler.catalog compiler.reserved

/-- The artifacts of a configuration. -/
def bundleOf (version : String) (configuration : Configuration) : Bundle where
  version := version
  policy := Policy.render configuration
  policyBranch := configuration.policyBranch
  schema := (Schema.ofConfiguration configuration).toJson

/-- Compile a request. -/
def compile (compiler : Compiler) (request : Request) : Except CompileError Compiled := do
  let configuration ← compiler.configure request
  return ⟨bundleOf request.version configuration, configuration.warnings⟩

/-- The transport form of a request's bundle. -/
def compileEncoded (compiler : Compiler) (request : Request) : Except CompileError String := do
  return (← compiler.compile request).bundle.encode

/-- The compiler with the policy types and reserved variables that come with the program. -/
def standard : Compiler := ⟨PolicyType.builtin, .standard⟩

end Compiler

end FactoryBundler
