import FactoryBundler.CommandLine.Arguments
import FactoryBundler.Plan

/-!
# Invocations

What the program is asked to do. Its words are options of its own, the name of a command, and the
command's words. The program's own options may also stand among the command's words and count there
if they are given in both places. The words of the command are read before the last of the
program's own values is looked at.
-/

namespace FactoryBundler.CommandLine

/-- What is to be done. -/
inductive Command where
  /-- Compile the factory in one directory, with some labels in place of those of its path. -/
  | compile (directory : String) (name category version : Option String)
  /-- Compile all factories under a root. -/
  | plan (root target : String)
  | policyTypes
  | inspect (blob : String)
deriving Repr, DecidableEq

/-- A command, and the directory of additional policy types if there is one. -/
structure Invocation where
  catalogDirectory : Option String
  command : Command
deriving Repr, DecidableEq

/-- The options that are the program's own. -/
def ownOptions : List (String × Parameter) :=
  [("log-level", .logLevel), ("catalog-dir", .catalogDirectory)]

/-- The grammar in front of a command. -/
def ownGrammar : Grammar := ⟨ownOptions, [], true⟩

/-- The grammar of a command with some options and places. -/
def commandGrammar (options : List (String × Parameter)) (places : List Parameter) : Grammar :=
  ⟨options ++ ownOptions, places, false⟩

/-- The commands by their names. -/
def grammars : List (String × Grammar) :=
  [("compile",
      commandGrammar
        [("name", .name), ("category", .category), ("factory-version", .version)] [.directory]),
    ("plan", commandGrammar [("target-policy", .targetPolicy)] [.root]),
    ("policy-types", commandGrammar [] []),
    ("inspect", commandGrammar [] [.blob])]

/-- The command whose words are known. -/
def Command.ofKnown? (command : String) (known : Known) : Option Command :=
  match command with
  | "compile" => do
    return .compile (← known.get? .directory) (known.get? .name) (known.get? .category)
      (known.get? .version)
  | "plan" => do
    return .plan (← known.get? .root) ((known.get? .targetPolicy).getD Plan.defaultTarget)
  | "policy-types" => some .policyTypes
  | "inspect" => do return .inspect (← known.get? .blob)
  | _ => none

/-- Ask for help on the program or on one command. -/
def readHelp (words : List String) : Stop :=
  match words with
  | [] => .help
  | [command] =>
    if command == "help" || (grammars.lookup command).isSome then .help else .misuse
  | _ => .misuse

/-- Read a command and its words after the program's own options. -/
def Invocation.ofCommand (own : Known) (command : String) (words : List String) :
    Except Stop Invocation := do
  let some grammar := grammars.lookup command | .error .misuse
  let known ← readCommand grammar words
  let own ← own.settle
  let some action := Command.ofKnown? command known | .error .misuse
  return ⟨(known.get? .catalogDirectory).or (own.get? .catalogDirectory), action⟩

/-- Read the words up to a command, and then the command. -/
def readOwn (own : Known) : List String → Except Stop Invocation
  | [] => .error .misuse
  | text :: rest => do
    match Word.ofString text with
    | .separator => .error .misuse
    | .long name value => readOwn (← readLong ownGrammar own name value) rest
    | .short letter => readOwn (← readShort ownGrammar own letter) rest
    | .plain text =>
      match own.awaiting? with
      | some parameter => readOwn (own.hold parameter (some text)) rest
      | none =>
        if text == "help" then .error (readHelp rest) else Invocation.ofCommand own text rest

/-- Read the words that the program is called with. -/
def Invocation.ofWords (words : List String) : Except Stop Invocation :=
  readOwn (.start ownGrammar) words

end FactoryBundler.CommandLine
