import FactoryBundler.Text.Words

/-!
# Arguments

A command has options, written `--name value` or `--name=value`, and operands, which fill its
places in order. Reading goes through the words once. The value of an option written with a space,
and an operand, are only looked at when the next word but a value is met or when the words end; the
value of an option written with an equals sign is looked at once. An option may be given once, and
a path may not be empty.
-/

namespace FactoryBundler.CommandLine

/-- Why nothing is run. -/
inductive Stop where
  /-- Help is asked for. -/
  | help
  /-- The version is asked for. -/
  | version
  /-- The words make no sense. -/
  | misuse
deriving Repr, DecidableEq

/-- What a value can be given for. -/
inductive Parameter where
  | logLevel
  | catalogDirectory
  | name
  | category
  | version
  | targetPolicy
  | directory
  | root
  | blob
deriving Repr, DecidableEq

/-- Whether the value is a path. -/
def Parameter.isPath : Parameter → Bool
  | .catalogDirectory | .directory | .root => true
  | _ => false

/-- The options and places of a command. -/
structure Grammar where
  options : List (String × Parameter)
  places : List Parameter
  /-- Whether the command tells the version. -/
  tellsVersion : Bool

/-- A parameter whose value has not been looked at, or has not been met. -/
structure Pending where
  parameter : Parameter
  value : Option String
deriving Repr, DecidableEq

/-- The values known after some words, and the places still to be filled. -/
structure Known where
  values : List (Parameter × String)
  pending : Option Pending
  places : List Parameter
deriving Repr, DecidableEq

namespace Known

/-- Nothing is known of a command's parameters yet. -/
def start (grammar : Grammar) : Known :=
  ⟨[], none, grammar.places⟩

/-- Give a parameter its value. -/
def assign (known : Known) (parameter : Parameter) (value : String) : Except Stop Known :=
  if (known.values.lookup parameter).isSome || (parameter.isPath && value.isEmpty) then
    .error .misuse
  else .ok { known with values := known.values ++ [(parameter, value)] }

/-- Look at what is pending. -/
def settle (known : Known) : Except Stop Known :=
  match known.pending with
  | none => .ok known
  | some ⟨_, none⟩ => .error .misuse
  | some ⟨parameter, some value⟩ => { known with pending := none }.assign parameter value

/-- The parameter that waits for its value. -/
def awaiting? (known : Known) : Option Parameter :=
  match known.pending with
  | some ⟨parameter, none⟩ => some parameter
  | _ => none

/-- Leave a value to be looked at later. -/
def hold (known : Known) (parameter : Parameter) (value : Option String) : Known :=
  { known with pending := some ⟨parameter, value⟩ }

/-- Fill the next place. -/
def fill (known : Known) (value : String) : Except Stop Known := do
  match known.places with
  | [] => .error .misuse
  | place :: rest => return ({ ← known.settle with places := rest }).hold place (some value)

/-- The value of a parameter. -/
def get? (known : Known) (parameter : Parameter) : Option String :=
  known.values.lookup parameter

end Known

/-- The kinds of words. -/
inductive Word where
  /-- The word after which all words are operands. -/
  | separator
  /-- A word `--name` or `--name=value`. -/
  | long (name : String) (value : Option String)
  /-- A word that begins with one dash, by the letter after it. -/
  | short (letter : Char)
  | plain (text : String)
deriving Repr, DecidableEq

/-- The kind of a word. One dash alone is plain. -/
def Word.ofString (text : String) : Word :=
  match text.toList with
  | ['-', '-'] => .separator
  | '-' :: '-' :: cs =>
    let name := String.ofList (cs.takeWhile (· != '='))
    match cs.dropWhile (· != '=') with
    | [] => .long name none
    | _ :: value => .long name (some (String.ofList value))
  | '-' :: letter :: _ => .short letter
  | _ => .plain text

/-- Leave off, if everything up to here makes sense. -/
def stop (known : Known) (reason : Stop) : Except Stop Known := do
  let _ ← known.settle
  .error reason

/-- Read a word `--name` or `--name=value`. -/
def readLong (grammar : Grammar) (known : Known) (name : String) (value : Option String) :
    Except Stop Known :=
  match grammar.options.lookup name, value with
  | some parameter, some value => do (← known.settle).assign parameter value
  | some parameter, none => do return (← known.settle).hold parameter none
  | none, some _ => .error .misuse
  | none, none =>
    if name == "help" then stop known .help
    else if name == "version" && grammar.tellsVersion then stop known .version
    else .error .misuse

/-- Read a word that begins with one dash. -/
def readShort (grammar : Grammar) (known : Known) (letter : Char) : Except Stop Known :=
  if letter == 'h' then stop known .help
  else if letter == 'V' && grammar.tellsVersion then stop known .version
  else .error .misuse

/-- Read the words of a command. -/
def readWords (grammar : Grammar) (known : Known) : List String → Except Stop Known
  | [] => .ok known
  | text :: rest => do
    match Word.ofString text with
    | .separator => rest.foldlM Known.fill (← known.settle)
    | .long name value => readWords grammar (← readLong grammar known name value) rest
    | .short letter => readWords grammar (← readShort grammar known letter) rest
    | .plain text =>
      match known.awaiting? with
      | some parameter => readWords grammar (known.hold parameter (some text)) rest
      | none => readWords grammar (← known.fill text) rest

/-- Read all the words of a command, which have to fill all its places. -/
def readCommand (grammar : Grammar) (words : List String) : Except Stop Known := do
  let known ← (← readWords grammar (.start grammar) words).settle
  if known.places.isEmpty then return known else .error .misuse

end FactoryBundler.CommandLine
