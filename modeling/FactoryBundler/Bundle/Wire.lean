import FactoryBundler.Json.Shape
import FactoryBundler.Json.Skim

/-!
# Wire documents

A bundle travels as a JSON document with four fields, three texts and a schema, the policy being
base64. A document is read from its bytes: from an object, whose other members are skimmed, or from
an array of the fields in order. Every fault has a place. One that is noticed at a value lies
behind it, or before it if it is an array or an object; one that concerns the whole document lies
behind its closing bracket.
-/

namespace FactoryBundler

/-- The fields of a wire document. -/
structure Wire where
  version : String
  policy : String
  policyBranch : String
  schema : Json
deriving Repr, DecidableEq

namespace Wire

/-- What can be wrong with a wire document. -/
inductive Cause where
  | malformed (cause : Json.Cause)
  | misshapen (mismatch : Json.Mismatch)
deriving Repr, DecidableEq

/-- The wording of a cause. -/
def Cause.message : Cause → String
  | .malformed cause => cause.message
  | .misshapen mismatch => mismatch.message

/-- A wire document as a value. -/
def toJson (wire : Wire) : Json :=
  .object [
    ("version", .string wire.version),
    ("policy", .string wire.policy),
    ("policy_branch", .string wire.policyBranch),
    ("schema", wire.schema)]

/-- What a reader of wire documents makes of the front of a text. -/
abbrev Reading (α : Type) : Type :=
  Except (Json.Fault Cause) (α × List UInt8)

/-- A syntax fault as a fault of the document. -/
def malformed (fault : Json.Fault Json.Cause) : Json.Fault Cause :=
  ⟨.malformed fault.cause, fault.unread⟩

/-- A fault of shape. -/
def misshapen (mismatch : Json.Mismatch) (unread : List UInt8) : Json.Fault Cause :=
  ⟨.misshapen mismatch, unread⟩

/-- The fault for a value of the wrong type, which begins with `b`. A scalar is read first, and can
be at fault itself. -/
def wrongType (expected : String) (b : UInt8) (rest : List UInt8) : Json.Fault Cause :=
  if b == '['.toUInt8 then misshapen (.wrongType .array expected) (b :: rest)
  else if b == '\x7b'.toUInt8 then misshapen (.wrongType .object expected) (b :: rest)
  else
    match Json.readValue 1 (b :: rest) with
    | .ok (value, unread) => misshapen (.wrongType value.found expected) unread
    | .error fault => malformed fault

/-- Read a string field. -/
def readText (input : List UInt8) : Reading String :=
  match Json.skipSpace input with
  | [] => .error (malformed ⟨.endInValue, []⟩)
  | b :: rest =>
    if b == '"'.toUInt8 then (Json.readString rest).mapError malformed
    else .error (wrongType "a string" b rest)

/-- The room for the schema, the document itself taking one level. -/
def schemaDepth : Nat := Json.depthLimit - 1

/-- Read the schema field. -/
def readSchema (input : List UInt8) : Reading Json :=
  (Json.readValue schemaDepth input).mapError malformed

/-- A document as far as it has been read. -/
structure Partial where
  version : Option String
  policy : Option String
  policyBranch : Option String
  schema : Option Json
deriving Repr, DecidableEq

/-- A document of which nothing has been read. -/
def Partial.unread : Partial := ⟨none, none, none, none⟩

/-- Whether a field has been read. -/
def Partial.has (known : Partial) (field : String) : Bool :=
  match field with
  | "version" => known.version.isSome
  | "policy" => known.policy.isSome
  | "policy_branch" => known.policyBranch.isSome
  | "schema" => known.schema.isSome
  | _ => false

/-- What is unread when a repeated field is reported: a reader that gives up still looks for the
end of the object. -/
def afterRepeated (input : List UInt8) : List UInt8 :=
  match Json.skipSpace input with
  | [] => []
  | b :: rest => if b == '\x7d'.toUInt8 then rest else b :: rest

/-- Read the value of a member, from behind its key. -/
def readField (known : Partial) (field : String) (input : List UInt8) :
    Except (Json.Fault Cause) (Partial × List UInt8) := do
  if known.has field then
    .error (misshapen (.repeatedField field) (afterRepeated input))
  else
    let input ← (Json.readColon input).mapError malformed
    match field with
    | "version" =>
      let (text, rest) ← readText input
      return ({ known with version := some text }, rest)
    | "policy" =>
      let (text, rest) ← readText input
      return ({ known with policy := some text }, rest)
    | "policy_branch" =>
      let (text, rest) ← readText input
      return ({ known with policyBranch := some text }, rest)
    | "schema" =>
      let (value, rest) ← readSchema input
      return ({ known with schema := some value }, rest)
    | _ =>
      let rest ← (Json.skimValue input).mapError malformed
      return (known, rest)

/-- Read the members of a document from one whose key has been read. Each takes at least one byte,
so `fuel` can be the number of bytes. -/
def readFields : Nat → Partial → String → List UInt8 →
    Except (Json.Fault Cause) (Partial × List UInt8)
  | 0, _, _, input => .error (malformed ⟨.endInObject, input⟩)
  | fuel + 1, known, key, input => do
    let (known, rest) ← readField known key input
    match ← (Json.nextKey rest).mapError malformed with
    | (some next, rest) => readFields fuel known next rest
    | (none, rest) => return (known, rest)

/-- The document that has been read, unless a field is missing. -/
def Partial.complete (known : Partial) : Except Json.Mismatch Wire :=
  match known.version, known.policy, known.policyBranch, known.schema with
  | none, _, _, _ => .error (.missingField "version")
  | _, none, _, _ => .error (.missingField "policy")
  | _, _, none, _ => .error (.missingField "policy_branch")
  | _, _, _, none => .error (.missingField "schema")
  | some version, some policy, some policyBranch, some schema =>
    .ok ⟨version, policy, policyBranch, schema⟩

/-- Read a document that is an object, from behind its opening brace. -/
def readObject (input : List UInt8) : Except (Json.Fault Cause) (Wire × List UInt8) := do
  let (known, rest) ←
    match ← (Json.firstKey input).mapError malformed with
    | (some key, rest) => readFields rest.length .unread key rest
    | (none, rest) => pure (.unread, rest)
  match known.complete with
  | .ok wire => return (wire, rest)
  | .error mismatch => .error (misshapen mismatch rest)

/-- The fault of an array that ends after `length` items. -/
def tooShort (length : Nat) (unread : List UInt8) : Json.Fault Cause :=
  misshapen (.wrongLength length "struct WireBundle with 4 elements") unread

/-- The end of an array that has all its items. -/
def closeArray (input : List UInt8) : Except (Json.Fault Cause) (List UInt8) :=
  match Json.skipSpace input with
  | [] => .error (malformed ⟨.endInArray, []⟩)
  | b :: rest =>
    if b == ']'.toUInt8 then .ok rest
    else if b == ','.toUInt8 then
      match Json.skipSpace rest with
      | [] => .error (malformed ⟨.trailingCharacters, []⟩)
      | b :: rest =>
        if b == ']'.toUInt8 then .error (malformed ⟨.trailingComma, rest⟩)
        else .error (malformed ⟨.trailingCharacters, rest⟩)
    else .error (malformed ⟨.trailingCharacters, rest⟩)

/-- Go to the next item of an array, which has had `length` items and may not end yet. -/
def goOn (length : Nat) (more : Except (Json.Fault Json.Cause) (Bool × List UInt8)) :
    Except (Json.Fault Cause) (List UInt8) := do
  match ← more.mapError malformed with
  | (true, rest) => return rest
  | (false, rest) => .error (tooShort length rest)

/-- Read a document that is an array, from behind its opening bracket. -/
def readArray (input : List UInt8) : Except (Json.Fault Cause) (Wire × List UInt8) := do
  let (version, rest) ← readText (← goOn 0 (Json.firstItem input))
  let (policy, rest) ← readText (← goOn 1 (Json.nextItem rest))
  let (policyBranch, rest) ← readText (← goOn 2 (Json.nextItem rest))
  let (schema, rest) ← readSchema (← goOn 3 (Json.nextItem rest))
  return (⟨version, policy, policyBranch, schema⟩, ← closeArray rest)

/-- Read a text that is one wire document. -/
def readDocument (input : List UInt8) : Except (Json.Fault Cause) Wire := do
  let (wire, rest) ←
    match Json.skipSpace input with
    | [] => .error (malformed ⟨.endInValue, []⟩)
    | b :: rest =>
      if b == '['.toUInt8 then readArray rest
      else if b == '\x7b'.toUInt8 then readObject rest
      else .error (wrongType "struct WireBundle" b rest)
  (Json.readEnd rest).mapError malformed
  return wire

/-- Read a text that is one wire document, with the place of the fault if it is none. -/
def read (input : List UInt8) : Except (Json.Located Cause) Wire :=
  (readDocument input).mapError (·.locate input)

end Wire

end FactoryBundler
