import FactoryBundler.Bundle.Wire
import FactoryBundler.Encoding.Base64
import FactoryBundler.Encoding.Sha256
import FactoryBundler.Json.Canonical
import FactoryBundler.Text.Blank

/-!
# Bundles

A bundle holds the artifacts of one compiled factory. Its transport form is base64 twice over: the
policy is base64 inside a JSON document, and the document is base64 again. Its fingerprint is the
digest of the canonical text of the document, so the order of the schema's members does not count.
-/

namespace FactoryBundler

/-- The artifacts of a compiled factory. -/
structure Bundle where
  version : String
  policy : String
  policyBranch : String
  schema : Json
deriving Repr, DecidableEq

namespace Bundle

/-- Why a text is no bundle. -/
inductive Fault where
  | documentNotBase64 (fault : Encoding.Base64.Fault)
  | documentNotFactory (error : Json.Located Wire.Cause)
  | policyNotBase64 (fault : Encoding.Base64.Fault)
  | policyNotUtf8 (fault : Text.Utf8.Fault)
deriving Repr, DecidableEq

/-- The wording of a fault. -/
def Fault.message (fault : Fault) : String :=
  "Invalid factory bundle: " ++
    match fault with
    | .documentNotBase64 fault => s!"document is not base64: {fault.message}"
    | .documentNotFactory error =>
      s!"document is not a factory: {error.position.describe error.cause.message}"
    | .policyNotBase64 fault => s!"policy is not base64: {fault.message}"
    | .policyNotUtf8 fault => s!"policy is not UTF-8: {fault.message}"

/-- The document of a bundle. -/
def toWire (bundle : Bundle) : Wire where
  version := bundle.version
  policy := Encoding.Base64.encode (Text.Utf8.encode bundle.policy)
  policyBranch := bundle.policyBranch
  schema := bundle.schema

/-- The transport form of a bundle. -/
def encode (bundle : Bundle) : String :=
  Encoding.Base64.encode (Text.Utf8.encode bundle.toWire.toJson.compact)

/-- The bundle of a document. -/
def ofWire (wire : Wire) : Except Fault Bundle := do
  let bytes ←
    (Encoding.Base64.decodeBytes (Text.Utf8.encode wire.policy)).mapError .policyNotBase64
  let policy ← (Text.Utf8.decode bytes).mapError .policyNotUtf8
  return ⟨wire.version, policy, wire.policyBranch, wire.schema⟩

/-- The bundle of a transport form, which may have blanks around it. -/
def decode (blob : String) : Except Fault Bundle := do
  let document ←
    (Encoding.Base64.decodeBytes (Text.Utf8.encode (Text.trim blob))).mapError .documentNotBase64
  ofWire (← (Wire.read document).mapError .documentNotFactory)

/-- The text that stands for the bundle in its fingerprint. -/
def canonicalText (bundle : Bundle) : String :=
  bundle.toWire.toJson.canonicalText

/-- The digest of the canonical text. -/
def fingerprint (bundle : Bundle) : String :=
  Encoding.Sha256.hex (Text.Utf8.encode bundle.canonicalText)

/-- A text of the schema; the empty text if the schema has none under the key. -/
def schemaText (bundle : Bundle) (key : String) : String :=
  ((bundle.schema.get? key).bind Json.text?).getD ""

/-- The title that the schema gives. -/
def title (bundle : Bundle) : String :=
  bundle.schemaText "title"

/-- The description that the schema gives. -/
def description (bundle : Bundle) : String :=
  bundle.schemaText "description"

end Bundle

end FactoryBundler
