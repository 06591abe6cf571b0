import FactoryBundler.Proofs.Bundle.RoundTrip

/-!
# Transport forms

Which texts are the transport form of a bundle, and what is wrong with the others. Three layers come
off one after the other: base64, the wire document, and the base64 of the policy with the UTF-8 in
it. A bundle comes out if all of them are well-formed; otherwise the fault is that of the outermost
layer which is not.
-/

namespace FactoryBundler.Bundle

open Encoding Text
open Json (IsSpace)

variable {blob : String} {bundle : Bundle} {wire : Wire} {document : List UInt8}

/-- A blob carries a document in base64, and may have blanks around it. -/
def Carries (blob : String) (document : List UInt8) : Prop :=
  Text.trim blob = Base64.encode document

instance : Decidable (Carries blob document) :=
  inferInstanceAs (Decidable (_ = _))

theorem carries_iff :
    Base64.decodeBytes (Utf8.encode (Text.trim blob)) = .ok document ↔ Carries blob document :=
  Base64.decodeBytes_utf8_eq_ok_iff

theorem Carries.unique {document' : List UInt8} (carries : Carries blob document)
    (carries' : Carries blob document') : document = document' :=
  Base64.encode_injective (carries.symm.trans carries')

/-- A document has a bundle if its policy is the base64 of one. -/
theorem ofWire_eq_ok_iff : ofWire wire = .ok bundle ↔ wire = bundle.toWire := by
  constructor
  · intro h
    obtain ⟨bytes, read, h₁⟩ := Except.bind_eq_ok_iff.mp h
    obtain ⟨policy, decoded, done⟩ := Except.bind_eq_ok_iff.mp h₁
    rw [Except.mapError_eq_ok_iff] at read decoded
    have isBase64 := Base64.decodeBytes_utf8_eq_ok_iff.mp read
    have isUtf8 := Utf8.decode_eq_ok_iff.mp decoded
    cases done
    cases wire
    simp_all [toWire]
  · rintro rfl
    exact ofWire_toWire bundle

/-- What is decoded, from whatever blob. -/
theorem decode_eq_ok_iff :
    decode blob = .ok bundle ↔
      ∃ document, Carries blob document ∧ bundle.toWire.IsDocument document := by
  constructor
  · intro h
    obtain ⟨document, read, h₁⟩ := Except.bind_eq_ok_iff.mp h
    obtain ⟨wire, isWire, isBundle⟩ := Except.bind_eq_ok_iff.mp h₁
    rw [Except.mapError_eq_ok_iff] at read isWire
    cases ofWire_eq_ok_iff.mp isBundle
    exact ⟨document, carries_iff.mp read, Wire.read_eq_ok_iff.mp isWire⟩
  · rintro ⟨document, carries, isDocument⟩
    rw [decode, carries_iff.mpr carries]
    simp only [Except.mapError_ok, bind, Except.bind, Wire.read_eq_ok_iff.mpr isDocument,
      ofWire_toWire]

/-! ## Faults -/

/-- A document that is accepted as documented if it is accepted at all: it is no array of the
fields, and if it is an object of them, it is a text. -/
structure IsPlain (document : List UInt8) : Prop where
  notArray : ∀ wire : Wire, ¬ Wire.InBlanks wire.IsArray document
  isText : ∀ wire : Wire, Wire.InBlanks wire.IsObject document →
    ∃ text : String, document = Utf8.encode text

end FactoryBundler.Bundle
