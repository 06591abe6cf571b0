import FactoryBundler.Bundle
import FactoryBundler.Proofs.Bundle.Document
import FactoryBundler.Proofs.Encoding.Base64

/-!
# Bundles read back from their transport form

Encoding and decoding undo each other on bundles whose schema can stand in a document, which for a
schema without doubles is a matter of its depth alone: up to 126 levels are read back, more are too
deep for the reader. Since a bundle that was decoded has such a schema, it survives any further
trip.
-/

namespace FactoryBundler.Bundle

open Encoding Text

variable {bundle : Bundle} {blob : String}

theorem ofWire_toWire (bundle : Bundle) : ofWire bundle.toWire = .ok bundle := by
  rw [ofWire, toWire, Base64.utf8_encode, Base64.decodeBytes_encodeBytes]
  simp only [Except.mapError_ok, bind, Except.bind, Utf8.decode_encode]
  rfl

theorem schema_of_ofWire {wire : Wire} (h : ofWire wire = .ok bundle) :
    bundle.schema = wire.schema := by
  obtain ⟨_, -, h⟩ := Except.bind_eq_ok_iff.mp h
  obtain ⟨_, -, h⟩ := Except.bind_eq_ok_iff.mp h
  cases h
  rfl

/-- The two layers of base64 come off, and the document is left to be read. -/
theorem decode_encode (bundle : Bundle) :
    decode bundle.encode = (do
      ofWire (← (Wire.read (Utf8.bytesOf (Json.compactChars bundle.toWire.toJson))).mapError
        .documentNotFactory)) := by
  rw [decode, encode, Base64.trim_encode, Base64.utf8_encode, Base64.decodeBytes_encodeBytes,
    Json.compact, Utf8.encode_ofList]
  rfl

theorem decode_encode_of_depth_le (wellFormed : bundle.schema.WellFormed)
    (doubleFree : bundle.schema.DoubleFree) (shallow : bundle.schema.depth ≤ 126) :
    decode bundle.encode = .ok bundle := by
  have read := Wire.readDocument_of_depth_le bundle.toWire wellFormed doubleFree shallow
  rw [decode_encode, Wire.read, read]
  simp only [Except.mapError_ok, bind, Except.bind, ofWire_toWire]

theorem decode_encode_of_le_depth (wellFormed : bundle.schema.WellFormed)
    (doubleFree : bundle.schema.DoubleFree) (deep : 127 ≤ bundle.schema.depth) :
    ∃ position, decode bundle.encode =
      .error (.documentNotFactory ⟨.malformed .tooDeep, position⟩) := by
  obtain ⟨unread, failed⟩ :=
    Wire.readDocument_of_le_depth bundle.toWire wellFormed doubleFree deep
  rw [decode_encode, Wire.read, failed]
  exact ⟨_, rfl⟩

/-- The schema of a bundle that was decoded stood in a document. -/
theorem exists_isValue_of_decode (h : decode blob = .ok bundle) :
    ∃ held, Json.IsValue 126 bundle.schema held := by
  obtain ⟨document, -, h⟩ := Except.bind_eq_ok_iff.mp h
  obtain ⟨wire, read, h⟩ := Except.bind_eq_ok_iff.mp h
  rw [schema_of_ofWire h]
  exact Wire.exists_isValue_of_read (Except.mapError_eq_ok_iff.mp read)

/-- What was decoded can be read again: its schema has been read once. -/
theorem isReadable_of_decode (h : decode blob = .ok bundle) : Wire.IsReadable bundle.schema := by
  obtain ⟨held, isValue⟩ := exists_isValue_of_decode h
  exact Json.wellFormed_of_isValue isValue

/-- The round trip of a bundle, exactly. `WellFormed` is what every schema in memory satisfies:
objects name a key once and integers have 64 bits. A schema without doubles then reads back up to a
depth of 126, in every detail and in the order of its keys, and is too deep for the document's
reader from 127 on. A bundle that was decoded, from whatever blob, comes back from any further
trip. -/
theorem round_trip :
    (∀ bundle : Bundle, bundle.schema.WellFormed → bundle.schema.DoubleFree →
      (bundle.schema.depth ≤ 126 → decode bundle.encode = .ok bundle) ∧
      (127 ≤ bundle.schema.depth → ∃ position, decode bundle.encode =
        .error (.documentNotFactory ⟨.malformed .tooDeep, position⟩))) ∧
    ∀ (blob : String) (bundle : Bundle), decode blob = .ok bundle → bundle.schema.DoubleFree →
      decode bundle.encode = .ok bundle := by
  constructor
  · intro bundle wellFormed doubleFree
    exact ⟨decode_encode_of_depth_le wellFormed doubleFree,
      decode_encode_of_le_depth wellFormed doubleFree⟩
  · intro blob bundle decoded doubleFree
    obtain ⟨wellFormed, shallow⟩ := isReadable_of_decode decoded
    exact decode_encode_of_depth_le wellFormed doubleFree shallow

/-- So many arrays around a null. -/
def nested : Nat → Json
  | 0 => .null
  | levels + 1 => .array [nested levels]

theorem nested_spec (levels : Nat) :
    (nested levels).WellFormed ∧ (nested levels).DoubleFree ∧ (nested levels).depth = levels := by
  induction levels with
  | zero => decide
  | succ levels ih =>
      obtain ⟨wellFormed, doubleFree, depth⟩ := ih
      refine ⟨?_, ?_, ?_⟩
      · simpa [nested, Json.wellFormed_array_iff] using wellFormed
      · simpa [nested, Json.doubleFree_array_iff] using doubleFree
      · simp [nested, Json.depth, Json.depthItems, depth]

/-- A bundle with a nested schema. -/
def ofNested (levels : Nat) : Bundle :=
  ⟨"v1", "- !policy\n", "\t\"é\"", nested levels⟩

/-- The last depth that is read back, the first that is not, and a bundle that was decoded from an
array of its fields. -/
theorem round_trip_nested :
    decode (ofNested 126).encode = .ok (ofNested 126) ∧
    (∃ position, decode (ofNested 127).encode =
      .error (.documentNotFactory ⟨.malformed .tooDeep, position⟩)) ∧
    decode (encode ⟨"v1", "", "", nested 1⟩) = .ok ⟨"v1", "", "", nested 1⟩ := by
  obtain ⟨wellFormed, doubleFree, depth⟩ := nested_spec 126
  obtain ⟨wellFormed', doubleFree', depth'⟩ := nested_spec 127
  refine ⟨?_, ?_, ?_⟩
  · exact (round_trip.1 (ofNested 126) wellFormed doubleFree).1 depth.le
  · exact (round_trip.1 (ofNested 127) wellFormed' doubleFree').2 depth'.ge
  · exact round_trip.2 "WyJ2MSIsIiIsIiIsW251bGxdXQ==" ⟨"v1", "", "", nested 1⟩
      (by decide +kernel) (by decide)

end FactoryBundler.Bundle
