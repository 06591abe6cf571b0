import FactoryBundler.Bundle.Wire
import FactoryBundler.Proofs.Except
import FactoryBundler.Proofs.Json.RoundTrip

/-!
# Wire documents read back as they were written

A document is written as an object of its four fields. The object takes one level of the reader's
room, so a schema is read back if it is at most 126 levels deep and is too deep otherwise.
-/

namespace FactoryBundler.Wire

open Text.Utf8
open Json (compactChars stringChars membersTail EndsNumber)

variable {known : Partial} {rest input : List UInt8} {fuel : Nat}

/-! ## One field -/

theorem readText_string (text : String) (rest : List UInt8) :
    readText (bytesOf (compactChars (.string text)) ++ rest) = .ok (text, rest) := by
  obtain ⟨input, chars, read⟩ := Json.readString_stringChars text rest
  have quote : readText ('"'.toUInt8 :: input) = (Json.readString input).mapError malformed := rfl
  rw [compactChars, chars, quote, read]
  rfl

theorem readSchema_of_depth_le {schema : Json} (wellFormed : schema.WellFormed)
    (doubleFree : schema.DoubleFree) (shallow : schema.depth ≤ 126) (ends : EndsNumber rest) :
    readSchema (bytesOf (compactChars schema) ++ rest) = .ok (schema, rest) := by
  have read := Json.readsBack_of_depth_lt wellFormed doubleFree (Nat.lt_succ_of_le shallow)
  rw [readSchema, show schemaDepth = 126 + 1 from rfl, read rest ends]
  rfl

theorem readSchema_of_le_depth {schema : Json} (wellFormed : schema.WellFormed)
    (doubleFree : schema.DoubleFree) (deep : 127 ≤ schema.depth) (rest : List UInt8) :
    ∃ unread, readSchema (bytesOf (compactChars schema) ++ rest) =
      .error ⟨.malformed .tooDeep, unread⟩ := by
  have tooDeep : Json.FindsTooDeep (Json.readValue (126 + 1)) schema :=
    Json.findsTooDeep_of_le_depth wellFormed doubleFree deep
  obtain ⟨unread, failed⟩ := tooDeep rest
  refine ⟨unread, ?_⟩
  rw [readSchema, show schemaDepth = 126 + 1 from rfl, failed]
  rfl

theorem readField_version (new : known.version = none) (text : String) (rest : List UInt8) :
    readField known "version" (':'.toUInt8 :: (bytesOf (compactChars (.string text)) ++ rest)) =
      .ok ({ known with version := some text }, rest) := by
  simp [readField, Partial.has, new, Json.readColon_colon, bind, Except.bind,
    readText_string, pure, Except.pure]

theorem readField_policy (new : known.policy = none) (text : String) (rest : List UInt8) :
    readField known "policy" (':'.toUInt8 :: (bytesOf (compactChars (.string text)) ++ rest)) =
      .ok ({ known with policy := some text }, rest) := by
  simp [readField, Partial.has, new, Json.readColon_colon, bind, Except.bind,
    readText_string, pure, Except.pure]

theorem readField_policyBranch (new : known.policyBranch = none) (text : String)
    (rest : List UInt8) :
    readField known "policy_branch"
        (':'.toUInt8 :: (bytesOf (compactChars (.string text)) ++ rest)) =
      .ok ({ known with policyBranch := some text }, rest) := by
  simp [readField, Partial.has, new, Json.readColon_colon, bind, Except.bind,
    readText_string, pure, Except.pure]

theorem readField_schema (new : known.schema = none) (input : List UInt8) :
    readField known "schema" (':'.toUInt8 :: input) =
      (readSchema input).map fun (schema, rest) =>
        ({ known with schema := some schema }, rest) := by
  cases h : readSchema input <;>
    simp [readField, Partial.has, new, Json.readColon_colon, Except.map, bind,
      Except.bind, h, pure, Except.pure]

/-! ## One field after the other -/

theorem readFields_next {known' : Partial} {key next : String} {rest' : List UInt8}
    (read : readField known key input = .ok (known', rest))
    (more : Json.nextKey rest = .ok (some next, rest')) :
    readFields (fuel + 1) known key input = readFields fuel known' next rest' := by
  rw [readFields, read]
  simp only [bind, Except.bind, more, Except.mapError_ok]

theorem readFields_last {known' : Partial} {key : String} {rest' : List UInt8}
    (read : readField known key input = .ok (known', rest))
    (stop : Json.nextKey rest = .ok (none, rest')) :
    readFields (fuel + 1) known key input = .ok (known', rest') := by
  rw [readFields, read]
  simp only [bind, Except.bind, stop, Except.mapError_ok]
  rfl

/-- A written document from behind its first key. -/
def afterFirstKey (wire : Wire) : List UInt8 :=
  ':'.toUInt8 :: (bytesOf (compactChars (.string wire.version) ++ membersTail
    [("policy", .string wire.policy), ("policy_branch", .string wire.policyBranch),
      ("schema", wire.schema)]) ++ [])

/-- The texts of a document, which come before its schema. -/
def texts (wire : Wire) : Partial :=
  ⟨some wire.version, some wire.policy, some wire.policyBranch, none⟩

/-- The three texts are read whatever the schema is. Each comma and each colon between the fields
pays for one step of the reader. -/
theorem readFields_afterFirstKey (wire : Wire) :
    ∃ fuel, readFields wire.afterFirstKey.length .unread "version" wire.afterFirstKey =
      readFields (fuel + 1) wire.texts "schema"
        (':'.toUInt8 :: (bytesOf (compactChars wire.schema ++ membersTail []) ++ [])) := by
  obtain ⟨fuel, enough⟩ : ∃ fuel, wire.afterFirstKey.length = fuel + 4 := by
    apply Nat.exists_eq_add_of_le'
    simp only [afterFirstKey, membersTail, bytesOf_append, List.length_append, List.length_cons,
      bytesOf_cons_of_lt (c := ',') (by decide), bytesOf_cons_of_lt (c := ':') (by decide)]
    omega
  refine ⟨fuel, ?_⟩
  rw [enough, afterFirstKey, bytesOf_append, List.append_assoc,
    readFields_next (readField_version rfl _ _) (Json.nextKey_membersTail_cons _ _ _ _),
    bytesOf_append, List.append_assoc,
    readFields_next (readField_policy rfl _ _) (Json.nextKey_membersTail_cons _ _ _ _),
    bytesOf_append, List.append_assoc,
    readFields_next (readField_policyBranch rfl _ _) (Json.nextKey_membersTail_cons _ _ _ _)]
  rfl

/-! ## The whole document -/

theorem readDocument_brace (rest : List UInt8) :
    readDocument ('\x7b'.toUInt8 :: rest) = (do
      let (wire, rest) ← readObject rest
      (Json.readEnd rest).mapError malformed
      return wire) := rfl

theorem readObject_of_readFields {known : Partial} {wire : Wire} {key : String}
    {rest' : List UInt8} (first : Json.firstKey input = .ok (some key, rest))
    (read : readFields rest.length .unread key rest = .ok (known, rest'))
    (complete : known.complete = .ok wire) : readObject input = .ok (wire, rest') := by
  rw [readObject, first]
  simp only [Except.mapError_ok, bind, Except.bind, read, complete]
  rfl

theorem readObject_of_readFields_error {key : String} {fault : Json.Fault Cause}
    (first : Json.firstKey input = .ok (some key, rest))
    (failed : readFields rest.length .unread key rest = .error fault) :
    readObject input = .error fault := by
  rw [readObject, first]
  simp only [Except.mapError_ok, bind, Except.bind, failed]

theorem bytesOf_toJson (wire : Wire) :
    bytesOf (compactChars wire.toJson) =
      '\x7b'.toUInt8 :: (bytesOf (stringChars "version") ++ wire.afterFirstKey) := by
  rw [toJson, Json.compactChars_object_cons, bytesOf_cons_of_lt (by decide), bytesOf_append,
    bytesOf_cons_of_lt (by decide), afterFirstKey, List.append_nil]

theorem readDocument_of_depth_le (wire : Wire) (wellFormed : wire.schema.WellFormed)
    (doubleFree : wire.schema.DoubleFree) (shallow : wire.schema.depth ≤ 126) :
    readDocument (bytesOf (compactChars wire.toJson)) = .ok wire := by
  obtain ⟨fuel, texts⟩ := readFields_afterFirstKey wire
  have schema := readSchema_of_depth_le wellFormed doubleFree shallow
    (Json.endsNumber_membersTail [] [])
  have field : readField wire.texts "schema"
      (':'.toUInt8 :: (bytesOf (compactChars wire.schema ++ membersTail []) ++ [])) =
        .ok (⟨some wire.version, some wire.policy, some wire.policyBranch, some wire.schema⟩,
          bytesOf (membersTail []) ++ []) := by
    rw [readField_schema rfl, bytesOf_append, List.append_assoc, schema]
    rfl
  have fields := texts.trans (readFields_last field (Json.nextKey_membersTail_nil []))
  have object := readObject_of_readFields (Json.firstKey_stringChars _ _) fields rfl
  rw [bytesOf_toJson, readDocument_brace, object]
  rfl

theorem readDocument_of_le_depth (wire : Wire) (wellFormed : wire.schema.WellFormed)
    (doubleFree : wire.schema.DoubleFree) (deep : 127 ≤ wire.schema.depth) :
    ∃ unread, readDocument (bytesOf (compactChars wire.toJson)) =
      .error ⟨.malformed .tooDeep, unread⟩ := by
  obtain ⟨fuel, texts⟩ := readFields_afterFirstKey wire
  obtain ⟨unread, failed⟩ := readSchema_of_le_depth wellFormed doubleFree deep
    (bytesOf (membersTail []) ++ [])
  have fields : readFields wire.afterFirstKey.length .unread "version" wire.afterFirstKey =
      .error ⟨.malformed .tooDeep, unread⟩ := by
    rw [texts, readFields, readField_schema rfl, bytesOf_append, List.append_assoc, failed]
    rfl
  have object := readObject_of_readFields_error (Json.firstKey_stringChars _ _) fields
  refine ⟨unread, ?_⟩
  rw [bytesOf_toJson, readDocument_brace, object]
  rfl

end FactoryBundler.Wire
