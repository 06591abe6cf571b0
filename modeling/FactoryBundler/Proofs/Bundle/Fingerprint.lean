import FactoryBundler.Bundle
import FactoryBundler.Proofs.Encoding.Base64
import FactoryBundler.Proofs.Json.Reordering

/-!
# What a fingerprint stands for

The text behind a fingerprint is the canonical text of the bundle's document. It determines the
bundle up to the order of the schema's members, since base64 and UTF-8 determine the policy.
-/

namespace FactoryBundler.Bundle

open Encoding Text
open Json (SameUpToOrder)

variable {a b : Bundle}

theorem distinctKeys_toJson (distinct : a.schema.DistinctKeys) :
    a.toWire.toJson.DistinctKeys := by
  have keys : ["version", "policy", "policy_branch", "schema"].Nodup := by decide
  refine Json.distinctKeys_object_iff.mpr ⟨keys, ?_⟩
  simp only [List.forall_mem_cons]
  exact ⟨rfl, rfl, rfl, distinct, by simp⟩

/-- The fields of two documents that agree can be told apart by their keys. -/
theorem sameUpToOrder_toJson_iff :
    SameUpToOrder a.toWire.toJson b.toWire.toJson ↔
      a.version = b.version ∧ a.policy = b.policy ∧ a.policyBranch = b.policyBranch ∧
        SameUpToOrder a.schema b.schema := by
  constructor
  · intro agree
    obtain ⟨version, found, sameVersion⟩ := agree.exists_mem "version" (.head _)
    obtain ⟨policy, found', samePolicy⟩ := agree.exists_mem "policy" (.tail _ (.head _))
    obtain ⟨branch, found'', sameBranch⟩ :=
      agree.exists_mem "policy_branch" (.tail _ (.tail _ (.head _)))
    obtain ⟨schema, found''', sameSchema⟩ :=
      agree.exists_mem "schema" (.tail _ (.tail _ (.tail _ (.head _))))
    simp [toWire] at found found' found'' found'''
    subst found found' found'' found'''
    refine ⟨sameVersion.string_inj, ?_, sameBranch.string_inj, sameSchema⟩
    exact Utf8.encode_injective (Base64.encode_injective samePolicy.string_inj)
  · rintro ⟨version, policy, policyBranch, schema⟩
    rw [Wire.toJson, Wire.toJson, toWire, toWire, version, policy, policyBranch]
    exact .object (.refl _) (.cons _ (.string _) (.cons _ (.string _) (.cons _ (.string _)
      (.cons _ schema .nil)))) (.refl _)

/-- Bundles have the same canonical text, which their fingerprints are digests of, exactly if they
are equal up to the order of the members in their schemas; and so have any two values. -/
theorem canonicalText_eq_iff :
    (∀ a b : Bundle, a.schema.DistinctKeys → b.schema.DistinctKeys →
      (a.canonicalText = b.canonicalText ↔
        a.version = b.version ∧ a.policy = b.policy ∧ a.policyBranch = b.policyBranch ∧
          SameUpToOrder a.schema b.schema)) ∧
    ∀ value other : Json, value.DistinctKeys → other.DistinctKeys →
      (value.canonicalText = other.canonicalText ↔ SameUpToOrder value other) := by
  constructor
  · intro a b distinct _
    rw [← sameUpToOrder_toJson_iff]
    exact Json.canonicalText_inj_iff (distinctKeys_toJson distinct)
  · intro value other distinct _
    exact Json.canonicalText_inj_iff distinct

/-- A bundle with these members in its schema. -/
def withMembers (members : List (String × Json)) : Bundle :=
  ⟨"v1", "- !policy", "\x7b\x7b branch \x7d\x7d", .object members⟩

/-- Two orders of the same members, at two depths. -/
theorem canonicalText_eq_swapped :
    (withMembers [("b", .null), ("a", .array [.bool true])]).canonicalText =
      (withMembers [("a", .array [.bool true]), ("b", .null)]).canonicalText ∧
    Json.canonicalText (.array [.object [("b", .null), ("a", .null)]]) =
      Json.canonicalText (.array [.object [("a", .null), ("b", .null)]]) := by
  constructor
  · refine (canonicalText_eq_iff.1 _ _ (by decide) (by decide)).mpr ⟨rfl, rfl, rfl, ?_⟩
    exact .object (.swap _ _ _) (.cons _ (.array (.cons (.bool _) .nil)) (.cons _ .null .nil))
      (.refl _)
  · refine (canonicalText_eq_iff.2 _ _ (by decide) (by decide)).mpr ?_
    exact .array (.cons (.object (.swap _ _ _) (.cons _ .null (.cons _ .null .nil)) (.refl _)) .nil)

end FactoryBundler.Bundle
