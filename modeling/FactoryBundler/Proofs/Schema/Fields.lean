import FactoryBundler.Schema
import FactoryBundler.Proofs.Json.Members

/-!
# Laws of declarations

What the fields that declarations amount to have in them: a property under every declared key, once,
and every key that some declaration requires.
-/

namespace FactoryBundler.Schema

variable {α : Type} {declarations : List (Declaration α)} {key : String}

/-! ## Distinct keys -/

theorem distinct_concat (keys : List String) (key : String) :
    distinct (keys ++ [key]) =
      if (distinct keys).contains key then distinct keys else distinct keys ++ [key] := by
  rw [distinct, List.foldl_append]
  rfl

theorem mem_distinct {keys : List String} : key ∈ distinct keys ↔ key ∈ keys := by
  induction keys using List.reverseRecOn with
  | nil => exact Iff.rfl
  | append_singleton keys last ih =>
      rw [distinct_concat, List.mem_append, List.mem_singleton, ← ih]
      split
      · next seen =>
        rw [List.contains_iff_mem] at seen
        exact ⟨Or.inl, fun h => h.elim id (· ▸ seen)⟩
      · rw [List.mem_append, List.mem_singleton]

/-! ## Fields -/

theorem nodup_keys_ofDeclarations (declarations : List (Declaration α)) :
    (Members.keys (Fields.ofDeclarations declarations).properties).Nodup :=
  Members.nodup_keys_ofList _

theorem mem_keys_ofDeclarations :
    key ∈ Members.keys (Fields.ofDeclarations declarations).properties ↔
      ∃ d ∈ declarations, d.key = key := by
  rw [Fields.ofDeclarations, Members.mem_keys_ofList, Members.keys, List.map_map]
  exact List.mem_map

theorem mem_required_ofDeclarations :
    key ∈ (Fields.ofDeclarations declarations).required ↔
      ∃ d ∈ declarations, d.required = true ∧ d.key = key := by
  rw [Fields.ofDeclarations, mem_distinct, List.mem_map]
  simp only [List.mem_filter, and_assoc]

theorem exists_of_mem_properties {member : String × α}
    (h : member ∈ (Fields.ofDeclarations declarations).properties) :
    ∃ d ∈ declarations, (d.key, d.entry) = member :=
  List.mem_map.mp (Members.mem_of_mem_ofList h)

/-- Declarations with distinct keys are listed as they are. -/
theorem properties_ofDeclarations_of_nodup (distinct : (declarations.map (·.key)).Nodup) :
    (Fields.ofDeclarations declarations).properties =
      declarations.map fun d => (d.key, d.entry) := by
  apply Members.ofList_of_nodup
  rw [Members.keys, List.map_map]
  exact distinct

end FactoryBundler.Schema
