import FactoryBundler.Compiler
import FactoryBundler.Proofs.Json.Everywhere
import FactoryBundler.Proofs.Schema.Fields

/-!
# Schemas as documents

The document of a schema made from a configuration is one that a bundle can carry: its keys are
distinct, it has no numbers at all, and it is at most six levels deep, whatever texts a
configuration gives.
-/

namespace FactoryBundler

/-- A value that can be written and read back within so many levels. -/
structure Json.Portable (levels : Nat) (value : Json) : Prop where
  wellFormed : value.WellFormed
  doubleFree : value.DoubleFree
  depth_le : value.depth ≤ levels

namespace Json

variable {levels : Nat}

theorem portable_string (s : String) : Portable levels (.string s) :=
  ⟨rfl, rfl, Nat.zero_le _⟩

theorem portable_bool (b : Bool) : Portable levels (.bool b) :=
  ⟨rfl, rfl, Nat.zero_le _⟩

theorem Portable.array {items : List Json} (h : ∀ item ∈ items, Portable levels item) :
    Portable (levels + 1) (.array items) where
  wellFormed := wellFormed_array_iff.mpr fun item inItems => (h item inItems).wellFormed
  doubleFree := doubleFree_array_iff.mpr fun item inItems => (h item inItems).doubleFree
  depth_le := depth_array_le_iff.mpr fun item inItems => (h item inItems).depth_le

theorem Portable.object {members : List (String × Json)}
    (distinct : (Members.keys members).Nodup) (h : ∀ member ∈ members, Portable levels member.2) :
    Portable (levels + 1) (.object members) where
  wellFormed := wellFormed_object_iff.mpr
    ⟨distinct, fun member inMembers => (h member inMembers).wellFormed⟩
  doubleFree := doubleFree_object_iff.mpr fun member inMembers => (h member inMembers).doubleFree
  depth_le := depth_object_le_iff.mpr fun member inMembers => (h member inMembers).depth_le

theorem portable_strings (texts : List String) :
    Portable (levels + 1) (.array (texts.map .string)) := by
  apply Portable.array
  intro item inItems
  obtain ⟨text, -, rfl⟩ := List.mem_map.mp inItems
  exact portable_string text

end Json

namespace Schema

open Json (Portable)

variable {levels : Nat}

theorem portable_property (property : Property) : Portable (levels + 2) property.toJson := by
  apply Portable.object
  · have keys : ["title", "description", "type", "default", "enum", "readOnly"].Nodup := by decide
    refine keys.sublist ?_
    cases property.defaultValue <;> cases property.choices.isEmpty <;> cases property.readOnly <;>
      simp [Members.keys]
  · intro member inMembers
    simp only [List.mem_append] at inMembers
    rcases inMembers with ((fixed | isDefault) | isEnum) | isReadOnly
    · simp only [List.mem_cons, List.not_mem_nil, or_false] at fixed
      rcases fixed with rfl | rfl | rfl <;> exact Json.portable_string _
    · split at isDefault
      · rw [List.mem_singleton.mp isDefault]
        exact Json.portable_string _
      · cases isDefault
    · split at isEnum
      · cases isEnum
      · rw [List.mem_singleton.mp isEnum]
        exact Json.portable_strings _
    · split at isReadOnly
      · rw [List.mem_singleton.mp isReadOnly]
        exact Json.portable_bool _
      · cases isReadOnly

theorem portable_group {fields : Fields Property}
    (distinct : (Members.keys fields.properties).Nodup) :
    Portable (levels + 4) (groupToJson fields) := by
  have keys : ["type", "properties", "required"].Nodup := by decide
  have properties : Portable (levels + 3) (.object (fields.properties.map
      fun member => (member.1, member.2.toJson))) := by
    apply Portable.object ((Members.keys_map_snd _ fields.properties).symm ▸ distinct)
    intro member inProperties
    obtain ⟨⟨key, property⟩, -, rfl⟩ := List.mem_map.mp inProperties
    exact portable_property property
  refine Portable.object keys ?_
  simp only [List.forall_mem_cons]
  exact ⟨Json.portable_string _, properties, Json.portable_strings _, by simp⟩

/-- An entry whose document is portable: a group names each variable once. -/
def Entry.NamesOnce : Entry → Prop
  | .input _ => True
  | .group fields => (Members.keys fields.properties).Nodup

theorem portable_entry {entry : Entry} (once : entry.NamesOnce) :
    Portable (levels + 4) entry.toJson := by
  cases entry with
  | input property => exact portable_property property
  | group fields => exact portable_group once

theorem portable_toJson {schema : Schema}
    (distinct : (Members.keys schema.fields.properties).Nodup)
    (once : ∀ member ∈ schema.fields.properties, member.2.NamesOnce) :
    Portable 6 schema.toJson := by
  have keys : ["$schema", "type", "title", "description", "properties", "required"].Nodup := by
    decide
  have properties : Portable 5 (.object (schema.fields.properties.map
      fun member => (member.1, member.2.toJson))) := by
    apply Portable.object ((Members.keys_map_snd _ schema.fields.properties).symm ▸ distinct)
    intro member inProperties
    obtain ⟨⟨key, entry⟩, inFields, rfl⟩ := List.mem_map.mp inProperties
    exact portable_entry (once _ inFields)
  refine Portable.object keys ?_
  simp only [List.forall_mem_cons]
  exact ⟨Json.portable_string _, Json.portable_string _, Json.portable_string _,
    Json.portable_string _, properties, Json.portable_strings _, by simp⟩

/-! ## Schemas of configurations -/

theorem namesOnce_of_mem_declareReserved {configuration : Configuration} {included : Bool}
    {key kind : String} {required : Bool} {d : Declaration Entry}
    (h : d ∈ declareReserved configuration included key kind required) : d.entry.NamesOnce := by
  unfold declareReserved at h
  split at h
  · split at h
    · rw [List.mem_singleton.mp h]
      trivial
    · cases h
  · cases h

theorem namesOnce_of_mem_declareGroup {policyVariables : List Variable} {d : Declaration Entry}
    (h : d ∈ declareGroup policyVariables) : d.entry.NamesOnce := by
  unfold declareGroup at h
  split at h
  · cases h
  · rw [List.mem_singleton.mp h]
    exact nodup_keys_ofDeclarations _

theorem namesOnce_of_mem_declarations {configuration : Configuration} {d : Declaration Entry}
    (h : d ∈ declarations configuration) : d.entry.NamesOnce := by
  simp only [declarations, List.mem_append] at h
  rcases h with (((reserved | reserved) | reserved) | own) | group
  · exact namesOnce_of_mem_declareReserved reserved
  · exact namesOnce_of_mem_declareReserved reserved
  · exact namesOnce_of_mem_declareReserved reserved
  · obtain ⟨v, -, rfl⟩ := List.mem_map.mp own
    trivial
  · exact namesOnce_of_mem_declareGroup group

/-- The schema of any configuration can be carried by a bundle. -/
theorem portable_ofConfiguration (configuration : Configuration) :
    Portable 6 (ofConfiguration configuration).toJson := by
  apply portable_toJson (nodup_keys_ofDeclarations _)
  intro member inProperties
  obtain ⟨d, declared, rfl⟩ := exists_of_mem_properties inProperties
  exact namesOnce_of_mem_declarations declared

end Schema

end FactoryBundler
