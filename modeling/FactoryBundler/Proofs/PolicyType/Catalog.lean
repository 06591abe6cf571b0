import FactoryBundler.PolicyType.Builtin
import FactoryBundler.Proofs.Configuration.Build
import FactoryBundler.Proofs.PolicyType.Name

/-!
# Registered policy types

A body is registered under the name of a spelling, and every look-up goes through the name of what
it is given. A configuration looks its policy type up by a name, so it goes through the name of a
name; what is registered can be used if the two are the same.
-/

namespace FactoryBundler

variable {catalog : Catalog} {key value body spelling k : String}

theorem lookup_placeAscending (k : String) (entries : List (String × String)) :
    (placeAscending key value entries).lookup k =
      if k = key then some value else entries.lookup k := by
  induction entries with
  | nil => rw [placeAscending, Members.lookup_cons]
  | cons entry rest ih =>
      obtain ⟨j, v⟩ := entry
      rw [placeAscending]
      split
      · rw [Members.lookup_cons]
      · split
        · next same =>
          rw [Members.lookup_cons, Members.lookup_cons, beq_iff_eq.mp same]
          split <;> rfl
        · next other =>
          have differ : j ≠ key := by simpa using other
          rw [Members.lookup_cons, Members.lookup_cons, ih]
          by_cases asked : k = j
          · rw [if_pos asked, if_neg (asked ▸ differ), if_pos asked]
          · rw [if_neg asked, if_neg asked]

namespace Catalog

theorem get?_register (k : String) :
    (catalog.register spelling body).get? k =
      if PolicyType.name k = PolicyType.name spelling then some body else catalog.get? k :=
  lookup_placeAscending _ _

theorem mem_names_register (registered : k ∈ (catalog.register spelling body).names) :
    k = PolicyType.name spelling ∨ k ∈ catalog.names :=
  mem_keys_placeAscending registered

/-- A name is held once. -/
theorem nodup_keys (catalog : Catalog) : (Members.keys catalog.entries).Nodup :=
  catalog.ascending.imp fun {a b} before (equal : a = b) =>
    String.lt_irrefl b (by rwa [equal] at before)

/-- A name that is the name of itself is found if the catalog holds it. -/
theorem isSome_get?_of_mem_names (inNames : k ∈ catalog.names) (itself : PolicyType.name k = k) :
    (catalog.get? k).isSome = true := by
  obtain ⟨⟨k, body⟩, inEntries, rfl⟩ := List.mem_map.mp inNames
  rw [get?, itself, (Members.lookup_eq_some_iff_mem catalog.nodup_keys).mpr inEntries]
  rfl

end Catalog

/-- A policy type that is found takes the place of a template. -/
theorem Configuration.chooseSource_of_get? (named : PolicyType.name spelling ≠ "")
    (found : catalog.get? (PolicyType.name spelling) = some body) :
    chooseSource none (some spelling) catalog = .ok (.canned body) := by
  have kept : ((some spelling).map PolicyType.name).filter (fun name => !name.isEmpty) =
      some (PolicyType.name spelling) := by
    simp [Option.filter, named]
  rw [chooseSource, kept]
  simp only [Option.filter_none, found]

namespace Catalog

open FactoryBundler.Configuration (hydrate Settings)

/-- What is expected of a policy type once it is registered: its body is found by the spelling and
by the name, every name is found, and a configuration that names the policy type, has no template
and has no other fault takes the body for its template. -/
structure IsUsable (catalog : Catalog) (spelling body : String) : Prop where
  get?_spelling : (catalog.register spelling body).get? spelling = some body
  get?_name : (catalog.register spelling body).get? (PolicyType.name spelling) = some body
  get?_names : ∀ name ∈ (catalog.register spelling body).names,
    ((catalog.register spelling body).get? name).isSome = true
  build_ok : ∀ (members : List (String × Json)) (settings : Settings)
    (policyVariables templateVariables : List Variable) (reserved : ReservedVariables),
    Settings.ofMembers members = .ok settings → settings.policyType = some spelling →
    hydrate none settings.policyVariables = .ok policyVariables →
    hydrate (some reserved) settings.templateVariables = .ok templateVariables →
    ∃ configuration,
      Configuration.build none (.object members) (catalog.register spelling body) reserved =
        .ok configuration ∧
      configuration.template = body

/-- What is registered under a settled name is found by that name and can be used. -/
theorem isUsable_of_settled (named : PolicyType.name spelling ≠ "")
    (itself : ∀ name ∈ catalog.names, PolicyType.name name = name)
    (settled : PolicyType.Settled (PolicyType.name spelling)) (body : String) :
    catalog.IsUsable spelling body := by
  have twice := (PolicyType.name_name_iff spelling).mpr settled
  have found : (catalog.register spelling body).get? (PolicyType.name spelling) = some body := by
    rw [get?_register, if_pos twice]
  refine ⟨by rw [get?_register, if_pos rfl], found, fun name inNames => ?_, ?_⟩
  · apply isSome_get?_of_mem_names inNames
    rcases mem_names_register inNames with rfl | known
    · exact twice
    · exact itself name known
  · intro members settings policyVariables templateVariables reserved read isPolicyType hydrated
      hydrated'
    have source := Configuration.chooseSource_of_get? named found
    have isBuilt : Configuration.IsBuiltFrom none members (catalog.register spelling body) reserved
        settings (.canned body)
        (Configuration.assemble settings policyVariables templateVariables (.canned body)) :=
      ⟨read, hydrated, hydrated', isPolicyType ▸ source, rfl⟩
    exact ⟨_, isBuilt.build_eq, rfl⟩

/-- In a catalog whose names are names of themselves, the policy types that can be used whatever
their body are those with a settled name. Among them are all whose spelling has no upper-case letter
without a lower case. -/
theorem isUsable_iff (catalog : Catalog) (spelling : String)
    (named : PolicyType.name spelling ≠ "")
    (itself : ∀ name ∈ catalog.names, PolicyType.name name = name) :
    ((∀ body, catalog.IsUsable spelling body) ↔
      PolicyType.Settled (PolicyType.name spelling)) ∧
    ((∀ c ∈ spelling.toList, Text.isUpper c = true → Text.toLower c ≠ [c]) →
      ∀ body, catalog.IsUsable spelling body) := by
  refine ⟨⟨fun usable => ?_, isUsable_of_settled named itself⟩, fun mapped =>
    isUsable_of_settled named itself (PolicyType.settled_name mapped)⟩
  rw [← PolicyType.name_name_iff]
  by_contra differ
  -- the name of the name is another one, so what is found there is not what was registered
  have other (body : String) : catalog.get? (PolicyType.name spelling) = some body := by
    have found := (usable body).get?_name
    rwa [get?_register, if_neg differ] at found
  exact absurd ((other "").symm.trans (other "-")) (by decide)

theorem isUsable_iff_hostSet :
    PolicyType.name "HostSet" ≠ "" ∧
      (∀ name ∈ PolicyType.builtin.names, PolicyType.name name = name) ∧
      PolicyType.builtin.IsUsable "HostSet" "- !host\n" := by
  have named : PolicyType.name "HostSet" ≠ "" := by decide +kernel
  have itself : ∀ name ∈ PolicyType.builtin.names, PolicyType.name name = name := by
    decide +kernel
  have settled : PolicyType.Settled (PolicyType.name "HostSet") := by decide +kernel
  exact ⟨named, itself, (isUsable_iff PolicyType.builtin "HostSet" named itself).1.mpr settled _⟩

set_option maxRecDepth 2000 in
/-- A policy type that is registered and yet not known to a configuration. Its name ends in a letter
that has no lower case and stands behind one that has. -/
theorem not_isUsable_unmapped :
    PolicyType.name "Aℂ" = "aℂ" ∧ PolicyType.name "aℂ" = "a_ℂ" ∧
      ¬ empty.IsUsable "Aℂ" "x" ∧
      Configuration.build none (.object [("policy_type", .string "Aℂ")])
        (empty.register "Aℂ" "x") .standard = .error (.unknownPolicyType "aℂ") := by
  have name_eq : PolicyType.name "Aℂ" = "aℂ" := by decide +kernel
  refine ⟨name_eq, by decide +kernel, fun usable => ?_, by rfl⟩
  have found := usable.get?_name
  revert found
  decide +kernel

end Catalog

end FactoryBundler
