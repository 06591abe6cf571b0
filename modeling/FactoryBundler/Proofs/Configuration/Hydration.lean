import FactoryBundler.Configuration
import FactoryBundler.Proofs.Except
import FactoryBundler.Proofs.Json.Members
import Mathlib.Data.List.Nodup

/-!
# Laws of hydration

A variable that takes its place among others leaves their identifiers as they are, or adds its own
at the end. So what a section starts out with stays in front, and no identifier comes twice.
-/

namespace FactoryBundler

/-- The identifiers of variables in order. -/
def Variable.identifiers (known : List Variable) : List String :=
  known.map (·.identifier)

/-- Every slot serves the identifier that its variable carries. -/
structure ReservedVariables.CarryIdentifiers (reserved : ReservedVariables) : Prop where
  id : reserved.id.identifier = "id"
  annotations : reserved.annotations.identifier = "annotations"
  branch : reserved.branch.identifier = "branch"

namespace Configuration

open Variable (identifiers reservedIdentifiers)

variable {reserved : Option ReservedVariables} {known hydrated : List Variable}
  {entries : List (String × Json)}

/-! ## One variable -/

theorem identifiers_placeVariable (v : Variable) (known : List Variable) :
    identifiers (placeVariable v known) =
      if v.identifier ∈ identifiers known then identifiers known
      else identifiers known ++ [v.identifier] := by
  induction known with
  | nil => rfl
  | cons other more ih =>
      rw [placeVariable]
      by_cases here : other.identifier = v.identifier
      · rw [if_pos (beq_iff_eq.mpr here), if_pos (here ▸ List.mem_cons_self)]
        exact congrArg (· :: identifiers more) here.symm
      · have notHere : v.identifier ≠ other.identifier := Ne.symm here
        have same : v.identifier ∈ identifiers (other :: more) ↔
            v.identifier ∈ identifiers more := by
          simp [identifiers, notHere]
        rw [if_neg (by simpa using here), identifiers, List.map_cons]
        change other.identifier :: identifiers (placeVariable v more) = _
        rw [ih]
        by_cases later : v.identifier ∈ identifiers more
        · rw [if_pos later, if_pos (same.mpr later)]
          rfl
        · rw [if_neg later, if_neg (later ∘ same.mp)]
          rfl

theorem identifier_applyTo_baseOf (attributes : Attributes) (identifier : String) :
    (attributes.applyTo (baseOf reserved identifier)).identifier = identifier := by
  rw [Attributes.applyTo, baseOf]
  split <;> rfl

theorem mem_identifiers_placeVariable {v : Variable} {identifier : String} :
    identifier ∈ identifiers (placeVariable v known) ↔
      identifier ∈ identifiers known ∨ identifier = v.identifier := by
  rw [identifiers_placeVariable]
  split
  · next inKnown => exact ⟨Or.inl, fun h => h.elim id fun same => same ▸ inKnown⟩
  · rw [List.mem_append, List.mem_singleton]

/-! ## Whole sections -/

/-- The variables are those of the start and one for every key of an entry, which is its identifier
as it stands. -/
theorem mem_identifiers_hydrateInto (h : hydrateInto reserved known entries = .ok hydrated)
    (identifier : String) :
    identifier ∈ identifiers hydrated ↔
      identifier ∈ identifiers known ∨ identifier ∈ Members.keys entries := by
  induction entries generalizing known with
  | nil =>
      cases h
      simp [Members.keys]
  | cons entry more ih =>
      obtain ⟨key, value⟩ := entry
      rw [hydrateInto] at h
      split at h
      · cases h
      · rw [ih h, mem_identifiers_placeVariable, identifier_applyTo_baseOf, Members.keys,
          Members.keys, List.map_cons, List.mem_cons, or_assoc]

/-- What holds of the identifiers at the start, and still holds when a new one is added, holds of
the identifiers of the hydrated variables. -/
theorem identifiers_hydrateInto {p : List String → Prop} (start : p (identifiers known))
    (add : ∀ identifiers identifier, identifier ∉ identifiers → p identifiers →
      p (identifiers ++ [identifier]))
    (h : hydrateInto reserved known entries = .ok hydrated) : p (identifiers hydrated) := by
  induction entries generalizing known with
  | nil =>
      cases h
      exact start
  | cons entry more ih =>
      obtain ⟨identifier, value⟩ := entry
      rw [hydrateInto] at h
      cases given : attributesOf value with
      | error fault =>
          rw [given] at h
          cases h
      | ok attributes =>
          rw [given] at h
          refine ih ?_ h
          rw [identifiers_placeVariable]
          split
          · exact start
          · next new => exact add _ _ new start

theorem prefix_hydrateInto (h : hydrateInto reserved known entries = .ok hydrated) :
    identifiers known <+: identifiers hydrated :=
  identifiers_hydrateInto (p := (identifiers known <+: ·)) (List.prefix_refl _)
    (fun _ _ _ before => before.trans (List.prefix_append _ _)) h

theorem nodup_hydrateInto (distinct : (identifiers known).Nodup)
    (h : hydrateInto reserved known entries = .ok hydrated) : (identifiers hydrated).Nodup := by
  refine identifiers_hydrateInto (p := List.Nodup) distinct ?_ h
  intro identifiers identifier new distinct
  rw [← List.concat_eq_append]
  exact distinct.concat new

theorem nodup_hydrate_none {entries : Option (List (String × Json))}
    (h : hydrate none entries = .ok hydrated) : (identifiers hydrated).Nodup := by
  have nothing : (identifiers []).Nodup := List.nodup_nil
  exact nodup_hydrateInto nothing h

theorem hydrate_none_none (h : hydrate none none = .ok hydrated) : hydrated = [] := by
  cases h
  rfl

theorem hydrate_none_ne_nil (given : entries ≠ [])
    (h : hydrate none (some entries) = .ok hydrated) : hydrated ≠ [] := by
  cases entries with
  | nil => exact absurd rfl given
  | cons entry more =>
      obtain ⟨identifier, value⟩ := entry
      rw [hydrate, Option.getD_some, hydrateInto] at h
      split at h
      · cases h
      · have first := prefix_hydrateInto h
        rintro rfl
        exact absurd (List.prefix_nil.mp first) (by simp [placeVariable, identifiers])

theorem identifiers_toList {reserved : ReservedVariables} (carry : reserved.CarryIdentifiers) :
    identifiers reserved.toList = reservedIdentifiers := by
  simp [ReservedVariables.toList, identifiers, carry.id, carry.annotations, carry.branch,
    reservedIdentifiers]

theorem nodup_hydrate_some {reserved : ReservedVariables}
    {entries : Option (List (String × Json))} (carry : reserved.CarryIdentifiers)
    (h : hydrate (some reserved) entries = .ok hydrated) : (identifiers hydrated).Nodup := by
  have slots : (identifiers reserved.toList).Nodup := by
    rw [identifiers_toList carry]
    decide
  exact nodup_hydrateInto slots h

/-- The reserved identifiers stay in front, in order. -/
theorem reservedIdentifiers_prefix {reserved : ReservedVariables}
    {entries : Option (List (String × Json))} (carry : reserved.CarryIdentifiers)
    (h : hydrate (some reserved) entries = .ok hydrated) :
    reservedIdentifiers <+: identifiers hydrated :=
  identifiers_toList carry ▸ prefix_hydrateInto h

/-- The slot of a reserved identifier can be found. -/
theorem exists_reserved? {configuration : Configuration}
    (first : reservedIdentifiers <+: identifiers configuration.templateVariables)
    (identifier : String) (known : identifier ∈ reservedIdentifiers) :
    ∃ v, configuration.reserved? identifier = some v := by
  have slots : (configuration.templateVariables.take reservedIdentifiers.length).map
      (·.identifier) = reservedIdentifiers := by
    rw [List.map_take]
    exact (List.prefix_iff_eq_take.mp first).symm
  rw [← slots] at known
  obtain ⟨v, inSlots, rfl⟩ := List.mem_map.mp known
  exact Option.isSome_iff_exists.mp (List.find?_isSome.mpr ⟨v, inSlots, beq_self_eq_true _⟩)

/-! ## What identifiers start from -/

theorem baseOf_of_not_mem_reservedIdentifiers {reserved : ReservedVariables} {identifier : String}
    (notReserved : identifier ∉ reservedIdentifiers) :
    baseOf (some reserved) identifier = .plain identifier := by
  obtain ⟨notId, notAnnotations, notBranch⟩ : identifier ≠ "id" ∧ identifier ≠ "annotations" ∧
      identifier ≠ "branch" := by
    simpa [reservedIdentifiers] using notReserved
  simp [baseOf, ReservedVariables.get?, notId, notAnnotations, notBranch]

theorem get?_of_mem_toList {reserved : ReservedVariables} {base : Variable}
    (carry : reserved.CarryIdentifiers) (inSlots : base ∈ reserved.toList) :
    reserved.get? base.identifier = some base := by
  simp only [ReservedVariables.toList, List.mem_cons, List.not_mem_nil, or_false] at inSlots
  rcases inSlots with rfl | rfl | rfl
  · simp [ReservedVariables.get?, carry.id]
  · simp [ReservedVariables.get?, carry.annotations]
  · simp [ReservedVariables.get?, carry.branch]

/-- If the slots carry their identifiers, a reserved variable starts from its slot as it stands. -/
theorem baseOf_of_mem_toList {reserved : ReservedVariables} {base : Variable}
    (carry : reserved.CarryIdentifiers) (inSlots : base ∈ reserved.toList) :
    baseOf (some reserved) base.identifier = base := by
  rw [baseOf, Option.bind_some, get?_of_mem_toList carry inSlots]

/-! ## The entries that count -/

/-- The entry that counts for an identifier: the last one under it. -/
def lastEntry (identifier : String) (entries : List (String × Json)) : Option Json :=
  entries.reverse.lookup identifier

theorem mem_placeVariable_self (v : Variable) (known : List Variable) :
    v ∈ placeVariable v known := by
  induction known with
  | nil => exact List.mem_singleton_self v
  | cons other more ih =>
      rw [placeVariable]
      split
      · exact List.mem_cons_self
      · exact List.mem_cons_of_mem other ih

theorem mem_placeVariable_of_ne {v other : Variable} (inKnown : v ∈ known)
    (different : v.identifier ≠ other.identifier) : v ∈ placeVariable other known := by
  induction known with
  | nil => cases inKnown
  | cons first more ih =>
      rw [placeVariable]
      rcases List.mem_cons.mp inKnown with rfl | later
      · rw [if_neg (by simpa using different)]
        exact List.mem_cons_self
      · split
        · exact List.mem_cons_of_mem other later
        · exact List.mem_cons_of_mem first (ih later)

/-- A variable for which no further entry stands is kept. -/
theorem mem_hydrateInto_of_not_mem_keys {v : Variable} (inKnown : v ∈ known)
    (noEntry : v.identifier ∉ Members.keys entries)
    (h : hydrateInto reserved known entries = .ok hydrated) : v ∈ hydrated := by
  induction entries generalizing known with
  | nil =>
      cases h
      exact inKnown
  | cons entry more ih =>
      obtain ⟨identifier, value⟩ := entry
      rw [Members.keys, List.map_cons, List.mem_cons, not_or] at noEntry
      rw [hydrateInto] at h
      split at h
      · cases h
      · refine ih (mem_placeVariable_of_ne inKnown ?_) noEntry.2 h
        rw [identifier_applyTo_baseOf]
        exact noEntry.1

/-- What the last entry under an identifier says, laid over what the identifier starts from, is one
of the hydrated variables. -/
theorem exists_mem_hydrateInto {identifier : String} {entry : Json}
    (given : lastEntry identifier entries = some entry)
    (h : hydrateInto reserved known entries = .ok hydrated) :
    ∃ attributes, attributesOf entry = .ok attributes ∧
      attributes.applyTo (baseOf reserved identifier) ∈ hydrated := by
  induction entries generalizing known with
  | nil => cases given
  | cons first more ih =>
      obtain ⟨key, value⟩ := first
      rw [hydrateInto] at h
      split at h
      · cases h
      · next attributes isAttributes =>
        rw [lastEntry, List.reverse_cons, List.lookup_append] at given
        cases later : more.reverse.lookup identifier with
        | some last =>
            rw [later, Option.some_or] at given
            exact ih (later.trans given) h
        | none =>
            rw [later, Option.none_or, Members.lookup_cons] at given
            split at given
            · next here =>
              subst here
              cases given
              refine ⟨attributes, isAttributes,
                mem_hydrateInto_of_not_mem_keys (mem_placeVariable_self _ _) ?_ h⟩
              rw [identifier_applyTo_baseOf]
              intro inKeys
              obtain ⟨member, inMore, isKey⟩ := List.mem_map.mp inKeys
              have other := List.lookup_eq_none_iff.mp later member (List.mem_reverse.mpr inMore)
              exact absurd isKey.symm (by simpa using other)
            · cases given

end Configuration

end FactoryBundler
