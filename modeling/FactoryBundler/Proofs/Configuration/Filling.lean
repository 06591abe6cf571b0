import FactoryBundler.Configuration.Attributes
import FactoryBundler.Configuration.Settings
import FactoryBundler.Proofs.Configuration.Settings
import FactoryBundler.Proofs.Except

/-!
# Filling a record member by member

Settings and attributes are filled in the same way: each member changes one field, whatever the
others hold, so members with different keys do not get in each other's way. If every key stands for
one member, the order of the members decides no more than which of several faults is reported.
-/

namespace FactoryBundler.Configuration

/-- What setting a member does is a change that the member alone decides, and changes under
different keys can be made in any order. -/
structure Fills {σ : Type} (set : σ → String → Json → Except Failure σ)
    (change : String → Json → Except Failure (σ → σ)) : Prop where
  set_eq : ∀ record key value, set record key value = (change key value).map (· record)
  comm : ∀ {key key' value value' f g}, key ≠ key' → change key value = .ok f →
    change key' value' = .ok g → ∀ record, f (g record) = g (f record)

section Fill

variable {σ : Type} {set : σ → String → Json → Except Failure σ}
  {change : String → Json → Except Failure (σ → σ)} {members members' : List (String × Json)}
  {key : String} {value : Json}

theorem fill_cons_of_error (fills : Fills set change) {failure : Failure}
    (fails : change key value = .error failure) (record : σ) (more : List (String × Json)) :
    fill set record ((key, value) :: more) = .error failure := by
  rw [fill, fills.set_eq, fails]
  rfl

theorem fill_cons_of_ok (fills : Fills set change) {f : σ → σ} (changes : change key value = .ok f)
    (record : σ) (more : List (String × Json)) :
    fill set record ((key, value) :: more) = fill set (f record) more := by
  rw [fill, fills.set_eq, changes]
  rfl

/-- Two neighbours with different keys change places. -/
theorem fill_swap (fills : Fills set change) {first second : String × Json}
    (differ : first.1 ≠ second.1) (record : σ) (more : List (String × Json)) :
    Except.Agree False Eq (fill set record (first :: second :: more))
      (fill set record (second :: first :: more)) := by
  obtain ⟨key, value⟩ := first
  obtain ⟨key', value'⟩ := second
  cases changes : change key value with
  | error failure =>
      rw [fill_cons_of_error fills changes]
      cases changes' : change key' value' with
      | error failure' =>
          rw [fill_cons_of_error fills changes']
          exact .error False.elim
      | ok g =>
          rw [fill_cons_of_ok fills changes', fill_cons_of_error fills changes]
          exact .error False.elim
  | ok f =>
      rw [fill_cons_of_ok fills changes]
      cases changes' : change key' value' with
      | error failure' =>
          rw [fill_cons_of_error fills changes', fill_cons_of_error fills changes']
          exact .error False.elim
      | ok g =>
          rw [fill_cons_of_ok fills changes', fill_cons_of_ok fills changes',
            fill_cons_of_ok fills changes, fills.comm differ changes changes']
          exact .of_eq rfl

/-- Members with distinct keys fill a record in any order to the same effect, up to the fault. -/
theorem fill_perm (fills : Fills set change) (perm : members.Perm members')
    (distinct : (Members.keys members).Nodup) (record : σ) :
    Except.Agree False Eq (fill set record members) (fill set record members') := by
  induction perm generalizing record with
  | nil => exact .of_eq rfl
  | cons member perm ih =>
      obtain ⟨key, value⟩ := member
      refine Except.Agree.bind (.of_eq rfl) ?_
      rintro filled _ rfl
      exact ih (List.nodup_cons.mp distinct).2 filled
  | swap first second more =>
      have differ : second.1 ≠ first.1 := by
        intro same
        exact (List.nodup_cons.mp distinct).1 (List.mem_cons.mpr (Or.inl same))
      exact fill_swap fills differ record more
  | trans perm _ ih ih' =>
      have distinct' := (perm.map Prod.fst).nodup_iff.mp distinct
      exact (ih distinct record).trans (ih' distinct' record)

end Fill

/-! ## Settings -/

namespace Settings

variable {key : String} {value : Json}

/-- The change that one setting makes. -/
def change (key : String) (value : Json) : Except Failure (Settings → Settings) :=
  match key with
  | "title" => (text value).map fun title settings => { settings with title }
  | "description" => (text value).map fun description settings => { settings with description }
  | "default_policy_branch" =>
    (text value).map fun defaultPolicyBranch settings => { settings with defaultPolicyBranch }
  | "policy_type" => (text value).map fun policyType settings => { settings with policyType }
  | "variables" =>
    (members value).map fun policyVariables settings => { settings with policyVariables }
  | "policy_template_variables" =>
    (members value).map fun templateVariables settings => { settings with templateVariables }
  | "with_variables_group" =>
    (boolean value).map fun withVariablesGroup settings => { settings with withVariablesGroup }
  | "wrap_with_policy" =>
    (boolean value).map fun wrapWithPolicy settings => { settings with wrapWithPolicy }
  | "include_identifier" =>
    (boolean value).map fun includeIdentifier settings => { settings with includeIdentifier }
  | "include_annotations" =>
    (boolean value).map fun includeAnnotations settings => { settings with includeAnnotations }
  | other => .error (.shape (.unknownField other known))

theorem change_of_not_known (unknown : key ∉ known) (value : Json) :
    change key value = .error (.shape (.unknownField key known)) := by
  unfold change
  split
  case h_11 => rfl
  all_goals exact absurd (by decide) unknown

theorem set_eq_change (settings : Settings) (key : String) (value : Json) :
    settings.set key value = (change key value).map (· settings) := by
  by_cases isKnown : key ∈ known
  · simp only [known, List.mem_cons, List.not_mem_nil, or_false] at isKnown
    rcases isKnown with rfl | rfl | rfl | rfl | rfl | rfl | rfl | rfl | rfl | rfl <;>
      simp only [set, change, Except.bind_pure_eq_map, Except.map_map]
  · rw [change_of_not_known isKnown]
    unfold set
    split
    case h_11 => rfl
    all_goals exact absurd (by decide) isKnown

/-- The changes that can be made under a key. -/
inductive Changes : String → (Settings → Settings) → Prop
  | title (title) : Changes "title" fun settings => { settings with title }
  | description (description) : Changes "description" fun settings => { settings with description }
  | defaultPolicyBranch (defaultPolicyBranch) :
      Changes "default_policy_branch" fun settings => { settings with defaultPolicyBranch }
  | policyType (policyType) : Changes "policy_type" fun settings => { settings with policyType }
  | policyVariables (policyVariables) :
      Changes "variables" fun settings => { settings with policyVariables }
  | templateVariables (templateVariables) :
      Changes "policy_template_variables" fun settings => { settings with templateVariables }
  | withVariablesGroup (withVariablesGroup) :
      Changes "with_variables_group" fun settings => { settings with withVariablesGroup }
  | wrapWithPolicy (wrapWithPolicy) :
      Changes "wrap_with_policy" fun settings => { settings with wrapWithPolicy }
  | includeIdentifier (includeIdentifier) :
      Changes "include_identifier" fun settings => { settings with includeIdentifier }
  | includeAnnotations (includeAnnotations) :
      Changes "include_annotations" fun settings => { settings with includeAnnotations }

theorem changes_of_change {f : Settings → Settings} (h : change key value = .ok f) :
    Changes key f := by
  unfold change at h
  split at h
  case h_11 => cases h
  all_goals
    obtain ⟨coerced, -, rfl⟩ := Except.map_eq_ok_iff.mp h
    constructor

theorem fills_change : Fills set change where
  set_eq := set_eq_change
  comm differ changes changes' settings := by
    cases changes_of_change changes <;> cases changes_of_change changes' <;>
      first | rfl | exact absurd rfl differ

/-- The order of keys and spellings that were overridden do not matter, up to the fault. -/
theorem ofMembers_agree_of_perm {members members' : List (String × Json)}
    (perm : (respell members).Perm (respell members')) :
    Except.Agree False Eq (ofMembers members) (ofMembers members') := by
  rw [ofMembers, ofMembers, setAll_eq_fill, setAll_eq_fill]
  exact fill_perm fills_change perm (nodup_keys_respell members) unset

end Settings

/-! ## Attributes -/

namespace Attributes

variable {key : String} {value : Json}

/-- The keys of the attributes, with underscores. -/
def keys : List String :=
  ["title", "description", "default", "valid_values", "required", "hidden", "type"]

/-- The change that one attribute makes. -/
def change (key : String) (value : Json) : Except Failure (Attributes → Attributes) :=
  match key with
  | "title" => (text value).map fun title attributes => { attributes with title }
  | "description" => (text value).map fun description attributes => { attributes with description }
  | "default" => (text value).map fun defaultValue attributes => { attributes with defaultValue }
  | "valid_values" =>
    (textList value).map fun validValues attributes => { attributes with validValues }
  | "required" => (boolean value).map fun required attributes => { attributes with required }
  | "hidden" => (boolean value).map fun hidden attributes => { attributes with hidden }
  | "type" => (text value).map fun kind attributes => { attributes with kind }
  | other => .error (.shape (.unknownField other known))

theorem change_of_not_mem_keys (unknown : key ∉ keys) (value : Json) :
    change key value = .error (.shape (.unknownField key known)) := by
  unfold change
  split
  case h_8 => rfl
  all_goals exact absurd (by decide) unknown

theorem set_eq_change (attributes : Attributes) (key : String) (value : Json) :
    attributes.set key value = (change key value).map (· attributes) := by
  by_cases isKnown : key ∈ keys
  · simp only [keys, List.mem_cons, List.not_mem_nil, or_false] at isKnown
    rcases isKnown with rfl | rfl | rfl | rfl | rfl | rfl | rfl <;>
      simp only [set, change, Except.bind_pure_eq_map, Except.map_map]
  · rw [change_of_not_mem_keys isKnown]
    unfold set
    split
    case h_8 => rfl
    all_goals exact absurd (by decide) isKnown

/-- The changes that can be made under a key. -/
inductive Changes : String → (Attributes → Attributes) → Prop
  | title (title) : Changes "title" fun attributes => { attributes with title }
  | description (description) :
      Changes "description" fun attributes => { attributes with description }
  | defaultValue (defaultValue) :
      Changes "default" fun attributes => { attributes with defaultValue }
  | validValues (validValues) :
      Changes "valid_values" fun attributes => { attributes with validValues }
  | required (required) : Changes "required" fun attributes => { attributes with required }
  | hidden (hidden) : Changes "hidden" fun attributes => { attributes with hidden }
  | kind (kind) : Changes "type" fun attributes => { attributes with kind }

theorem changes_of_change {f : Attributes → Attributes} (h : change key value = .ok f) :
    Changes key f := by
  unfold change at h
  split at h
  case h_8 => cases h
  all_goals
    obtain ⟨coerced, -, rfl⟩ := Except.map_eq_ok_iff.mp h
    constructor

theorem fills_change : Fills set change where
  set_eq := set_eq_change
  comm differ changes changes' attributes := by
    cases changes_of_change changes <;> cases changes_of_change changes' <;>
      first | rfl | exact absurd rfl differ

theorem setAll_eq_fill (attributes : Attributes) (members : List (String × Json)) :
    attributes.setAll members = fill set attributes members := by
  induction members generalizing attributes with
  | nil => rfl
  | cons member more ih =>
      rw [setAll, fill]
      exact congrArg _ (funext ih)

/-- The order of keys and spellings that were overridden do not matter, up to the fault. -/
theorem ofMembers_agree_of_perm {members members' : List (String × Json)}
    (perm : (respell members).Perm (respell members')) :
    Except.Agree False Eq (ofMembers members) (ofMembers members') := by
  rw [ofMembers, ofMembers, setAll_eq_fill, setAll_eq_fill]
  exact fill_perm fills_change perm (nodup_keys_respell members) unset

end Attributes

end FactoryBundler.Configuration
