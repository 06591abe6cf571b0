import FactoryBundler.Configuration.Settings
import FactoryBundler.Proofs.Except
import FactoryBundler.Proofs.Json.Layout
import FactoryBundler.Proofs.Json.Members

/-!
# Laws of settings

Every setting is set by its own key and by no other, so its value is decided by the last member that
spells its key, and it stays unset if there is none.
-/

namespace FactoryBundler.Configuration

variable {members : List (String × Json)} {key setting : String} {value : Json}

/-! ## Spellings -/

/-- The value that counts for a setting: the last one under any spelling of its key. -/
def lastSpelled (setting : String) (members : List (String × Json)) : Option Json :=
  (members.reverse.find? fun member => underscored member.1 == setting).map (·.2)

theorem lookup_respell (setting : String) (members : List (String × Json)) :
    (respell members).lookup setting = lastSpelled setting members := by
  rw [respell, Members.lookup_ofList, ← List.map_reverse, lastSpelled]
  induction members.reverse with
  | nil => rfl
  | cons member more ih =>
      obtain ⟨key, value⟩ := member
      rw [List.map_cons, Members.lookup_cons, List.find?_cons]
      by_cases spelled : underscored key = setting
      · simp [spelled]
      · rw [if_neg (Ne.symm spelled), ih, beq_false_of_ne spelled]

theorem nodup_keys_respell (members : List (String × Json)) :
    (Members.keys (respell members)).Nodup :=
  Members.nodup_keys_ofList _

/-- Respelled members are the values that count under each key. -/
theorem mem_respell_iff {members : List (String × Json)} {key : String} {value : Json} :
    (key, value) ∈ respell members ↔ lastSpelled key members = some value := by
  rw [← lookup_respell, Members.lookup_eq_some_iff_mem (nodup_keys_respell members)]

theorem lastSpelled_concat_of_ne (other : underscored key ≠ setting) :
    lastSpelled setting (members ++ [(key, value)]) = lastSpelled setting members := by
  simp [lastSpelled, other]

theorem mem_of_lastSpelled (h : lastSpelled setting members = some value) :
    ∃ key, (key, value) ∈ members ∧ underscored key = setting := by
  obtain ⟨⟨key, _⟩, found, rfl⟩ := Option.map_eq_some_iff.mp h
  have spelled := List.find?_some found
  exact ⟨key, List.mem_reverse.mp (List.mem_of_find?_eq_some found), beq_iff_eq.mp spelled⟩

theorem not_mem_keys_of_lookup {members : List (String × Json)}
    (h : members.lookup key = none) : key ∉ Members.keys members := by
  intro inKeys
  obtain ⟨⟨_, value⟩, inMembers, rfl⟩ := List.mem_map.mp inKeys
  exact absurd h (by simpa [List.lookup_eq_none_iff] using ⟨value, inMembers⟩)

/-! ## Records filled member by member -/

/-- Set members one after the other; the first that fails is the failure. -/
def fill {σ : Type} (set : σ → String → Json → Except Failure σ) (record : σ) :
    List (String × Json) → Except Failure σ
  | [] => .ok record
  | (key, value) :: more => do fill set (← set record key value) more

theorem fill_append {σ : Type} {set : σ → String → Json → Except Failure σ} (record : σ)
    (first second : List (String × Json)) :
    fill set record (first ++ second) =
      (fill set record first >>= fun filled => fill set filled second) := by
  induction first generalizing record with
  | nil => rfl
  | cons member more ih =>
      rw [List.cons_append, fill, fill]
      cases set record member.1 member.2 with
      | error failure => rfl
      | ok next => exact ih next

/-- A field of a record belongs to a key: the key sets it to what its value is coerced to, and no
other key changes it. -/
structure FieldOf {σ β : Type} (set : σ → String → Json → Except Failure σ) (key : String)
    (coerce : Json → Except Failure β) (field : σ → β) : Prop where
  own : ∀ {record record' : σ} {value : Json},
    set record key value = .ok record' → coerce value = .ok (field record')
  others : ∀ {record record' : σ} {other : String} {value : Json}, other ≠ key →
    set record other value = .ok record' → field record' = field record

namespace FieldOf

variable {σ β : Type} {set : σ → String → Json → Except Failure σ}
  {coerce : Json → Except Failure β} {field : σ → β} {record filled : σ}

theorem fill_of_not_mem (fieldOf : FieldOf set key coerce field)
    (absent : key ∉ Members.keys members) (isFilled : fill set record members = .ok filled) :
    field filled = field record := by
  induction members generalizing record with
  | nil =>
      cases isFilled
      rfl
  | cons member more ih =>
      obtain ⟨other, value⟩ := member
      obtain ⟨next, isSet, rest⟩ := Except.bind_eq_ok_iff.mp isFilled
      obtain ⟨notHere, notLater⟩ := not_or.mp (List.mem_cons.not.mp absent)
      rw [ih notLater rest, fieldOf.others (Ne.symm notHere) isSet]

theorem fill_of_lookup (fieldOf : FieldOf set key coerce field)
    (distinct : (Members.keys members).Nodup) (given : members.lookup key = some value)
    (isFilled : fill set record members = .ok filled) : coerce value = .ok (field filled) := by
  induction members generalizing record with
  | nil => cases given
  | cons member more ih =>
      obtain ⟨other, first⟩ := member
      obtain ⟨next, isSet, rest⟩ := Except.bind_eq_ok_iff.mp isFilled
      obtain ⟨new, distinct⟩ := List.nodup_cons.mp distinct
      rw [Members.lookup_cons] at given
      by_cases here : key = other
      · subst here
        rw [if_pos rfl] at given
        cases given
        rw [fieldOf.fill_of_not_mem new rest, fieldOf.own isSet]
      · rw [if_neg here] at given
        exact ih distinct given rest

/-- A field that is given is what the last value under its key is coerced to. -/
theorem fill_respell_some (fieldOf : FieldOf set key coerce field)
    (given : lastSpelled key members = some value)
    (isFilled : fill set record (respell members) = .ok filled) :
    coerce value = .ok (field filled) := by
  rw [← lookup_respell] at given
  exact fieldOf.fill_of_lookup (nodup_keys_respell members) given isFilled

/-- A field that is not given stays as it is. -/
theorem fill_respell_none (fieldOf : FieldOf set key coerce field)
    (absent : lastSpelled key members = none)
    (isFilled : fill set record (respell members) = .ok filled) :
    field filled = field record := by
  rw [← lookup_respell] at absent
  exact fieldOf.fill_of_not_mem (not_mem_keys_of_lookup absent) isFilled

end FieldOf

namespace Settings

/-! ## One setting -/

/-- What taking in one setting does: one of the ten fields is replaced by the coerced value. -/
inductive IsSet (settings : Settings) (key : String) (value : Json) : Settings → Prop
  | title {title} : key = "title" → text value = .ok title →
      IsSet settings key value { settings with title }
  | description {description} : key = "description" → text value = .ok description →
      IsSet settings key value { settings with description }
  | defaultPolicyBranch {defaultPolicyBranch} : key = "default_policy_branch" →
      text value = .ok defaultPolicyBranch →
      IsSet settings key value { settings with defaultPolicyBranch }
  | policyType {policyType} : key = "policy_type" → text value = .ok policyType →
      IsSet settings key value { settings with policyType }
  | policyVariables {policyVariables} : key = "variables" →
      Configuration.members value = .ok policyVariables →
      IsSet settings key value { settings with policyVariables }
  | templateVariables {templateVariables} : key = "policy_template_variables" →
      Configuration.members value = .ok templateVariables →
      IsSet settings key value { settings with templateVariables }
  | withVariablesGroup {withVariablesGroup} : key = "with_variables_group" →
      boolean value = .ok withVariablesGroup →
      IsSet settings key value { settings with withVariablesGroup }
  | wrapWithPolicy {wrapWithPolicy} : key = "wrap_with_policy" →
      boolean value = .ok wrapWithPolicy →
      IsSet settings key value { settings with wrapWithPolicy }
  | includeIdentifier {includeIdentifier} : key = "include_identifier" →
      boolean value = .ok includeIdentifier →
      IsSet settings key value { settings with includeIdentifier }
  | includeAnnotations {includeAnnotations} : key = "include_annotations" →
      boolean value = .ok includeAnnotations →
      IsSet settings key value { settings with includeAnnotations }

theorem isSet_of_set {settings settings' : Settings} (h : settings.set key value = .ok settings') :
    IsSet settings key value settings' := by
  unfold set at h
  split at h
  case h_11 => cases h
  all_goals
    obtain ⟨coerced, taken, h⟩ := Except.bind_eq_ok_iff.mp h
    cases h
  · exact .title rfl taken
  · exact .description rfl taken
  · exact .defaultPolicyBranch rfl taken
  · exact .policyType rfl taken
  · exact .policyVariables rfl taken
  · exact .templateVariables rfl taken
  · exact .withVariablesGroup rfl taken
  · exact .wrapWithPolicy rfl taken
  · exact .includeIdentifier rfl taken
  · exact .includeAnnotations rfl taken

/-- A field belongs to a key: the key sets it to what its value is coerced to, and no other key
changes it. -/
structure Belongs {β : Type} (key : String) (coerce : Json → Except Failure β)
    (field : Settings → β) : Prop where
  own : ∀ {settings settings' : Settings} {value : Json},
    settings.set key value = .ok settings' → coerce value = .ok (field settings')
  others : ∀ {settings settings' : Settings} {other : String} {value : Json}, other ≠ key →
    settings.set other value = .ok settings' → field settings' = field settings

theorem belongs_title : Belongs "title" text Settings.title where
  own h := by
    cases isSet_of_set h
    case title taken => exact taken
    all_goals contradiction
  others different h := by
    cases isSet_of_set h
    case title isKey _ => exact absurd isKey different
    all_goals rfl

theorem belongs_defaultPolicyBranch :
    Belongs "default_policy_branch" text Settings.defaultPolicyBranch where
  own h := by
    cases isSet_of_set h
    case defaultPolicyBranch taken => exact taken
    all_goals contradiction
  others different h := by
    cases isSet_of_set h
    case defaultPolicyBranch isKey _ => exact absurd isKey different
    all_goals rfl

theorem belongs_policyType : Belongs "policy_type" text Settings.policyType where
  own h := by
    cases isSet_of_set h
    case policyType taken => exact taken
    all_goals contradiction
  others different h := by
    cases isSet_of_set h
    case policyType isKey _ => exact absurd isKey different
    all_goals rfl

theorem belongs_policyVariables :
    Belongs "variables" Configuration.members Settings.policyVariables where
  own h := by
    cases isSet_of_set h
    case policyVariables taken => exact taken
    all_goals contradiction
  others different h := by
    cases isSet_of_set h
    case policyVariables isKey _ => exact absurd isKey different
    all_goals rfl

theorem belongs_templateVariables :
    Belongs "policy_template_variables" Configuration.members Settings.templateVariables where
  own h := by
    cases isSet_of_set h
    case templateVariables taken => exact taken
    all_goals contradiction
  others different h := by
    cases isSet_of_set h
    case templateVariables isKey _ => exact absurd isKey different
    all_goals rfl

/-! ## All settings -/

theorem setAll_eq_fill (settings : Settings) (members : List (String × Json)) :
    settings.setAll members = fill set settings members := by
  induction members generalizing settings with
  | nil => rfl
  | cons member more ih =>
      rw [setAll, fill]
      exact congrArg _ (funext ih)

namespace Belongs

variable {β : Type} {coerce : Json → Except Failure β} {field : Settings → β} {settings : Settings}

theorem fieldOf (belongs : Belongs setting coerce field) : FieldOf set setting coerce field :=
  ⟨belongs.own, belongs.others⟩

/-- A setting that is given is what the last value under its key is coerced to. -/
theorem ofMembers_some (belongs : Belongs setting coerce field)
    (given : lastSpelled setting members = some value)
    (h : ofMembers members = .ok settings) : coerce value = .ok (field settings) := by
  rw [ofMembers, setAll_eq_fill] at h
  exact belongs.fieldOf.fill_respell_some given h

/-- A setting that is not given is not set. -/
theorem ofMembers_none (belongs : Belongs setting coerce field)
    (absent : lastSpelled setting members = none)
    (h : ofMembers members = .ok settings) : field settings = field unset := by
  rw [ofMembers, setAll_eq_fill] at h
  exact belongs.fieldOf.fill_respell_none absent h

end Belongs

end Settings

end FactoryBundler.Configuration
