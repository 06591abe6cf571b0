import FactoryBundler.Proofs.Compiler.Outcomes

/-!
# Spelling and order of keys

Whether a key is written with dashes or with underscores makes no difference, and void members
might as well not be there. The order of keys makes no difference to what is compiled: of several
spellings of one key the last one counts, and only the fault that is found first depends on what
comes first. Identifiers are no keys in this sense, they are taken as they stand.
-/

namespace FactoryBundler

open FactoryBundler.Configuration (underscored lastSpelled SpelledAlike SameEntry SameEntries
  SameSetting sections DistinctKeys attributesOf)

/-! ## Variations of attributes -/

/-- Entries that are the same save for their attributes, which vary as told. -/
inductive EntryVaries (varies : List (String × Json) → List (String × Json) → Prop) :
    Json → Json → Prop
  | same (entry : Json) : EntryVaries varies entry entry
  | attributes {given given' : List (String × Json)} (attributes : varies given given') :
      EntryVaries varies (.object given) (.object given')

/-- Settings that are the same save for the attributes in the entries of a section. The keys of the
entries are the same: they are identifiers. -/
inductive SettingVaries (varies : List (String × Json) → List (String × Json) → Prop)
    (setting : String) : Json → Json → Prop
  | same (value : Json) : SettingVaries varies setting value value
  | entries {entries entries' : List (String × Json)} (isSection : setting ∈ sections)
      (vary : Members.Alike (fun _ => EntryVaries varies) entries entries') :
      SettingVaries varies setting (.object entries) (.object entries')

/-- A list of keys in another order, or without a spelling that a later one overrides. -/
inductive Rearranged : List (String × Json) → List (String × Json) → Prop
  | permuted {members members' : List (String × Json)} (distinct : DistinctKeys members)
      (perm : members.Perm members') : Rearranged members members'
  | overridden {key key' : String} {value value' : Json}
      (spelled : underscored key = underscored key') (before between after : List (String × Json)) :
      Rearranged (before ++ (key, value) :: (between ++ (key', value') :: after))
        (before ++ (between ++ (key', value') :: after))

section Varies

variable {strict : Prop} {varies : List (String × Json) → List (String × Json) → Prop}
  {setting : String} {value value' : Json} {members members' : List (String × Json)}

theorem EntryVaries.sameEntry (entry : EntryVaries varies value value')
    (agree : ∀ given given', varies given given' →
      Except.Agree strict Eq (Configuration.Attributes.ofMembers given)
        (Configuration.Attributes.ofMembers given'))
    (identifier : String) : SameEntry strict identifier value value' := by
  cases entry with
  | same => exact .of_eq rfl
  | attributes attributes => exact (agree _ _ attributes).mapError _

theorem SettingVaries.sameSetting (varied : SettingVaries varies setting value value')
    (agree : ∀ given given', varies given given' →
      Except.Agree strict Eq (Configuration.Attributes.ofMembers given)
        (Configuration.Attributes.ofMembers given')) :
    SameSetting strict setting value value' := by
  cases varied with
  | same => exact .coerced rfl
  | entries isSection vary =>
      exact .entries isSection (vary.imp fun _ _ here => ⟨here.1, here.2.sameEntry agree _⟩)

theorem Rearranged.lastSpelled_eq (rearranged : Rearranged members members') (setting : String) :
    lastSpelled setting members = lastSpelled setting members' := by
  cases rearranged with
  | permuted distinct perm => exact distinct.lastSpelled_perm perm setting
  | overridden spelled before between after =>
      exact Configuration.lastSpelled_of_overridden spelled setting before between after

end Varies

/-! ## Identifiers -/

/-- The entries that a request gives for a section. -/
def Request.entriesOf (request : Request) (setting : String) : List (String × Json) :=
  match request.given? setting with
  | some (.object entries) => entries
  | _ => []

theorem getD_eq_entriesOf {request : Request} {setting : String} {members : List (String × Json)}
    {settings : Configuration.Settings}
    {field : Configuration.Settings → Option (List (String × Json))}
    (belongs : Configuration.Settings.Belongs setting Configuration.members field)
    (spelled : lastSpelled setting members = request.given? setting)
    (unset : field .unset = none) (h : Configuration.Settings.ofMembers members = .ok settings) :
    (field settings).getD [] = request.entriesOf setting := by
  rw [Request.entriesOf]
  cases given : request.given? setting with
  | none =>
      rw [belongs.ofMembers_none (spelled.trans given) h, unset]
      rfl
  | some value =>
      have coerced := belongs.ofMembers_some (spelled.trans given) h
      rw [Configuration.members, Except.mapError_eq_ok_iff] at coerced
      cases value with
      | object entries =>
          rw [← Except.ok.inj coerced]
          rfl
      | null =>
          have notVoid := Compiler.not_void_of_given? given
          cases notVoid
      | _ => cases coerced

namespace Compiler

variable {compiler : Compiler} {request : Request} {configuration : Configuration}

/-- The variables of both sections carry the keys of their entries, as they stand. -/
theorem mem_identifiers_iff (h : compiler.configure request = .ok configuration)
    (identifier : String) :
    (identifier ∈ Variable.identifiers configuration.policyVariables ↔
      identifier ∈ Members.keys (request.entriesOf "variables")) ∧
    (identifier ∈ Variable.identifiers configuration.templateVariables ↔
      identifier ∈ Variable.identifiers compiler.reserved.toList ∨
        identifier ∈ Members.keys (request.entriesOf "policy_template_variables")) := by
  obtain ⟨members, settings, source, built, spelled⟩ := exists_isBuiltFrom_of_configure h
  have policyEntries := getD_eq_entriesOf Configuration.Settings.belongs_policyVariables
    (spelled _ (by decide)) rfl built.settings_ok
  have templateEntries := getD_eq_entriesOf Configuration.Settings.belongs_templateVariables
    (spelled _ (by decide)) rfl built.settings_ok
  have policy := Configuration.mem_identifiers_hydrateInto built.policyVariables_ok identifier
  have template := Configuration.mem_identifiers_hydrateInto built.templateVariables_ok identifier
  rw [policyEntries] at policy
  rw [templateEntries] at template
  exact ⟨policy.trans (or_iff_right List.not_mem_nil), template⟩

/-! ## The result -/

/-- What a compiler makes of a request does not depend on the spelling and order of keys. -/
structure SpellingImmaterial (compiler : Compiler) (request : Request) : Prop where
  /-- The whole outcome stays the same if members come or go whose value is null or an empty text,
  array or object. -/
  void : ∀ before key value after, value ∈ [.null, .string "", .array [], .object []] →
    compiler.compile (request.withMembers (before ++ (key, value) :: after)) =
      compiler.compile (request.withMembers (before ++ after))
  /-- The whole outcome stays the same if other spellings are taken for keys of settings and
  attributes, and if such void members come or go with them. -/
  respelled : ∀ members members',
    SpelledAlike (SettingVaries (SpelledAlike fun _ => Eq)) (kept members) (kept members') →
    compiler.compile (request.withMembers members) =
      compiler.compile (request.withMembers members')
  /-- What is compiled, if anything is, stays the same if the members that are not void and the
  attributes within the entries are rearranged: if they change places, or if only the last one of
  several spellings is left. -/
  rearranged : ∀ members middle members', Rearranged (kept members) (kept middle) →
    SpelledAlike (SettingVaries Rearranged) (kept middle) (kept members') →
    (compiler.compile (request.withMembers members)).toOption =
      (compiler.compile (request.withMembers members')).toOption
  /-- Identifiers are taken as they stand. -/
  identifiers : ∀ configuration, compiler.configure request = .ok configuration →
    ∀ identifier,
      (identifier ∈ Variable.identifiers configuration.policyVariables ↔
        identifier ∈ Members.keys (request.entriesOf "variables")) ∧
      (identifier ∈ Variable.identifiers configuration.templateVariables ↔
        identifier ∈ Variable.identifiers compiler.reserved.toList ∨
          identifier ∈ Members.keys (request.entriesOf "policy_template_variables"))

theorem spelling_immaterial (compiler : Compiler) (request : Request) :
    SpellingImmaterial compiler request where
  void before key value after isVoid := by
    have leftOut : kept ((key, value) :: after) = kept after :=
      List.filter_cons_of_neg fun counts => of_decide_eq_true counts isVoid
    refine compile_eq_of_kept_eq ?_
    rw [kept, List.filter_append, ← kept, ← kept, leftOut, kept, kept, ← List.filter_append, kept]
  respelled members members' alike := by
    refine Except.Agree.eq (compile_agree_of_spelledAlike ?_)
    refine alike.imp fun _ _ here => ⟨here.1, here.2.sameSetting ?_⟩
    intro given given' spelled
    rw [Configuration.Attributes.ofMembers, spelled.respell_eq]
    exact .of_eq rfl
  rearranged members middle members' rearranged alike := by
    have first : Except.Agree False Eq (compiler.compile (request.withMembers members))
        (compiler.compile (request.withMembers middle)) :=
      compile_agree_of_lastSpelled rearranged.lastSpelled_eq
    have second : Except.Agree False Eq (compiler.compile (request.withMembers middle))
        (compiler.compile (request.withMembers members')) := by
      refine compile_agree_of_spelledAlike (alike.imp fun _ _ here => ⟨here.1, ?_⟩)
      refine here.2.sameSetting fun given given' rearranged => ?_
      exact Configuration.Attributes.ofMembers_agree_of_perm
        (Configuration.respell_perm rearranged.lastSpelled_eq)
    exact (first.trans second).toOption_eq
  identifiers _ configured := mem_identifiers_iff configured

/-- A request whose configuration is filled in below. -/
def respellable : Request where
  name := "db"
  version := "v1"
  category := "core"
  policyTemplate := some "- !host"
  configuration := .null

/-- Members with dashes in their keys. -/
def withDashes : List (String × Json) :=
  [("default-policy-branch", .string "root"),
    ("variables", .object
      [("db-url", .object [("valid-values", .array [.string "a"]), ("hidden", .bool true)])])]

/-- The same members with underscores, and a void one among them. -/
def withUnderscores : List (String × Json) :=
  [("default_policy_branch", .string "root"), ("policy-type", .string ""),
    ("variables", .object
      [("db-url", .object [("valid_values", .array [.string "a"]), ("hidden", .bool true)])])]

/-- The same members and attributes in another order. -/
def backwards : List (String × Json) :=
  [("variables", .object
      [("db-url", .object [("hidden", .bool true), ("valid-values", .array [.string "a"])])]),
    ("default-policy-branch", .string "root")]

/-- The same members and attributes again, with other spellings in front of some of them. -/
def spelledTwice : List (String × Json) :=
  [("variables", .object
      [("db-url", .object
        [("valid_values", .null), ("hidden", .bool true),
          ("valid-values", .array [.string "a"])])]),
    ("default_policy_branch", .string "main"), ("default-policy-branch", .string "root")]

theorem spelling_immaterial_respellable :
    (∃ compiled, standard.compile (respellable.withMembers withDashes) = .ok compiled) ∧
    standard.compile (respellable.withMembers withDashes) =
      standard.compile (respellable.withMembers withUnderscores) ∧
    (standard.compile (respellable.withMembers withDashes)).toOption =
      (standard.compile (respellable.withMembers backwards)).toOption ∧
    (standard.compile (respellable.withMembers spelledTwice)).toOption =
      (standard.compile (respellable.withMembers backwards)).toOption := by
  have immaterial := spelling_immaterial standard respellable
  refine ⟨⟨_, rfl⟩, ?_, ?_, ?_⟩
  · refine immaterial.respelled _ _ ?_
    refine .cons ⟨by decide, .same _⟩ (.cons ⟨rfl, .entries (by decide) ?_⟩ .nil)
    refine .cons ⟨rfl, .attributes ?_⟩ .nil
    exact .cons ⟨by decide, rfl⟩ (.cons ⟨rfl, rfl⟩ .nil)
  · refine immaterial.rearranged _ withDashes.reverse _
      (.permuted (by decide) (.swap _ _ [])) ?_
    refine .cons ⟨rfl, .entries (by decide) ?_⟩ (.cons ⟨rfl, .same _⟩ .nil)
    exact .cons ⟨rfl, .attributes (.permuted (by decide) (.swap _ _ []))⟩ .nil
  · refine immaterial.rearranged _ (spelledTwice.eraseIdx 1) _
      (.overridden (by decide) [_] [] []) ?_
    refine .cons ⟨rfl, .entries (by decide) ?_⟩ (.cons ⟨rfl, .same _⟩ .nil)
    exact .cons ⟨rfl, .attributes (.overridden (by decide) [] [_] [])⟩ .nil

end Compiler

end FactoryBundler
