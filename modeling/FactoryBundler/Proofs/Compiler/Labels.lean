import FactoryBundler.Proofs.Compiler.Outcomes
import FactoryBundler.Proofs.Text.Words

/-!
# What the labels of a request show up in

A request's name goes into the title that a factory is given if it has none, its version into the
bundle, and its category nowhere. To see it, a request is configured without a title first: that
depends on its template and its configuration alone, and the title comes to it afterwards.
-/

namespace FactoryBundler

/-! ## A title that comes to settings -/

namespace Configuration

variable {template : Option String} {catalog : Catalog} {reserved : ReservedVariables}
  {members : List (String × Json)}

/-- The settings with a title in place of theirs. -/
def Settings.titled (title : String) (settings : Settings) : Settings :=
  { settings with title := some title }

/-- The configuration with a title in place of its own. -/
def titled (title : String) (configuration : Configuration) : Configuration :=
  { configuration with title }

theorem respell_concat_title {value : Json} (absent : lastSpelled "title" members = none) :
    respell (members ++ [("title", value)]) = respell members ++ [("title", value)] := by
  have isNew : "title" ∉ Members.keys (respell members) :=
    not_mem_keys_of_lookup ((lookup_respell "title" members).trans absent)
  rw [respell, List.map_append]
  exact (Members.ofList_concat _).trans (Members.insert_of_not_mem isNew)

theorem Settings.ofMembers_concat_title {title : String}
    (absent : lastSpelled "title" members = none) :
    ofMembers (members ++ [("title", .string title)]) =
      (ofMembers members).map (Settings.titled title) := by
  rw [ofMembers, ofMembers, setAll_eq_fill, setAll_eq_fill, respell_concat_title absent,
    fill_append]
  cases fill set unset (respell members) <;> rfl

/-- A title makes no difference to anything but the title. -/
theorem ofSettings_titled (title : String) (settings : Settings) :
    ofSettings template catalog reserved (settings.titled title) =
      (ofSettings template catalog reserved settings).map (titled title) := by
  simp only [ofSettings, Settings.titled]
  cases hydrate none settings.policyVariables with
  | error fault => rfl
  | ok policyVariables =>
      cases hydrate (some reserved) settings.templateVariables with
      | error fault => rfl
      | ok templateVariables => cases chooseSource template settings.policyType catalog <;> rfl

theorem build_concat_title {title : String} (absent : lastSpelled "title" members = none) :
    build template (.object (members ++ [("title", .string title)])) catalog reserved =
      (build template (.object members) catalog reserved).map (titled title) := by
  rw [build_object, build_object, Settings.ofMembers_concat_title absent]
  cases Settings.ofMembers members with
  | error failure => rfl
  | ok settings => exact ofSettings_titled title settings

/-- A title that is not void is not empty either. -/
theorem title_ne_of_build {configuration : Configuration} {value : Json}
    (built : build template (.object members) catalog reserved = .ok configuration)
    (given : lastSpelled "title" members = some value) (notVoid : value.isVoid = false) :
    configuration.title ≠ "" := by
  obtain ⟨settings, source, isBuilt⟩ := exists_isBuiltFrom built
  have coerced := Settings.belongs_title.ofMembers_some given isBuilt.settings_ok
  obtain ⟨title, isTitle, nonempty⟩ := exists_text_of_not_void notVoid coerced
  have assembled : configuration.title = settings.title.getD "" := by
    rw [isBuilt.assembled]
    rfl
  rw [assembled, isTitle]
  exact nonempty

end Configuration

/-! ## Default titles -/

/-- A title is made of a name's maximal runs of characters other than dashes, underscores and
blanks, capitalized, and of the word "Factory", with single blanks between them. -/
def IsDefaultTitle (name title : String) : Prop :=
  ∃ runs, Text.HasRuns separatesWords name.toList runs ∧
    title = " ".intercalate
      (runs.map (fun run => String.ofList (Text.capitalizeChars run)) ++ ["Factory"])

theorem isDefaultTitle_defaultTitle (name : String) : IsDefaultTitle name (defaultTitle name) := by
  refine ⟨_, Text.words_eq_iff.mp rfl, ?_⟩
  rw [defaultTitle, List.map_map]
  rfl

/-- Whatever the name is, the word "Factory" is in the title. -/
theorem IsDefaultTitle.ne_empty {name title : String} (isDefault : IsDefaultTitle name title) :
    title ≠ "" := by
  obtain ⟨runs, -, rfl⟩ := isDefault
  cases runs with
  | nil => decide
  | cons run runs =>
      rw [List.map_cons, String.intercalate_append_of_ne_nil (List.cons_ne_nil _ _)
        (List.cons_ne_nil _ _), String.intercalate_singleton]
      simp

namespace Compiler

variable {compiler : Compiler} {request : Request} {configuration : Configuration}

/-! ## Titles of requests -/

/-- The configuration of a request as far as no title is made up for it. -/
def untitled (compiler : Compiler) (request : Request) : Except CompileError Configuration := do
  let members ← configurationMembers request.configuration
  Configuration.build request.policyTemplate (.object members) compiler.catalog compiler.reserved

/-- A title is made up only if none is given. -/
theorem configure_eq (compiler : Compiler) (request : Request) :
    compiler.configure request =
      match request.given? "title" with
      | some _ => compiler.untitled request
      | none => (compiler.untitled request).map (·.titled (defaultTitle request.name)) := by
  rw [configure, untitled]
  cases readable : configurationMembers request.configuration with
  | error fault => split <;> rfl
  | ok members =>
      have spelled := lastSpelled_eq_given? readable "title"
      change Configuration.build _ (.object (withTitle request.name members)) _ _ = _
      rw [withTitle, contains_title_eq, spelled]
      cases given : request.given? "title" with
      | some value => rfl
      | none => exact Configuration.build_concat_title (spelled.trans given)

theorem title_ne_of_untitled {value : Json} (built : compiler.untitled request = .ok configuration)
    (given : request.given? "title" = some value) : configuration.title ≠ "" := by
  obtain ⟨members, readable, built⟩ := Except.bind_eq_ok_iff.mp built
  exact Configuration.title_ne_of_build built
    ((lastSpelled_eq_given? readable "title").trans given) (not_void_of_given? given)

/-! ## Two requests -/

/-- Schemas that are the same but for the text that is their title. -/
def SameButTitle (first second : Json) : Prop :=
  ∃ before title title' after, "title" ∉ Members.keys (before ++ after) ∧
    first = .object (before ++ ("title", .string title) :: after) ∧
    second = .object (before ++ ("title", .string title') :: after)

theorem sameButTitle_bundleOf_titled (version version' title title' : String)
    (configuration : Configuration) :
    SameButTitle (bundleOf version (configuration.titled title)).schema
      (bundleOf version' (configuration.titled title')).schema := by
  refine ⟨[("$schema", .string Schema.draft), ("type", .string "object")], title, title', _, ?_,
    rfl, rfl⟩
  change "title" ∉ ["$schema", "type", "description", "properties", "required"]
  decide

/-- How two requests with the same template and configuration come out, whatever their labels. -/
structure AlikeButLabels (first second : Request) (compiled compiled' : Compiled) : Prop where
  warnings : compiled.warnings = compiled'.warnings
  policy : compiled.bundle.policy = compiled'.bundle.policy
  policyBranch : compiled.bundle.policyBranch = compiled'.bundle.policyBranch
  schema : SameButTitle compiled.bundle.schema compiled'.bundle.schema
  version : compiled.bundle.version = first.version ∧ compiled'.bundle.version = second.version
  /-- With a title of their own the schemas are the same altogether. -/
  titled : first.given? "title" ≠ none → compiled.bundle.schema = compiled'.bundle.schema
  /-- Without one, each title is made of the name. -/
  named : first.given? "title" = none →
    IsDefaultTitle first.name compiled.bundle.title ∧
      IsDefaultTitle second.name compiled'.bundle.title
  title_ne : compiled.bundle.title ≠ "" ∧ compiled'.bundle.title ≠ ""

/-- Labels show up in the title and in the version alone, and a title is never empty. -/
theorem labels_immaterial (compiler : Compiler) (first second : Request)
    (sameTemplate : first.policyTemplate = second.policyTemplate)
    (sameConfiguration : first.configuration = second.configuration) :
    Except.Agree True (AlikeButLabels first second) (compiler.compile first)
      (compiler.compile second) := by
  have sameUntitled : compiler.untitled second = compiler.untitled first := by
    rw [untitled, untitled, sameTemplate, sameConfiguration]
  have sameGiven : second.given? "title" = first.given? "title" := by
    rw [Request.given?, Request.given?, sameConfiguration]
  rw [compile, compile, configure_eq, configure_eq, sameGiven, sameUntitled]
  cases given : first.given? "title" with
  | some value =>
      cases built : compiler.untitled first with
      | error fault => exact .error fun _ => rfl
      | ok configuration =>
          have nonempty : configuration.title ≠ "" := title_ne_of_untitled built given
          exact .ok {
            warnings := rfl
            policy := rfl
            policyBranch := rfl
            schema := sameButTitle_bundleOf_titled first.version second.version
              configuration.title configuration.title configuration
            version := ⟨rfl, rfl⟩
            titled := fun _ => rfl
            named := fun absent => absurd (given.symm.trans absent) (Option.some_ne_none value)
            title_ne := ⟨nonempty, nonempty⟩ }
  | none =>
      cases compiler.untitled first with
      | error fault => exact .error fun _ => rfl
      | ok configuration =>
          have named := isDefaultTitle_defaultTitle first.name
          have named' := isDefaultTitle_defaultTitle second.name
          exact .ok {
            warnings := rfl
            policy := rfl
            policyBranch := rfl
            schema := sameButTitle_bundleOf_titled _ _ _ _ configuration
            version := ⟨rfl, rfl⟩
            titled := fun isGiven => absurd given isGiven
            named := fun _ => ⟨named, named'⟩
            title_ne := ⟨named.ne_empty, named'.ne_empty⟩ }

/-- A request without a title. -/
def withoutTitle : Request where
  name := "authn-jwt"
  version := "v1"
  category := "core"
  policyTemplate := some "- !host"
  configuration := .object [("description", .string "Hosts"), ("title", .string "")]

/-- The same request under other labels, with a name that has no words. -/
def relabelled : Request :=
  { withoutTitle with name := "_-_", version := "v2", category := "hosts" }

theorem labels_immaterial_relabelled :
    ∃ compiled compiled', standard.compile withoutTitle = .ok compiled ∧
      standard.compile relabelled = .ok compiled' ∧
      AlikeButLabels withoutTitle relabelled compiled compiled' ∧
      compiled.bundle.title = "Authn Jwt Factory" ∧ compiled'.bundle.title = "Factory" := by
  obtain ⟨compiled, compiles, title⟩ : ∃ compiled, standard.compile withoutTitle = .ok compiled ∧
      compiled.bundle.title = "Authn Jwt Factory" := ⟨_, rfl, rfl⟩
  obtain ⟨compiled', compiles', title'⟩ : ∃ compiled, standard.compile relabelled = .ok compiled ∧
      compiled.bundle.title = "Factory" := ⟨_, rfl, rfl⟩
  have agree := labels_immaterial standard withoutTitle relabelled rfl rfl
  rw [compiles, compiles'] at agree
  cases agree with
  | ok alike => exact ⟨compiled, compiled', compiles, compiles', alike, title, title'⟩

end Compiler

end FactoryBundler
