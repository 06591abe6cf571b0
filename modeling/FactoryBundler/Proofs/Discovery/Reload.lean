import FactoryBundler.Proofs.Discovery.Exact
import FactoryBundler.Proofs.Files.Workspace

/-!
# Loading what was discovered once more

The walk takes the labels of a directory from the names on the way to it, while a directory that is
loaded by its path alone takes them from the components of the path. Where the names are texts both
come out the same, and so does everything that is read. A name that is no text is shown as a label
by the walk, but a path that ends in such a name tells no labels.
-/

namespace FactoryBundler

open FactoryBundler.Path (IsName)

/-! ## Labels of paths -/

namespace Definition

open FactoryBundler.Path (Component components)

variable {path : RawText} {labels : Labels}

/-- The labels are the texts of the last three components of a path. -/
def EndsIn (path : RawText) (labels : Labels) : Prop :=
  ∃ before category name version, components path = before ++ [category, name, version] ∧
    category.text? = some labels.1 ∧ name.text? = some labels.2.1 ∧ version.text? = some labels.2.2

theorem labels?_of_components {before : List Component} {category name version : Component}
    (split : components path = before ++ [category, name, version]) :
    labels? path =
      match [version, name, category].filterMap Component.text? with
      | [version, name, category] => some (category, name, version)
      | _ => none := by
  rw [labels?, split, List.reverse_append]
  rfl

theorem labels?_of_length_lt (short : (components path).length < 3) : labels? path = none := by
  rw [labels?]
  split
  · next picked =>
    have atMost := List.length_filterMap_le Component.text? ((components path).reverse.take 3)
    rw [picked, List.length_take, List.length_reverse] at atMost
    simp only [List.length_cons, List.length_nil] at atMost
    omega
  · rfl

theorem exists_components (long : 3 ≤ (components path).length) :
    ∃ before category name version, components path = before ++ [category, name, version] := by
  have last : ((components path).drop ((components path).length - 3)).length = 3 := by
    rw [List.length_drop]
    omega
  obtain ⟨category, name, version, isLast⟩ := List.length_eq_three.mp last
  refine ⟨(components path).take ((components path).length - 3), category, name, version, ?_⟩
  rw [← isLast, List.take_append_drop]

theorem labels?_eq_some_iff : labels? path = some labels ↔ EndsIn path labels := by
  constructor
  · intro told
    have long : 3 ≤ (components path).length := by
      by_contra short
      rw [labels?_of_length_lt (Nat.not_le.mp short)] at told
      cases told
    obtain ⟨before, category, name, version, split⟩ := exists_components long
    rw [labels?_of_components split] at told
    split at told
    · next picked =>
      have number : ([version, name, category].filterMap Component.text?).length = 3 := by
        rw [picked]
        rfl
      have areTexts := List.filterMap_length_eq_length.mp number
      simp only [List.forall_mem_cons, Option.isSome_iff_exists] at areTexts
      obtain ⟨⟨_, isVersion⟩, ⟨_, isName⟩, ⟨_, isCategory⟩, -⟩ := areTexts
      simp only [List.filterMap_cons, List.filterMap_nil, isCategory, isName, isVersion] at picked
      cases picked
      cases told
      exact ⟨before, category, name, version, split, isCategory, isName, isVersion⟩
    · cases told
  · rintro ⟨before, category, name, version, split, isCategory, isName, isVersion⟩
    rw [labels?_of_components split]
    simp only [List.filterMap_cons, List.filterMap_nil, isCategory, isName, isVersion]

end Definition

/-! ## Places and paths -/

namespace Place

variable {place : Place} {entries inner : List (RawText × Node)} {root : RawText}

/-- The names on the way to a place are names that entries can have. -/
def AreNames (place : Place) : Prop :=
  IsName place.1 ∧ IsName place.2.1 ∧ IsName place.2.2

theorem Leads.areNames (leads : place.Leads entries inner)
    (wellFormed : (Node.directory entries).WellFormed) : place.AreNames := by
  obtain ⟨names, versions, inRoot, inNames, inVersions⟩ := leads
  have names := wellFormed.child inRoot
  have versions := names.child inNames
  exact ⟨wellFormed.isName inRoot, names.isName inNames, versions.isName inVersions⟩

/-- The path of a directory ends in the names that lead to it from the root. -/
theorem components_directory (areNames : place.AreNames) :
    Path.components (place.directory root) =
      Path.components root ++ [.entry place.1, .entry place.2.1, .entry place.2.2] := by
  obtain ⟨category, name, version⟩ := areNames
  rw [directory, Path.components_join version, Path.components_join name,
    Path.components_join category, List.append_assoc, List.append_assoc]
  rfl

/-- The path of a directory tells its labels if the names are texts. -/
theorem labels?_directory_of_areTexts (areNames : place.AreNames) (areTexts : place.AreTexts) :
    Definition.labels? (place.directory root) = some place.labels := by
  have told {raw : RawText} (isText : raw.IsText) : raw.text? = some raw.display :=
    RawText.text?_eq_some_iff.mpr isText.eq_display
  rw [Definition.labels?_eq_some_iff]
  exact ⟨_, _, _, _, components_directory areNames, told areTexts.1, told areTexts.2.1,
    told areTexts.2.2⟩

/-- The path of a directory tells no labels if one of the names is no text. -/
theorem labels?_directory_of_not_areTexts (areNames : place.AreNames)
    (notTexts : ¬ place.AreTexts) : Definition.labels? (place.directory root) = none := by
  rw [Option.eq_none_iff_forall_ne_some]
  intro labels told
  obtain ⟨before, category, name, version, split, isCategory, isName, isVersion⟩ :=
    Definition.labels?_eq_some_iff.mp told
  have last := (List.append_inj' ((components_directory areNames).symm.trans split) rfl).2
  cases last
  have isText {raw : RawText} {text : String} (told : raw.text? = some text) : raw.IsText :=
    ⟨text, RawText.text?_eq_some_iff.mp told⟩
  exact notTexts ⟨isText isCategory, isText isName, isText isVersion⟩

end Place

namespace Labels

variable {labels other : Labels}

/-- The path of the variable of a factory with these labels. -/
def variablePath (labels : Labels) : String :=
  FactoryBundler.variablePath labels.1 labels.2.1 labels.2.2

/-- There is no slash in any of the labels. -/
def HaveNoSlash (labels : Labels) : Prop :=
  '/' ∉ labels.1.toList ∧ '/' ∉ labels.2.1.toList ∧ '/' ∉ labels.2.2.toList

theorem cutAt_variablePath (noSlash : labels.HaveNoSlash) :
    Text.cutAt (· == '/') labels.variablePath.toList =
      [labels.1.toList, labels.2.2.toList, labels.2.1.toList] := by
  have uncut {label : String} (noSlash : '/' ∉ label.toList) :
      Text.cutAt (· == '/') label.toList = [label.toList] :=
    Text.cutAt_of_forall_not fun c inLabel => by
      simpa using ne_of_mem_of_not_mem inLabel noSlash
  obtain ⟨category, name, version⟩ := noSlash
  have spelled : labels.variablePath.toList =
      labels.1.toList ++ '/' :: (labels.2.2.toList ++ '/' :: labels.2.1.toList) := by
    simp [variablePath, FactoryBundler.variablePath]
  rw [spelled, Text.cutAt_append_cons rfl, Text.cutAt_append_cons rfl, uncut category,
    uncut version, uncut name]
  rfl

/-- Factories with different labels have different variables. -/
theorem variablePath_injective (noSlash : labels.HaveNoSlash) (noSlash' : other.HaveNoSlash)
    (same : labels.variablePath = other.variablePath) : labels = other := by
  have pieces := cutAt_variablePath noSlash
  rw [same, cutAt_variablePath noSlash'] at pieces
  simp only [List.cons.injEq, String.toList_inj, and_true] at pieces
  exact Prod.ext pieces.1.symm (Prod.ext pieces.2.2.symm pieces.2.1.symm)

end Labels

/-- There is no slash in a name, so there is none in what is shown of it. -/
theorem Place.AreNames.haveNoSlash {place : Place} (areNames : place.AreNames) :
    place.labels.HaveNoSlash := by
  have free {name : RawText} (isName : IsName name) : '/' ∉ name.display.toList :=
    RawText.not_mem_display (by decide) isName.2.2.2
  exact ⟨free areNames.1, free areNames.2.1, free areNames.2.2⟩

/-! ## Coherent workspaces -/

namespace Discovery

variable {workspace : Workspace} {root : RawText} {entries inner : List (RawText × Node)}
  {place : Place} {discovery : Discovery} {account : Account}
  {outcome : Except LoadFailure Definition}

/-- Names that lead to a directory from the entries of a root lead there by its path as well. -/
theorem workspace_directory (coherent : workspace.IsCoherent)
    (listed : workspace root = .ok (.directory entries)) (leads : place.Leads entries inner) :
    workspace (place.directory root) = .ok (.directory inner) := by
  obtain ⟨names, versions, inRoot, inNames, inVersions⟩ := leads
  have category := coherent.inside _ _ _ _ listed inRoot
  have name := coherent.inside _ _ _ _ category inNames
  exact coherent.inside _ _ _ _ name inVersions

theorem load_site (coherent : workspace.IsCoherent)
    (listed : workspace root = .ok (.directory entries)) {site : Site}
    (inSites : site ∈ sites root entries) :
    (Definition.load workspace (site.place.directory root) site.place.labels.1
      site.place.labels.2.1 site.place.labels.2.2).mapError site.place.failure = site.load := by
  obtain ⟨leads, -, directory⟩ := mem_sites.mp inSites
  have areNames := leads.areNames (coherent.wellFormed _ _ listed)
  have notEmpty : ¬ (site.place.directory root).isEmpty = true :=
    Path.not_isEmpty_join areNames.2.2
  have read : Definition.entriesAt workspace (site.place.directory root) = .ok site.entries := by
    rw [Definition.entriesAt, if_neg notEmpty, workspace_directory coherent listed leads]
    rfl
  rw [Site.load, directory]
  simp only [Definition.load, read]
  rfl

theorem walk_eq_ok_iff :
    walk workspace root = .ok discovery ↔
      ∃ entries, workspace root = .ok (.directory entries) ∧
        discovery = ofSites (sites root entries) := by
  constructor
  · intro walked
    obtain ⟨entries, listed, isDiscovery⟩ := Except.bind_eq_ok_iff.mp walked
    rw [Except.mapError_eq_ok_iff] at listed
    obtain ⟨node, leads, listed⟩ := Except.bind_eq_ok_iff.mp listed
    cases node with
    | file content => cases listed
    | directory inner =>
        cases listed
        cases isDiscovery
        exact ⟨_, leads, rfl⟩
  · rintro ⟨entries, listed, rfl⟩
    exact walk_of_directory listed

/-- A walk comes with the account of what it reports. -/
theorem exists_isAccount (wellFormed : ∀ node, workspace root = .ok node → node.WellFormed)
    (walked : walk workspace root = .ok discovery) :
    ∃ entries account, workspace root = .ok (.directory entries) ∧
      discovery.IsAccount root (.directory entries) account := by
  obtain ⟨entries, listed, rfl⟩ := walk_eq_ok_iff.mp walked
  exact ⟨entries, _, listed, isAccount_ofSites root (wellFormed _ listed)⟩

/-- The places that are reported are reached by names that entries can have. -/
theorem IsAccount.areNames (isAccount : discovery.IsAccount root (.directory entries) account)
    (wellFormed : (Node.directory entries).WellFormed) (reported : place ∈ account.places) :
    place.AreNames := by
  obtain ⟨content, configured⟩ := (isAccount.mem_places place).mp reported
  obtain ⟨inner, leads, -⟩ := Place.fileAt_file_iff.mp configured
  exact leads.areNames wellFormed

/-- What is reported of a place comes from its directory when that is loaded with the labels of the
place. -/
theorem IsAccount.load_eq (isAccount : discovery.IsAccount root (.directory entries) account)
    (coherent : workspace.IsCoherent) (listed : workspace root = .ok (.directory entries))
    (reported : (place, outcome) ∈ account) :
    (Definition.load workspace (place.directory root) place.labels.1 place.labels.2.1
      place.labels.2.2).mapError place.failure = outcome := by
  have wellFormed := coherent.wellFormed _ _ listed
  have gives := (isAccount.mem_iff _ _).mp reported
  obtain ⟨site, inSites, isElement⟩ := List.mem_map.mp ((mem_accountOf_iff wellFormed).mpr gives)
  cases isElement
  exact load_site coherent listed inSites

end Discovery

namespace Definition

variable {workspace : Workspace} {root : RawText} {place : Place}

/-- A directory whose names are texts is loaded with its labels. -/
theorem fromDirectory_of_areTexts (areNames : place.AreNames) (areTexts : place.AreTexts) :
    fromDirectory workspace (place.directory root) =
      load workspace (place.directory root) place.labels.1 place.labels.2.1 place.labels.2.2 := by
  rw [fromDirectory, Place.labels?_directory_of_areTexts areNames areTexts]

/-- A directory with a name that is no text is refused. -/
theorem fromDirectory_of_not_areTexts (areNames : place.AreNames) (notTexts : ¬ place.AreTexts) :
    fromDirectory workspace (place.directory root) = .error (.layout (place.directory root)) := by
  rw [fromDirectory, Place.labels?_directory_of_not_areTexts areNames notTexts]

end Definition

end FactoryBundler
