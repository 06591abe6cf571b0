import FactoryBundler.Proofs.Discovery.Reload
import Mathlib.Logic.Relation

/-!
# Labels inferred from paths

A directory that is loaded by its path alone takes its labels from the last three components of the
path, if these are texts. A component that is an entry has a name which a directory can have. But a
root, a leading dot and every way up are components as well, so a path with less than three names at
its end may tell labels that no directory has. How a path is spelled makes no difference to the
labels.
-/

namespace FactoryBundler

/-! ## Names on a path -/

namespace Path

variable {path path' name : RawText} {component : Component}

theorem isName_of_component? {piece : List UInt8} (free : ∀ b ∈ piece, (b == slash) = false)
    (isEntry : component? piece = some (.entry name)) : IsName name := by
  rw [component?] at isEntry
  split_ifs at isEntry with nothing parent
  · cases isEntry
  · obtain ⟨notEmpty, notCurrent⟩ := not_or.mp nothing
    obtain rfl : piece = name.bytes :=
      congrArg RawText.bytes (Component.entry.inj (Option.some.inj isEntry))
    refine ⟨fun same => notEmpty (congrArg RawText.bytes same),
      fun same => notCurrent (congrArg RawText.bytes same),
      fun same => parent (congrArg RawText.bytes same), fun inPiece => ?_⟩
    exact absurd (free _ inPiece) (by decide)

theorem not_mem_lead {bytes : List UInt8} : Component.entry name ∉ lead bytes := by
  unfold lead
  split_ifs <;> simp

/-- An entry on a path has a name that a directory can have. -/
theorem isName_of_mem_components (inPath : .entry name ∈ components path) : IsName name := by
  rw [components_eq, List.mem_append] at inPath
  obtain ⟨piece, inCut, isEntry⟩ := List.mem_filterMap.mp (inPath.resolve_left not_mem_lead)
  exact isName_of_component? (Text.not_isSeparator_of_mem_cutAt inCut) isEntry

/-- Of the components of a path only the entries are spelled like a name. -/
theorem isName_text_iff {text : String} (inPath : component ∈ components path)
    (isText : component.text? = some text) :
    IsName text ↔ ∃ name, component = .entry name := by
  cases component with
  | entry name =>
      obtain rfl := RawText.text?_eq_some_iff.mp isText
      exact iff_of_true (isName_of_mem_components inPath) ⟨_, rfl⟩
  | _ =>
      cases isText
      exact iff_of_false (by decide) nofun

/-! ## Spellings of a path -/

/-- One thing less in the spelling of a path that it says nothing with: a slash behind a slash, a
dot behind a slash, or a slash at the end. -/
inductive Tidies : RawText → RawText → Prop
  | slash (front rest : RawText) : Tidies (front ++ "//" ++ rest) (front ++ "/" ++ rest)
  | dot (front rest : RawText) : Tidies (front ++ "/./" ++ rest) (front ++ "/" ++ rest)
  | lastDot (front : RawText) : Tidies (front ++ "/.") (front ++ "/")
  | lastSlash {front : RawText} (notEmpty : front ≠ "") : Tidies (front ++ "/") front

/-- Two spellings that differ only in what a path says nothing with. -/
def Respelled : RawText → RawText → Prop :=
  Relation.EqvGen Tidies

theorem components_of_bytes_eq {front rest : List UInt8}
    (bytes : path.bytes = front ++ slash :: rest) :
    components path = lead (front ++ [slash]) ++ (pieces front ++ pieces rest) := by
  rw [components_eq, bytes, lead_append_slash, pieces_append_slash]

theorem Tidies.components_eq (tidies : Tidies path path') : components path = components path' := by
  cases tidies with
  | slash front rest =>
      have bytes : (front ++ "//" ++ rest).bytes =
          front.bytes ++ Path.slash :: Path.slash :: rest.bytes :=
        List.append_assoc _ [Path.slash, Path.slash] _
      have bytes' : (front ++ "/" ++ rest).bytes = front.bytes ++ Path.slash :: rest.bytes :=
        List.append_assoc _ [Path.slash] _
      have nothing : pieces (Path.slash :: rest.bytes) = pieces rest.bytes :=
        pieces_append_slash [] rest.bytes
      rw [components_of_bytes_eq bytes, components_of_bytes_eq bytes', nothing]
  | dot front rest =>
      have bytes : (front ++ "/./" ++ rest).bytes =
          front.bytes ++ Path.slash :: Path.dot :: Path.slash :: rest.bytes :=
        List.append_assoc _ [Path.slash, Path.dot, Path.slash] _
      have bytes' : (front ++ "/" ++ rest).bytes = front.bytes ++ Path.slash :: rest.bytes :=
        List.append_assoc _ [Path.slash] _
      have nothing : pieces (Path.dot :: Path.slash :: rest.bytes) = pieces rest.bytes :=
        pieces_append_slash [Path.dot] rest.bytes
      rw [components_of_bytes_eq bytes, components_of_bytes_eq bytes', nothing]
  | lastDot front =>
      have bytes : (front ++ "/.").bytes = front.bytes ++ Path.slash :: [Path.dot] := rfl
      have bytes' : (front ++ "/").bytes = front.bytes ++ Path.slash :: [] := rfl
      have nothing : pieces [Path.dot] = pieces [] := by decide
      rw [components_of_bytes_eq bytes, components_of_bytes_eq bytes', nothing]
  | lastSlash notEmpty =>
      have bytes : (path' ++ "/").bytes = path'.bytes ++ Path.slash :: [] := rfl
      have nonempty : path'.bytes ≠ [] := fun empty => notEmpty (congrArg RawText.mk empty)
      rw [components_of_bytes_eq bytes, lead_concat_slash nonempty, Path.components_eq]
      exact congrArg _ (List.append_nil _)

/-- A path says the same in every spelling. -/
theorem Respelled.components_eq (respelled : Respelled path path') :
    components path = components path' := by
  induction respelled with
  | rel path path' tidies => exact tidies.components_eq
  | refl path => rfl
  | symm path path' _ ih => exact ih.symm
  | trans path path' path'' _ _ first second => exact first.trans second

end Path

/-! ## Labels -/

namespace Definition

open FactoryBundler.Path (Component components Respelled)

variable {path : RawText} {labels : Labels} {workspace : Workspace}
  {before : List Component} {category name version : Component}

theorem fromDirectory_of_endsIn (ends : EndsIn path labels) (workspace : Workspace) :
    fromDirectory workspace path = load workspace path labels.1 labels.2.1 labels.2.2 := by
  rw [fromDirectory, labels?_eq_some_iff.mpr ends]

theorem fromDirectory_of_not_endsIn (short : ∀ labels, ¬ EndsIn path labels)
    (workspace : Workspace) : fromDirectory workspace path = .error (.layout path) := by
  have none : labels? path = none :=
    Option.eq_none_iff_forall_ne_some.mpr fun labels told =>
      short labels (labels?_eq_some_iff.mp told)
  rw [fromDirectory, none]

/-- A directory whose labels are known is looked for, and if nothing is there it is not found. -/
theorem load_ne_layout (category name version : String) :
    load (fun _ => .error .notFound) path category name version ≠ .error (.layout path) := by
  intro refused
  cases refused

/-- Three components that are texts are the labels of names exactly if they are entries. -/
theorem areNames_iff (split : components path = before ++ [category, name, version])
    (isCategory : category.text? = some labels.1) (isName : name.text? = some labels.2.1)
    (isVersion : version.text? = some labels.2.2) :
    labels.place.AreNames ↔
      ∀ component ∈ [category, name, version], ∃ name, component = .entry name := by
  have inPath {component : Component} (isLast : component ∈ [category, name, version]) :
      component ∈ components path :=
    split ▸ List.mem_append_right before isLast
  rw [Place.AreNames, Labels.place, Path.isName_text_iff (inPath (by simp)) isCategory,
    Path.isName_text_iff (inPath (by simp)) isName,
    Path.isName_text_iff (inPath (by simp)) isVersion]
  simp

/-- A path tells three names, which are its last three components, or it is refused, whatever there
is in the workspace. -/
structure InfersNames (path : RawText) : Prop where
  told : ∀ labels, EndsIn path labels → labels.place.AreNames →
    ∀ workspace, fromDirectory workspace path = load workspace path labels.1 labels.2.1 labels.2.2
  refused : (∀ labels, EndsIn path labels → ¬ labels.place.AreNames) →
    ∀ workspace, fromDirectory workspace path = .error (.layout path)

/-- What a path tells is a name each time exactly if its last three components, if it has as many
and they are texts, are entries. -/
theorem infersNames_iff_entries : InfersNames path ↔
    ∀ before category name version, components path = before ++ [category, name, version] →
      (∀ component ∈ [category, name, version], component.text? ≠ none) →
      ∀ component ∈ [category, name, version], ∃ name, component = .entry name := by
  constructor
  · intro infers before category name version split areTexts
    simp only [List.forall_mem_cons, Option.ne_none_iff_exists'] at areTexts
    obtain ⟨⟨categoryText, isCategory⟩, ⟨nameText, isName⟩, ⟨versionText, isVersion⟩, -⟩ := areTexts
    have ends : EndsIn path (categoryText, nameText, versionText) :=
      ⟨before, category, name, version, split, isCategory, isName, isVersion⟩
    have areNames_iff : (Labels.place (categoryText, nameText, versionText)).AreNames ↔ _ :=
      areNames_iff split isCategory isName isVersion
    rw [← areNames_iff]
    by_contra notNames
    have refused := infers.refused (fun labels ends' => ?_) fun _ => .error .notFound
    · rw [fromDirectory_of_endsIn ends] at refused
      exact load_ne_layout _ _ _ refused
    · have same := (labels?_eq_some_iff.mpr ends).symm.trans (labels?_eq_some_iff.mpr ends')
      exact Option.some.inj same ▸ notNames
  · intro entries
    refine ⟨fun labels ends _ => fromDirectory_of_endsIn ends, fun notNames => ?_⟩
    refine fromDirectory_of_not_endsIn fun labels ends => notNames labels ends ?_
    obtain ⟨before, category, name, version, split, isCategory, isName, isVersion⟩ := ends
    refine (areNames_iff split isCategory isName isVersion).mpr (entries _ _ _ _ split ?_)
    simp [isCategory, isName, isVersion]

/-- The last three components of a path become the labels if they are texts, whatever they are, and
a path with fewer components or with one that is no text is refused. So what is inferred are names
exactly if these components are entries. Other spellings of the path tell the same. -/
theorem infersNames_iff (path : RawText) :
    (∀ before category name version, components path = before ++ [category, name, version] →
      (∀ labels : Labels, category.text? = some labels.1 → name.text? = some labels.2.1 →
        version.text? = some labels.2.2 →
        ∀ workspace, fromDirectory workspace path =
          load workspace path labels.1 labels.2.1 labels.2.2) ∧
      ((∃ component ∈ [category, name, version], component.text? = none) →
        ∀ workspace, fromDirectory workspace path = .error (.layout path))) ∧
    ((components path).length < 3 →
      ∀ workspace, fromDirectory workspace path = .error (.layout path)) ∧
    (InfersNames path ↔
      ∀ before category name version, components path = before ++ [category, name, version] →
        (∀ component ∈ [category, name, version], component.text? ≠ none) →
        ∀ component ∈ [category, name, version], ∃ name, component = .entry name) ∧
    ∀ path', Respelled path path' → labels? path' = labels? path := by
  refine ⟨fun before category name version split => ⟨?_, ?_⟩, fun short => ?_,
    infersNames_iff_entries, fun path' respelled => ?_⟩
  · intro labels isCategory isName isVersion
    exact fromDirectory_of_endsIn
      ⟨before, category, name, version, split, isCategory, isName, isVersion⟩
  · rintro ⟨component, isLast, noText⟩
    refine fromDirectory_of_not_endsIn fun labels ends => ?_
    obtain ⟨before', category', name', version', split', isCategory, isName, isVersion⟩ := ends
    have same := (List.append_inj' (split.symm.trans split') rfl).2
    rw [same] at isLast
    simp only [List.mem_cons, List.not_mem_nil, or_false] at isLast
    rcases isLast with rfl | rfl | rfl
    · cases noText.symm.trans isCategory
    · cases noText.symm.trans isName
    · cases noText.symm.trans isVersion
  · refine fromDirectory_of_not_endsIn fun labels ends => ?_
    obtain ⟨before, category, name, version, split, -⟩ := ends
    rw [split, List.length_append] at short
    exact absurd short (by simp)
  · rw [labels?, labels?, respelled.components_eq]

/-- A path with a slash, a dot and a slash that say nothing. -/
def winding : RawText := ".././core//db/v1/"

theorem infersNames_iff_winding :
    Respelled winding "../core/db/v1" ∧ InfersNames winding ∧
      labels? "../core/db/v1" = some ("core", "db", "v1") := by
  have dot : Path.Tidies winding "../core//db/v1/" := .dot ".." "core//db/v1/"
  have slash : Path.Tidies "../core//db/v1/" "../core/db/v1/" := .slash "../core" "db/v1/"
  have notEmpty : RawText.ofText "../core/db/v1" ≠ "" := by decide
  have lastSlash : Path.Tidies "../core/db/v1/" "../core/db/v1" := .lastSlash notEmpty
  have respelled : Respelled winding "../core/db/v1" :=
    .trans _ _ _ (.rel _ _ dot) (.trans _ _ _ (.rel _ _ slash) (.rel _ _ lastSlash))
  obtain ⟨-, -, infers_iff, same⟩ := infersNames_iff winding
  refine ⟨respelled, infers_iff.mpr ?_, (same _ respelled).trans (by decide +kernel)⟩
  intro before category name version split
  have last : [category, name, version] = [.entry "core", .entry "db", .entry "v1"] := by
    have spelled : components winding =
        [.parent] ++ [.entry "core", .entry "db", .entry "v1"] := by decide +kernel
    exact ((List.append_inj' (spelled.symm.trans split) rfl).2).symm
  rw [last]
  simp

/-- The entries of a directory with a configuration and nothing else. -/
def bareEntries : List (RawText × Node) :=
  [(configurationFile, .file (Text.Utf8.encode "\x7b\x7d"))]

/-- A tree with a factory two levels below the working directory. -/
def nearby : Node :=
  .directory [("database", .directory [("v1", .directory bareEntries)])]

theorem ofEntries_bareEntries (directory : RawText) (category name version : String) :
    ofEntries directory category name version bareEntries =
      .ok ⟨category, name, version, directory, none, .object []⟩ := by
  have configured : readConfiguration directory bareEntries = .ok (.object []) := by
    have found : bareEntries.lookup configurationFile =
        some (.file (Text.Utf8.encode "\x7b\x7d")) := by rfl
    rw [readConfiguration_of_text found]
    rfl
  have untemplated : readTemplate directory bareEntries = .ok none :=
    readTemplate_of_noFile fun content isFile => by cases isFile
  rw [ofEntries, configured, untemplated]
  rfl

/-- A leading dot becomes the category, and the factory is loaded under it. -/
theorem not_infersNames_current : ¬ InfersNames "./database/v1" ∧
    fromDirectory nearby.resolve "./database/v1" =
      .ok ⟨".", "database", "v1", "./database/v1", none, .object []⟩ := by
  have split : components "./database/v1" = [] ++ [.current, .entry "database", .entry "v1"] := by
    decide +kernel
  constructor
  · rw [infersNames_iff_entries]
    intro entries
    obtain ⟨name, isEntry⟩ := entries _ _ _ _ split (by simp [Component.text?]) .current
      List.mem_cons_self
    cases isEntry
  · have ends : EndsIn "./database/v1" (".", "database", "v1") :=
      ⟨_, _, _, _, split, rfl, RawText.text?_ofText _, RawText.text?_ofText _⟩
    have here : entriesAt nearby.resolve "./database/v1" = .ok bareEntries := by rfl
    rw [fromDirectory_of_endsIn ends, load, here]
    exact ofEntries_bareEntries _ _ _ _

end Definition

end FactoryBundler
