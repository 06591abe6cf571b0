import FactoryBundler.Discovery
import FactoryBundler.Proofs.Except
import FactoryBundler.Proofs.Files.Tree
import FactoryBundler.Proofs.Sorting

/-!
# The sites under a root

The walk goes through the directories at depth three, in the order of the bytes of their names, and
stops at those that hold a configuration file. What is found there is decided by two files alone,
the configuration before the template. The labels of what is found are the names as they are shown,
so directories in different places may have the same labels.
-/

namespace FactoryBundler

open Node (FileAt)

/-- The names of the directories on the way from a root to the directory of a factory. -/
abbrev Place : Type := RawText × RawText × RawText

/-- The category, name and version of a factory. -/
abbrev Labels : Type := String × String × String

namespace Place

/-- The place of a file in the directory at a place, seen from the root. -/
def file (place : Place) (name : RawText) : List RawText :=
  [place.1, place.2.1, place.2.2, name]

/-- The path of the directory at a place. -/
def directory (root : RawText) (place : Place) : RawText :=
  Path.join (Path.join (Path.join root place.1) place.2.1) place.2.2

/-- The names on the way to a place as they are shown. -/
def labels (place : Place) : Labels :=
  (place.1.display, place.2.1.display, place.2.2.display)

/-- A place comes before another one by the bytes of the first name, then of the second, then of the
third. -/
def Before (first second : Place) : Prop :=
  first.1.bytes < second.1.bytes ∨ first.1 = second.1 ∧
    (first.2.1.bytes < second.2.1.bytes ∨ first.2.1 = second.2.1 ∧
      first.2.2.bytes < second.2.2.bytes)

/-- The names lead from a directory with these entries, through directories all the way, to one with
those. -/
def Leads (place : Place) (entries inner : List (RawText × Node)) : Prop :=
  ∃ names versions, (place.1, .directory names) ∈ entries ∧
    (place.2.1, .directory versions) ∈ names ∧ (place.2.2, .directory inner) ∈ versions

theorem not_before_self (place : Place) : ¬ place.Before place := by
  simp [Before]

theorem Before.not_after {first second : Place} (before : first.Before second) :
    ¬ second.Before first := by
  simp only [Before] at before ⊢
  grind [List.lt_irrefl, List.lt_asymm]

variable {place : Place} {entries inner : List (RawText × Node)} {name : RawText}
  {content : List UInt8}

/-- A file in the directory at a place is one that the names lead to. -/
theorem fileAt_file_iff :
    FileAt (place.file name) content (.directory entries) ↔
      ∃ inner, place.Leads entries inner ∧ (name, .file content) ∈ inner := by
  constructor
  · rintro (_ | ⟨inRoot, _ | ⟨inNames, _ | ⟨inVersions, _ | ⟨inInner, _ | _⟩⟩⟩⟩)
    exact ⟨_, ⟨_, _, inRoot, inNames, inVersions⟩, inInner⟩
  · rintro ⟨inner, ⟨names, versions, inRoot, inNames, inVersions⟩, inInner⟩
    exact .inside inRoot (.inside inNames (.inside inVersions (.inside inInner (.here content))))

theorem Leads.wellFormed (leads : place.Leads entries inner)
    (wellFormed : (Node.directory entries).WellFormed) : (Node.directory inner).WellFormed := by
  obtain ⟨names, versions, inRoot, inNames, inVersions⟩ := leads
  exact ((wellFormed.child inRoot).child inNames).child inVersions

/-- Names lead to one directory at most. -/
theorem Leads.unique {inner' : List (RawText × Node)} (leads : place.Leads entries inner)
    (leads' : place.Leads entries inner') (wellFormed : (Node.directory entries).WellFormed) :
    inner = inner' := by
  obtain ⟨names, versions, inRoot, inNames, inVersions⟩ := leads
  obtain ⟨names', versions', inRoot', inNames', inVersions'⟩ := leads'
  obtain rfl : names = names' := by simpa using wellFormed.entry_unique inRoot inRoot'
  have wellFormed := wellFormed.child inRoot
  obtain rfl : versions = versions' := by simpa using wellFormed.entry_unique inNames inNames'
  have wellFormed := wellFormed.child inNames
  simpa using wellFormed.entry_unique inVersions inVersions'

end Place

namespace Labels

/-- The place with these names. -/
def place (labels : Labels) : Place :=
  (labels.1, labels.2.1, labels.2.2)

/-- Labels come before others by the bytes of the category, then of the name, then of the
version. -/
def Before (first second : Labels) : Prop :=
  first.place.Before second.place

end Labels

namespace Place

variable {place : Place}

/-- The names on the way to a place are texts. -/
def AreTexts (place : Place) : Prop :=
  place.1.IsText ∧ place.2.1.IsText ∧ place.2.2.IsText

theorem labels_place (labels : Labels) : labels.place.labels = labels :=
  Prod.ext (RawText.display_ofText _)
    (Prod.ext (RawText.display_ofText _) (RawText.display_ofText _))

/-- Names that are texts are the labels. -/
theorem AreTexts.place_labels (areTexts : place.AreTexts) : place.labels.place = place :=
  Prod.ext areTexts.1.eq_display.symm
    (Prod.ext areTexts.2.1.eq_display.symm areTexts.2.2.eq_display.symm)

end Place

/-- The labels of a definition. -/
def Definition.labels (definition : Definition) : Labels :=
  (definition.category, definition.name, definition.version)

/-- The labels of a load failure. -/
def LoadFailure.labels (failure : LoadFailure) : Labels :=
  (failure.category, failure.name, failure.version)

/-- The place of a site. -/
def Site.place (site : Site) : Place :=
  (site.category, site.name, site.version)

/-! ## Subdirectories -/

namespace Discovery

variable {root : RawText} {entries inner : List (RawText × Node)} {name : RawText} {site : Site}

theorem mem_subdirectories :
    (name, inner) ∈ subdirectories entries ↔ (name, .directory inner) ∈ entries := by
  rw [subdirectories, List.mem_mergeSort, List.mem_filterMap]
  constructor
  · rintro ⟨⟨name, node⟩, inEntries, isDirectory⟩
    cases node <;> cases isDirectory
    exact inEntries
  · intro inEntries
    exact ⟨_, inEntries, rfl⟩

/-- Directories that are listed under names of their own are gone through in strictly ascending
order. -/
theorem pairwise_subdirectories (distinct : (Members.keys entries).Nodup) :
    (subdirectories entries).Pairwise fun first second => first.1 < second.1 := by
  have unequal : entries.Pairwise fun first second => first.1 ≠ second.1 :=
    List.pairwise_map.mp distinct
  refine (Sorting.pairwise_mergeSort (R := fun first second => first.1 ≠ second.1) ?_).imp ?_
  · rw [List.pairwise_filterMap]
    refine unequal.imp ?_
    rintro ⟨_, _ | _⟩ ⟨_, _ | _⟩ differ first ⟨⟩ second ⟨⟩
    exact differ
  · rintro first second (less | ⟨same, differ⟩)
    · exact less
    · exact absurd same differ

/-! ## Sites -/

theorem mem_sites :
    site ∈ sites root entries ↔ site.place.Leads entries site.entries ∧
      hasConfiguration site.entries = true ∧ site.directory = site.place.directory root := by
  simp only [sites, List.mem_flatMap, List.mem_map, List.mem_filter, Prod.exists,
    mem_subdirectories]
  constructor
  · rintro ⟨category, names, inRoot, name, versions, inNames, version, inner,
      ⟨inVersions, configured⟩, rfl⟩
    exact ⟨⟨names, versions, inRoot, inNames, inVersions⟩, configured, rfl⟩
  · rintro ⟨⟨names, versions, inRoot, inNames, inVersions⟩, configured, directory⟩
    refine ⟨_, names, inRoot, _, versions, inNames, _, _, ⟨inVersions, configured⟩, ?_⟩
    obtain ⟨category, name, version, path, inner⟩ := site
    obtain rfl : path = Place.directory root (category, name, version) := directory
    rfl

/-- The sites come in the order of their places. -/
theorem pairwise_sites (wellFormed : (Node.directory entries).WellFormed) :
    (sites root entries).Pairwise fun first second => first.place.Before second.place := by
  rw [sites, List.pairwise_flatMap]
  constructor
  · rintro ⟨category, names⟩ inRoot
    have wellFormed := wellFormed.child (mem_subdirectories.mp inRoot)
    rw [List.pairwise_flatMap]
    constructor
    · rintro ⟨name, versions⟩ inNames
      have wellFormed := wellFormed.child (mem_subdirectories.mp inNames)
      rw [List.pairwise_map]
      refine ((pairwise_subdirectories wellFormed.distinct).filter _).imp fun less => ?_
      exact Or.inr ⟨rfl, Or.inr ⟨rfl, less⟩⟩
    · refine (pairwise_subdirectories wellFormed.distinct).imp fun less first isFirst second
        isSecond => ?_
      obtain ⟨-, -, rfl⟩ := List.mem_map.mp isFirst
      obtain ⟨-, -, rfl⟩ := List.mem_map.mp isSecond
      exact Or.inr ⟨rfl, Or.inl less⟩
  · refine (pairwise_subdirectories wellFormed.distinct).imp ?_
    rintro ⟨category, names⟩ ⟨category', names'⟩ less first isFirst second isSecond
    obtain ⟨⟨name, versions⟩, -, isFirst⟩ := List.mem_flatMap.mp isFirst
    obtain ⟨⟨name', versions'⟩, -, isSecond⟩ := List.mem_flatMap.mp isSecond
    obtain ⟨-, -, rfl⟩ := List.mem_map.mp isFirst
    obtain ⟨-, -, rfl⟩ := List.mem_map.mp isSecond
    exact Or.inl less

end Discovery

end FactoryBundler
