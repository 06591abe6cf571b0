import FactoryBundler.Files.Tree
import FactoryBundler.Proofs.Except
import FactoryBundler.Proofs.Files.Path
import FactoryBundler.Proofs.Json.Members
import FactoryBundler.Proofs.Text.Utf8

/-!
# Laws of file trees

A tree is well-formed if every directory in it names its entries once and gives them names that an
entry can have. What a tree holds are the files at its paths; the order in which its directories are
listed is no part of that.
-/

namespace FactoryBundler.Node

variable {entries others : List (RawText × Node)} {node other : Node} {name : RawText}
  {path : List RawText} {content : List UInt8}

/-! ## Well-formed trees -/

mutual

/-- Whether every directory in the tree names its entries once, by names that an entry can have. -/
def namesEntriesOnce : Node → Bool
  | .file _ => true
  | .directory entries => decide (entries.map Prod.fst).Nodup && entriesNameOnce entries

/-- Whether the entries have names that an entry can have, and so has everything below them. -/
def entriesNameOnce : List (RawText × Node) → Bool
  | [] => true
  | (name, node) :: more =>
    decide (Path.IsName name) && namesEntriesOnce node && entriesNameOnce more

end

/-- A tree as a file system holds it. -/
def WellFormed (node : Node) : Prop :=
  node.namesEntriesOnce = true

instance : DecidablePred WellFormed :=
  fun node => inferInstanceAs (Decidable (node.namesEntriesOnce = true))

theorem entriesNameOnce_iff :
    entriesNameOnce entries = true ↔
      ∀ entry ∈ entries, Path.IsName entry.1 ∧ entry.2.WellFormed := by
  induction entries with
  | nil => simp [entriesNameOnce]
  | cons entry more ih =>
      obtain ⟨name, node⟩ := entry
      simp [entriesNameOnce, ih, WellFormed]

theorem wellFormed_directory_iff :
    (directory entries).WellFormed ↔ (Members.keys entries).Nodup ∧
      ∀ entry ∈ entries, Path.IsName entry.1 ∧ entry.2.WellFormed := by
  rw [WellFormed, namesEntriesOnce, Bool.and_eq_true, decide_eq_true_eq, entriesNameOnce_iff,
    Members.keys]

theorem WellFormed.distinct (wellFormed : (directory entries).WellFormed) :
    (Members.keys entries).Nodup :=
  (wellFormed_directory_iff.mp wellFormed).1

theorem WellFormed.isName (wellFormed : (directory entries).WellFormed)
    (inEntries : (name, node) ∈ entries) : Path.IsName name :=
  ((wellFormed_directory_iff.mp wellFormed).2 _ inEntries).1

theorem WellFormed.child (wellFormed : (directory entries).WellFormed)
    (inEntries : (name, node) ∈ entries) : node.WellFormed :=
  ((wellFormed_directory_iff.mp wellFormed).2 _ inEntries).2

/-- A directory has one entry of a name. -/
theorem WellFormed.entry_unique (wellFormed : (directory entries).WellFormed)
    (inEntries : (name, node) ∈ entries) (inEntries' : (name, other) ∈ entries) : node = other := by
  rw [← Members.lookup_eq_some_iff_mem wellFormed.distinct] at inEntries inEntries'
  exact Option.some.inj (inEntries.symm.trans inEntries')

/-! ## The files of a tree -/

/-- A tree holds a file with this content at the path that goes through these names. -/
inductive FileAt : List RawText → List UInt8 → Node → Prop
  | here (content : List UInt8) : FileAt [] content (.file content)
  | inside {name : RawText} {path : List RawText} {content : List UInt8} {node : Node}
      {entries : List (RawText × Node)} : (name, node) ∈ entries → FileAt path content node →
      FileAt (name :: path) content (.directory entries)

theorem fileAt_nil_iff : FileAt [] content node ↔ node = .file content := by
  constructor
  · rintro (_ | _)
    rfl
  · rintro rfl
    exact .here content

theorem fileAt_cons_iff :
    FileAt (name :: path) content (.directory entries) ↔
      ∃ node, (name, node) ∈ entries ∧ FileAt path content node := by
  constructor
  · rintro (_ | ⟨inEntries, below⟩)
    exact ⟨_, inEntries, below⟩
  · rintro ⟨node, inEntries, below⟩
    exact .inside inEntries below

theorem read_file_encode (text : String) : (file (Text.Utf8.encode text)).read = .ok text := by
  rw [read, Text.Utf8.decode_encode]
  rfl

/-- Bytes that are no encoding of a text cannot be read. -/
theorem read_file_of_forall_ne (noText : ∀ text, content ≠ Text.Utf8.encode text) :
    (file content).read = .error .notUtf8 := by
  rw [read]
  cases decoded : Text.Utf8.decode content with
  | error fault => rfl
  | ok text => exact absurd (Text.Utf8.decode_eq_ok_iff.mp decoded) (noText text)

/-- Why a node cannot be read as text: it is a directory, or its bytes are those of no text. -/
inductive IsUnreadable : Node → FileError → Prop
  | directory (entries : List (RawText × Node)) : IsUnreadable (.directory entries) .isADirectory
  | notText {content : List UInt8} (noText : ∀ text, content ≠ Text.Utf8.encode text) :
      IsUnreadable (.file content) .notUtf8

theorem read_eq_ok_iff {text : String} :
    node.read = .ok text ↔ node = .file (Text.Utf8.encode text) := by
  constructor
  · intro taken
    cases node with
    | file content =>
        rw [read, Except.mapError_eq_ok_iff, Text.Utf8.decode_eq_ok_iff] at taken
        rw [taken]
    | directory entries => cases taken
  · rintro rfl
    exact read_file_encode text

theorem read_eq_error_iff {error : FileError} :
    node.read = .error error ↔ node.IsUnreadable error := by
  constructor
  · intro failed
    cases node with
    | file content =>
        have noText : ∀ text, content ≠ Text.Utf8.encode text := by
          rintro text rfl
          rw [read_file_encode] at failed
          cases failed
        rw [read_file_of_forall_ne noText] at failed
        cases failed
        exact .notText noText
    | directory entries =>
        cases failed
        exact .directory entries
  · intro isUnreadable
    cases isUnreadable with
    | directory entries => rfl
    | notText noText => exact read_file_of_forall_ne noText

/-! ## The order in which directories are listed -/

/-- Two trees differ in the order in which their directories are listed, if at all: one comes from
the other by listing directories anywhere in it in other orders. -/
inductive Relisted : Node → Node → Prop
  | refl (node : Node) : Relisted node node
  | listed {entries others : List (RawText × Node)} : entries.Perm others →
      Relisted (.directory entries) (.directory others)
  | inside {name : RawText} {node other : Node} {before after : List (RawText × Node)} :
      Relisted node other →
      Relisted (.directory (before ++ (name, node) :: after))
        (.directory (before ++ (name, other) :: after))
  | trans {first second third : Node} : Relisted first second → Relisted second third →
      Relisted first third

theorem Relisted.wellFormed (relisted : Relisted node other) (wellFormed : node.WellFormed) :
    other.WellFormed := by
  induction relisted with
  | refl node => exact wellFormed
  | listed perm =>
      rw [wellFormed_directory_iff] at wellFormed ⊢
      refine ⟨(perm.map Prod.fst).nodup_iff.mp wellFormed.1, fun entry inOthers => ?_⟩
      exact wellFormed.2 entry (perm.mem_iff.mpr inOthers)
  | inside _ ih =>
      rw [wellFormed_directory_iff] at wellFormed ⊢
      simp only [List.forall_mem_append, List.forall_mem_cons, Members.keys, List.map_append,
        List.map_cons] at wellFormed ⊢
      obtain ⟨distinct, before, ⟨isName, child⟩, after⟩ := wellFormed
      exact ⟨distinct, before, ⟨isName, ih child⟩, after⟩
  | trans _ _ first second => exact second (first wellFormed)

end FactoryBundler.Node
