import FactoryBundler.Proofs.PolicyType.Catalog
import FactoryBundler.Proofs.Text.ByteOrder
import FactoryBundler.Session

/-!
# Catalogs as records of writes

A catalog comes about from nothing or from the policy types of the program, by registering bodies
and by taking over other catalogs that came about in the same way. Whatever it went through, it
holds what was written last under each key. Registering writes under the name of a spelling;
extending writes the other catalog's entries under their keys as they stand.
-/

namespace FactoryBundler

namespace Catalog

section Step

variable {catalog : Catalog} {writes : List (String × String)} {key : String}

/-- The body that was written last under a key. -/
def lastWritten (key : String) (writes : List (String × String)) : Option String :=
  (writes.reverse.find? fun write => write.1 == key).map (·.2)

theorem lastWritten_concat (key : String) (writes : List (String × String))
    (write : String × String) :
    lastWritten key (writes ++ [write]) =
      if key = write.1 then some write.2 else lastWritten key writes := by
  rw [lastWritten, List.reverse_append, List.reverse_singleton, List.singleton_append,
    List.find?_cons]
  by_cases here : key = write.1
  · simp [here]
  · rw [if_neg here, beq_false_of_ne (Ne.symm here), lastWritten]

theorem isSome_lastWritten_iff :
    (lastWritten key writes).isSome = true ↔ key ∈ writes.map Prod.fst := by
  simp [lastWritten, List.find?_isSome]

/-! ## What one step preserves -/

/-- The catalog holds under each key what was written last under it, and nothing else. -/
def Holds (catalog : Catalog) (writes : List (String × String)) : Prop :=
  ∀ key, catalog.entries.lookup key = lastWritten key writes

theorem holds_empty : empty.Holds [] := fun _ => rfl

theorem Holds.set (holds : catalog.Holds writes) (key body : String) :
    (catalog.set key body).Holds (writes ++ [(key, body)]) := by
  intro asked
  rw [lastWritten_concat, ← holds asked]
  exact lookup_placeAscending asked catalog.entries

theorem Holds.register (holds : catalog.Holds writes) (spelling body : String) :
    (catalog.register spelling body).Holds (writes ++ [(PolicyType.name spelling, body)]) :=
  holds.set (PolicyType.name spelling) body

/-- Taking over entries one after the other writes each of them. -/
theorem Holds.setAll (holds : catalog.Holds writes) (entries : List (String × String)) :
    (entries.foldl (fun catalog (key, body) => catalog.set key body) catalog).Holds
      (writes ++ entries) := by
  induction entries generalizing catalog writes with
  | nil =>
      rw [List.append_nil]
      exact holds
  | cons entry entries ih =>
      obtain ⟨key, body⟩ := entry
      rw [List.append_cons]
      exact ih (holds.set key body)

theorem Holds.extend (holds : catalog.Holds writes) (other : Catalog) :
    (catalog.extend other).Holds (writes ++ other.entries) :=
  holds.setAll other.entries

end Step

/-! ## Whole histories -/

/-- How a catalog came about. -/
inductive History where
  | empty
  | builtin
  | register (before : History) (spelling body : String)
  | extend (before other : History)

/-- The catalog that came about. -/
def History.catalog : History → Catalog
  | .empty => Catalog.empty
  | .builtin => PolicyType.builtin
  | .register before spelling body => before.catalog.register spelling body
  | .extend before other => before.catalog.extend other.catalog

/-- The writes in the order in which they were made, with the keys that they were made under. An
extension makes one for each entry of the other catalog. -/
def History.writes : History → List (String × String)
  | .empty => []
  | .builtin =>
    [("authenticator", PolicyType.bodyOf PolicyType.authenticatorLines),
      ("variable_set", PolicyType.bodyOf PolicyType.variableSetLines)]
  | .register before spelling body => before.writes ++ [(PolicyType.name spelling, body)]
  | .extend before other => before.writes ++ other.catalog.entries

theorem holds_builtin : PolicyType.builtin.Holds History.builtin.writes := by
  have names : PolicyType.name "authenticator" = "authenticator" ∧
      PolicyType.name "variable-set" = "variable_set" := by
    decide +kernel
  have holds := (holds_empty.register "authenticator"
    (PolicyType.bodyOf PolicyType.authenticatorLines)).register "variable-set"
      (PolicyType.bodyOf PolicyType.variableSetLines)
  rwa [names.1, names.2] at holds

theorem History.holds_writes (history : History) : history.catalog.Holds history.writes := by
  induction history with
  | empty => exact holds_empty
  | builtin => exact holds_builtin
  | register before spelling body ih => exact ih.register spelling body
  | extend before other ih _ => exact ih.extend other.catalog

/-! ## What can be seen of a catalog -/

theorem mem_names_iff {catalog : Catalog} {key : String} :
    key ∈ catalog.names ↔ (catalog.entries.lookup key).isSome = true := by
  simp [names, List.lookup_isSome_iff]

/-- What can be seen of a catalog that records the writes: a look-up finds the last write under the
name of what it is given, the names are the keys that were written, each of them once and in the
order of their bytes, and there are as many as the catalog says. -/
structure Records (catalog : Catalog) (writes : List (String × String)) : Prop where
  get?_eq : ∀ spelling, catalog.get? spelling = lastWritten (PolicyType.name spelling) writes
  ascending : catalog.names.Pairwise fun first second =>
    Text.Utf8.encode first < Text.Utf8.encode second
  mem_names : ∀ key, key ∈ catalog.names ↔ key ∈ writes.map Prod.fst
  size_eq : catalog.size = catalog.names.length
  isEmpty_iff : catalog.isEmpty = true ↔ catalog.names = []

theorem Holds.records {catalog : Catalog} {writes : List (String × String)}
    (holds : catalog.Holds writes) : catalog.Records writes where
  get?_eq spelling := holds (PolicyType.name spelling)
  ascending := by
    refine catalog.ascending.imp ?_
    intro first second before
    exact Text.Utf8.encode_lt_encode_iff.mpr before
  mem_names key := by rw [mem_names_iff, holds key, isSome_lastWritten_iff]
  size_eq := (List.length_map Prod.fst).symm
  isEmpty_iff := by rw [isEmpty, List.isEmpty_iff, names, List.map_eq_nil_iff]

/-- A catalog records all writes of its history, the last one under each key being the one that
counts. A directory that cannot be loaded leaves the catalog, and so everything that can be seen of
it, as it was. -/
theorem history_records (history : History) :
    history.catalog.Records history.writes ∧
    ∀ (workspace : Workspace) (directory : String) (error : FileError),
      load workspace directory = .error error →
      (Session.Step.load directory).run workspace history.catalog =
        (history.catalog, .unreadable error) := by
  refine ⟨history.holds_writes.records, fun workspace directory error failed => ?_⟩
  rw [Session.Step.run]
  simp only [failed]

/-- A host set is written, taken over by a catalog that has one, and written again. -/
def rewritten : History :=
  ((History.builtin.register "HostSet" "- !host old\n").extend
    (History.empty.register "host-set" "- !host other\n")).register "authenticator" "- !user\n"

theorem rewritten_records :
    rewritten.catalog.get? "Host Set" = some "- !host other\n" ∧
      "host_set" ∈ rewritten.catalog.names ∧
      (Session.Step.load "types").run (Node.resolve (.directory [])) rewritten.catalog =
        (rewritten.catalog, .unreadable .notFound) := by
  obtain ⟨records, unreadable⟩ := history_records rewritten
  refine ⟨?_, ?_, ?_⟩
  · rw [records.get?_eq]
    decide +kernel
  · rw [records.mem_names]
    decide +kernel
  · exact unreadable _ "types" .notFound (by rfl)

end Catalog

end FactoryBundler
