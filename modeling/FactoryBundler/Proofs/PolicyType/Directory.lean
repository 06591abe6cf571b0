import FactoryBundler.Proofs.Files.Tree
import FactoryBundler.Proofs.PolicyType.Writes

/-!
# Catalogs that were loaded

A directory of policy bodies is loaded as a whole or not at all. Its bodies are the entries with the
extension `yml` and a stem that is a text; no other entry has any part in it. If every body is a
file with a text, each of them is written under the name of its stem, in the order in which they are
listed, so the last one under a name is the one that is found. Otherwise the first one that is no
such file decides the error.
-/

namespace FactoryBundler.Catalog

variable {catalog loaded : Catalog} {writes : List (String × String)}
  {entry : RawText × Node} {entries rest : List (RawText × Node)} {stem name text : String}
  {error : FileError}

/-! ## Bodies among the entries -/

/-- An entry is a body with this stem: its name is the stem and the extension `yml`. A name that
consists of the extension alone has no stem. -/
def IsBody (entry : RawText × Node) (stem : String) : Prop :=
  stem ≠ "" ∧ entry.1 = RawText.ofText (stem ++ ".yml")

/-- An entry is a body that is registered under this name. -/
def IsBodyFor (entry : RawText × Node) (name : String) : Prop :=
  ∃ stem, IsBody entry stem ∧ PolicyType.name stem = name

/-- An entry is a body. -/
def HasBody (entry : RawText × Node) : Prop :=
  ∃ stem, IsBody entry stem

theorem bodyStem?_eq_some_iff : bodyStem? entry.1 = some stem ↔ IsBody entry stem := by
  have cut : bodyStem? entry.1 = some stem ↔
      Path.splitExtension? entry.1 = some (RawText.ofText stem, RawText.ofText "yml") := by
    rw [bodyStem?]
    split
    · next rawStem extension found =>
      simp only [Option.ite_none_right_eq_some, RawText.text?_eq_some_iff, found,
        Option.some.injEq, Prod.mk.injEq]
      exact and_comm
    · next notCut => simp [notCut]
  have spelled : RawText.ofText (stem ++ ".yml") =
      RawText.ofText stem ++ RawText.ofText "." ++ RawText.ofText "yml" := by
    rw [← RawText.ofText_append, ← RawText.ofText_append, String.append_assoc]
    rfl
  rw [cut, Path.splitExtension?_eq_some_iff, IsBody, spelled, RawText.ofText_injective.ne_iff]
  exact ⟨fun h => ⟨h.1, h.2.2⟩, fun h => ⟨h.1, by decide, h.2⟩⟩

theorem IsBody.stem_eq {stem' : String} (isBody : IsBody entry stem)
    (isBody' : IsBody entry stem') : stem = stem' :=
  Option.some.inj
    ((bodyStem?_eq_some_iff.mpr isBody).symm.trans (bodyStem?_eq_some_iff.mpr isBody'))

theorem IsBody.isBodyFor_iff (isBody : IsBody entry stem) :
    IsBodyFor entry name ↔ PolicyType.name stem = name := by
  constructor
  · rintro ⟨stem', isBody', isName⟩
    rwa [isBody.stem_eq isBody']
  · exact fun isName => ⟨stem, isBody, isName⟩

/-- A body is registered under one name. -/
theorem IsBodyFor.name_eq {other : String} (isBody : IsBodyFor entry name)
    (isBody' : IsBodyFor entry other) : name = other := by
  obtain ⟨stem, isBody, rfl⟩ := isBody
  exact isBody.isBodyFor_iff.mp isBody'

theorem IsBodyFor.hasBody (isBody : IsBodyFor entry name) : HasBody entry := by
  obtain ⟨stem, isBody, -⟩ := isBody
  exact ⟨stem, isBody⟩

instance : DecidablePred HasBody := fun entry =>
  decidable_of_iff ((bodyStem? entry.1).isSome = true) (by
    rw [Option.isSome_iff_exists, HasBody]
    exact exists_congr fun stem => bodyStem?_eq_some_iff)

instance (entry : RawText × Node) (name : String) : Decidable (IsBodyFor entry name) :=
  decidable_of_iff ((bodyStem? entry.1).map PolicyType.name = some name) (by
    rw [Option.map_eq_some_iff, IsBodyFor]
    exact exists_congr fun stem => and_congr_left' bodyStem?_eq_some_iff)

/-- The bodies among the entries, in the order of the listing. -/
def bodies (entries : List (RawText × Node)) : List (RawText × Node) :=
  entries.filter HasBody

/-! ## One entry after the other -/

theorem registerEntries_cons_of_not_hasBody (notBody : ¬ HasBody entry) :
    registerEntries catalog (entry :: rest) = registerEntries catalog rest := by
  have noStem : bodyStem? entry.1 = none := by
    rw [Option.eq_none_iff_forall_ne_some]
    exact fun stem found => notBody ⟨stem, bodyStem?_eq_some_iff.mp found⟩
  obtain ⟨file, node⟩ := entry
  rw [registerEntries, noStem]

theorem registerEntries_cons_of_isBody (isBody : IsBody entry stem) :
    registerEntries catalog (entry :: rest) =
      entry.2.read >>= fun text => registerEntries (catalog.register stem text) rest := by
  have found := bodyStem?_eq_some_iff.mpr isBody
  obtain ⟨file, node⟩ := entry
  rw [registerEntries, found]

theorem registerEntries_cons_of_text (isBody : IsBody entry stem)
    (isText : entry.2 = .file (Text.Utf8.encode text)) :
    registerEntries catalog (entry :: rest) =
      registerEntries (catalog.register stem text) rest := by
  rw [registerEntries_cons_of_isBody isBody, Node.read_eq_ok_iff.mpr isText]
  rfl

/-- Entries that are no bodies have no part in what is registered. -/
theorem registerEntries_bodies (catalog : Catalog) (entries : List (RawText × Node)) :
    registerEntries catalog (bodies entries) = registerEntries catalog entries := by
  induction entries generalizing catalog with
  | nil => rfl
  | cons entry rest ih =>
      by_cases hasBody : HasBody entry
      · obtain ⟨stem, isBody⟩ := hasBody
        rw [bodies, List.filter_cons_of_pos (by simpa using ⟨stem, isBody⟩),
          registerEntries_cons_of_isBody isBody, registerEntries_cons_of_isBody isBody]
        exact congrArg _ (funext fun text => ih _)
      · rw [bodies, List.filter_cons_of_neg (by simpa using hasBody),
          registerEntries_cons_of_not_hasBody hasBody]
        exact ih catalog

/-! ## All or nothing -/

/-- An entry that is a body is a file with a text. -/
def IsReadable (entry : RawText × Node) : Prop :=
  HasBody entry → ∃ text, entry.2 = .file (Text.Utf8.encode text)

/-- The first body in the listing that is no file with a text fails with the error. -/
def FirstUnreadable (entries : List (RawText × Node)) (error : FileError) : Prop :=
  ∃ before entry after, entries = before ++ entry :: after ∧
    (∀ earlier ∈ before, IsReadable earlier) ∧ HasBody entry ∧ entry.2.IsUnreadable error

theorem isReadable_iff_exists_read (hasBody : HasBody entry) :
    IsReadable entry ↔ ∃ text, entry.2.read = .ok text := by
  simp only [IsReadable, hasBody, forall_const, Node.read_eq_ok_iff]

theorem not_firstUnreadable_nil : ¬ FirstUnreadable [] error := by
  rintro ⟨before, entry, after, split, -⟩
  simp at split

theorem firstUnreadable_cons_iff :
    FirstUnreadable (entry :: rest) error ↔
      (HasBody entry ∧ entry.2.IsUnreadable error) ∨
        (IsReadable entry ∧ FirstUnreadable rest error) := by
  constructor
  · rintro ⟨before, fault, after, split, readable, isFault⟩
    cases before with
    | nil =>
        cases split
        exact Or.inl isFault
    | cons earlier before =>
        obtain ⟨rfl, rfl⟩ := List.cons_eq_cons.mp split
        obtain ⟨here, readable⟩ := List.forall_mem_cons.mp readable
        exact Or.inr ⟨here, before, fault, after, rfl, readable, isFault⟩
  · rintro (isFault | ⟨here, before, fault, after, rfl, readable, isFault⟩)
    · exact ⟨[], entry, rest, rfl, nofun, isFault⟩
    · exact ⟨entry :: before, fault, after, rfl, List.forall_mem_cons.mpr ⟨here, readable⟩, isFault⟩

theorem exists_registerEntries_iff :
    (∃ loaded, registerEntries catalog entries = .ok loaded) ↔
      ∀ entry ∈ entries, IsReadable entry := by
  induction entries generalizing catalog with
  | nil => exact ⟨fun _ => nofun, fun _ => ⟨catalog, rfl⟩⟩
  | cons entry rest ih =>
      rw [List.forall_mem_cons]
      by_cases hasBody : HasBody entry
      · rw [isReadable_iff_exists_read hasBody]
        obtain ⟨stem, isBody⟩ := hasBody
        rw [registerEntries_cons_of_isBody isBody]
        simp only [Except.bind_eq_ok_iff]
        constructor
        · rintro ⟨loaded, text, isText, registered⟩
          exact ⟨⟨text, isText⟩, ih.mp ⟨loaded, registered⟩⟩
        · rintro ⟨⟨text, isText⟩, readable⟩
          obtain ⟨loaded, registered⟩ := ih.mpr readable
          exact ⟨loaded, text, isText, registered⟩
      · rw [registerEntries_cons_of_not_hasBody hasBody, ih]
        exact (and_iff_right (absurd · hasBody)).symm

theorem registerEntries_eq_error_iff :
    registerEntries catalog entries = .error error ↔ FirstUnreadable entries error := by
  induction entries generalizing catalog with
  | nil => exact iff_of_false nofun not_firstUnreadable_nil
  | cons entry rest ih =>
      rw [firstUnreadable_cons_iff]
      by_cases hasBody : HasBody entry
      · rw [isReadable_iff_exists_read hasBody, and_iff_right hasBody, ← Node.read_eq_error_iff]
        obtain ⟨stem, isBody⟩ := hasBody
        rw [registerEntries_cons_of_isBody isBody, Except.bind_eq_error_iff]
        simp only [ih, exists_and_right]
      · rw [registerEntries_cons_of_not_hasBody hasBody, ih]
        constructor
        · exact fun later => Or.inr ⟨(absurd · hasBody), later⟩
        · rintro (⟨isBody, -⟩ | ⟨-, later⟩)
          · exact absurd isBody hasBody
          · exact later

/-! ## What is written -/

/-- What an entry writes if it is a body with a text. -/
def writeOf? (entry : RawText × Node) : Option (String × String) :=
  match bodyStem? entry.1, entry.2.read with
  | some stem, .ok text => some (PolicyType.name stem, text)
  | _, _ => none

theorem writeOf?_of_not_hasBody (notBody : ¬ HasBody entry) : writeOf? entry = none := by
  rw [writeOf?]
  split
  · next stem text found _ => exact absurd ⟨stem, bodyStem?_eq_some_iff.mp found⟩ notBody
  · rfl

theorem writeOf?_of_isBody (isBody : IsBody entry stem) (isText : entry.2.read = .ok text) :
    writeOf? entry = some (PolicyType.name stem, text) := by
  rw [writeOf?, bodyStem?_eq_some_iff.mpr isBody, isText]

theorem Holds.registerEntries (holds : catalog.Holds writes)
    (registered : registerEntries catalog entries = .ok loaded) :
    loaded.Holds (writes ++ entries.filterMap writeOf?) := by
  induction entries generalizing catalog writes with
  | nil =>
      cases registered
      rwa [List.filterMap_nil, List.append_nil]
  | cons entry rest ih =>
      by_cases hasBody : HasBody entry
      · obtain ⟨stem, isBody⟩ := hasBody
        rw [registerEntries_cons_of_isBody isBody] at registered
        obtain ⟨text, isText, registered⟩ := Except.bind_eq_ok_iff.mp registered
        rw [List.filterMap_cons_some (writeOf?_of_isBody isBody isText), List.append_cons]
        exact ih (holds.register stem text) registered
      · rw [registerEntries_cons_of_not_hasBody hasBody] at registered
        rw [List.filterMap_cons_none (writeOf?_of_not_hasBody hasBody)]
        exact ih holds registered

/-- The last body in the listing that is registered under the name is a file with the text. -/
def LastBody (entries : List (RawText × Node)) (name text : String) : Prop :=
  ∃ before entry after, entries = before ++ entry :: after ∧ IsBodyFor entry name ∧
    entry.2 = .file (Text.Utf8.encode text) ∧ ∀ later ∈ after, ¬ IsBodyFor later name

theorem lastBody_concat_iff :
    LastBody (entries ++ [entry]) name text ↔
      (IsBodyFor entry name ∧ entry.2 = .file (Text.Utf8.encode text)) ∨
        (¬ IsBodyFor entry name ∧ LastBody entries name text) := by
  constructor
  · rintro ⟨before, body, after, split, isBody, isText, last⟩
    rcases List.eq_nil_or_concat after with rfl | ⟨after, final, rfl⟩
    · obtain ⟨-, same⟩ := List.append_inj' split rfl
      cases same
      exact Or.inl ⟨isBody, isText⟩
    · rw [List.concat_eq_append, ← List.cons_append, ← List.append_assoc] at split
      obtain ⟨rfl, same⟩ := List.append_inj' split rfl
      cases same
      rw [List.concat_eq_append, List.forall_mem_append, List.forall_mem_singleton] at last
      exact Or.inr ⟨last.2, before, body, after, rfl, isBody, isText, last.1⟩
  · rintro (⟨isBody, isText⟩ | ⟨other, before, body, after, rfl, isBody, isText, last⟩)
    · exact ⟨entries, entry, [], rfl, isBody, isText, nofun⟩
    · refine ⟨before, body, after ++ [entry], by simp, isBody, isText, ?_⟩
      rw [List.forall_mem_append, List.forall_mem_singleton]
      exact ⟨last, other⟩

/-- What was written last under a name is the text of the last body for it. -/
theorem lastWritten_eq_some_iff (readable : ∀ entry ∈ entries, IsReadable entry) :
    lastWritten name (entries.filterMap writeOf?) = some text ↔ LastBody entries name text := by
  induction entries using List.reverseRecOn with
  | nil =>
      refine iff_of_false nofun ?_
      rintro ⟨before, entry, after, split, -⟩
      simp at split
  | append_singleton entries entry ih =>
      rw [List.forall_mem_append, List.forall_mem_singleton] at readable
      rw [lastBody_concat_iff, ← ih readable.1, List.filterMap_append]
      by_cases hasBody : HasBody entry
      · obtain ⟨found, isText⟩ := (isReadable_iff_exists_read hasBody).mp readable.2
        obtain ⟨stem, isBody⟩ := hasBody
        rw [List.filterMap_cons_some (writeOf?_of_isBody isBody isText), List.filterMap_nil,
          lastWritten_concat, isBody.isBodyFor_iff, ← Node.read_eq_ok_iff, isText]
        by_cases here : name = PolicyType.name stem
        · simp [here]
        · simp [here, Ne.symm here]
      · have notFor : ¬ IsBodyFor entry name := fun isBody => hasBody isBody.hasBody
        rw [List.filterMap_cons_none (writeOf?_of_not_hasBody hasBody), List.filterMap_nil,
          List.append_nil]
        simp [notFor]

theorem mem_keys_filterMap_writeOf?_iff (readable : ∀ entry ∈ entries, IsReadable entry) :
    name ∈ (entries.filterMap writeOf?).map Prod.fst ↔ ∃ entry ∈ entries, IsBodyFor entry name := by
  simp only [List.mem_map, List.mem_filterMap]
  constructor
  · rintro ⟨_, ⟨entry, inEntries, written⟩, rfl⟩
    by_cases hasBody : HasBody entry
    · obtain ⟨text, isText⟩ := (isReadable_iff_exists_read hasBody).mp (readable entry inEntries)
      obtain ⟨stem, isBody⟩ := hasBody
      cases (writeOf?_of_isBody isBody isText).symm.trans written
      exact ⟨entry, inEntries, stem, isBody, rfl⟩
    · cases (writeOf?_of_not_hasBody hasBody).symm.trans written
  · rintro ⟨entry, inEntries, stem, isBody, rfl⟩
    obtain ⟨text, isText⟩ :=
      (isReadable_iff_exists_read ⟨stem, isBody⟩).mp (readable entry inEntries)
    exact ⟨_, ⟨entry, inEntries, writeOf?_of_isBody isBody isText⟩, rfl⟩

/-! ## Whole directories -/

/-- A catalog holds the bodies of a listing: its names are those under which bodies are registered,
and each of them has the text of the last body for it. -/
structure HoldsBodies (catalog : Catalog) (entries : List (RawText × Node)) : Prop where
  mem_names : ∀ name, name ∈ catalog.names ↔ ∃ entry ∈ entries, IsBodyFor entry name
  lookup_iff : ∀ name text,
    catalog.entries.lookup name = some text ↔ LastBody entries name text
  /-- What is asked for is taken for a spelling, also if it is a name already. -/
  get?_iff : ∀ spelling text,
    catalog.get? spelling = some text ↔ LastBody entries (PolicyType.name spelling) text

/-- What is registered of a listing, starting from nothing, are its bodies. -/
theorem holdsBodies_of_registerEntries (registered : registerEntries empty entries = .ok loaded) :
    loaded.HoldsBodies entries := by
  have readable := exists_registerEntries_iff.mp ⟨loaded, registered⟩
  have holds : loaded.Holds (entries.filterMap writeOf?) := holds_empty.registerEntries registered
  have lookup_iff (name text : String) :
      loaded.entries.lookup name = some text ↔ LastBody entries name text := by
    rw [holds name, lastWritten_eq_some_iff readable]
  refine ⟨fun name => ?_, lookup_iff, fun spelling => lookup_iff (PolicyType.name spelling)⟩
  rw [mem_names_iff, holds name, isSome_lastWritten_iff, mem_keys_filterMap_writeOf?_iff readable]

theorem load_of_directory {workspace : Workspace} {path : RawText}
    (found : workspace path = .ok (.directory entries)) :
    load workspace path = registerEntries empty entries := by
  rw [load, found]
  rfl

/-- A catalog that is taken over leaves everything alone that is not under one of its names. -/
theorem lookup_extend_of_not_mem_names {other : Catalog} (new : name ∉ other.names) :
    (catalog.extend other).entries.lookup name = catalog.entries.lookup name := by
  rw [names] at new
  rw [extend]
  generalize other.entries = writes at new ⊢
  induction writes generalizing catalog with
  | nil => rfl
  | cons write more ih =>
      obtain ⟨key, body⟩ := write
      rw [List.map_cons, List.mem_cons, not_or] at new
      rw [List.foldl_cons, ih new.2]
      exact (lookup_placeAscending name catalog.entries).trans (if_neg new.1)

/-- Why loading a directory fails: there is nothing at its path, or a file, or a body in it that
cannot be read. -/
inductive FailsToLoad (workspace : Workspace) (path : RawText) : FileError → Prop
  | notFound {error : FileError} (missing : workspace path = .error error) :
      FailsToLoad workspace path error
  | notADirectory {content : List UInt8} (found : workspace path = .ok (.file content)) :
      FailsToLoad workspace path .notADirectory
  | unreadable {entries : List (RawText × Node)} {error : FileError}
      (found : workspace path = .ok (.directory entries)) (first : FirstUnreadable entries error) :
      FailsToLoad workspace path error

section Load

variable {workspace other : Workspace} {path otherPath : RawText}
  {entries entries' : List (RawText × Node)}

theorem load_eq_error_iff :
    load workspace path = .error error ↔ FailsToLoad workspace path error := by
  constructor
  · intro failed
    cases found : workspace path with
    | error missing =>
        rw [load, found] at failed
        cases failed
        exact .notFound found
    | ok node =>
        cases node with
        | file content =>
            rw [load, found] at failed
            cases failed
            exact .notADirectory found
        | directory entries =>
            rw [load_of_directory found, registerEntries_eq_error_iff] at failed
            exact .unreadable found failed
  · intro fails
    cases fails with
    | notFound missing =>
        rw [load, missing]
        rfl
    | notADirectory found =>
        rw [load, found]
        rfl
    | unreadable found first =>
        rw [load_of_directory found, registerEntries_eq_error_iff]
        exact first

theorem exists_holdsBodies_of_load (isLoaded : load workspace path = .ok loaded) :
    ∃ entries, workspace path = .ok (.directory entries) ∧ loaded.HoldsBodies entries := by
  obtain ⟨node, found, listed⟩ := Except.bind_eq_ok_iff.mp isLoaded
  cases node with
  | file content => cases listed
  | directory entries => exact ⟨entries, found, holdsBodies_of_registerEntries listed⟩

/-- What is loaded depends on the bodies in the directory alone. -/
theorem load_eq_of_bodies_eq (found : workspace path = .ok (.directory entries))
    (found' : other otherPath = .ok (.directory entries'))
    (same : bodies entries = bodies entries') : load workspace path = load other otherPath := by
  rw [load_of_directory found, load_of_directory found', ← registerEntries_bodies empty entries,
    same, registerEntries_bodies]

end Load

/-- Loading fails exactly for the reasons that there are to fail, with the error of the first body
that cannot be read, and otherwise gives a catalog that holds the bodies of the directory. Entries
that are no bodies never matter, and a catalog that is extended with the one that was loaded keeps
every entry that is not under one of the names that were loaded. -/
theorem load_exact (workspace : Workspace) (path : RawText) :
    (∀ error, load workspace path = .error error ↔ FailsToLoad workspace path error) ∧
    (∀ loaded, load workspace path = .ok loaded →
      (∃ entries, workspace path = .ok (.directory entries) ∧ loaded.HoldsBodies entries) ∧
      ∀ (catalog : Catalog) (name : String), name ∉ loaded.names →
        (catalog.extend loaded).entries.lookup name = catalog.entries.lookup name) ∧
    (∀ (other : Workspace) (otherPath : RawText) (entries entries' : List (RawText × Node)),
      workspace path = .ok (.directory entries) → other otherPath = .ok (.directory entries') →
      bodies entries = bodies entries' → load workspace path = load other otherPath) := by
  refine ⟨fun error => load_eq_error_iff, fun loaded isLoaded => ⟨?_, ?_⟩, ?_⟩
  · exact exists_holdsBodies_of_load isLoaded
  · exact fun catalog name => lookup_extend_of_not_mem_names
  · exact fun other otherPath entries entries' => load_eq_of_bodies_eq

/-- The bytes of a name with the extension `yml` whose stem is no text. -/
def unnamed : RawText := ⟨[0xFF]⟩ ++ ".yml"

/-- A directory with two bodies for one name, and three entries that are none: one without a stem,
one whose stem is no text, and one with another extension. -/
def types : List (RawText × Node) :=
  [("HostSet.yml", .file (Text.Utf8.encode "- !host a\n")), (".yml", .directory []),
    ("host-set.yml", .file (Text.Utf8.encode "- !host b\n")), (unnamed, .directory []),
    ("README.md", .file [0xFF])]

/-- The same directory with a body behind the others that cannot be read. -/
def brokenTypes : List (RawText × Node) :=
  types ++ [(RawText.ofText "a.yml", .directory [])]

theorem load_exact_types :
    (∃ loaded, load (fun _ => .ok (.directory types)) "types" = .ok loaded ∧
      loaded.entries.lookup "host_set" = some "- !host b\n" ∧
      (PolicyType.builtin.extend loaded).entries.lookup "authenticator" =
        some (PolicyType.bodyOf PolicyType.authenticatorLines)) ∧
      load (fun _ => .ok (.directory brokenTypes)) "types" = .error .isADirectory := by
  obtain ⟨-, holds, -⟩ := load_exact (fun _ => .ok (.directory types)) "types"
  obtain ⟨fails, -⟩ := load_exact (fun _ => .ok (.directory brokenTypes)) "types"
  have readable : ∀ entry ∈ types, IsReadable entry := by
    simp only [types, List.forall_mem_cons, List.not_mem_nil, false_implies, implies_true, and_true]
    exact ⟨fun _ => ⟨_, rfl⟩, fun hasBody => absurd hasBody (by decide), fun _ => ⟨_, rfl⟩,
      fun hasBody => absurd hasBody (by decide +kernel),
      fun hasBody => absurd hasBody (by decide)⟩
  obtain ⟨loaded, registered⟩ := exists_registerEntries_iff.mpr readable
  have isLoaded : load (fun _ => .ok (.directory types)) "types" = .ok loaded := registered
  obtain ⟨⟨entries, found, bodies⟩, kept⟩ := holds loaded isLoaded
  cases found
  refine ⟨⟨loaded, isLoaded, ?_, ?_⟩, ?_⟩
  · rw [bodies.lookup_iff]
    exact ⟨types.take 2, _, types.drop 3, rfl, by decide +kernel, rfl, by decide +kernel⟩
  · rw [kept]
    · rfl
    · rw [bodies.mem_names]
      decide +kernel
  · have hasBody : HasBody ("a.yml", .directory []) := ⟨"a", by decide, rfl⟩
    rw [fails]
    exact .unreadable rfl ⟨types, _, [], rfl, readable, hasBody, .directory []⟩

/-- An entry with the extension `yml` that cannot be read does no harm if its stem is no text. And
the text of a body is not found under its name if that is a spelling of another name. -/
theorem not_loads_every_yml :
    Path.splitExtension? unnamed = some (.mk [0xFF], .ofText "yml") ∧
    (Node.file [0xFF]).IsUnreadable .notUtf8 ∧
    load (fun _ => .ok (.directory [(unnamed, .file [0xFF])])) "types" = .ok empty ∧
    ∃ loaded, load (fun _ => .ok (.directory [("Aℂ.yml", .file (Text.Utf8.encode "- !host\n"))]))
        "types" = .ok loaded ∧
      loaded.names = ["aℂ"] ∧ loaded.get? "aℂ" = none := by
  refine ⟨by decide, ?_, ?_, empty.register "Aℂ" "- !host\n", ?_, ?_, ?_⟩
  · rw [← Node.read_eq_error_iff]
    decide +kernel
  · have notBody : ¬ HasBody (unnamed, .file [0xFF]) := by decide +kernel
    rw [load_of_directory rfl, registerEntries_cons_of_not_hasBody notBody, registerEntries]
  · have isBody (text : String) :
        IsBody ("Aℂ.yml", .file (Text.Utf8.encode text)) "Aℂ" := ⟨by decide, rfl⟩
    rw [load_of_directory rfl, registerEntries_cons_of_text (isBody _) rfl, registerEntries]
  · decide +kernel
  · decide +kernel

end FactoryBundler.Catalog
