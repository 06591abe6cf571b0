import FactoryBundler.Proofs.Discovery.Sites
import FactoryBundler.Proofs.Json.ReadGrammar

/-!
# Discovery is exact

What a walk reports is settled by the tree alone, and there by two files of each directory at depth
three. `Place.Gives` says what these files come to; `Discovery.IsAccount` says that a discovery
reports just that, place by place, in the order of the places. There is only one such account, so
the order in which directories are listed has no influence, and neither has any other file.
-/

namespace FactoryBundler

open Text
open Definition (configurationFile templateFile)
open Json (IsDocument)
open Node (FileAt)

/-! ## What the files of a directory come to -/

/-- The failure of the directory at a place. -/
def Place.failure (place : Place) (error : DiscoveryError) : LoadFailure :=
  ⟨place.labels.1, place.labels.2.1, place.labels.2.2, error⟩

/-- The definition in the directory at a place. -/
def Place.definition (root : RawText) (place : Place) (template : Option String)
    (configuration : Json) : Definition :=
  ⟨place.labels.1, place.labels.2.1, place.labels.2.2, place.directory root, template,
    configuration⟩

/-- What the files in the directory at a place come to, the configuration being looked at before the
template. A configuration is a document with arrays and objects in it at most 127 deep. If there is
no configuration file the files come to nothing. -/
inductive Place.Gives (root : RawText) (tree : Node) (place : Place) :
    Except LoadFailure Definition → Prop
  | undecodable {content : List UInt8}
      (configured : FileAt (place.file configurationFile) content tree)
      (noText : ∀ text, content ≠ Utf8.encode text) :
      Gives root tree place <| .error <| place.failure <|
        .unreadable (Path.join (place.directory root) configurationFile) .notUtf8
  | malformed {text : String} {fault : Json.Located Json.Cause}
      (configured : FileAt (place.file configurationFile) (Utf8.encode text) tree)
      (noDocument : ∀ configuration, ¬ IsDocument 127 configuration (Utf8.encode text))
      (isFault : Json.readText text = .error fault) :
      Gives root tree place <| .error <| place.failure <|
        .malformed (Path.join (place.directory root) configurationFile) fault
  | templateUndecodable {text : String} {configuration : Json} {content : List UInt8}
      (configured : FileAt (place.file configurationFile) (Utf8.encode text) tree)
      (isDocument : IsDocument 127 configuration (Utf8.encode text))
      (templated : FileAt (place.file templateFile) content tree)
      (noText : ∀ text, content ≠ Utf8.encode text) :
      Gives root tree place <| .error <| place.failure <|
        .unreadable (Path.join (place.directory root) templateFile) .notUtf8
  | untemplated {text : String} {configuration : Json}
      (configured : FileAt (place.file configurationFile) (Utf8.encode text) tree)
      (isDocument : IsDocument 127 configuration (Utf8.encode text))
      (untemplated : ∀ content, ¬ FileAt (place.file templateFile) content tree) :
      Gives root tree place (.ok (place.definition root none configuration))
  | templated {text template : String} {configuration : Json}
      (configured : FileAt (place.file configurationFile) (Utf8.encode text) tree)
      (isDocument : IsDocument 127 configuration (Utf8.encode text))
      (templated : FileAt (place.file templateFile) (Utf8.encode template) tree) :
      Gives root tree place (.ok (place.definition root (some template) configuration))

namespace Place.Gives

variable {root : RawText} {tree other : Node} {place : Place} {definition : Definition}
  {failure : LoadFailure} {outcome : Except LoadFailure Definition}

theorem exists_fileAt (gives : place.Gives root tree outcome) :
    ∃ content, FileAt (place.file configurationFile) content tree := by
  cases gives <;> exact ⟨_, ‹_›⟩

/-- The files of a directory that holds a configuration file come to something. -/
theorem exists_of_fileAt {content : List UInt8}
    (configured : FileAt (place.file configurationFile) content tree) :
    ∃ outcome, place.Gives root tree outcome := by
  by_cases isText : ∃ text, content = Utf8.encode text
  · obtain ⟨text, rfl⟩ := isText
    cases read : Json.readText text with
    | error fault =>
        refine ⟨_, .malformed configured (fun configuration isDocument => ?_) read⟩
        cases read.symm.trans (Json.readText_eq_ok_iff.mpr isDocument)
    | ok configuration =>
        have isDocument := Json.readText_eq_ok_iff.mp read
        by_cases templated : ∃ content, FileAt (place.file templateFile) content tree
        · obtain ⟨content, templated⟩ := templated
          by_cases isText : ∃ text, content = Utf8.encode text
          · obtain ⟨template, rfl⟩ := isText
            exact ⟨_, .templated configured isDocument templated⟩
          · exact ⟨_, .templateUndecodable configured isDocument templated (not_exists.mp isText)⟩
        · exact ⟨_, .untemplated configured isDocument (not_exists.mp templated)⟩
  · exact ⟨_, .undecodable configured (not_exists.mp isText)⟩

theorem labels_of_ok (gives : place.Gives root tree (.ok definition)) :
    definition.labels = place.labels := by
  cases gives <;> rfl

theorem labels_of_error (gives : place.Gives root tree (.error failure)) :
    failure.labels = place.labels := by
  cases gives <;> rfl

/-- Only the two files that are looked at count. -/
theorem congr (gives : place.Gives root tree outcome)
    (same : ∀ name ∈ [configurationFile, templateFile], ∀ content,
      FileAt (place.file name) content tree ↔ FileAt (place.file name) content other) :
    place.Gives root other outcome := by
  have configuration := same configurationFile (by decide)
  have template := same templateFile (by decide)
  cases gives with
  | undecodable configured noText => exact .undecodable ((configuration _).mp configured) noText
  | malformed configured noDocument isFault =>
      exact .malformed ((configuration _).mp configured) noDocument isFault
  | templateUndecodable configured isDocument templated noText =>
      exact .templateUndecodable ((configuration _).mp configured) isDocument
        ((template _).mp templated) noText
  | untemplated configured isDocument untemplated =>
      refine .untemplated ((configuration _).mp configured) isDocument fun content templated => ?_
      exact untemplated content ((template _).mpr templated)
  | templated configured isDocument templated =>
      exact .templated ((configuration _).mp configured) isDocument ((template _).mp templated)

end Place.Gives

/-! ## Reading the two files -/

namespace Definition

variable {directory : RawText} {entries : List (RawText × Node)} {text : String}
  {content : List UInt8}

theorem readConfiguration_of_text
    (found : entries.lookup configurationFile = some (.file (Utf8.encode text))) :
    readConfiguration directory entries =
      (Json.readText text).mapError (.malformed (Path.join directory configurationFile)) := by
  rw [readConfiguration, found]
  simp only [Node.read_file_encode]
  rfl

theorem readConfiguration_of_noText
    (found : entries.lookup configurationFile = some (.file content))
    (noText : ∀ text, content ≠ Utf8.encode text) :
    readConfiguration directory entries =
      .error (.unreadable (Path.join directory configurationFile) .notUtf8) := by
  rw [readConfiguration, found]
  simp only [Node.read_file_of_forall_ne noText]
  rfl

theorem readTemplate_of_text
    (found : entries.lookup templateFile = some (.file (Utf8.encode text))) :
    readTemplate directory entries = .ok (some text) := by
  rw [readTemplate, found]
  simp only [Node.read_file_encode]
  rfl

theorem readTemplate_of_noText (found : entries.lookup templateFile = some (.file content))
    (noText : ∀ text, content ≠ Utf8.encode text) :
    readTemplate directory entries =
      .error (.unreadable (Path.join directory templateFile) .notUtf8) := by
  rw [readTemplate, found]
  simp only [Node.read_file_of_forall_ne noText]
  rfl

theorem readTemplate_of_noFile
    (noFile : ∀ content, entries.lookup templateFile ≠ some (.file content)) :
    readTemplate directory entries = .ok none := by
  rw [readTemplate]
  split
  · next found => exact absurd found (noFile _)
  · rfl

end Definition

/-! ## What a site gives -/

namespace Site

open Discovery (sites)

variable {root : RawText} {entries : List (RawText × Node)} {site : Site}
  {outcome : Except LoadFailure Definition}

theorem lookup_eq_some_file_iff (wellFormed : (Node.directory entries).WellFormed)
    (inSites : site ∈ sites root entries) {name : RawText} {content : List UInt8} :
    site.entries.lookup name = some (.file content) ↔
      FileAt (site.place.file name) content (.directory entries) := by
  have leads := (Discovery.mem_sites.mp inSites).1
  rw [Members.lookup_eq_some_iff_mem (leads.wellFormed wellFormed).distinct, Place.fileAt_file_iff]
  constructor
  · intro inSite
    exact ⟨site.entries, leads, inSite⟩
  · rintro ⟨inner, leads', inInner⟩
    exact leads'.unique leads wellFormed ▸ inInner

/-- Loading a site takes from its files what they come to. -/
theorem load_eq (wellFormed : (Node.directory entries).WellFormed)
    (inSites : site ∈ sites root entries)
    (gives : site.place.Gives root (.directory entries) outcome) : site.load = outcome := by
  have directory := (Discovery.mem_sites.mp inSites).2.2
  have found {name : RawText} {content : List UInt8}
      (file : FileAt (site.place.file name) content (.directory entries)) :
      site.entries.lookup name = some (.file content) :=
    (lookup_eq_some_file_iff wellFormed inSites).mpr file
  rw [load, Definition.ofEntries, directory]
  cases gives with
  | undecodable configured noText =>
      rw [Definition.readConfiguration_of_noText (found configured) noText]
      rfl
  | malformed configured noDocument isFault =>
      rw [Definition.readConfiguration_of_text (found configured), isFault]
      rfl
  | templateUndecodable configured isDocument templated noText =>
      rw [Definition.readConfiguration_of_text (found configured),
        Json.readText_eq_ok_iff.mpr isDocument,
        Definition.readTemplate_of_noText (found templated) noText]
      rfl
  | untemplated configured isDocument untemplated =>
      have noFile : ∀ content, site.entries.lookup templateFile ≠ some (.file content) :=
        fun content isFile =>
          untemplated content ((lookup_eq_some_file_iff wellFormed inSites).mp isFile)
      rw [Definition.readConfiguration_of_text (found configured),
        Json.readText_eq_ok_iff.mpr isDocument, Definition.readTemplate_of_noFile noFile]
      rfl
  | templated configured isDocument templated =>
      rw [Definition.readConfiguration_of_text (found configured),
        Json.readText_eq_ok_iff.mpr isDocument,
        Definition.readTemplate_of_text (found templated)]
      rfl

theorem gives_load (wellFormed : (Node.directory entries).WellFormed)
    (inSites : site ∈ sites root entries) :
    site.place.Gives root (.directory entries) site.load := by
  obtain ⟨leads, configured, -⟩ := Discovery.mem_sites.mp inSites
  rw [Discovery.hasConfiguration] at configured
  split at configured
  · next content found =>
    obtain ⟨outcome, gives⟩ := Place.Gives.exists_of_fileAt
      ((lookup_eq_some_file_iff wellFormed inSites).mp found)
    rwa [load_eq wellFormed inSites gives]
  · cases configured

end Site

/-! ## What a walk reports -/

/-- The labels of everything that a discovery reports. -/
def Discovery.labels (discovery : Discovery) : List Labels :=
  discovery.definitions.map Definition.labels ++ discovery.failures.map LoadFailure.labels

namespace Discovery

/-- Places and what is reported of them. -/
abbrev Account : Type := List (Place × Except LoadFailure Definition)

/-- The places of an account. -/
def Account.places (account : Account) : List Place :=
  account.map Prod.fst

/-- What is reported of chosen places. -/
def Account.keep (chosen : Place → Bool) (account : Account) : Account :=
  account.filter fun element => chosen element.1

/-- A discovery reports what the files of a tree come to, place by place. -/
structure IsAccount (root : RawText) (tree : Node) (discovery : Discovery) (account : Account) :
    Prop where
  /-- The places are those of the directories at depth three with a configuration file. -/
  mem_places : ∀ place, place ∈ account.places ↔
    ∃ content, FileAt (place.file configurationFile) content tree
  /-- What is reported of a place is what its files come to. -/
  mem_iff : ∀ place outcome, (place, outcome) ∈ account ↔ place.Gives root tree outcome
  /-- The places are in strictly ascending order, so there is one element for each of them. -/
  ascending : account.places.Pairwise Place.Before
  /-- The definitions are what is reported of the places whose files give one. -/
  definitions_eq : discovery.definitions = account.filterMap fun element => element.2.toOption
  /-- The failures are what is reported of all the other places. -/
  failures_eq : discovery.failures = account.filterMap fun element => Except.fault? element.2

variable {root : RawText} {entries : List (RawText × Node)} {tree tree' : Node}
  {discovery discovery' : Discovery} {account account' : Account} {place : Place}
  {outcome : Except LoadFailure Definition}

/-- What the sites under a root come to. -/
def accountOf (root : RawText) (entries : List (RawText × Node)) : Account :=
  (sites root entries).map fun site => (site.place, site.load)

theorem places_accountOf :
    (accountOf root entries).places = (sites root entries).map Site.place := by
  rw [Account.places, accountOf, List.map_map]
  rfl

theorem exists_site {content : List UInt8} (wellFormed : (Node.directory entries).WellFormed)
    (configured : FileAt (place.file configurationFile) content (.directory entries)) :
    ∃ site ∈ sites root entries, site.place = place := by
  obtain ⟨inner, leads, inInner⟩ := Place.fileAt_file_iff.mp configured
  refine ⟨⟨place.1, place.2.1, place.2.2, place.directory root, inner⟩, ?_, rfl⟩
  refine mem_sites.mpr ⟨leads, ?_, rfl⟩
  have distinct := (leads.wellFormed wellFormed).distinct
  rw [hasConfiguration, (Members.lookup_eq_some_iff_mem distinct).mpr inInner]

/-- What the files of a directory come to is what its site is loaded to. -/
theorem mem_accountOf_iff (wellFormed : (Node.directory entries).WellFormed) :
    (place, outcome) ∈ accountOf root entries ↔ place.Gives root (.directory entries) outcome := by
  rw [accountOf, List.mem_map]
  constructor
  · rintro ⟨site, inSites, isElement⟩
    cases isElement
    exact site.gives_load wellFormed inSites
  · intro gives
    obtain ⟨content, configured⟩ := gives.exists_fileAt
    obtain ⟨site, inSites, rfl⟩ : ∃ site ∈ sites root entries, site.place = place :=
      exists_site wellFormed configured
    exact ⟨site, inSites, Prod.ext rfl (site.load_eq wellFormed inSites gives)⟩

theorem isAccount_ofSites (root : RawText) (wellFormed : (Node.directory entries).WellFormed) :
    (ofSites (sites root entries)).IsAccount root (.directory entries)
      (accountOf root entries) where
  mem_places place := by
    rw [places_accountOf, List.mem_map]
    constructor
    · rintro ⟨site, inSites, rfl⟩
      exact (site.gives_load wellFormed inSites).exists_fileAt
    · rintro ⟨content, configured⟩
      exact exists_site wellFormed configured
  mem_iff _ _ := mem_accountOf_iff wellFormed
  ascending := by
    rw [places_accountOf, List.pairwise_map]
    exact pairwise_sites wellFormed
  definitions_eq := by
    rw [accountOf, List.filterMap_map]
    refine List.filterMap_congr fun site _ => ?_
    rw [Function.comp_apply]
    cases site.load <;> rfl
  failures_eq := by
    rw [accountOf, List.filterMap_map]
    refine List.filterMap_congr fun site _ => ?_
    rw [Function.comp_apply]
    cases site.load <;> rfl

namespace IsAccount

theorem mem_definitions (isAccount : discovery.IsAccount root tree account)
    {definition : Definition} :
    definition ∈ discovery.definitions ↔ ∃ place, (place, .ok definition) ∈ account := by
  rw [isAccount.definitions_eq, List.mem_filterMap]
  simp [Except.toOption_eq_some_iff]

theorem mem_failures (isAccount : discovery.IsAccount root tree account) {failure : LoadFailure} :
    failure ∈ discovery.failures ↔ ∃ place, (place, .error failure) ∈ account := by
  rw [isAccount.failures_eq, List.mem_filterMap]
  simp [Except.fault?_eq_some_iff]

theorem pairwise (isAccount : discovery.IsAccount root tree account) :
    account.Pairwise fun first second => first.1.Before second.1 :=
  List.pairwise_map.mp isAccount.ascending

theorem nodup_places (isAccount : discovery.IsAccount root tree account) :
    account.places.Nodup :=
  isAccount.ascending.imp fun {first second} before (equal : first = second) =>
    first.not_before_self (by rwa [← equal] at before)

end IsAccount

/-! ## The order of the labels -/

/-- What is picked from an account is in the order of its labels, if these are the names on the way
to its place. -/
theorem IsAccount.pairwise_filterMap {α : Type} {labelsOf : α → Labels}
    {pick : Place × Except LoadFailure Definition → Option α}
    (isAccount : discovery.IsAccount root tree account)
    (areTexts : ∀ place ∈ account.places, place.AreTexts)
    (carried : ∀ element ∈ account, ∀ a, pick element = some a →
      labelsOf a = element.1.labels) :
    (account.filterMap pick).Pairwise fun first second =>
      (labelsOf first).Before (labelsOf second) := by
  rw [List.pairwise_filterMap]
  refine isAccount.pairwise.imp_of_mem ?_
  intro first second reported reported' before a picked a' picked'
  have texts := areTexts _ (List.mem_map_of_mem reported)
  have texts' := areTexts _ (List.mem_map_of_mem reported')
  rwa [carried _ reported a picked, carried _ reported' a' picked', Labels.Before,
    texts.place_labels, texts'.place_labels]

/-- Of the files that are looked at, two trees hold the same in the chosen directories. -/
def AgreeOn (chosen : Place → Bool) (tree other : Node) : Prop :=
  ∀ place, chosen place = true → ∀ name ∈ [configurationFile, templateFile], ∀ content,
    FileAt (place.file name) content tree ↔ FileAt (place.file name) content other

variable {chosen : Place → Bool}

theorem AgreeOn.symm (agree : AgreeOn chosen tree tree') : AgreeOn chosen tree' tree :=
  fun place isChosen name looked content => (agree place isChosen name looked content).symm

/-- What is reported of some directories depends on the files in them alone. -/
theorem IsAccount.keep_eq (isAccount : discovery.IsAccount root tree account)
    (isAccount' : discovery'.IsAccount root tree' account') (agree : AgreeOn chosen tree tree') :
    account.keep chosen = account'.keep chosen := by
  have same {place : Place} (isChosen : chosen place = true)
      (outcome : Except LoadFailure Definition) :
      place.Gives root tree outcome ↔ place.Gives root tree' outcome :=
    ⟨fun gives => gives.congr (agree place isChosen),
      fun gives => gives.congr (agree.symm place isChosen)⟩
  refine Sorting.eq_of_mem_iff (fun _ _ => Place.Before.not_after) (isAccount.pairwise.filter _)
    (isAccount'.pairwise.filter _) ?_
  rintro ⟨place, outcome⟩
  rw [Account.keep, Account.keep, List.mem_filter, List.mem_filter, isAccount.mem_iff,
    isAccount'.mem_iff]
  exact and_congr_left fun isChosen => same isChosen outcome

/-- There is one account of the files that a tree holds. -/
theorem IsAccount.unique (isAccount : discovery.IsAccount root tree account)
    (isAccount' : discovery'.IsAccount root tree' account')
    (same : ∀ path content, FileAt path content tree ↔ FileAt path content tree') :
    account = account' ∧ discovery = discovery' := by
  have all (account : Account) : account.keep (fun _ => true) = account := List.filter_true account
  have sameAccount : account = account' := by
    rw [← all account, ← all account']
    exact isAccount.keep_eq isAccount' fun _ _ _ _ _ => same _ _
  refine ⟨sameAccount, ?_⟩
  obtain ⟨definitions, failures⟩ := discovery
  obtain ⟨definitions', failures'⟩ := discovery'
  obtain rfl := sameAccount
  have definitions_eq : definitions = definitions' :=
    isAccount.definitions_eq.trans isAccount'.definitions_eq.symm
  have failures_eq : failures = failures' :=
    isAccount.failures_eq.trans isAccount'.failures_eq.symm
  rw [definitions_eq, failures_eq]

/-! ## The walk -/

variable {workspace workspace' : Workspace}

theorem walk_of_directory (listed : workspace root = .ok (.directory entries)) :
    walk workspace root = .ok (ofSites (sites root entries)) := by
  rw [walk, listed]
  rfl

/-- The entries of a root with two directories at depth three. In the first a directory has the name
of the configuration file. -/
def twoVersions : List (RawText × Node) :=
  [("app", .directory [("db", .directory [
    ("v2", .directory [("config.json", .directory [])]),
    ("v1", .directory [("config.json", .file (Utf8.encode "\x7b\x7d"))])])])]

theorem fileAt_twoVersions :
    FileAt (Place.file (Labels.place ("app", "db", "v1")) configurationFile)
      (Utf8.encode "\x7b\x7d") (.directory twoVersions) :=
  .inside (.head _) (.inside (.head _) (.inside (.tail _ (.head _)) (.inside (.head _) (.here _))))

/-- Arrays in arrays, one more than the number says. -/
def nested : Nat → Json
  | 0 => .array []
  | levels + 1 => .array [nested levels]

/-- A category with one factory, whose configuration file has this content. -/
def category (content : List UInt8) : Node :=
  .directory [("db", .directory [("v1", .directory [("config.json", .file content)])])]

theorem fileAt_category (content : List UInt8) :
    FileAt ["db", "v1", configurationFile] content (category content) :=
  .inside (.head _) (.inside (.head _) (.inside (.head _) (.here _)))

/-- The entries of a root with two factories. The names of their categories are no texts, and they
are shown alike. -/
def lookalikes : List (RawText × Node) :=
  [(⟨[0xFE]⟩, category (Utf8.encode "\x7b\x7d")), (⟨[0xFF]⟩, category (Utf8.encode "\x7b\x7d"))]

/-- The place of the factory whose category has the byte for a name. -/
def lookalike (byte : UInt8) : Place := (⟨[byte]⟩, "db", "v1")

theorem fileAt_lookalike {byte : UInt8} (isByte : byte = 0xFE ∨ byte = 0xFF) :
    FileAt ((lookalike byte).file configurationFile) (Utf8.encode "\x7b\x7d")
      (.directory lookalikes) := by
  rcases isByte with rfl | rfl
  · exact .inside (.head _) (fileAt_category _)
  · exact .inside (.tail _ (.head _)) (fileAt_category _)

theorem wellFormed_lookalikes : (Node.directory lookalikes).WellFormed := by
  decide

/-- Of lookalikes nothing but the configuration can be read. -/
theorem gives_lookalike {byte : UInt8} (isByte : byte = 0xFE ∨ byte = 0xFF) (root : RawText) :
    (lookalike byte).Gives root (.directory lookalikes)
      (.ok ((lookalike byte).definition root none (.object []))) := by
  have isDocument : IsDocument 127 (.object []) (Utf8.encode "\x7b\x7d") :=
    Json.readText_eq_ok_iff.mp rfl
  refine .untemplated (fileAt_lookalike isByte) isDocument fun content templated => ?_
  rcases isByte with rfl | rfl <;>
    simp [lookalike, lookalikes, category, Place.file, templateFile, Node.fileAt_cons_iff,
      Node.fileAt_nil_iff] at templated

end Discovery

end FactoryBundler
