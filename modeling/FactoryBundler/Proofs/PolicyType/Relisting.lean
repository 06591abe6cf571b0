import FactoryBundler.Compiler
import FactoryBundler.Proofs.PolicyType.Directory
import FactoryBundler.Proofs.Sorting

/-!
# The order in which a directory is listed

A file system lists a directory in whatever order it likes, and bodies are registered in that
order. What is loaded depends on it only where two entries are bodies for one name: of these the one
that is listed last is found. So the order does not matter if the bodies for each name have one
text, and it does if two of them differ.
-/

namespace FactoryBundler.Catalog

variable {loaded other : Catalog} {entries listing : List (RawText × Node)} {name text : String}

/-- A catalog has nothing to it but what is found in it. -/
theorem eq_of_lookup
    (same : ∀ name, loaded.entries.lookup name = other.entries.lookup name) : loaded = other := by
  have ascending (catalog : Catalog) : catalog.entries.Pairwise fun a b => a.1 < b.1 :=
    List.pairwise_map.mp catalog.ascending
  have entries_eq : loaded.entries = other.entries := by
    refine Sorting.eq_of_mem_iff (fun a b => String.lt_asymm) (ascending loaded)
      (ascending other) ?_
    rintro ⟨key, body⟩
    rw [← Members.lookup_eq_some_iff_mem loaded.nodup_keys,
      ← Members.lookup_eq_some_iff_mem other.nodup_keys, same key]
  cases loaded
  cases other
  cases entries_eq
  rfl

/-- The bodies for each name have one text. -/
def BodiesAgree (entries : List (RawText × Node)) : Prop :=
  ∀ first ∈ entries, ∀ second ∈ entries, ∀ name, IsBodyFor first name → IsBodyFor second name →
    first.2 = second.2

/-- If the bodies for each name agree, what is found under a name is the text of any of them. -/
theorem HoldsBodies.lookup_iff_of_bodiesAgree (holds : loaded.HoldsBodies entries)
    (agree : BodiesAgree entries) :
    loaded.entries.lookup name = some text ↔
      ∃ entry ∈ entries, IsBodyFor entry name ∧ entry.2 = .file (Text.Utf8.encode text) := by
  constructor
  · rw [holds.lookup_iff]
    rintro ⟨before, entry, after, rfl, isBody, isText, -⟩
    exact ⟨entry, by simp, isBody, isText⟩
  · rintro ⟨entry, inEntries, isBody, isText⟩
    have held := (holds.mem_names name).mpr ⟨entry, inEntries, isBody⟩
    obtain ⟨found, isFound⟩ := Option.isSome_iff_exists.mp (Catalog.mem_names_iff.mp held)
    obtain ⟨before, last, after, rfl, isBody', isText', -⟩ :=
      (holds.lookup_iff name found).mp isFound
    have same : entry.2 = last.2 := agree entry inEntries last (by simp) name isBody isBody'
    rw [isText, isText', Node.file.injEq] at same
    rw [isFound, Text.Utf8.encode_injective same]

/-- Bodies that agree are registered to the same effect in every order. -/
theorem registerEntries_perm (agree : BodiesAgree entries) (perm : listing.Perm entries)
    (registered : registerEntries empty entries = .ok loaded) :
    registerEntries empty listing = .ok loaded := by
  have readable : ∀ entry ∈ listing, IsReadable entry := fun entry inListing =>
    exists_registerEntries_iff.mp ⟨loaded, registered⟩ entry (perm.mem_iff.mp inListing)
  have agree' : BodiesAgree listing := fun first inListing second inListing' =>
    agree first (perm.mem_iff.mp inListing) second (perm.mem_iff.mp inListing')
  obtain ⟨loaded', registered'⟩ := exists_registerEntries_iff.mpr readable
  have holds := holdsBodies_of_registerEntries registered
  have holds' := holdsBodies_of_registerEntries registered'
  have same : loaded' = loaded := by
    refine eq_of_lookup fun name => Option.ext fun text => ?_
    rw [holds.lookup_iff_of_bodiesAgree agree, holds'.lookup_iff_of_bodiesAgree agree']
    simp only [perm.mem_iff]
  rw [registered', same]

/-- Any entry can be listed last. -/
theorem exists_perm_concat {entry : RawText × Node} (inEntries : entry ∈ entries) :
    ∃ others, (others ++ [entry]).Perm entries := by
  obtain ⟨before, after, rfl⟩ := List.append_of_mem inEntries
  exact ⟨before ++ after, (List.perm_append_singleton entry _).trans List.perm_middle.symm⟩

/-- A body that is listed last is found under its name. -/
theorem HoldsBodies.lookup_of_last {others : List (RawText × Node)} {entry : RawText × Node}
    (holds : loaded.HoldsBodies (others ++ [entry])) (isBody : IsBodyFor entry name)
    (isText : entry.2 = .file (Text.Utf8.encode text)) :
    loaded.entries.lookup name = some text :=
  (holds.lookup_iff name text).mpr ⟨others, entry, [], rfl, isBody, isText, nofun⟩

/-- Where every body can be read, all orders of a listing load the same catalog exactly if the
bodies for each name have one text. -/
theorem loads_in_every_order_iff (readable : ∀ entry ∈ entries, IsReadable entry) :
    (∃ loaded, ∀ listing, listing.Perm entries → registerEntries empty listing = .ok loaded) ↔
      BodiesAgree entries := by
  constructor
  · rintro ⟨loaded, everyOrder⟩ first inEntries second inEntries' name isBody isBody'
    have found (entry : RawText × Node) (inEntries : entry ∈ entries)
        (isBody : IsBodyFor entry name) :
        ∃ text, entry.2 = .file (Text.Utf8.encode text) ∧
          loaded.entries.lookup name = some text := by
      obtain ⟨others, perm⟩ := exists_perm_concat inEntries
      obtain ⟨text, isText⟩ := readable entry inEntries isBody.hasBody
      have holds := holdsBodies_of_registerEntries (everyOrder _ perm)
      exact ⟨text, isText, holds.lookup_of_last isBody isText⟩
    obtain ⟨text, isText, isFound⟩ := found first inEntries isBody
    obtain ⟨text', isText', isFound'⟩ := found second inEntries' isBody'
    obtain rfl := Option.some.inj (isFound.symm.trans isFound')
    rw [isText, isText']
  · intro agree
    obtain ⟨loaded, registered⟩ := exists_registerEntries_iff.mpr readable
    exact ⟨loaded, fun listing perm => registerEntries_perm agree perm registered⟩

/-- Two spellings of one name with one body, and a directory that is none. -/
def twoSpellings : List (RawText × Node) :=
  [("HostSet.yml", .file (Text.Utf8.encode "- !host\n")), ("README.md", .directory []),
    ("host-set.yml", .file (Text.Utf8.encode "- !host\n"))]

theorem loads_in_every_order_iff_twoSpellings :
    (∀ entry ∈ twoSpellings, IsReadable entry) ∧ BodiesAgree twoSpellings ∧
      ∃ loaded, ∀ listing, listing.Perm twoSpellings →
        registerEntries empty listing = .ok loaded := by
  have body_or_none : ∀ entry ∈ twoSpellings,
      entry.2 = .file (Text.Utf8.encode "- !host\n") ∨ ¬ HasBody entry := by
    simp only [twoSpellings, List.forall_mem_cons, List.not_mem_nil, false_implies,
      implies_true, and_true]
    exact ⟨Or.inl trivial, Or.inr (by decide), Or.inl trivial⟩
  have readable : ∀ entry ∈ twoSpellings, IsReadable entry := fun entry inEntries hasBody =>
    ⟨_, (body_or_none entry inEntries).resolve_right (not_not_intro hasBody)⟩
  have agree : BodiesAgree twoSpellings := by
    intro first inEntries second inEntries' name isBody isBody'
    rw [(body_or_none first inEntries).resolve_right (not_not_intro isBody.hasBody),
      (body_or_none second inEntries').resolve_right (not_not_intro isBody'.hasBody)]
  exact ⟨readable, agree, (loads_in_every_order_iff readable).mpr agree⟩

/-- If all entries are bodies for one name, nothing but the text of the last one is held. -/
theorem HoldsBodies.eq_register_of_last {others : List (RawText × Node)} {entry : RawText × Node}
    {spelling : String} (holds : loaded.HoldsBodies (others ++ [entry]))
    (bodies : ∀ body ∈ others ++ [entry], IsBodyFor body (PolicyType.name spelling))
    (isText : entry.2 = .file (Text.Utf8.encode text)) : loaded = empty.register spelling text := by
  refine eq_of_lookup fun name => ?_
  have registered : (empty.register spelling text).entries.lookup name =
      if name = PolicyType.name spelling then some text else none :=
    lookup_placeAscending name []
  rw [registered]
  split
  · next here =>
    have isBody : IsBodyFor entry (PolicyType.name spelling) := bodies entry (by simp)
    rw [here, holds.lookup_of_last isBody isText]
  · next other =>
    rw [Option.eq_none_iff_forall_ne_some]
    intro found isFound
    obtain ⟨body, inListing, isBody⟩ :=
      (holds.mem_names name).mp (mem_names_iff.mpr (Option.isSome_of_eq_some isFound))
    exact other (isBody.name_eq (bodies body inListing))

/-- What may stand between two words: up to three separators. -/
def gaps : List (List Char) :=
  let separators := ['-', '_', ' ']
  let pairs := separators.flatMap fun first => separators.map fun second => [first, second]
  separators.map ([·]) ++ pairs ++ separators.flatMap fun first => pairs.map (first :: ·)

/-- Spellings of one name, of which each has a gap between its words. -/
def hostSetChars : List (List Char) :=
  gaps.flatMap fun gap =>
    ["host".toList ++ gap ++ "set".toList, "host".toList ++ gap ++ "Set".toList,
      "Host".toList ++ gap ++ "set".toList]

/-- Spellings of one name. -/
def hostSetSpellings : List String :=
  "HostSet" :: hostSetChars.map String.ofList

theorem name_of_mem_hostSetSpellings {spelling : String}
    (inSpellings : spelling ∈ hostSetSpellings) :
    spelling ≠ "" ∧ PolicyType.name spelling = PolicyType.name "host-set" := by
  have read : ∀ chars ∈ hostSetChars, chars ≠ [] ∧
      PolicyType.nameChars chars = PolicyType.nameChars "host-set".toList := by
    decide +kernel
  rcases List.mem_cons.mp inSpellings with rfl | inMore
  · decide +kernel
  · obtain ⟨chars, inChars, rfl⟩ := List.mem_map.mp inMore
    obtain ⟨nonempty, same⟩ := read chars inChars
    refine ⟨fun empty => nonempty (String.ofList_eq_empty_iff.mp empty), ?_⟩
    rw [PolicyType.name, PolicyType.name, String.toList_ofList, same]

/-- A body with that spelling and text. -/
def bodyAt (spelling text : String) : RawText × Node :=
  (RawText.ofText (spelling ++ ".yml"), .file (Text.Utf8.encode text))

/-- Bodies for one name, of which one has another text than the others. -/
def hostSets : List (RawText × Node) :=
  bodyAt "Host Set" "- !host b\n" :: hostSetSpellings.map (bodyAt · "- !host a\n")

theorem isBody_bodyAt {spelling : String} (nonempty : spelling ≠ "") (text : String) :
    IsBody (bodyAt spelling text) spelling :=
  ⟨nonempty, rfl⟩

theorem exists_bodyAt_of_mem_hostSets {entry : RawText × Node} (inHostSets : entry ∈ hostSets) :
    ∃ spelling text, entry = bodyAt spelling text ∧ spelling ≠ "" ∧
      PolicyType.name spelling = PolicyType.name "host-set" := by
  rcases List.mem_cons.mp inHostSets with rfl | inOthers
  · exact ⟨_, _, rfl, by decide +kernel⟩
  · obtain ⟨spelling, inSpellings, rfl⟩ := List.mem_map.mp inOthers
    exact ⟨_, _, rfl, name_of_mem_hostSetSpellings inSpellings⟩

theorem isReadable_of_mem_hostSets : ∀ entry ∈ hostSets, IsReadable entry := by
  intro entry inHostSets _
  obtain ⟨spelling, text, rfl, -⟩ := exists_bodyAt_of_mem_hostSets inHostSets
  exact ⟨text, rfl⟩

theorem registerEntries_hostSets {others : List (RawText × Node)} {spelling : String}
    (perm : (others ++ [bodyAt spelling text]).Perm hostSets) :
    registerEntries empty (others ++ [bodyAt spelling text]) =
      .ok (empty.register "host-set" text) := by
  obtain ⟨loaded, registered⟩ := exists_registerEntries_iff.mpr fun entry inListing =>
    isReadable_of_mem_hostSets entry (perm.mem_iff.mp inListing)
  have holds := holdsBodies_of_registerEntries registered
  rw [registered, holds.eq_register_of_last ?_ rfl]
  intro body inListing
  obtain ⟨spelling, text, rfl, nonempty, named⟩ :=
    exists_bodyAt_of_mem_hostSets (perm.mem_iff.mp inListing)
  exact ⟨spelling, isBody_bodyAt nonempty text, named⟩

/-- A factory that takes its policy from the policy type with that name. -/
def hostSetRequest : Request :=
  ⟨"hosts", "v1", "core", none, .object [("policy_type", .string "host-set")]⟩

/-- The body that differs from the others is listed first in one order and last in another one, and
with the two catalogs that are loaded a factory compiles to two policies. -/
theorem not_loads_in_every_order :
    (∀ entry ∈ hostSets, IsReadable entry) ∧
      ∃ listing loaded loaded', listing.Perm hostSets ∧
        registerEntries empty hostSets = .ok loaded ∧
        registerEntries empty listing = .ok loaded' ∧
        loaded.get? "host-set" = some "- !host a\n" ∧
        loaded'.get? "host-set" = some "- !host b\n" ∧
        ∃ compiled compiled', Compiler.compile ⟨loaded, .standard⟩ hostSetRequest = .ok compiled ∧
          Compiler.compile ⟨loaded', .standard⟩ hostSetRequest = .ok compiled' ∧
          compiled.bundle.policy ≠ compiled'.bundle.policy := by
  have ascending : hostSets = hostSets.dropLast ++ [bodyAt "Host   set" "- !host a\n"] := rfl
  have perm : (hostSets.tail ++ [bodyAt "Host Set" "- !host b\n"]).Perm hostSets :=
    List.perm_append_singleton _ _
  refine ⟨isReadable_of_mem_hostSets, hostSets.tail ++ [bodyAt "Host Set" "- !host b\n"],
    empty.register "host-set" "- !host a\n", empty.register "host-set" "- !host b\n", perm, ?_,
    registerEntries_hostSets perm, ?_, ?_, _, _, rfl, rfl, ?_⟩
  · rw [ascending]
    exact registerEntries_hostSets (.refl _)
  · decide +kernel
  · decide +kernel
  · decide +kernel

end FactoryBundler.Catalog
