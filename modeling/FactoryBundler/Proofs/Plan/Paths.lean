import FactoryBundler.Proofs.Discovery.Reload
import FactoryBundler.Proofs.Plan.Recording

/-!
# Where a plan loads what it records

Every record of a plan lies at the path that the labels of its item spell inside the target. There
is no slash in a label, so the labels can be told from the path although it has the version in front
of the name. A walk reports each place once, so two records of a plan lie at one path only if the
names on the way to two places are shown alike.
-/

namespace FactoryBundler

open Definition (configurationFile)
open Node (FileAt)

namespace Plan

variable {compiler : Compiler} {target : String} {definition : Definition}

/-- The paths of everything that a plan records, those of the factories in front. -/
def paths (plan : Plan) : List String :=
  plan.factories.map PlanEntry.path ++ plan.failures.map PlanFailure.path

/-- The path inside the target of a factory with these labels. -/
def pathOf (target : String) (labels : Labels) : String :=
  targetPath target labels.variablePath

theorem targetPath_injective {inner other : String}
    (same : targetPath target inner = targetPath target other) : inner = other := by
  rw [← String.toList_inj] at same ⊢
  simpa [targetPath] using same

/-- Factories with different labels lie at different paths. -/
theorem pathOf_injective {labels other : Labels} (noSlash : labels.HaveNoSlash)
    (noSlash' : other.HaveNoSlash) (same : pathOf target labels = pathOf target other) :
    labels = other :=
  Labels.variablePath_injective noSlash noSlash' (targetPath_injective same)

/-- A definition is recorded at the path of its labels, whether it compiles or not. -/
theorem path_ofDefinition (compiler : Compiler) (target : String) (definition : Definition) :
    (∃ entry, ofDefinition compiler target definition = .ok entry ∧
      entry.path = pathOf target definition.labels) ∨
    ∃ failure, ofDefinition compiler target definition = .error failure ∧
      failure.path = pathOf target definition.labels := by
  rw [ofDefinition]
  split
  · exact Or.inl ⟨_, rfl, rfl⟩
  · exact Or.inr ⟨_, rfl, rfl⟩

/-- The paths of a plan are those of the labels that were discovered, one for one. -/
theorem paths_ofDiscovery_perm (compiler : Compiler) (discovery : Discovery) (target : String) :
    (ofDiscovery compiler discovery target).paths.Perm
      (discovery.labels.map (pathOf target)) := by
  have sorted (failures : List PlanFailure) :
      ((sortFailures failures).map PlanFailure.path).Perm (failures.map PlanFailure.path) :=
    (List.mergeSort_perm failures _).map _
  rw [paths, ofDiscovery, Discovery.labels, List.map_append]
  refine ((sorted _).append_left _).trans ?_
  rw [List.map_append, List.map_map, List.map_map, List.map_map, List.map_filterMap,
    List.map_filterMap]
  -- The load failures stand between the two parts of the definitions.
  refine (List.perm_append_comm.append_left _).trans ?_
  rw [← List.append_assoc]
  refine List.Perm.append ?_ (.refl _)
  apply filterMap_append_filterMap_perm
  intro definition _
  rcases path_ofDefinition compiler target definition with ⟨entry, recorded, path⟩ |
    ⟨failure, recorded, path⟩
  · exact Or.inl (by simp [recorded, path])
  · exact Or.inr (by simp [recorded, path])

end Plan

/-- What a discovery reports has the labels of the places of its account, one for one. -/
theorem Discovery.IsAccount.labels_perm {root : RawText} {tree : Node} {discovery : Discovery}
    {account : Account} (isAccount : discovery.IsAccount root tree account) :
    discovery.labels.Perm (account.places.map Place.labels) := by
  rw [Discovery.labels, isAccount.definitions_eq, isAccount.failures_eq, List.map_filterMap,
    List.map_filterMap, Account.places, List.map_map]
  apply filterMap_append_filterMap_perm
  rintro ⟨place, outcome⟩ reported
  have gives := (isAccount.mem_iff _ _).mp reported
  cases outcome with
  | ok definition => exact Or.inl ⟨congrArg some gives.labels_of_ok, rfl⟩
  | error failure => exact Or.inr ⟨rfl, congrArg some gives.labels_of_error⟩

namespace Plan

/-- What a plan of a walk records lies at the paths of the places that were reported. Two records
lie at one path exactly if two of these places have the same labels, for any compiler and target, so
no two records do if all names are texts. -/
theorem paths_nodup_iff (workspace : Workspace) (root : RawText) (discovery : Discovery)
    (wellFormed : ∀ node, workspace root = .ok node → node.WellFormed)
    (walked : Discovery.walk workspace root = .ok discovery) (compiler : Compiler)
    (target : String) :
    ∃ entries account, workspace root = .ok (.directory entries) ∧
      discovery.IsAccount root (.directory entries) account ∧
      (ofDiscovery compiler discovery target).paths.Perm
        (account.places.map fun place => pathOf target place.labels) ∧
      ((ofDiscovery compiler discovery target).paths.Nodup ↔
        ∀ first ∈ account.places, ∀ second ∈ account.places,
          first.labels = second.labels → first = second) ∧
      ((∀ place ∈ account.places, place.AreTexts) →
        (ofDiscovery compiler discovery target).paths.Nodup) := by
  obtain ⟨entries, account, listed, isAccount⟩ := Discovery.exists_isAccount wellFormed walked
  have perm : (ofDiscovery compiler discovery target).paths.Perm
      (account.places.map fun place => pathOf target place.labels) := by
    refine (paths_ofDiscovery_perm compiler discovery target).trans ?_
    have perm := isAccount.labels_perm.map (pathOf target)
    rwa [List.map_map] at perm
  have noSlash {place : Place} (reported : place ∈ account.places) : place.labels.HaveNoSlash :=
    (isAccount.areNames (wellFormed _ listed) reported).haveNoSlash
  have nodup_iff : (ofDiscovery compiler discovery target).paths.Nodup ↔
      ∀ first ∈ account.places, ∀ second ∈ account.places,
        first.labels = second.labels → first = second := by
    rw [perm.nodup_iff, List.nodup_map_iff_inj_on isAccount.nodup_places]
    constructor
    · intro distinct first reported second reported' same
      exact distinct first reported second reported' (congrArg (pathOf target) same)
    · intro distinct first reported second reported' same
      exact distinct first reported second reported'
        (pathOf_injective (noSlash reported) (noSlash reported') same)
  refine ⟨entries, account, listed, isAccount, perm, nodup_iff, fun areTexts => ?_⟩
  rw [nodup_iff]
  intro first reported second reported' same
  rw [← (areTexts first reported).place_labels, same, (areTexts second reported').place_labels]

/-- The entries of a root where the name of each factory is the version of the other. Only the
first can be loaded. -/
def crossed : List (RawText × Node) :=
  [("app", .directory [
    ("db", .directory [("v1", .directory [("config.json", .file (Text.Utf8.encode "null"))])]),
    ("v1", .directory [("db", .directory [("config.json", .file [])])])])]

theorem areTexts_of_fileAt_crossed {place : Place} {content : List UInt8}
    (configured : FileAt (place.file configurationFile) content (.directory crossed)) :
    place.AreTexts := by
  obtain ⟨category, name, version⟩ := place
  simp only [crossed, Place.file, Node.fileAt_cons_iff, List.mem_cons, List.not_mem_nil, or_false,
    Prod.mk.injEq] at configured
  obtain ⟨_, ⟨rfl, rfl⟩, configured⟩ := configured
  simp only [Node.fileAt_cons_iff, List.mem_cons, List.not_mem_nil, or_false, Prod.mk.injEq]
    at configured
  obtain ⟨_, ⟨rfl, rfl⟩ | ⟨rfl, rfl⟩, configured⟩ := configured
  all_goals
    simp only [Node.fileAt_cons_iff, List.mem_singleton, Prod.mk.injEq] at configured
    obtain ⟨_, ⟨rfl, -⟩, -⟩ := configured
    exact ⟨⟨_, rfl⟩, ⟨_, rfl⟩, ⟨_, rfl⟩⟩

theorem paths_nodup_iff_crossed :
    (Node.directory crossed).WellFormed ∧
    ∃ discovery, Discovery.walk (fun _ => .ok (.directory crossed)) "" = .ok discovery ∧
      (ofDiscovery .standard discovery "root/").paths.Nodup := by
  have isWellFormed : (Node.directory crossed).WellFormed := by decide
  have wellFormed : ∀ node, (fun _ => .ok (.directory crossed) : Workspace) "" = .ok node →
      node.WellFormed := by
    rintro _ ⟨⟩
    exact isWellFormed
  have walked : Discovery.walk (fun _ => .ok (.directory crossed)) "" =
      .ok (Discovery.ofSites (Discovery.sites "" crossed)) := Discovery.walk_of_directory rfl
  obtain ⟨entries, account, listed, isAccount, -, -, nodup⟩ :=
    paths_nodup_iff _ "" _ wellFormed walked .standard "root/"
  cases listed
  refine ⟨isWellFormed, _, walked, nodup fun place reported => ?_⟩
  obtain ⟨content, configured⟩ := (isAccount.mem_places place).mp reported
  exact areTexts_of_fileAt_crossed configured

/-- Two factories whose categories are shown alike are recorded at one path. -/
theorem not_paths_nodup :
    (Node.directory Discovery.lookalikes).WellFormed ∧
    ∃ discovery,
      Discovery.walk (fun _ => .ok (.directory Discovery.lookalikes)) "" = .ok discovery ∧
      ¬ (ofDiscovery .standard discovery "root").paths.Nodup := by
  have isWellFormed := Discovery.wellFormed_lookalikes
  have isAccount := Discovery.isAccount_ofSites "" isWellFormed
  refine ⟨isWellFormed, _, Discovery.walk_of_directory rfl, fun nodup => ?_⟩
  have alike : pathOf "root" (Discovery.lookalike 0xFE).labels =
      pathOf "root" (Discovery.lookalike 0xFF).labels := by
    decide +kernel
  have perm := (paths_ofDiscovery_perm .standard _ "root").trans
    (isAccount.labels_perm.map (pathOf "root"))
  rw [perm.nodup_iff, List.map_map] at nodup
  have reported {byte : UInt8} (isByte : byte = 0xFE ∨ byte = 0xFF) :
      Discovery.lookalike byte ∈ (Discovery.accountOf "" Discovery.lookalikes).places :=
    (isAccount.mem_places _).mpr ⟨_, Discovery.fileAt_lookalike isByte⟩
  have same := List.inj_on_of_nodup_map nodup (reported (Or.inl rfl)) (reported (Or.inr rfl)) alike
  exact absurd same (by decide)

end Plan

end FactoryBundler
