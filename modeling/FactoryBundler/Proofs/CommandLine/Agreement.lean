import FactoryBundler.Proofs.CommandLine.Documents
import FactoryBundler.Proofs.Plan.Paths

/-!
# Compiling one factory or all of them

The command that compiles one directory and the one that plans a whole root go different ways, one
from the path of the directory and the other from a walk. Where the names on the way to a directory
are texts, what they write of its factory is the same. Where one of them is not, the walk goes on
with the names as they are shown, while the path of the directory tells no labels and is refused.
-/

namespace FactoryBundler

/-- The code that the program ends with if a single factory fails for this reason. -/
def PlanError.exitCode : PlanError → Nat
  | .load _ => 1
  | .compile _ => 2

namespace Plan

/-- What is recorded of what a discovery reports of a place. -/
def recordOf (compiler : Compiler) (target : String) :
    Except LoadFailure Definition → Except PlanFailure PlanEntry
  | .ok definition => ofDefinition compiler target definition
  | .error failure => .error (ofLoadFailure target failure)

/-- A record is among the factories or the failures of a plan. -/
def Records (plan : Plan) : Except PlanFailure PlanEntry → Prop
  | .ok entry => entry ∈ plan.factories
  | .error failure => failure ∈ plan.failures

variable {compiler : Compiler} {target : String} {root : RawText} {tree : Node}
  {discovery : Discovery} {account : Discovery.Account} {place : Place}
  {outcome : Except LoadFailure Definition}

/-- Everything that is reported is recorded. -/
theorem records_recordOf (isAccount : discovery.IsAccount root tree account)
    (reported : (place, outcome) ∈ account) :
    (ofDiscovery compiler discovery target).Records (recordOf compiler target outcome) := by
  cases outcome with
  | error failure =>
      have inFailures := isAccount.mem_failures.mpr ⟨place, reported⟩
      exact mem_failures_iff.mpr (Or.inl ⟨failure, inFailures, rfl⟩)
  | ok definition =>
      have inDefinitions := isAccount.mem_definitions.mpr ⟨place, reported⟩
      rw [recordOf]
      cases recorded : ofDefinition compiler target definition with
      | ok entry => exact mem_factories_iff.mpr ⟨definition, inDefinitions, recorded⟩
      | error failure => exact mem_failures_iff.mpr (Or.inr ⟨definition, inDefinitions, recorded⟩)

/-- A failure of a plan is the record of something that is reported. -/
theorem exists_recordOf_of_mem_failures (isAccount : discovery.IsAccount root tree account)
    {failure : PlanFailure}
    (recorded : failure ∈ (ofDiscovery compiler discovery target).failures) :
    ∃ place outcome, (place, outcome) ∈ account ∧
      recordOf compiler target outcome = .error failure := by
  rcases mem_failures_iff.mp recorded with ⟨unloadable, inFailures, rfl⟩ |
    ⟨definition, inDefinitions, fails⟩
  · obtain ⟨place, reported⟩ := isAccount.mem_failures.mp inFailures
    exact ⟨place, _, reported, rfl⟩
  · obtain ⟨place, reported⟩ := isAccount.mem_definitions.mp inDefinitions
    exact ⟨place, _, reported, fails⟩

end Plan

namespace CommandLine

open Definition (fromDirectory)

/-- What is written tells what was recorded, when it is read: the factory and the fingerprint of an
entry, or the error of a failure, with the code that goes with it. -/
inductive Outcome.Confirms (outcome : Outcome) : Except PlanFailure PlanEntry → Prop
  | factory {entry : PlanEntry} {members : List (String × Json)} (code : outcome.code = 0)
      (written : Json.readText outcome.output = .ok (.object members))
      (factory : members.lookup "factory" = some (.string entry.factory))
      (fingerprint : members.lookup "fingerprint" = some (.string entry.fingerprint)) :
      Confirms outcome (.ok entry)
  | failure {failure : PlanFailure} {members : List (String × Json)}
      (code : outcome.code = failure.error.exitCode)
      (written : Json.readText outcome.output = .ok (.object members))
      (error : members.lookup "error" = some (.string failure.error.message)) :
      Confirms outcome (.error failure)

/-- A directory that was reported is met again by its path: as it was reported if the names on the
way to it are texts, and otherwise not at all. -/
structure MetAgain (workspace : Workspace) (root : RawText) (place : Place)
    (outcome : Except LoadFailure Definition) : Prop where
  definition : place.AreTexts → ∀ definition, outcome = .ok definition →
    fromDirectory workspace (place.directory root) = .ok definition
  failure : place.AreTexts → ∀ failure, outcome = .error failure →
    fromDirectory workspace (place.directory root) = .error failure.error
  layout : ¬ place.AreTexts →
    fromDirectory workspace (place.directory root) = .error (.layout (place.directory root))

variable {workspace : Workspace} {compiler : Compiler} {target : String} {root directory : RawText}
  {definition : Definition} {entries : List (RawText × Node)} {discovery : Discovery}
  {account : Discovery.Account} {place : Place} {outcome : Except LoadFailure Definition}

theorem metAgain (isAccount : discovery.IsAccount root (.directory entries) account)
    (coherent : workspace.IsCoherent) (listed : workspace root = .ok (.directory entries))
    (reported : (place, outcome) ∈ account) : MetAgain workspace root place outcome := by
  have areNames := isAccount.areNames (coherent.wellFormed _ _ listed)
    (List.mem_map_of_mem reported)
  have loaded := isAccount.load_eq coherent listed reported
  constructor
  · rintro areTexts definition rfl
    rw [Definition.fromDirectory_of_areTexts areNames areTexts]
    exact Except.mapError_eq_ok_iff.mp loaded
  · rintro areTexts failure rfl
    obtain ⟨error, fails, rfl⟩ := Except.mapError_eq_error_iff.mp loaded
    rw [Definition.fromDirectory_of_areTexts areNames areTexts, fails]
    rfl
  · exact Definition.fromDirectory_of_not_areTexts areNames

namespace Outcome

/-- Without flags a directory is compiled as it is defined. -/
theorem ofCompile_of_error {error : DiscoveryError}
    (failed : fromDirectory workspace directory = .error error) :
    ofCompile workspace compiler directory none none none = failure 1 error.message := by
  rw [ofCompile, failed]

theorem ofCompile_of_ok (loaded : fromDirectory workspace directory = .ok definition) :
    ofCompile workspace compiler directory none none none =
      match compiler.compile definition.toRequest with
      | .error error => failure 2 error.message
      | .ok compiled => ofJson 0 (compiledJson compiled) := by
  rw [ofCompile, loaded]
  rfl

theorem confirms_failure (failed : PlanFailure) :
    (failure failed.error.exitCode failed.error.message).Confirms (.error failed) :=
  .failure rfl (readText_ofJson (portable_error _) (by decide)) rfl

/-- Compiling a directory that was reported confirms what a plan records of it. -/
theorem confirms_ofCompile (again : MetAgain workspace root place outcome)
    (areTexts : place.AreTexts) :
    (ofCompile workspace compiler (place.directory root) none none none).Confirms
      (Plan.recordOf compiler target outcome) := by
  cases outcome with
  | error failed =>
      rw [ofCompile_of_error (again.failure areTexts failed rfl)]
      exact confirms_failure (Plan.ofLoadFailure target failed)
  | ok definition =>
      rw [ofCompile_of_ok (again.definition areTexts definition rfl), Plan.recordOf,
        Plan.ofDefinition]
      cases compiles : compiler.compile definition.toRequest with
      | error error =>
          exact confirms_failure ⟨Plan.targetPath target definition.variablePath, .compile error⟩
      | ok compiled =>
          exact .factory rfl (readText_ofJson (portable_compiledJson compiles) (by decide)) rfl rfl

end Outcome

/-- Planning a root and compiling the directories under it agree where the names are texts. Such a
directory is loaded from its path as it was discovered, with the same definition or the same error;
a directory with another name is refused. What the plan command writes is the plan, which records
all that was discovered. Compiling one of the directories, with the same policy types and no flags,
confirms what is recorded of it, whether it is called for by its path or by words that spell the
path. -/
theorem plan_confirmed (workspace : Workspace) (root : RawText) (discovery : Discovery)
    (coherent : workspace.IsCoherent) (walked : Discovery.walk workspace root = .ok discovery) :
    ∃ entries account, workspace root = .ok (.directory entries) ∧
      discovery.IsAccount root (.directory entries) account ∧
      (∀ place outcome, (place, outcome) ∈ account → MetAgain workspace root place outcome) ∧
      (∀ compiler target place outcome, (place, outcome) ∈ account →
        (Plan.ofDiscovery compiler discovery target).Records
            (Plan.recordOf compiler target outcome) ∧
          (place.AreTexts →
            (Outcome.ofCompile workspace compiler (place.directory root) none none none).Confirms
              (Plan.recordOf compiler target outcome))) ∧
      ∀ (catalogDirectory : Option String) (catalog : Catalog) (rootText target : String)
        (planWords : List String),
        Outcome.catalogWith workspace catalogDirectory = .ok catalog → root = rootText →
        Invocation.ofWords planWords = .ok ⟨catalogDirectory, .plan rootText target⟩ →
        ∃ plan, plan = Plan.ofDiscovery ⟨catalog, .standard⟩ discovery target ∧
          (Outcome.ofWords workspace planWords).code = (if plan.isComplete then 0 else 2) ∧
          Json.readText (Outcome.ofWords workspace planWords).output =
            .ok (.object [("success", .bool plan.isComplete),
              ("engine_version", .string programVersion), ("plan", plan.toJson)]) ∧
          ∀ place outcome, (place, outcome) ∈ account → place.AreTexts →
            ∀ (directory : String) (compileWords : List String), place.directory root = directory →
              Invocation.ofWords compileWords =
                .ok ⟨catalogDirectory, .compile directory none none none⟩ →
              (Outcome.ofWords workspace compileWords).Confirms
                (Plan.recordOf ⟨catalog, .standard⟩ target outcome) := by
  obtain ⟨entries, account, listed, isAccount⟩ :=
    Discovery.exists_isAccount (coherent.wellFormed root) walked
  have again {place : Place} {outcome : Except LoadFailure Definition}
      (reported : (place, outcome) ∈ account) : MetAgain workspace root place outcome :=
    metAgain isAccount coherent listed reported
  refine ⟨entries, account, listed, isAccount, fun place outcome => again, ?_, ?_⟩
  · intro compiler target place outcome reported
    exact ⟨Plan.records_recordOf isAccount reported, Outcome.confirms_ofCompile (again reported)⟩
  · intro catalogDirectory catalog rootText target planWords cataloged isRoot planned
    have written : Outcome.ofWords workspace planWords =
        Outcome.ofPlan workspace ⟨catalog, .standard⟩ root target := by
      rw [Outcome.ofWords, planned, isRoot]
      simp only [Outcome.ofInvocation, cataloged]
      rfl
    rw [written, Outcome.ofPlan_of_ok walked]
    refine ⟨_, rfl, rfl, Outcome.readText_ofJson (Outcome.portable_planJson _) (by decide), ?_⟩
    intro place outcome reported areTexts directory compileWords isDirectory compiled
    rw [Outcome.ofWords, compiled]
    simp only [Outcome.ofInvocation, cataloged]
    rw [Outcome.ofCommand, ← isDirectory]
    exact Outcome.confirms_ofCompile (again reported) areTexts

/-- A tree with two directories at depth three under a root. -/
def twoVersionsTree : Node :=
  .directory [("factories", .directory Discovery.twoVersions)]

theorem plan_confirmed_twoVersions :
    Workspace.IsCoherent twoVersionsTree.resolve ∧
    ∃ discovery account outcome,
      Discovery.walk twoVersionsTree.resolve "factories" = .ok discovery ∧
      discovery.IsAccount "factories" (.directory Discovery.twoVersions) account ∧
      (Labels.place ("app", "db", "v1"), outcome) ∈ account ∧
      (Outcome.ofWords twoVersionsTree.resolve ["compile", "factories/app/db/v1"]).Confirms
        (Plan.recordOf ⟨PolicyType.builtin, .standard⟩ "root" outcome) := by
  have coherent : Workspace.IsCoherent twoVersionsTree.resolve :=
    Node.isCoherent_resolve (by decide)
  have listed : twoVersionsTree.resolve "factories" = .ok (.directory Discovery.twoVersions) := by
    rfl
  have walked := Discovery.walk_of_directory listed
  obtain ⟨entries, account, listed', isAccount, -, -, agree⟩ :=
    plan_confirmed _ "factories" _ coherent walked
  cases listed.symm.trans listed'
  have inPlaces := (isAccount.mem_places _).mpr ⟨_, Discovery.fileAt_twoVersions⟩
  obtain ⟨⟨_, outcome⟩, reported, rfl⟩ := List.mem_map.mp inPlaces
  obtain ⟨plan, -, -, -, confirmed⟩ := agree none PolicyType.builtin "factories" "root"
    ["plan", "--target-policy", "root", "factories"] rfl rfl (by rfl)
  exact ⟨coherent, _, account, outcome, walked, isAccount, reported,
    confirmed _ outcome reported ⟨⟨_, rfl⟩, ⟨_, rfl⟩, ⟨_, rfl⟩⟩ "factories/app/db/v1"
      ["compile", "factories/app/db/v1"] (by decide) (by rfl)⟩

/-- A tree with two directories under a root whose names are no texts. -/
def lookalikesTree : Node :=
  .directory [("factories", .directory Discovery.lookalikes)]

/-- A directory whose name is no text is discovered with a definition, and cannot be loaded by its
path. -/
theorem not_plan_confirmed :
    Workspace.IsCoherent lookalikesTree.resolve ∧
    ∃ discovery, Discovery.walk lookalikesTree.resolve "factories" = .ok discovery ∧
      ∃ definition ∈ discovery.definitions,
        fromDirectory lookalikesTree.resolve definition.directory =
          .error (.layout definition.directory) := by
  have coherent : Workspace.IsCoherent lookalikesTree.resolve :=
    Node.isCoherent_resolve (by decide)
  have listed : lookalikesTree.resolve "factories" = .ok (.directory Discovery.lookalikes) := by
    rfl
  have isAccount := Discovery.isAccount_ofSites "factories" Discovery.wellFormed_lookalikes
  have reported := (isAccount.mem_iff _ _).mpr (Discovery.gives_lookalike (Or.inr rfl) "factories")
  have notTexts : ¬ (Discovery.lookalike 0xFF).AreTexts := by
    rintro ⟨isText, -⟩
    exact absurd isText (by decide +kernel)
  exact ⟨coherent, _, Discovery.walk_of_directory listed, _,
    isAccount.mem_definitions.mpr ⟨_, reported⟩,
    (metAgain isAccount coherent listed reported).layout notTexts⟩

end CommandLine

end FactoryBundler
