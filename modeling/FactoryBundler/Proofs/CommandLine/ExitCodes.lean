import FactoryBundler.Proofs.CommandLine.Agreement

/-!
# Exit codes

The code that the program ends with and the document that it writes tell the same story. A command
can fail in two ways: what it starts from cannot be had, or it is had and does not come to anything.
Each command chooses its code and its document in branches of its own, so both are first looked at
command by command.
-/

namespace FactoryBundler.CommandLine

open Definition (configurationFile fromDirectory)
open Json (Portable)
open Node (FileAt)

/-! ## What commands come to -/

/-- A request with other labels where labels are given. -/
def relabel (request : Request) (name category version : Option String) : Request :=
  { request with
    name := name.getD request.name
    category := category.getD request.category
    version := version.getD request.version }

/-- The factory in a directory can be loaded, and under these labels it compiles. -/
def Compiles (workspace : Workspace) (compiler : Compiler) (directory : RawText)
    (name category version : Option String) : Prop :=
  ∃ definition compiled, fromDirectory workspace directory = .ok definition ∧
    compiler.compile (relabel definition.toRequest name category version) = .ok compiled

/-- The factory at a place under a root can be loaded with the labels of the place, and it
compiles. -/
def CompilesAt (workspace : Workspace) (compiler : Compiler) (root : RawText) (place : Place) :
    Prop :=
  ∃ definition compiled,
    Definition.load workspace (place.directory root) place.labels.1 place.labels.2.1
      place.labels.2.2 = .ok definition ∧
    compiler.compile definition.toRequest = .ok compiled

namespace Command

variable (workspace : Workspace) (compiler : Compiler)

/-- What a command starts from cannot be had. -/
def Lacks : Command → Prop
  | .compile directory _ _ _ => ∃ error, fromDirectory workspace directory = .error error
  | .plan root _ => ∃ error, Discovery.walk workspace root = .error error
  | .policyTypes => False
  | .inspect blob => ∃ fault, Bundle.decode blob = .error fault

/-- A command comes to what it is for. A plan has to come to it in every directory at depth three
that holds a configuration file. -/
def Succeeds : Command → Prop
  | .compile directory name category version =>
    Compiles workspace compiler directory name category version
  | .plan root _ => ∃ entries, workspace root = .ok (.directory entries) ∧
    ∀ (place : Place) content,
      FileAt (place.file configurationFile) content (.directory entries) →
        CompilesAt workspace compiler root place
  | .policyTypes => True
  | .inspect blob => ∃ bundle, Bundle.decode blob = .ok bundle

end Command

namespace Outcome

variable {workspace : Workspace} {compiler : Compiler} {outcome : Outcome} {lacks succeeds : Prop}
  {code levels : Nat} {document : Json}

/-- The code is 1 just if something is lacking, 0 just if all succeeds, and otherwise 2. -/
structure EndsWith (outcome : Outcome) (lacks succeeds : Prop) : Prop where
  one : outcome.code = 1 ↔ lacks
  zero : outcome.code = 0 ↔ succeeds
  two : outcome.code = 2 ↔ ¬ lacks ∧ ¬ succeeds

theorem endsWith_one (isCode : outcome.code = 1) (lacking : lacks) (fails : ¬ succeeds) :
    outcome.EndsWith lacks succeeds := by
  constructor <;> simp [isCode, lacking, fails]

theorem endsWith_zero (isCode : outcome.code = 0) (complete : ¬ lacks) (success : succeeds) :
    outcome.EndsWith lacks succeeds := by
  constructor <;> simp [isCode, complete, success]

theorem endsWith_two (isCode : outcome.code = 2) (complete : ¬ lacks) (fails : ¬ succeeds) :
    outcome.EndsWith lacks succeeds := by
  constructor <;> simp [isCode, complete, fails]

/-- What is written is one document, and it says of itself that it is no success just if the code
is not 0. -/
def TellsItsCode (outcome : Outcome) : Prop :=
  ∃ document, Json.readText outcome.output = .ok document ∧
    (document.get? "success" = some (.bool false) ↔ outcome.code ≠ 0)

/-- A document that is written is read again. -/
theorem tellsItsCode_ofLegible (legible : document.Legible)
    (shallow : document.depth < Json.depthLimit)
    (tells : document.get? "success" = some (.bool false) ↔ code ≠ 0) :
    (ofJson code document).TellsItsCode := by
  refine ⟨document.reread, Json.readText_pretty legible shallow, Iff.trans ?_ tells⟩
  rw [Json.get?_reread, Option.map_eq_some_iff]
  constructor
  · rintro ⟨value, found, same⟩
    cases value <;> cases same
    exact found
  · exact fun found => ⟨_, found, rfl⟩

theorem tellsItsCode_ofPortable (portable : Portable levels document)
    (shallow : levels < Json.depthLimit)
    (tells : document.get? "success" = some (.bool false) ↔ code ≠ 0) :
    (ofJson code document).TellsItsCode :=
  tellsItsCode_ofLegible (Json.legible_of_doubleFree portable.wellFormed portable.doubleFree)
    (Nat.lt_of_le_of_lt portable.depth_le shallow) tells

theorem tellsItsCode_failure (message : String) (failed : code ≠ 0) :
    (failure code message).TellsItsCode := by
  refine tellsItsCode_ofPortable (portable_error message) (by decide) ?_
  simpa [Json.get?] using failed

/-! ## Compiling -/

section Compile

variable (directory : String) (name category version : Option String)

theorem tellsItsCode_ofCompile :
    (ofCompile workspace compiler directory name category version).TellsItsCode := by
  rw [ofCompile]
  split
  · exact tellsItsCode_failure _ (by decide)
  · dsimp only
    split
    · exact tellsItsCode_failure _ (by decide)
    · next compiles =>
      exact tellsItsCode_ofPortable (portable_compiledJson compiles) (by decide)
        (by simp [compiledJson, Json.get?])

theorem endsWith_ofCompile :
    (ofCompile workspace compiler directory name category version).EndsWith
      (Command.Lacks workspace (.compile directory name category version))
      (Command.Succeeds workspace compiler (.compile directory name category version)) := by
  rw [Command.Lacks, Command.Succeeds, ofCompile]
  split
  · next error unloadable =>
    refine endsWith_one rfl ⟨error, unloadable⟩ ?_
    rintro ⟨definition, compiled, loaded, -⟩
    exact Except.not_ok_of_error unloadable ⟨definition, loaded⟩
  · next definition loaded =>
    have complete := Except.not_error_of_ok loaded
    dsimp only
    split
    · next error fails =>
      refine endsWith_two rfl complete ?_
      rintro ⟨definition', compiled, loaded', compiles⟩
      cases loaded.symm.trans loaded'
      exact Except.not_ok_of_error fails ⟨compiled, compiles⟩
    · next compiled compiles =>
      exact endsWith_zero rfl complete ⟨definition, compiled, loaded, compiles⟩

end Compile

/-! ## Planning -/

/-- What is reported of a place is recorded as an entry just if the factory there compiles. -/
theorem compilesAt_iff {root : RawText} {entries : List (RawText × Node)} {discovery : Discovery}
    {account : Discovery.Account} {place : Place} {reported : Except LoadFailure Definition}
    (isAccount : discovery.IsAccount root (.directory entries) account)
    (coherent : workspace.IsCoherent) (listed : workspace root = .ok (.directory entries))
    (inAccount : (place, reported) ∈ account) (target : String) :
    CompilesAt workspace compiler root place ↔
      ∃ entry, Plan.recordOf compiler target reported = .ok entry := by
  have loaded := isAccount.load_eq coherent listed inAccount
  cases reported with
  | error failed =>
      obtain ⟨error, fails, -⟩ := Except.mapError_eq_error_iff.mp loaded
      refine iff_of_false ?_ nofun
      rintro ⟨definition, -, loads, -⟩
      exact Except.not_ok_of_error fails ⟨definition, loads⟩
  | ok definition =>
      rw [Except.mapError_eq_ok_iff] at loaded
      rw [CompilesAt, loaded, Plan.recordOf, Plan.ofDefinition]
      cases compiles : compiler.compile definition.toRequest <;> simp [compiles]

/-- A plan is complete just if everything that was reported compiles. -/
theorem isComplete_iff {root : RawText} {target : String} {entries : List (RawText × Node)}
    {discovery : Discovery} {account : Discovery.Account}
    (isAccount : discovery.IsAccount root (.directory entries) account)
    (coherent : workspace.IsCoherent) (listed : workspace root = .ok (.directory entries)) :
    (Plan.ofDiscovery compiler discovery target).isComplete = true ↔
      ∀ place ∈ account.places, CompilesAt workspace compiler root place := by
  rw [Plan.isComplete, List.isEmpty_iff, List.eq_nil_iff_forall_not_mem]
  constructor
  · intro noFailure place inPlaces
    obtain ⟨⟨place, reported⟩, inAccount, rfl⟩ := List.mem_map.mp inPlaces
    rw [compilesAt_iff isAccount coherent listed inAccount target]
    have records : (Plan.ofDiscovery compiler discovery target).Records
        (Plan.recordOf compiler target reported) :=
      Plan.records_recordOf isAccount inAccount
    cases recorded : Plan.recordOf compiler target reported with
    | ok entry => exact ⟨entry, rfl⟩
    | error failure =>
        rw [recorded] at records
        exact absurd records (noFailure failure)
  · intro all failure recorded
    obtain ⟨place, reported, inAccount, isFailure⟩ :=
      Plan.exists_recordOf_of_mem_failures isAccount recorded
    obtain ⟨entry, isEntry⟩ := (compilesAt_iff isAccount coherent listed inAccount target).mp
      (all place (List.mem_map_of_mem inAccount))
    cases isFailure.symm.trans isEntry

section Plan

variable (root target : String)

theorem tellsItsCode_ofPlan : (ofPlan workspace compiler root target).TellsItsCode := by
  cases walked : Discovery.walk workspace root with
  | error error =>
      rw [ofPlan, walked]
      exact tellsItsCode_failure _ (by decide)
  | ok discovery =>
      rw [ofPlan_of_ok walked]
      refine tellsItsCode_ofPortable (portable_planJson _) (by decide) ?_
      cases complete : (Plan.ofDiscovery compiler discovery target).isComplete <;>
        simp [planJson, Json.get?, complete]

theorem endsWith_ofPlan (coherent : workspace.IsCoherent) :
    (ofPlan workspace compiler root target).EndsWith
      (Command.Lacks workspace (.plan root target))
      (Command.Succeeds workspace compiler (.plan root target)) := by
  rw [Command.Lacks, Command.Succeeds]
  cases walked : Discovery.walk workspace root with
  | error error =>
      rw [ofPlan, walked]
      refine endsWith_one rfl ⟨error, rfl⟩ ?_
      rintro ⟨entries, listed, -⟩
      exact Except.not_ok_of_error walked ⟨_, Discovery.walk_of_directory listed⟩
  | ok discovery =>
      obtain ⟨entries, account, listed, isAccount⟩ :=
        Discovery.exists_isAccount (coherent.wellFormed root) walked
      have succeeds : (Plan.ofDiscovery compiler discovery target).isComplete = true ↔
          ∃ entries, workspace root = .ok (.directory entries) ∧ ∀ (place : Place) content,
            FileAt (place.file configurationFile) content (.directory entries) →
              CompilesAt workspace compiler root place := by
        rw [isComplete_iff isAccount coherent listed]
        constructor
        · intro all
          refine ⟨entries, listed, fun place content configured => ?_⟩
          exact all place ((isAccount.mem_places place).mpr ⟨content, configured⟩)
        · rintro ⟨entries', listed', all⟩ place inPlaces
          cases listed.symm.trans listed'
          obtain ⟨content, configured⟩ := (isAccount.mem_places place).mp inPlaces
          exact all place content configured
      rw [ofPlan_of_ok walked]
      by_cases all : (Plan.ofDiscovery compiler discovery target).isComplete = true
      · exact endsWith_zero (if_pos all) (Except.not_error_of_ok rfl) (succeeds.mp all)
      · exact endsWith_two (if_neg all) (Except.not_error_of_ok rfl) (all ∘ succeeds.mpr)

end Plan

/-! ## The other commands -/

theorem tellsItsCode_ofPolicyTypes (catalog : Catalog) : (ofPolicyTypes catalog).TellsItsCode := by
  have portable : Portable 1 (.array (catalog.names.map Json.string)) := Json.portable_strings _
  exact tellsItsCode_ofPortable portable (by decide) (by simp [Json.get?])

theorem ofInspect_of_error {blob : String} {fault : Bundle.Fault}
    (refused : Bundle.decode blob = .error fault) : ofInspect blob = failure 1 fault.message := by
  unfold ofInspect
  rw [refused]

theorem ofInspect_of_ok {blob : String} {bundle : Bundle}
    (decoded : Bundle.decode blob = .ok bundle) :
    ofInspect blob =
      ofJson 0 (.object [("version", .string bundle.version), ("policy", .string bundle.policy),
        ("policy_branch", .string bundle.policyBranch), ("schema", bundle.schema)]) := by
  unfold ofInspect
  rw [decoded]

theorem tellsItsCode_ofInspect (blob : String) : (ofInspect blob).TellsItsCode := by
  have keys : ["version", "policy", "policy_branch", "schema"].Nodup := by decide
  cases decoded : Bundle.decode blob with
  | error fault =>
      rw [ofInspect_of_error decoded]
      exact tellsItsCode_failure _ (by decide)
  | ok bundle =>
      obtain ⟨held, isValue⟩ := Bundle.exists_isValue_of_decode decoded
      rw [ofInspect_of_ok decoded]
      refine tellsItsCode_ofLegible ?_ (Nat.lt_succ_of_le (Json.depth_object_le_iff.mpr ?_)) ?_
      · refine Json.legible_object_iff.mpr ⟨keys, ?_⟩
        simp only [List.forall_mem_cons]
        exact ⟨Json.legible_string _, Json.legible_string _, Json.legible_string _,
          Json.legible_of_isValue isValue, by simp⟩
      · simp only [List.forall_mem_cons]
        exact ⟨Nat.zero_le _, Nat.zero_le _, Nat.zero_le _, Json.depth_le_of_isValue isValue,
          by simp⟩
      · have silent : (none : Option Json) ≠ some (.bool false) := by simp
        exact iff_of_false silent (by simp)

theorem endsWith_ofInspect (blob : String) :
    (ofInspect blob).EndsWith (Command.Lacks workspace (.inspect blob))
      (Command.Succeeds workspace compiler (.inspect blob)) := by
  rw [Command.Lacks, Command.Succeeds]
  cases decoded : Bundle.decode blob with
  | error fault =>
      rw [ofInspect_of_error decoded]
      exact endsWith_one rfl ⟨fault, rfl⟩ nofun
  | ok bundle =>
      rw [ofInspect_of_ok decoded]
      exact endsWith_zero rfl nofun ⟨bundle, rfl⟩

/-! ## Every command -/

theorem tellsItsCode_ofCommand (catalog : Catalog) (command : Command) :
    (ofCommand workspace catalog command).TellsItsCode := by
  cases command with
  | compile directory name category version =>
      exact tellsItsCode_ofCompile directory name category version
  | plan root target => exact tellsItsCode_ofPlan root target
  | policyTypes => exact tellsItsCode_ofPolicyTypes catalog
  | inspect blob => exact tellsItsCode_ofInspect blob

theorem endsWith_ofCommand (coherent : workspace.IsCoherent) (catalog : Catalog)
    (command : Command) :
    (ofCommand workspace catalog command).EndsWith (command.Lacks workspace)
      (command.Succeeds workspace ⟨catalog, .standard⟩) := by
  cases command with
  | compile directory name category version =>
      exact endsWith_ofCompile directory name category version
  | plan root target => exact endsWith_ofPlan root target coherent
  | policyTypes => exact endsWith_zero rfl id trivial
  | inspect blob => exact endsWith_ofInspect blob

end Outcome

/-- The exit code and what is written tell the same story, for any command that the words spell. If
the policy types cannot be loaded the code is 1. Otherwise it is 1 just if what the command starts
from cannot be had, 0 just if the command succeeds, and else 2. What is written is in any case one
document, and it says that it is no success just if the code is not 0. -/
theorem exitCode_told (workspace : Workspace) (coherent : workspace.IsCoherent)
    (words : List String) (invocation : Invocation)
    (spelled : Invocation.ofWords words = .ok invocation) :
    (∀ error, Outcome.catalogWith workspace invocation.catalogDirectory = .error error →
      (Outcome.ofWords workspace words).code = 1) ∧
    (∀ catalog, Outcome.catalogWith workspace invocation.catalogDirectory = .ok catalog →
      (Outcome.ofWords workspace words).EndsWith (invocation.command.Lacks workspace)
        (invocation.command.Succeeds workspace ⟨catalog, .standard⟩)) ∧
    (Outcome.ofWords workspace words).TellsItsCode := by
  rw [Outcome.ofWords, spelled]
  dsimp only
  rw [Outcome.ofInvocation]
  cases loaded : Outcome.catalogWith workspace invocation.catalogDirectory with
  | error failed =>
      refine ⟨fun _ _ => rfl, ?_, Outcome.tellsItsCode_failure _ (by decide)⟩
      rintro catalog ⟨⟩
  | ok catalog =>
      refine ⟨?_, ?_, Outcome.tellsItsCode_ofCommand catalog _⟩
      · rintro failed ⟨⟩
      · rintro _ ⟨⟩
        exact Outcome.endsWith_ofCommand coherent catalog _

/-- The tree holds one factory. It can be loaded, but there is neither a template nor a policy type
to compile it from. -/
theorem exitCode_told_twoVersions :
    (Outcome.ofWords twoVersionsTree.resolve ["plan", "factories"]).code = 2 ∧
    (Outcome.ofWords twoVersionsTree.resolve ["plan", "factories"]).TellsItsCode ∧
    (Outcome.ofWords twoVersionsTree.resolve ["policy-types"]).code = 0 ∧
    (Outcome.ofWords twoVersionsTree.resolve ["--catalog-dir=none", "policy-types"]).code = 1 := by
  have coherent : Workspace.IsCoherent twoVersionsTree.resolve :=
    Node.isCoherent_resolve (by decide)
  have listed : twoVersionsTree.resolve "factories" = .ok (.directory Discovery.twoVersions) := by
    rfl
  obtain ⟨-, planned, told⟩ := exitCode_told _ coherent ["plan", "factories"]
    ⟨none, .plan "factories" Plan.defaultTarget⟩ (by rfl)
  obtain ⟨-, named, -⟩ := exitCode_told _ coherent ["policy-types"] ⟨none, .policyTypes⟩ (by rfl)
  obtain ⟨unlisted, -⟩ := exitCode_told _ coherent ["--catalog-dir=none", "policy-types"]
    ⟨some "none", .policyTypes⟩ (by rfl)
  refine ⟨(planned PolicyType.builtin rfl).two.mpr ⟨?_, ?_⟩, told,
    (named PolicyType.builtin rfl).zero.mpr trivial, unlisted ("none", .notFound) (by rfl)⟩
  · exact Except.not_error_of_ok (Discovery.walk_of_directory listed)
  · rintro ⟨entries, listed', all⟩
    cases listed.symm.trans listed'
    obtain ⟨definition, compiled, loaded, compiles⟩ := all _ _ Discovery.fileAt_twoVersions
    have there : Place.directory "factories" (Labels.place ("app", "db", "v1")) =
        "factories/app/db/v1" := by
      decide
    rw [Place.labels_place, there] at loaded
    have loads : Definition.load twoVersionsTree.resolve "factories/app/db/v1" "app" "db" "v1" =
        .ok ⟨"app", "db", "v1", "factories/app/db/v1", none, .object []⟩ := by
      decide +kernel
    cases loads.symm.trans loaded
    have fails : Compiler.compile ⟨PolicyType.builtin, .standard⟩
        ⟨"db", "v1", "app", none, .object []⟩ = .error .missingTemplate := by
      rfl
    exact Except.not_ok_of_error fails ⟨compiled, compiles⟩

end FactoryBundler.CommandLine
