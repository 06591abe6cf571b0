import FactoryBundler.Proofs.CommandLine.ExitCodes
import FactoryBundler.Proofs.CommandLine.Requests

/-!
# What the exit code 2 tells

For words that spell an invocation the program ends with 2 only because of a factory: the one it is
to compile does not, or the plan has failures. What it cannot read makes it end with 1. But words
that make no sense make it end with 2 as well, so whoever sees a 2 has to know that the words make
sense to conclude that a factory failed.
-/

namespace FactoryBundler.CommandLine

open Definition (fromDirectory)

/-! ## Why the program ends as it does -/

/-- A command meets a failure: the factory that it is to compile is found and does not compile, or
the plan records one. -/
inductive Command.MeetsFailure (workspace : Workspace) (compiler : Compiler) : Command → Prop
  | compile {directory : String} {name category version : Option String}
      {definition : Definition} {error : CompileError} :
      fromDirectory workspace directory = .ok definition →
      compiler.compile (relabel definition.toRequest name category version) = .error error →
      MeetsFailure workspace compiler (.compile directory name category version)
  | plan {root target : String} {discovery : Discovery} {failure : PlanFailure} :
      Discovery.walk workspace root = .ok discovery →
      failure ∈ (Plan.ofDiscovery compiler discovery target).failures →
      MeetsFailure workspace compiler (.plan root target)

/-- The words spell a command that meets a failure. -/
def FactoryFails (workspace : Workspace) (words : List String) : Prop :=
  ∃ invocation catalog, Spells words invocation ∧
    Outcome.catalogWith workspace invocation.catalogDirectory = .ok catalog ∧
      invocation.command.MeetsFailure workspace ⟨catalog, .standard⟩

/-- The words spell an invocation whose policy types cannot be loaded, or whose command cannot have
what it starts from. -/
def CannotStart (workspace : Workspace) (words : List String) : Prop :=
  ∃ invocation, Spells words invocation ∧
    ((∃ error, Outcome.catalogWith workspace invocation.catalogDirectory = .error error) ∨
      invocation.command.Lacks workspace)

/-- The code 2 is kept for factories that fail, and wrong use and what cannot be read end with 1. -/
structure ReservesTwo (workspace : Workspace) (words : List String) : Prop where
  two : (Outcome.ofWords workspace words).code = 2 → FactoryFails workspace words
  usage : IsMisspelled words → (Outcome.ofWords workspace words).code = 1
  reading : CannotStart workspace words → (Outcome.ofWords workspace words).code = 1

variable {workspace : Workspace} {compiler : Compiler} {words : List String}
  {invocation : Invocation}

/-! ## Commands -/

namespace Outcome

theorem code_ofCompile_eq_two_iff {directory : String} {name category version : Option String} :
    (ofCompile workspace compiler directory name category version).code = 2 ↔
      Command.MeetsFailure workspace compiler (.compile directory name category version) := by
  rw [ofCompile]
  split
  · next error unloadable =>
    refine iff_of_false (by rintro ⟨⟩) ?_
    rintro ⟨loaded, -⟩
    cases unloadable.symm.trans loaded
  · next definition loaded =>
    dsimp only
    split
    · next error fails => exact iff_of_true rfl (.compile loaded fails)
    · next compiled compiles =>
      refine iff_of_false (by rintro ⟨⟩) ?_
      rintro ⟨loaded', fails⟩
      cases loaded.symm.trans loaded'
      exact Except.not_ok_of_error fails ⟨compiled, compiles⟩

theorem code_ofPlan_eq_two_iff {root target : String} :
    (ofPlan workspace compiler root target).code = 2 ↔
      Command.MeetsFailure workspace compiler (.plan root target) := by
  rw [ofPlan]
  split
  · next error unlistable =>
    refine iff_of_false (by rintro ⟨⟩) ?_
    rintro (_ | ⟨walked, -⟩)
    cases unlistable.symm.trans walked
  · next discovery walked =>
    by_cases complete : (Plan.ofDiscovery compiler discovery target).isComplete = true
    · refine iff_of_false (by simp [ofJson, complete]) ?_
      rintro (_ | ⟨walked', recorded⟩)
      cases walked.symm.trans walked'
      rw [Plan.isComplete, List.isEmpty_iff] at complete
      exact List.not_mem_nil (complete ▸ recorded)
    · have notEmpty : (Plan.ofDiscovery compiler discovery target).failures ≠ [] := by
        rwa [Plan.isComplete, List.isEmpty_iff] at complete
      obtain ⟨failure, recorded⟩ := List.exists_mem_of_ne_nil _ notEmpty
      exact iff_of_true (by simp [ofJson, complete]) (.plan walked recorded)

theorem code_ofPlan_eq_one_iff {root target : String} :
    (ofPlan workspace compiler root target).code = 1 ↔
      Command.Lacks workspace (.plan root target) := by
  rw [ofPlan, Command.Lacks]
  split
  · next error unlistable => exact iff_of_true rfl ⟨error, unlistable⟩
  · next discovery walked =>
    refine iff_of_false ?_ (Except.not_error_of_ok walked)
    dsimp only [ofJson]
    split <;> decide

theorem code_ofInspect_ne_two (blob : String) : (ofInspect blob).code ≠ 2 := by
  cases decoded : Bundle.decode blob with
  | error fault =>
      rw [ofInspect_of_error decoded]
      exact nofun
  | ok bundle =>
      rw [ofInspect_of_ok decoded]
      exact nofun

variable {catalog : Catalog} {command : Command}

theorem code_ofCommand_eq_two_iff : (ofCommand workspace catalog command).code = 2 ↔
    command.MeetsFailure workspace ⟨catalog, .standard⟩ := by
  cases command with
  | compile directory name category version => exact code_ofCompile_eq_two_iff
  | plan root target => exact code_ofPlan_eq_two_iff
  | policyTypes => exact iff_of_false nofun nofun
  | inspect blob => exact iff_of_false (code_ofInspect_ne_two blob) nofun

theorem code_ofCommand_eq_one_iff :
    (ofCommand workspace catalog command).code = 1 ↔ command.Lacks workspace := by
  cases command with
  | compile directory name category version =>
      exact (endsWith_ofCompile directory name category version).one
  | plan root target => exact code_ofPlan_eq_one_iff
  | policyTypes => exact iff_of_false nofun id
  | inspect blob =>
      have ends : (ofInspect blob).EndsWith (Command.Lacks workspace (.inspect blob))
          (Command.Succeeds workspace ⟨catalog, .standard⟩ (.inspect blob)) :=
        endsWith_ofInspect blob
      exact ends.one

/-! ## Invocations -/

theorem code_ofInvocation_eq_two_iff : (ofInvocation workspace invocation).code = 2 ↔
    ∃ catalog, catalogWith workspace invocation.catalogDirectory = .ok catalog ∧
      invocation.command.MeetsFailure workspace ⟨catalog, .standard⟩ := by
  rw [ofInvocation]
  split
  · next catalog loaded =>
    rw [code_ofCommand_eq_two_iff, loaded]
    simp
  · next unloaded =>
    rw [unloaded]
    refine iff_of_false (by rintro ⟨⟩) ?_
    rintro ⟨catalog, loaded, -⟩
    cases loaded

theorem code_ofInvocation_eq_one_iff : (ofInvocation workspace invocation).code = 1 ↔
    (∃ error, catalogWith workspace invocation.catalogDirectory = .error error) ∨
      invocation.command.Lacks workspace := by
  rw [ofInvocation]
  split
  · next catalog loaded =>
    rw [code_ofCommand_eq_one_iff, loaded]
    simp
  · next unloaded =>
    rw [unloaded]
    exact iff_of_true rfl (Or.inl ⟨_, rfl⟩)

end Outcome

/-! ## Words -/

theorem code_ofWords_eq_two_iff : (Outcome.ofWords workspace words).code = 2 ↔
    IsMisspelled words ∨ FactoryFails workspace words := by
  rw [isMisspelled_iff, Outcome.ofWords]
  simp only [FactoryFails, ← ofWords_eq_ok_iff]
  cases Invocation.ofWords words with
  | ok invocation => simp [Outcome.code_ofInvocation_eq_two_iff]
  | error reason => cases reason <;> simp [Outcome.ofStop]

theorem code_ofWords_eq_one_iff : (Outcome.ofWords workspace words).code = 1 ↔
    CannotStart workspace words := by
  rw [Outcome.ofWords]
  simp only [CannotStart, ← ofWords_eq_ok_iff]
  cases Invocation.ofWords words with
  | ok invocation => simp [Outcome.code_ofInvocation_eq_one_iff]
  | error reason => cases reason <;> simp [Outcome.ofStop]

/-- The program ends with 2 exactly if the words make no sense or a factory fails, and with 1
exactly if something cannot be read. So the code 2 is kept for factories that fail, and the code 1
for wrong use as well, exactly if the words make sense. A request for help or for the version makes
sense, and it holds a word that can ask for one. -/
theorem reservesTwo_iff (workspace : Workspace) (words : List String) :
    ((Outcome.ofWords workspace words).code = 2 ↔
      IsMisspelled words ∨ FactoryFails workspace words) ∧
    ((Outcome.ofWords workspace words).code = 1 ↔ CannotStart workspace words) ∧
    (ReservesTwo workspace words ↔ ¬ IsMisspelled words) ∧
    (AsksForText words → ∃ text ∈ words, IsRequest text) := by
  refine ⟨code_ofWords_eq_two_iff, code_ofWords_eq_one_iff, ?_, exists_isRequest_of_asksForText⟩
  constructor
  · intro reserves misspelled
    have two : (Outcome.ofWords workspace words).code = 2 :=
      code_ofWords_eq_two_iff.mpr (Or.inl misspelled)
    cases two.symm.trans (reserves.usage misspelled)
  · intro sensible
    refine ⟨fun two => ?_, fun misspelled => absurd misspelled sensible, ?_⟩
    · exact (code_ofWords_eq_two_iff.mp two).resolve_left sensible
    · exact code_ofWords_eq_one_iff.mpr

/-- A command without its directory ends with 2, although there is no factory that could fail. -/
theorem not_reservesTwo_compile :
    (Outcome.ofWords (Node.directory []).resolve ["compile"]).code = 2 ∧
      ¬ FactoryFails (Node.directory []).resolve ["compile"] ∧
      ¬ ReservesTwo (Node.directory []).resolve ["compile"] := by
  have misread : Invocation.ofWords ["compile"] = .error .misuse := by rfl
  have misspelled := isMisspelled_iff.mpr misread
  have two : (Outcome.ofWords (Node.directory []).resolve ["compile"]).code = 2 :=
    code_ofWords_eq_two_iff.mpr (Or.inl misspelled)
  refine ⟨two, fun ⟨invocation, _, spells, _⟩ => misspelled.2 invocation spells, ?_⟩
  intro reserves
  cases two.symm.trans (reserves.usage misspelled)

end FactoryBundler.CommandLine
