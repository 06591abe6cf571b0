import FactoryBundler.CommandLine.Outcome
import FactoryBundler.Proofs.Json.Pretty
import FactoryBundler.Proofs.Plan.Entries

/-!
# Documents that are written

What the program writes of factories, plans and errors has distinct keys, holds no doubles and is
only a few levels deep. So each of these documents is what is read from its text.
-/

namespace FactoryBundler.CommandLine.Outcome

open Json (Portable)

variable {compiler : Compiler} {document : Json} {code levels : Nat}

/-- A document that is written is what is read from its text. -/
theorem readText_ofJson (portable : Portable levels document) (shallow : levels < Json.depthLimit) :
    Json.readText (ofJson code document).output = .ok document :=
  Json.readText_pretty_of_doubleFree portable.wellFormed portable.doubleFree
    (Nat.lt_of_le_of_lt portable.depth_le shallow)

/-- An object that holds nothing but texts. -/
theorem portable_texts {members : List (String × Json)} (keys : (Members.keys members).Nodup)
    (texts : ∀ member ∈ members, ∃ s, member.2 = .string s) :
    Portable (levels + 1) (.object members) := by
  refine .object keys fun member inMembers => ?_
  obtain ⟨s, isText⟩ := texts member inMembers
  rw [isText]
  exact Json.portable_string s

/-- The document that tells an error. -/
theorem portable_error (message : String) :
    Portable 1 (.object [("success", .bool false), ("error", .string message)]) := by
  have keys : ["success", "error"].Nodup := by decide
  refine .object keys ?_
  simp only [List.forall_mem_cons]
  exact ⟨Json.portable_bool _, Json.portable_string _, by simp⟩

/-! ## Compiled factories -/

theorem portable_warning (warning : Warning) : Portable (levels + 1) warning.toJson := by
  have keys : ["setting", "message"].Nodup := by decide
  exact portable_texts keys (by simp)

theorem portable_compiledJson {request : Request} {compiled : Compiled}
    (compiles : compiler.compile request = .ok compiled) : Portable 7 (compiledJson compiled) := by
  have keys : ["success", "factory", "fingerprint", "policy", "policy_branch", "schema",
      "warnings"].Nodup := by
    decide
  obtain ⟨configuration, -, bundle⟩ := Compiler.exists_bundleOf compiles
  have schema : Portable 6 compiled.bundle.schema := by
    rw [bundle]
    exact Schema.portable_ofConfiguration configuration
  have warnings : Portable 6 (.array (compiled.warnings.map Warning.toJson)) := by
    apply Portable.array
    intro item inItems
    obtain ⟨warning, -, rfl⟩ := List.mem_map.mp inItems
    exact portable_warning warning
  refine .object keys ?_
  simp only [List.forall_mem_cons]
  exact ⟨Json.portable_bool _, Json.portable_string _, Json.portable_string _,
    Json.portable_string _, Json.portable_string _, schema, warnings, by simp⟩

/-! ## Plans -/

theorem portable_entry (entry : PlanEntry) : Portable (levels + 1) entry.toJson := by
  have keys : ["path", "title", "description", "factory", "fingerprint"].Nodup := by decide
  exact portable_texts keys (by simp)

theorem portable_planFailure (failure : PlanFailure) : Portable (levels + 1) failure.toJson := by
  have keys : ["path", "error"].Nodup := by decide
  exact portable_texts keys (by simp)

theorem portable_plan (plan : Plan) : Portable (levels + 3) plan.toJson := by
  have keys : ["factories", "failures"].Nodup := by decide
  have factories : Portable (levels + 2) (.array (plan.factories.map PlanEntry.toJson)) := by
    apply Portable.array
    intro item inItems
    obtain ⟨entry, -, rfl⟩ := List.mem_map.mp inItems
    exact portable_entry entry
  have failures : Portable (levels + 2) (.array (plan.failures.map PlanFailure.toJson)) := by
    apply Portable.array
    intro item inItems
    obtain ⟨failure, -, rfl⟩ := List.mem_map.mp inItems
    exact portable_planFailure failure
  refine .object keys ?_
  simp only [List.forall_mem_cons]
  exact ⟨factories, failures, by simp⟩

/-- The document that the plan command writes. -/
def planJson (plan : Plan) : Json :=
  .object [
    ("success", .bool plan.isComplete),
    ("engine_version", .string programVersion),
    ("plan", plan.toJson)]

theorem portable_planJson (plan : Plan) : Portable 4 (planJson plan) := by
  have keys : ["success", "engine_version", "plan"].Nodup := by decide
  refine .object keys ?_
  simp only [List.forall_mem_cons]
  exact ⟨Json.portable_bool _, Json.portable_string _, portable_plan plan, by simp⟩

theorem ofPlan_of_ok {workspace : Workspace} {root : RawText} {target : String}
    {discovery : Discovery} (walked : Discovery.walk workspace root = .ok discovery) :
    ofPlan workspace compiler root target =
      ofJson (if (Plan.ofDiscovery compiler discovery target).isComplete then 0 else 2)
        (planJson (Plan.ofDiscovery compiler discovery target)) := by
  rw [ofPlan, walked]
  rfl

end FactoryBundler.CommandLine.Outcome
