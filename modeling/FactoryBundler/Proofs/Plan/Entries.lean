import FactoryBundler.Plan
import FactoryBundler.Proofs.Bundle.RoundTrip
import FactoryBundler.Proofs.Configuration.Build
import FactoryBundler.Proofs.Schema.Documents

/-!
# Entries of a plan

A factory that compiles is never lost on its way into a plan: its bundle can always be read back,
whatever texts its settings hold, since the generated schema is portable.
-/

namespace FactoryBundler

theorem Compiler.decode_encode_bundleOf (version : String) (configuration : Configuration) :
    Bundle.decode (bundleOf version configuration).encode =
      .ok (bundleOf version configuration) := by
  have portable := Schema.portable_ofConfiguration configuration
  exact Bundle.decode_encode_of_depth_le portable.wellFormed portable.doubleFree
    (portable.depth_le.trans (by decide))

/-- What an entry says of a bundle is true, and its factory is that bundle. -/
structure PlanEntry.Describes (entry : PlanEntry) (bundle : Bundle) : Prop where
  decodes : Bundle.decode entry.factory = .ok bundle
  fingerprint : bundle.fingerprint = entry.fingerprint
  title : bundle.title = entry.title
  description : bundle.description = entry.description

/-- An entry belongs to a definition: it lies at the definition's path, and it describes the bundle
that the definition's request compiles to. -/
def PlanEntry.BelongsTo (compiler : Compiler) (target : String) (definition : Definition)
    (entry : PlanEntry) : Prop :=
  ∃ compiled, compiler.compile definition.toRequest = .ok compiled ∧
    compiled.bundle.version = definition.version ∧
    entry.path = Plan.targetPath target definition.variablePath ∧
    entry.Describes compiled.bundle

namespace Plan

variable {compiler : Compiler} {target : String} {definition : Definition}

theorem belongsTo_ofBundle {compiled : Compiled}
    (h : compiler.compile definition.toRequest = .ok compiled) :
    (PlanEntry.ofBundle (targetPath target definition.variablePath) compiled.bundle).BelongsTo
      compiler target definition := by
  obtain ⟨configuration, -, bundle⟩ := Compiler.exists_bundleOf h
  have decodes : Bundle.decode compiled.bundle.encode = .ok compiled.bundle := by
    rw [bundle]
    exact Compiler.decode_encode_bundleOf _ _
  have version : compiled.bundle.version = definition.version := by
    rw [bundle]
    rfl
  exact ⟨compiled, h, version, rfl, decodes, rfl, rfl, rfl⟩

/-- The entries of a plan belong, one to one and in order, to the definitions that compile. Each
decodes to the very bundle that was compiled and says the truth about it, so no factory is lost
because its own transport form cannot be read. -/
theorem factories_belongTo_compiled (compiler : Compiler) (discovery : Discovery)
    (target : String) :
    List.Forall₂ (PlanEntry.BelongsTo compiler target)
      (discovery.definitions.filter fun definition =>
        (compiler.compile definition.toRequest).isOk)
      (ofDiscovery compiler discovery target).factories := by
  rw [ofDiscovery]
  dsimp only
  induction discovery.definitions with
  | nil => exact .nil
  | cons definition more ih =>
      cases compiles : compiler.compile definition.toRequest with
      | error error =>
          rw [List.filter_cons_of_neg (by simp [compiles, Except.isOk, Except.toBool]),
            List.filterMap_cons_none (by simp [ofDefinition, compiles])]
          exact ih
      | ok compiled =>
          rw [List.filter_cons_of_pos (by simp [compiles, Except.isOk, Except.toBool]),
            List.filterMap_cons_some (by rw [ofDefinition, compiles])]
          exact .cons (belongsTo_ofBundle compiles) ih

end Plan

end FactoryBundler
