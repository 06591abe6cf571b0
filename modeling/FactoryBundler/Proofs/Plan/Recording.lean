import FactoryBundler.Plan
import FactoryBundler.Proofs.Files.Path
import FactoryBundler.Proofs.Sorting
import FactoryBundler.Proofs.Text.ByteOrder
import Mathlib.Data.List.Perm.Basic

/-!
# What a plan records

A plan accounts for everything that was discovered: each definition and each load failure leaves one
record, and nothing else does. To say which record is about which item the records are numbered: a
trace of a plan carries with each record the position of its item. Leaving items out of a discovery
leaves their records out of the plan and no other, so what is recorded for one item does not depend
on the others.
-/

namespace FactoryBundler

open Text

/-! ## Numbered lists -/

section Numbered

variable {α β : Type} {elements : List α} {numbered : List (α × Nat)} {pick : α → Option β}

/-- The elements at chosen positions. -/
def keepAt (chosen : Nat → Bool) (elements : List α) : List α :=
  (elements.zipIdx.filter fun element => chosen element.2).map Prod.fst

theorem keepAt_cons (chosen : Nat → Bool) (a : α) (elements : List α) :
    keepAt chosen (a :: elements) =
      if chosen 0 then a :: keepAt (chosen ∘ Nat.succ) elements
      else keepAt (chosen ∘ Nat.succ) elements := by
  simp only [keepAt, List.zipIdx_cons, List.zipIdx_succ, List.filter_cons, List.filter_map]
  split <;> simp [Function.comp_def]

/-- A choice of positions behind the first, and whether the first is chosen. -/
def withFirst (first : Bool) (chosen : Nat → Bool) : Nat → Bool
  | 0 => first
  | position + 1 => chosen position

/-- A part of a list consists of the elements at some positions. -/
theorem exists_keepAt_of_sublist {part : List α} (sublist : part.Sublist elements) :
    ∃ chosen, part = keepAt chosen elements := by
  induction sublist with
  | slnil => exact ⟨fun _ => false, rfl⟩
  | cons a _ ih =>
      obtain ⟨chosen, rfl⟩ := ih
      refine ⟨withFirst false chosen, ?_⟩
      rw [keepAt_cons]
      rfl
  | cons_cons a _ ih =>
      obtain ⟨chosen, rfl⟩ := ih
      refine ⟨withFirst true chosen, ?_⟩
      rw [keepAt_cons]
      rfl

theorem pairwise_zipIdx (elements : List α) :
    elements.zipIdx.Pairwise fun first second => first.2 < second.2 := by
  rw [← List.pairwise_map, List.zipIdx_map_snd]
  exact List.pairwise_lt_range'

/-- Two picks that share out the elements of a list pick together what belongs to each of them. -/
theorem filterMap_append_filterMap_perm {key : α → β} {first second : α → Option β}
    (shared : ∀ a ∈ elements, first a = some (key a) ∧ second a = none ∨
      first a = none ∧ second a = some (key a)) :
    (elements.filterMap first ++ elements.filterMap second).Perm (elements.map key) := by
  induction elements with
  | nil => rfl
  | cons a more ih =>
      rw [List.forall_mem_cons] at shared
      have ih := ih shared.2
      rw [List.map_cons]
      rcases shared.1 with ⟨here, notHere⟩ | ⟨notHere, here⟩
      · rw [List.filterMap_cons_some here, List.filterMap_cons_none notHere, List.cons_append]
        exact ih.cons _
      · rw [List.filterMap_cons_none notHere, List.filterMap_cons_some here]
        exact List.perm_middle.trans (ih.cons _)

/-- What is picked from numbered elements, under their numbers. -/
def pickNumbered (pick : α → Option β) (numbered : List (α × Nat)) : List (Nat × β) :=
  numbered.filterMap fun element => (pick element.1).map (element.2, ·)

theorem mem_pickNumbered {position : Nat} {b : β} :
    (position, b) ∈ pickNumbered pick numbered ↔
      ∃ a, (a, position) ∈ numbered ∧ pick a = some b := by
  rw [pickNumbered, List.mem_filterMap]
  constructor
  · rintro ⟨⟨a, position⟩, inNumbered, picked⟩
    obtain ⟨b, found, pair⟩ := Option.map_eq_some_iff.mp picked
    cases pair
    exact ⟨a, inNumbered, found⟩
  · rintro ⟨a, inNumbered, found⟩
    exact ⟨(a, position), inNumbered, by simp only [found, Option.map_some]⟩

theorem map_snd_pickNumbered :
    (pickNumbered pick numbered).map Prod.snd = (numbered.map Prod.fst).filterMap pick := by
  rw [pickNumbered, List.map_filterMap, List.filterMap_map]
  simp only [Option.map_map, Function.comp_def, Option.map_id']

theorem pairwise_pickNumbered
    (ascending : numbered.Pairwise fun first second => first.2 < second.2) :
    (pickNumbered pick numbered).Pairwise fun first second => first.1 < second.1 := by
  rw [pickNumbered, List.pairwise_filterMap]
  refine ascending.imp fun less first inFirst second inSecond => ?_
  obtain ⟨-, -, rfl⟩ := Option.map_eq_some_iff.mp inFirst
  obtain ⟨-, -, rfl⟩ := Option.map_eq_some_iff.mp inSecond
  exact less

theorem filter_pickNumbered (chosen : Nat → Bool) :
    (pickNumbered pick numbered).filter (fun picked => chosen picked.1) =
      pickNumbered pick (numbered.filter fun element => chosen element.2) := by
  rw [pickNumbered, pickNumbered, List.filter_filterMap, List.filterMap_filter]
  congr 1
  funext element
  cases pick element.1 with
  | none => simp
  | some b => simp [Option.filter]

end Numbered

/-! ## Items -/

/-- One thing that a discovery reports. -/
inductive Discovery.Item where
  | unloadable (failure : LoadFailure)
  | defined (definition : Definition)

/-- Everything that a discovery reports, with the load failures in front. -/
def Discovery.items (discovery : Discovery) : List Item :=
  discovery.failures.map .unloadable ++ discovery.definitions.map .defined

namespace Plan

variable {compiler : Compiler} {target : String}

/-- What is recorded for an item. -/
def record (compiler : Compiler) (target : String) :
    Discovery.Item → Except PlanFailure PlanEntry
  | .unloadable failure => .error (ofLoadFailure target failure)
  | .defined definition => ofDefinition compiler target definition

/-- The entry of an item that has one. -/
def entryOf? (compiler : Compiler) (target : String) (item : Discovery.Item) : Option PlanEntry :=
  match record compiler target item with
  | .ok entry => some entry
  | .error _ => none

/-- The failure of an item that has one. -/
def failureOf? (compiler : Compiler) (target : String) (item : Discovery.Item) :
    Option PlanFailure :=
  match record compiler target item with
  | .ok _ => none
  | .error failure => some failure

theorem entryOf?_eq_some_iff {item : Discovery.Item} {entry : PlanEntry} :
    entryOf? compiler target item = some entry ↔ record compiler target item = .ok entry := by
  rw [entryOf?]
  cases record compiler target item <;> simp

theorem failureOf?_eq_some_iff {item : Discovery.Item} {failure : PlanFailure} :
    failureOf? compiler target item = some failure ↔
      record compiler target item = .error failure := by
  rw [failureOf?]
  cases record compiler target item <;> simp

/-- The plan for items that are given one after the other. -/
def ofItems (compiler : Compiler) (target : String) (items : List Discovery.Item) : Plan where
  factories := items.filterMap (entryOf? compiler target)
  failures := sortFailures (items.filterMap (failureOf? compiler target))

theorem ofDiscovery_eq_ofItems (discovery : Discovery) :
    ofDiscovery compiler discovery target = ofItems compiler target discovery.items := by
  have noEntries : (discovery.failures.map Discovery.Item.unloadable).filterMap
      (entryOf? compiler target) = [] := by
    simp [entryOf?, record]
  have allFailures : (discovery.failures.map Discovery.Item.unloadable).filterMap
      (failureOf? compiler target) = discovery.failures.map (ofLoadFailure target) := by
    rw [List.filterMap_map, ← List.filterMap_eq_map]
    rfl
  rw [ofItems, Discovery.items, List.filterMap_append, List.filterMap_append, noEntries,
    allFailures, List.filterMap_map, List.filterMap_map]
  rfl

variable {discovery : Discovery}

/-- The entries are what is recorded for definitions that compile. -/
theorem mem_factories_iff {entry : PlanEntry} :
    entry ∈ (ofDiscovery compiler discovery target).factories ↔
      ∃ definition ∈ discovery.definitions,
        ofDefinition compiler target definition = .ok entry := by
  rw [ofDiscovery, List.mem_filterMap]
  refine exists_congr fun definition => and_congr_right fun _ => ?_
  cases ofDefinition compiler target definition <;> simp

/-- The failures are what is recorded for load failures and for definitions that do not compile. -/
theorem mem_failures_iff {failure : PlanFailure} :
    failure ∈ (ofDiscovery compiler discovery target).failures ↔
      (∃ unloadable ∈ discovery.failures, ofLoadFailure target unloadable = failure) ∨
      ∃ definition ∈ discovery.definitions,
        ofDefinition compiler target definition = .error failure := by
  rw [ofDiscovery, sortFailures, List.mem_mergeSort, List.mem_append, List.mem_map,
    List.mem_filterMap]
  refine or_congr Iff.rfl (exists_congr fun definition => and_congr_right fun _ => ?_)
  cases ofDefinition compiler target definition <;> simp

/-! ## Traces -/

/-- A plan in which every record carries the position of the item that it is about. -/
@[ext]
structure Trace where
  factories : List (Nat × PlanEntry)
  failures : List (Nat × PlanFailure)

namespace Trace

/-- The plan without the positions. -/
def plan (trace : Trace) : Plan :=
  ⟨trace.factories.map Prod.snd, trace.failures.map Prod.snd⟩

/-- The positions of the items that are recorded. -/
def positions (trace : Trace) : List Nat :=
  trace.factories.map Prod.fst ++ trace.failures.map Prod.fst

/-- The records of the items at chosen positions. -/
def keep (chosen : Nat → Bool) (trace : Trace) : Trace where
  factories := trace.factories.filter fun recorded => chosen recorded.1
  failures := trace.failures.filter fun recorded => chosen recorded.1

/-- The trace of numbered items. -/
def ofNumbered (compiler : Compiler) (target : String) (numbered : List (Discovery.Item × Nat)) :
    Trace where
  factories := pickNumbered (entryOf? compiler target) numbered
  failures := (pickNumbered (failureOf? compiler target) numbered).mergeSort fun first second =>
    first.2.path ≤ second.2.path

variable {numbered : List (Discovery.Item × Nat)}

/-- The trace of numbered items is the plan for them, with their numbers. -/
theorem plan_ofNumbered :
    (ofNumbered compiler target numbered).plan =
      ofItems compiler target (numbered.map Prod.fst) := by
  have sorted (failures : List (Nat × PlanFailure)) :
      (failures.mergeSort fun first second => first.2.path ≤ second.2.path).map Prod.snd =
        sortFailures (failures.map Prod.snd) := List.map_mergeSort fun _ _ _ _ => rfl
  rw [plan, ofNumbered, sorted, map_snd_pickNumbered, map_snd_pickNumbered, ofItems]

/-- Every item is recorded once. -/
theorem positions_ofNumbered :
    (ofNumbered compiler target numbered).positions.Perm (numbered.map Prod.snd) := by
  have sorted := (List.mergeSort_perm (pickNumbered (failureOf? compiler target) numbered)
    fun first second => first.2.path ≤ second.2.path).map Prod.fst
  refine (sorted.append_left _).trans ?_
  rw [ofNumbered, pickNumbered, pickNumbered, List.map_filterMap, List.map_filterMap]
  apply filterMap_append_filterMap_perm
  rintro ⟨item, position⟩ -
  cases recorded : record compiler target item with
  | ok entry => exact Or.inl (by simp [entryOf?, failureOf?, recorded])
  | error failure => exact Or.inr (by simp [entryOf?, failureOf?, recorded])

/-- The failures are in the order of their paths, and those of one path in the order of their
items. -/
theorem pairwise_failures (ascending : numbered.Pairwise fun first second => first.2 < second.2) :
    (ofNumbered compiler target numbered).failures.Pairwise fun first second =>
      first.2.path < second.2.path ∨ first.2.path = second.2.path ∧ first.1 < second.1 :=
  Sorting.pairwise_mergeSort (pairwise_pickNumbered ascending)

/-- Leaving out items leaves out their records. -/
theorem keep_ofNumbered (ascending : numbered.Pairwise fun first second => first.2 < second.2)
    (chosen : Nat → Bool) :
    (ofNumbered compiler target numbered).keep chosen =
      ofNumbered compiler target (numbered.filter fun item => chosen item.2) := by
  apply Trace.ext
  · exact filter_pickNumbered chosen
  · -- both sides hold the same records, in an order that leaves no choice
    refine List.Perm.eq_of_pairwise ?_ ((pairwise_failures ascending).filter _)
      (pairwise_failures (ascending.filter _)) ?_
    · intro first second _ _ before after
      rcases before with less | ⟨same, less⟩ <;> rcases after with greater | ⟨same', greater⟩
      · exact absurd greater (String.lt_asymm less)
      · exact absurd less (same' ▸ String.lt_irrefl _)
      · exact absurd greater (same ▸ String.lt_irrefl _)
      · exact absurd greater (Nat.lt_asymm less)
    · refine ((List.mergeSort_perm _ _).filter _).trans ?_
      rw [filter_pickNumbered]
      exact (List.mergeSort_perm _ _).symm

/-- What a trace has to say to account for a discovery. -/
structure AccountsFor (compiler : Compiler) (target : String) (discovery : Discovery)
    (trace : Trace) : Prop where
  /-- Without the positions it is the plan. -/
  plan_eq : trace.plan = ofDiscovery compiler discovery target
  /-- Every item is recorded, and none twice. -/
  positions_perm : trace.positions.Perm (List.range discovery.items.length)
  /-- The entries are those of the definitions that compile. -/
  of_mem_factories : ∀ position entry, (position, entry) ∈ trace.factories →
    ∃ definition compiled, discovery.items[position]? = some (.defined definition) ∧
      compiler.compile definition.toRequest = .ok compiled ∧
      entry = .ofBundle (targetPath target definition.variablePath) compiled.bundle
  /-- The failures are those of load failures and of definitions that do not compile. -/
  of_mem_failures : ∀ position failure, (position, failure) ∈ trace.failures →
    (∃ unloadable, discovery.items[position]? = some (.unloadable unloadable) ∧
      failure = ⟨targetPath target unloadable.variablePath, .load unloadable.error⟩) ∨
    ∃ definition error, discovery.items[position]? = some (.defined definition) ∧
      compiler.compile definition.toRequest = .error error ∧
      failure = ⟨targetPath target definition.variablePath, .compile error⟩
  /-- The entries are in the order of their discovery. -/
  factories_ascending : trace.factories.Pairwise fun first second => first.1 < second.1
  /-- The failures are in the order of the bytes of their paths, and those of one path are in the
  order of their items, which has load failures in front. -/
  failures_ascending : trace.failures.Pairwise fun first second =>
    Utf8.encode first.2.path < Utf8.encode second.2.path ∨
      first.2.path = second.2.path ∧ first.1 < second.1

theorem accountsFor_ofNumbered (discovery : Discovery) :
    (ofNumbered compiler target discovery.items.zipIdx).AccountsFor compiler target discovery where
  plan_eq := by
    rw [plan_ofNumbered, List.zipIdx_map_fst, ofDiscovery_eq_ofItems]
  positions_perm := by
    refine positions_ofNumbered.trans ?_
    rw [List.zipIdx_map_snd, List.range_eq_range']
  of_mem_factories position entry inFactories := by
    obtain ⟨item, numbered, found⟩ := mem_pickNumbered.mp inFactories
    have isItem := List.mk_mem_zipIdx_iff_getElem?.mp numbered
    have recorded := entryOf?_eq_some_iff.mp found
    cases item with
    | unloadable failure => cases recorded
    | defined definition =>
        rw [record, ofDefinition] at recorded
        split at recorded <;> cases recorded
        exact ⟨definition, _, isItem, ‹_›, rfl⟩
  of_mem_failures position failure inFailures := by
    obtain ⟨item, numbered, found⟩ := mem_pickNumbered.mp (List.mem_mergeSort.mp inFailures)
    have isItem := List.mk_mem_zipIdx_iff_getElem?.mp numbered
    have recorded := failureOf?_eq_some_iff.mp found
    cases item with
    | unloadable failure =>
        cases recorded
        exact Or.inl ⟨failure, isItem, rfl⟩
    | defined definition =>
        rw [record, ofDefinition] at recorded
        split at recorded <;> cases recorded
        exact Or.inr ⟨definition, _, isItem, ‹_›, rfl⟩
  factories_ascending := pairwise_pickNumbered (pairwise_zipIdx _)
  failures_ascending := by
    refine (pairwise_failures (pairwise_zipIdx _)).imp fun ordered => ?_
    rwa [Utf8.encode_lt_encode_iff]

end Trace

/-- The records of some of the items are those of all items without the others. -/
theorem ofDiscovery_part {discovery part : Discovery}
    (failures : part.failures.Sublist discovery.failures)
    (definitions : part.definitions.Sublist discovery.definitions) :
    ∃ chosen, part.items = keepAt chosen discovery.items ∧
      ofDiscovery compiler part target =
        ((Trace.ofNumbered compiler target discovery.items.zipIdx).keep chosen).plan := by
  have items : part.items.Sublist discovery.items :=
    (failures.map _).append (definitions.map _)
  obtain ⟨chosen, isPart⟩ := exists_keepAt_of_sublist items
  refine ⟨chosen, isPart, ?_⟩
  rw [Trace.keep_ofNumbered (pairwise_zipIdx _), Trace.plan_ofNumbered, ofDiscovery_eq_ofItems,
    isPart, keepAt]

/-- Slashes at the end of the target do not count. -/
theorem record_append_slashes (slashes : Nat) :
    record compiler (target ++ String.ofList (.replicate slashes '/')) =
      record compiler target := by
  have samePath (inner : String) :
      targetPath (target ++ String.ofList (.replicate slashes '/')) inner =
        targetPath target inner := by
    rw [targetPath, Path.dropTrailingSlashes_append, targetPath]
  funext item
  cases item with
  | unloadable failure => rw [record, record, ofLoadFailure, ofLoadFailure, samePath]
  | defined definition => rw [record, record, ofDefinition, ofDefinition, samePath]

/-- A plan records every item of a discovery once, the definitions that compile in the order of
their discovery and all failures in the order of their paths. The records of one item do not depend
on the others: leaving items out leaves out their records and changes nothing else. Slashes at the
end of the target do not count. -/
theorem ofDiscovery_accounts (compiler : Compiler) (discovery : Discovery) (target : String) :
    (ofDiscovery compiler discovery target).factories.length +
        (ofDiscovery compiler discovery target).failures.length =
      discovery.failures.length + discovery.definitions.length ∧
    (∃ trace : Trace, trace.AccountsFor compiler target discovery ∧
      ∀ part : Discovery, part.failures.Sublist discovery.failures →
        part.definitions.Sublist discovery.definitions →
        ∃ chosen, part.items = keepAt chosen discovery.items ∧
          ofDiscovery compiler part target = (trace.keep chosen).plan) ∧
    ∀ slashes : Nat,
      ofDiscovery compiler discovery (target ++ String.ofList (.replicate slashes '/')) =
        ofDiscovery compiler discovery target := by
  have accounts : (Trace.ofNumbered compiler target discovery.items.zipIdx).AccountsFor compiler
      target discovery := Trace.accountsFor_ofNumbered discovery
  refine ⟨?_, ⟨_, accounts, fun part => ofDiscovery_part⟩, fun slashes => ?_⟩
  · have number := accounts.positions_perm.length_eq
    rw [← accounts.plan_eq, Trace.plan, List.length_map, List.length_map]
    simpa only [Trace.positions, List.length_append, List.length_map, List.length_range,
      Discovery.items] using number
  · have entries : entryOf? compiler (target ++ String.ofList (.replicate slashes '/')) =
        entryOf? compiler target := by
      funext item
      rw [entryOf?, record_append_slashes, entryOf?]
    have failures : failureOf? compiler (target ++ String.ofList (.replicate slashes '/')) =
        failureOf? compiler target := by
      funext item
      rw [failureOf?, record_append_slashes, failureOf?]
    rw [ofDiscovery_eq_ofItems, ofDiscovery_eq_ofItems, ofItems, entries, failures, ofItems]

end Plan

end FactoryBundler
