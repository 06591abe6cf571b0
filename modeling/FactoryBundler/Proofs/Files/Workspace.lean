import FactoryBundler.Proofs.Files.Tree

/-!
# What paths lead to

In a workspace that belongs together a path that is followed by a name leads to the entry of that
name in what the path leads to, however the path is spelled. The workspace of a tree does.
-/

namespace FactoryBundler

open FactoryBundler.Path (Component)

namespace Node

variable {tree here node child : Node} {above : List Node} {entries : List (RawText × Node)}
  {components : List Component} {name : RawText}

/-- Following one more name leads from a directory to its entry. -/
theorem follow_concat_entry
    (leads : follow above here components = .ok (.directory entries))
    (found : entries.lookup name = some child) :
    follow above here (components ++ [.entry name]) = .ok child := by
  fun_induction follow above here components with
  | case1 above here =>
      cases leads
      rw [List.nil_append, follow]
      simp only [found]
      rw [follow]
  | case2 => cases leads
  | case3 above here rest ih =>
      rw [List.cons_append, follow]
      exact ih leads
  | case4 => cases leads
  | case5 => cases leads
  | case6 above up outer rest ih =>
      rw [List.cons_append, follow]
      exact ih leads
  | case7 => cases leads
  | case8 => cases leads
  | case9 above next rest inner between found' ih =>
      rw [List.cons_append, follow]
      simp only [found']
      exact ih leads

/-- What is led to from a well-formed tree is well-formed. -/
theorem WellFormed.follow (wellFormed : here.WellFormed)
    (around : ∀ node ∈ above, node.WellFormed)
    (leads : here.follow above components = .ok node) : node.WellFormed := by
  fun_induction Node.follow above here components with
  | case1 above here =>
      cases leads
      exact wellFormed
  | case3 above here rest ih => exact ih wellFormed around leads
  | case6 above up outer rest ih =>
      rw [List.forall_mem_cons] at around
      exact ih around.1 around.2 leads
  | case9 above next rest inner between found ih =>
      refine ih ?_ ?_ leads
      · rw [Members.lookup_eq_some_iff_mem wellFormed.distinct] at found
        exact wellFormed.child found
      · exact List.forall_mem_cons.mpr ⟨wellFormed, around⟩
  | _ => cases leads

end Node

/-- The places of a workspace belong together. -/
structure Workspace.IsCoherent (workspace : Workspace) : Prop where
  wellFormed : ∀ path node, workspace path = .ok node → node.WellFormed
  inside : ∀ path entries name child, workspace path = .ok (.directory entries) →
    (name, child) ∈ entries → workspace (Path.join path name) = .ok child

/-- The workspace of a tree is coherent. -/
theorem Node.isCoherent_resolve {tree : Node} (wellFormed : tree.WellFormed) :
    Workspace.IsCoherent tree.resolve where
  wellFormed path node leads := by
    rw [resolve] at leads
    split at leads
    · cases leads
    · exact wellFormed.follow (List.forall_mem_nil _) leads
  inside path entries name child leads inEntries := by
    rw [resolve] at leads
    split at leads
    · cases leads
    · have inner := wellFormed.follow (List.forall_mem_nil _) leads
      have isName := inner.isName inEntries
      rw [← Members.lookup_eq_some_iff_mem inner.distinct] at inEntries
      rw [resolve, if_neg (Path.not_isEmpty_join isName), Path.components_join isName]
      exact follow_concat_entry leads inEntries

end FactoryBundler
