import Mathlib.Data.List.Basic
import Mathlib.Data.String.Basic

/-!
# Sorting by a key

A list that is sorted by a key of each element is ascending in these keys, and elements of one key
stay in the order in which they were given. Both together decide the sorted list.
-/

namespace FactoryBundler.Sorting

variable {α κ : Type} [LE κ] [DecidableLE κ] [Std.IsLinearOrder κ] {key : α → κ}
  {elements : List α}

theorem le_trans_key (a b c : α) (first : decide (key a ≤ key b))
    (second : decide (key b ≤ key c)) : decide (key a ≤ key c) := by
  rw [decide_eq_true_eq] at *
  exact Std.le_trans first second

theorem le_total_key (a b : α) : (decide (key a ≤ key b) || decide (key b ≤ key a)) = true := by
  simpa using Std.le_total (a := key a) (b := key b)

variable [DecidableEq κ]

/-- Sorting does not touch the elements of one key. -/
theorem filter_mergeSort_eq (k : κ) :
    (elements.mergeSort fun a b => key a ≤ key b).filter (key · == k) =
      elements.filter (key · == k) := by
  have alike : (elements.filter (key · == k)).Pairwise fun a b => decide (key a ≤ key b) := by
    apply List.pairwise_of_forall_mem_list
    intro a aIn b bIn
    have sameKey := (beq_iff_eq.mp (List.mem_filter.mp aIn).2).trans
      (beq_iff_eq.mp (List.mem_filter.mp bIn).2).symm
    simp [sameKey]
  have kept := List.sublist_mergeSort le_trans_key le_total_key alike List.filter_sublist
  have sublist := kept.filter (key · == k)
  rw [List.filter_filter] at sublist
  simp only [Bool.and_self] at sublist
  exact (sublist.eq_of_length ((List.mergeSort_perm _ _).filter _).length_eq.symm).symm

variable [LT κ] [Std.LawfulOrderLT κ]

/-- Sorting is stable: what held of any element and a later one still holds of those that have one
key. -/
theorem pairwise_mergeSort {R : α → α → Prop} (ordered : elements.Pairwise R) :
    (elements.mergeSort fun a b => key a ≤ key b).Pairwise fun a b =>
      key a < key b ∨ key a = key b ∧ R a b := by
  have ascending : (elements.mergeSort fun a b => key a ≤ key b).Pairwise fun a b =>
      decide (key a ≤ key b) := List.pairwise_mergeSort le_trans_key le_total_key elements
  rw [List.pairwise_iff_forall_sublist]
  intro a b inSorted
  have le := decide_eq_true_eq.mp (List.pairwise_iff_forall_sublist.mp ascending inSorted)
  by_cases equal : key a = key b
  · refine Or.inr ⟨equal, ?_⟩
    have inFiltered := inSorted.filter (key · == key b)
    rw [filter_mergeSort_eq, List.filter_cons_of_pos (by simpa using equal),
      List.filter_cons_of_pos (by simp), List.filter_nil] at inFiltered
    exact List.pairwise_iff_forall_sublist.mp ordered (inFiltered.trans List.filter_sublist)
  · exact Or.inl (Std.lt_of_le_of_ne le equal)

/-- An order leaves no choice: lists that are strictly ascending in it and have the same elements
are the same. -/
theorem eq_of_mem_iff {R : α → α → Prop} (asymmetric : ∀ a b, R a b → ¬ R b a)
    {first second : List α} (ascending : first.Pairwise R) (ascending' : second.Pairwise R)
    (same : ∀ a, a ∈ first ↔ a ∈ second) : first = second := by
  have distinct {l : List α} (ascending : l.Pairwise R) : l.Nodup :=
    ascending.imp fun {a b} before (equal : a = b) =>
      asymmetric a b before (by rwa [equal] at before ⊢)
  have perm : first.Perm second :=
    (List.perm_ext_iff_of_nodup (distinct ascending) (distinct ascending')).mpr same
  exact perm.eq_of_pairwise (fun a b _ _ before after => absurd after (asymmetric a b before))
    ascending ascending'

end FactoryBundler.Sorting
