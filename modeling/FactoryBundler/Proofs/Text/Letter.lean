import FactoryBundler.Text.Letter
import Mathlib.Data.List.Basic

/-!
# What lower case looks like

Facts about the tables of letter case. They are checked run by run, not character by character: two
runs have nothing in common if one ends before the other begins, or if both go in even steps and
one consists of even, the other of odd numbers.
-/

namespace FactoryBundler.Text

variable {c d : Char} {n : Nat}

/-! ## Membership in runs and mappings -/

theorem exists_run_of_onRun {runs : List (Nat × Nat × Nat)} (h : onRun runs n = true) :
    ∃ first last stride, (first, last, stride) ∈ runs ∧ first ≤ n ∧ n ≤ last ∧
      (n - first) % stride = 0 := by
  obtain ⟨⟨first, last, stride⟩, inRuns, onIt⟩ := List.any_eq_true.mp h
  simp only [Bool.and_eq_true, decide_eq_true_eq, beq_iff_eq] at onIt
  exact ⟨first, last, stride, inRuns, onIt.1.1, onIt.1.2, onIt.2⟩

/-- A number that is no code point stands for the character with the number zero. -/
theorem toNat_ofNat (n : Nat) : (Char.ofNat n).toNat = n ∨ (Char.ofNat n).toNat = 0 := by
  by_cases valid : n.isValidChar
  · rw [Char.ofNat, dif_pos valid]
    exact Or.inl rfl
  · rw [Char.ofNat, dif_neg valid]
    exact Or.inr rfl

/-- The ways in which a character becomes another: by an entry of its own, by a run, or not. -/
theorem mem_toLower_cases (h : d ∈ toLower c) :
    (∃ codes code, (c.toNat, codes) ∈ toLowerSeveral ∧ code ∈ codes ∧ d = Char.ofNat code) ∨
    (∃ first last stride distance, (first, last, stride, distance) ∈ toLowerRuns ∧
      first ≤ c.toNat ∧ c.toNat ≤ last ∧ (c.toNat - first) % stride = 0 ∧
      d = Char.ofNat (c.toNat + distance).toNat) ∨
    toLower c = [c] ∧ d = c := by
  rw [toLower, mapCase] at h ⊢
  split at h
  · next codes found =>
    obtain ⟨front, back, isEntry, -⟩ := List.lookup_eq_some_iff.mp found
    obtain ⟨code, inCodes, rfl⟩ := List.mem_map.mp h
    refine Or.inl ⟨codes, code, ?_, inCodes, rfl⟩
    rw [isEntry]
    exact List.mem_append_right _ (List.mem_cons_self)
  · split at h
    · next first last stride distance found =>
      have onIt := List.find?_some found
      simp only [Bool.and_eq_true, decide_eq_true_eq, beq_iff_eq] at onIt
      rw [List.mem_singleton] at h
      exact Or.inr (Or.inl ⟨first, last, stride, distance, List.mem_of_find?_eq_some found,
        onIt.1.1, onIt.1.2, onIt.2, h⟩)
    · exact Or.inr (Or.inr ⟨rfl, List.mem_singleton.mp h⟩)

theorem toLower_ne_nil (c : Char) : toLower c ≠ [] := by
  have several : ∀ entry ∈ toLowerSeveral, entry.2 ≠ [] := by decide
  rw [toLower, mapCase]
  split
  · next codes found =>
    obtain ⟨front, back, isEntry, -⟩ := List.lookup_eq_some_iff.mp found
    have notNil := several (c.toNat, codes) (by rw [isEntry]; simp)
    simpa using notNil
  · split <;> simp

/-! ## Lower case is not upper case -/

/-- Whether two runs plainly have nothing in common. A run of one number may be taken to go in even
steps. -/
def areApart (first last stride first' last' stride' : Nat) : Bool :=
  last.blt first' || last'.blt first ||
    (stride % 2 == 0 && (stride' % 2 == 0 || first' == last') && first % 2 != first' % 2)

theorem mod_two_of_stride {first stride : Nat} (even : stride % 2 = 0) (le : first ≤ n)
    (onIt : (n - first) % stride = 0) : n % 2 = first % 2 := by
  have step : 2 ∣ n - first :=
    Nat.dvd_trans (Nat.dvd_of_mod_eq_zero even) (Nat.dvd_of_mod_eq_zero onIt)
  omega

theorem areApart_sound {first last stride first' last' stride' : Nat}
    (apart : areApart first last stride first' last' stride' = true) (le : first ≤ n)
    (ge : n ≤ last) (onIt : (n - first) % stride = 0) (le' : first' ≤ n) (ge' : n ≤ last') :
    (n - first') % stride' ≠ 0 := by
  intro onIt'
  simp only [areApart, Bool.or_eq_true, Bool.and_eq_true, Nat.blt_eq, beq_iff_eq, bne_iff_ne]
    at apart
  rcases apart with (before | after) | ⟨⟨even, even' | single⟩, differ⟩
  · omega
  · omega
  · exact differ ((mod_two_of_stride even le onIt).symm.trans (mod_two_of_stride even' le' onIt'))
  · obtain rfl : n = first' := by omega
    exact differ (mod_two_of_stride even le onIt).symm

theorem toLowerRuns_apart :
    toLowerRuns.all (fun (first, last, stride, distance) =>
      upperRuns.all fun (first', last', stride') =>
        areApart (first + distance).toNat (last + distance).toNat stride first' last' stride') =
      true := by
  decide +kernel

theorem toLowerRuns_nonneg :
    ∀ run ∈ toLowerRuns, 0 ≤ (run.1 : Int) + run.2.2.2 := by
  decide +kernel

/-- No letter becomes an upper-case letter in lower case, unless it has no lower case. -/
theorem eq_of_mem_toLower_of_isUpper (h : d ∈ toLower c) (upper : isUpper d = true) :
    toLower c = [c] ∧ d = c := by
  have several : ∀ entry ∈ toLowerSeveral, ∀ code ∈ entry.2,
      isUpper (Char.ofNat code) = false := by decide +kernel
  rcases mem_toLower_cases h with ⟨codes, code, inSeveral, inCodes, rfl⟩ |
    ⟨first, last, stride, distance, inRuns, le, ge, onIt, rfl⟩ | unmapped
  · rw [several _ inSeveral code inCodes] at upper
    cases upper
  · have nonneg : 0 ≤ (first : Int) + distance := toLowerRuns_nonneg _ inRuns
    rw [isUpper] at upper
    rcases toNat_ofNat (c.toNat + distance).toNat with number | zero
    · rw [number] at upper
      obtain ⟨first', last', stride', inUpper, le', ge', onIt'⟩ := exists_run_of_onRun upper
      have apart : areApart (first + distance).toNat (last + distance).toNat stride first' last'
          stride' = true :=
        List.all_eq_true.mp (List.all_eq_true.mp toLowerRuns_apart _ inRuns) _ inUpper
      have same : (c.toNat + distance).toNat - (first + distance).toNat = c.toNat - first := by
        omega
      exact absurd onIt' (areApart_sound apart (by omega) (by omega) (same ▸ onIt) le' ge')
    · have notUpper : onRun upperRuns 0 = false := by decide +kernel
      rw [zero, notUpper] at upper
      cases upper
  · exact unmapped

/-! ## Characters that case has nothing to do with -/

/-- Whether a code point is that of no upper-case letter and of nothing that a letter becomes in
lower case. -/
def isCaseless (n : Nat) : Bool :=
  n != 0 && upperRuns.all (fun (first, last, _) => n < first || last < n) &&
    toLowerSeveral.all (fun (_, codes) => codes.all fun code => (Char.ofNat code).toNat != n) &&
    toLowerRuns.all fun (first, last, _, distance) => n < first + distance || last + distance < n

theorem not_isUpper_of_isCaseless (caseless : isCaseless c.toNat = true) : isUpper c = false := by
  rw [Bool.eq_false_iff]
  intro upper
  simp only [isCaseless, Bool.and_eq_true] at caseless
  obtain ⟨first, last, stride, inRuns, le, ge, -⟩ := exists_run_of_onRun upper
  have outside := List.all_eq_true.mp caseless.1.1.2 _ inRuns
  simp only [Bool.or_eq_true, decide_eq_true_eq] at outside
  omega

/-- An upper-case letter becomes nothing of the kind. -/
theorem not_isCaseless_of_mem_toLower (upper : isUpper c = true) (h : d ∈ toLower c) :
    isCaseless d.toNat = false := by
  rw [Bool.eq_false_iff]
  intro caseless
  have notUpper := not_isUpper_of_isCaseless caseless
  simp only [isCaseless, Bool.and_eq_true, bne_iff_ne] at caseless
  obtain ⟨⟨⟨notZero, -⟩, several⟩, runs⟩ := caseless
  rcases mem_toLower_cases h with ⟨codes, code, inSeveral, inCodes, rfl⟩ |
    ⟨first, last, stride, distance, inRuns, le, ge, -, rfl⟩ | ⟨-, rfl⟩
  · have differ := List.all_eq_true.mp (List.all_eq_true.mp several _ inSeveral) code inCodes
    exact bne_iff_ne.mp differ rfl
  · have outside := List.all_eq_true.mp runs _ inRuns
    simp only [Bool.or_eq_true, decide_eq_true_eq] at outside
    rcases toNat_ofNat (c.toNat + distance).toNat with number | zero
    · omega
    · exact notZero zero
  · rw [notUpper] at upper
    cases upper

end FactoryBundler.Text
