import FactoryBundler.Text.Words
import Mathlib.Data.List.Basic

/-!
# Words as maximal runs

Cutting at separators leaves pieces without any, and a text that is cut at one of its separators
falls apart into the pieces on both sides. The pieces that are not empty, the words of a text, are
its maximal runs of characters other than separators, in order.
-/

namespace FactoryBundler.Text

section

variable {α : Type} {isSeparator : α → Bool} {text : List α}

/-! ## Pieces between separators -/

theorem cutAt_ne_nil (text : List α) : cutAt isSeparator text ≠ [] := by
  cases text with
  | nil => simp [cutAt]
  | cons c rest =>
      rw [cutAt]
      split
      · simp
      · split <;> simp

/-- The pieces on both sides of a separator are those of the whole. -/
theorem cutAt_append_cons {separator : α} (separates : isSeparator separator = true)
    (first second : List α) :
    cutAt isSeparator (first ++ separator :: second) =
      cutAt isSeparator first ++ cutAt isSeparator second := by
  induction first with
  | nil =>
      obtain ⟨piece, more, cut⟩ : ∃ piece more, cutAt isSeparator second = piece :: more :=
        List.exists_cons_of_ne_nil (cutAt_ne_nil second)
      simp only [List.nil_append, cutAt, cut, separates, if_true, List.singleton_append]
  | cons c first ih =>
      obtain ⟨piece, more, cut⟩ := List.exists_cons_of_ne_nil (cutAt_ne_nil first)
      rw [List.cons_append, cutAt, cutAt, ih, cut]
      simp only [List.cons_append]
      split <;> rfl

theorem cutAt_of_forall_not {text : List α} (h : ∀ c ∈ text, isSeparator c = false) :
    cutAt isSeparator text = [text] := by
  induction text with
  | nil => rfl
  | cons c rest ih =>
      rw [List.forall_mem_cons] at h
      rw [cutAt, ih h.2]
      simp [h.1]

/-- There is no separator inside a piece. -/
theorem not_isSeparator_of_mem_cutAt {piece : List α}
    (inCut : piece ∈ cutAt isSeparator text) : ∀ c ∈ piece, isSeparator c = false := by
  induction text generalizing piece with
  | nil =>
      rw [cutAt, List.mem_singleton] at inCut
      subst inCut
      exact List.forall_mem_nil _
  | cons c rest ih =>
      obtain ⟨first, more, cut⟩ := List.exists_cons_of_ne_nil (cutAt_ne_nil rest)
      rw [cut] at ih
      rw [cutAt, cut] at inCut
      simp only at inCut
      by_cases separates : isSeparator c = true
      · rw [if_pos separates, List.mem_cons] at inCut
        rcases inCut with rfl | later
        · exact List.forall_mem_nil _
        · exact ih later
      · rw [if_neg separates, List.mem_cons] at inCut
        rcases inCut with rfl | later
        · rw [List.forall_mem_cons]
          exact ⟨eq_false_of_ne_true separates, ih List.mem_cons_self⟩
        · exact ih (List.mem_cons_of_mem _ later)

end

/-! ## Runs -/

variable {isSeparator : Char → Bool} {text : List Char}

/-- A text is made of maximal runs of characters other than separators, with any number of
separators in front of each and behind the last one. -/
inductive HasRuns (isSeparator : Char → Bool) : List Char → List (List Char) → Prop
  | nil {gap : List Char} (separates : ∀ c ∈ gap, isSeparator c = true) :
      HasRuns isSeparator gap []
  /-- A run is maximal: what stands in front of it are separators, and it is followed by one or by
  the end. -/
  | cons {gap run rest : List Char} {runs : List (List Char)}
      (separates : ∀ c ∈ gap, isSeparator c = true)
      (nonempty : run ≠ [])
      (unbroken : ∀ c ∈ run, isSeparator c = false)
      (maximal : ∀ c ∈ rest.head?, isSeparator c = true)
      (later : HasRuns isSeparator rest runs) :
      HasRuns isSeparator (gap ++ run ++ rest) (run :: runs)

theorem words_cons_of_isSeparator {c : Char} (separates : isSeparator c = true)
    (rest : List Char) : words isSeparator (c :: rest) = words isSeparator rest := by
  rw [← List.nil_append (c :: rest), words, cutAt_append_cons separates, List.filter_append]
  rfl

theorem words_append_of_separators {gap : List Char}
    (separates : ∀ c ∈ gap, isSeparator c = true) (rest : List Char) :
    words isSeparator (gap ++ rest) = words isSeparator rest := by
  induction gap with
  | nil => rfl
  | cons c gap ih =>
      rw [List.forall_mem_cons] at separates
      rw [List.cons_append, words_cons_of_isSeparator separates.1, ih separates.2]

/-- A run that is followed by a separator or by the end is the first word. -/
theorem words_append_of_run {run rest : List Char} (nonempty : run ≠ [])
    (unbroken : ∀ c ∈ run, isSeparator c = false)
    (maximal : ∀ c ∈ rest.head?, isSeparator c = true) :
    words isSeparator (run ++ rest) = run :: words isSeparator rest := by
  have kept (pieces : List (List Char)) :
      (run :: pieces).filter (fun piece => !piece.isEmpty) =
        run :: pieces.filter fun piece => !piece.isEmpty :=
    List.filter_cons_of_pos (by simpa using nonempty)
  cases rest with
  | nil =>
      rw [List.append_nil, words, cutAt_of_forall_not unbroken, kept]
      rfl
  | cons c rest =>
      have separates : isSeparator c = true := maximal c rfl
      rw [words_cons_of_isSeparator separates, words, cutAt_append_cons separates,
        cutAt_of_forall_not unbroken, List.singleton_append, kept, words]

theorem HasRuns.words_eq {runs : List (List Char)} (hasRuns : HasRuns isSeparator text runs) :
    words isSeparator text = runs := by
  induction hasRuns with
  | @nil gap separates =>
      rw [← List.append_nil gap, words_append_of_separators separates]
      rfl
  | cons separates nonempty unbroken maximal _ ih =>
      rw [List.append_assoc, words_append_of_separators separates,
        words_append_of_run nonempty unbroken maximal, ih]

/-- The text with one more separator in front has the same runs. -/
theorem HasRuns.cons_separator {c : Char} {runs : List (List Char)}
    (separates : isSeparator c = true) (hasRuns : HasRuns isSeparator text runs) :
    HasRuns isSeparator (c :: text) runs := by
  cases hasRuns with
  | nil gap => exact .nil (List.forall_mem_cons.mpr ⟨separates, gap⟩)
  | cons gap nonempty unbroken maximal later =>
      exact .cons (List.forall_mem_cons.mpr ⟨separates, gap⟩) nonempty unbroken maximal later

/-- Every text is made of runs: a character other than a separator starts a run, or is one more of
the run that follows it. -/
theorem exists_hasRuns (isSeparator : Char → Bool) (text : List Char) :
    ∃ runs, HasRuns isSeparator text runs := by
  induction text with
  | nil => exact ⟨[], .nil (List.forall_mem_nil _)⟩
  | cons c rest ih =>
      obtain ⟨runs, hasRuns⟩ := ih
      cases separates : isSeparator c with
      | true => exact ⟨runs, hasRuns.cons_separator separates⟩
      | false =>
          have alone : ∀ d ∈ [c], isSeparator d = false := by simpa using separates
          have startsRun (maximal : ∀ d ∈ rest.head?, isSeparator d = true) :
              HasRuns isSeparator (c :: rest) ([c] :: runs) :=
            .cons (List.forall_mem_nil _) (List.cons_ne_nil _ _) alone maximal hasRuns
          cases hasRuns with
          | nil gap => exact ⟨_, startsRun fun d first => gap d (List.mem_of_mem_head? first)⟩
          | @cons gap run rest runs gapSeparates nonempty unbroken maximal later =>
              cases gap with
              | nil =>
                  exact ⟨(c :: run) :: runs, .cons (List.forall_mem_nil _) (List.cons_ne_nil _ _)
                    (List.forall_mem_cons.mpr ⟨separates, unbroken⟩) maximal later⟩
              | cons d gap =>
                  refine ⟨_, startsRun fun e first => ?_⟩
                  cases first
                  exact gapSeparates d List.mem_cons_self

/-- The words of a text are its maximal runs. -/
theorem words_eq_iff {runs : List (List Char)} :
    words isSeparator text = runs ↔ HasRuns isSeparator text runs := by
  refine ⟨?_, HasRuns.words_eq⟩
  rintro rfl
  obtain ⟨runs, hasRuns⟩ := exists_hasRuns isSeparator text
  exact hasRuns.words_eq.symm ▸ hasRuns

end FactoryBundler.Text
