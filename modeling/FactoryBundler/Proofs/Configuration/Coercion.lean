import FactoryBundler.Proofs.Configuration.Filling
import FactoryBundler.Proofs.Configuration.Spelling
import Mathlib.Data.List.TakeWhile

/-!
# Values in other words

A text may be given as a number or a truth value, a truth value as a word and a list as its only
entry. A value in other words is coerced to the same, and so the attributes of a variable stay the
same if their values are put in other words and if those that are null are left out.
-/

namespace FactoryBundler

namespace Text

variable {chars before letters after : List Char}

theorem dropWhile_blanks_append (blank : ∀ c ∈ before, isBlankChar c = true)
    (visible : ∀ c ∈ chars, isBlankChar c = false) (rest : List Char)
    (blankRest : ∀ c ∈ rest, isBlankChar c = true) :
    (before ++ (chars ++ rest)).dropWhile isBlankChar =
      if chars = [] then [] else chars ++ rest := by
  rw [List.dropWhile_append_of_pos blank]
  cases chars with
  | nil => simpa [List.dropWhile_eq_nil_iff] using blankRest
  | cons c more =>
      rw [if_neg (List.cons_ne_nil c more), List.cons_append, List.dropWhile_cons_of_neg]
      simp [visible c List.mem_cons_self]

/-- Trimming removes the blanks around letters that are not blank. -/
theorem trimChars_append (blank : ∀ c ∈ before ++ after, isBlankChar c = true)
    (visible : ∀ c ∈ letters, isBlankChar c = false) :
    trimChars (before ++ letters ++ after) = letters := by
  have blankBefore (c : Char) (h : c ∈ before) := blank c (List.mem_append_left after h)
  have blankAfter (c : Char) (h : c ∈ after) := blank c (List.mem_append_right before h)
  rw [trimChars, List.append_assoc, dropWhile_blanks_append blankBefore visible after blankAfter]
  split
  · next empty => exact empty.symm
  · next nonempty =>
    rw [List.reverse_append]
    have blankReverse : ∀ c ∈ after.reverse, isBlankChar c = true := by simpa using blankAfter
    have visibleReverse : ∀ c ∈ letters.reverse, isBlankChar c = false := by simpa using visible
    have dropped := dropWhile_blanks_append blankReverse visibleReverse [] nofun
    rw [List.append_nil, if_neg (by simpa using nonempty)] at dropped
    rw [dropped, List.reverse_reverse]

end Text

namespace Configuration

variable {value value' : Json} {key : String}

/-! ## Words for truth values -/

/-- A word for a truth value: its letters, each in lower or upper case, with blanks around them. -/
def IsWordFor (b : Bool) (word : String) : Prop :=
  ∃ before letters after, word.toList = before ++ letters ++ after ∧
    (∀ c ∈ before ++ after, Text.isBlankChar c = true) ∧
    List.Forall₂ (fun letter c => c = letter ∨ c = letter.toUpper) (Json.boolChars b) letters

theorem lowerAscii_of_mem_boolChars {b : Bool} {letter c : Char} (h : letter ∈ Json.boolChars b)
    (either : c = letter ∨ c = letter.toUpper) :
    Text.lowerAscii c = letter ∧ Text.isBlankChar c = false := by
  -- As a test, so that the letters are gone through and not all characters.
  have all : ∀ b, (Json.boolChars b).all fun letter => [letter, letter.toUpper].all fun c =>
      Text.lowerAscii c == letter && !Text.isBlankChar c := by decide
  simp only [List.all_eq_true, Bool.and_eq_true, beq_iff_eq, Bool.not_eq_true'] at all
  exact all b letter h c (by simpa using either)

theorem map_lowerAscii_eq {b : Bool} {word letters : List Char}
    (inWord : ∀ letter ∈ word, letter ∈ Json.boolChars b)
    (either : List.Forall₂ (fun letter c => c = letter ∨ c = letter.toUpper) word letters) :
    letters.map Text.lowerAscii = word ∧ ∀ c ∈ letters, Text.isBlankChar c = false := by
  induction either with
  | nil => exact ⟨rfl, nofun⟩
  | cons here _ ih =>
      obtain ⟨lower, visible⟩ := lowerAscii_of_mem_boolChars (inWord _ List.mem_cons_self) here
      obtain ⟨lowerLater, visibleLater⟩ :=
        ih fun letter h => inWord letter (List.mem_cons_of_mem _ h)
      rw [List.map_cons, lower, lowerLater]
      exact ⟨rfl, List.forall_mem_cons.mpr ⟨visible, visibleLater⟩⟩

theorem IsWordFor.booleanWord?_eq {b : Bool} {word : String} (isWord : IsWordFor b word) :
    booleanWord? word = some b := by
  obtain ⟨before, letters, after, spelled, blank, either⟩ := isWord
  obtain ⟨lower, visible⟩ := map_lowerAscii_eq (fun _ h => h) either
  rw [booleanWord?, spelled, Text.trimChars_append blank visible, lower]
  cases b <;> rfl

/-! ## One value -/

/-- A number or a truth value for a text, and the string of its JSON text. -/
inductive TextReworded : Json → Json → Prop
  | same (value : Json) : TextReworded value value
  | number (n : Number) : TextReworded (.number n) (.string (Json.number n).compact)
  | bool (b : Bool) : TextReworded (.bool b) (.string (Json.bool b).compact)

theorem TextReworded.text_eq (reworded : TextReworded value value') : text value = text value' := by
  cases reworded <;> rfl

/-- A truth value, and a word for it. -/
inductive BooleanReworded : Json → Json → Prop
  | same (value : Json) : BooleanReworded value value
  | word {b : Bool} {word : String} (isWord : IsWordFor b word) :
      BooleanReworded (.bool b) (.string word)

theorem BooleanReworded.boolean_eq (reworded : BooleanReworded value value') :
    boolean value = boolean value' := by
  cases reworded with
  | same => rfl
  | word isWord => rw [boolean, boolean, isWord.booleanWord?_eq]

/-- The values that stand for a text. -/
inductive IsScalar : Json → Prop
  | string (s : String) : IsScalar (.string s)
  | number (n : Number) : IsScalar (.number n)
  | bool (b : Bool) : IsScalar (.bool b)

/-- A list whose entries are put in other words, and the only entry of a list for the list. -/
inductive ListReworded : Json → Json → Prop
  | same (value : Json) : ListReworded value value
  | entries {items items' : List Json} (reworded : List.Forall₂ TextReworded items items') :
      ListReworded (.array items) (.array items')
  | only {value value' : Json} (isScalar : IsScalar value) (reworded : TextReworded value value') :
      ListReworded value (.array [value'])

theorem entries_eq {items items' : List Json} (reworded : List.Forall₂ TextReworded items items') :
    entries items = entries items' := by
  induction reworded with
  | nil => rfl
  | cons here _ ih => rw [entries, entries, here.text_eq, ih]

theorem ListReworded.textList_eq (reworded : ListReworded value value') :
    textList value = textList value' := by
  cases reworded with
  | same => rfl
  | entries reworded => rw [textList, textList, entries_eq reworded]
  | only isScalar reworded =>
      rw [textList, textList, ← entries_eq (.cons reworded .nil)]
      · cases isScalar <;> rfl
      · rintro items rfl
        cases isScalar

/-! ## Attributes -/

namespace Attributes

/-- The attributes that are texts. -/
def textKeys : List String := ["title", "description", "default", "type"]

/-- The attributes that are truth values. -/
def booleanKeys : List String := ["required", "hidden"]

/-- The value of an attribute in other words. -/
inductive ValueReworded (key : String) : Json → Json → Prop
  | same (value : Json) : ValueReworded key value value
  | text {value value' : Json} (isText : key ∈ textKeys) (reworded : TextReworded value value') :
      ValueReworded key value value'
  | boolean {value value' : Json} (isBoolean : key ∈ booleanKeys)
      (reworded : BooleanReworded value value') : ValueReworded key value value'
  | list {value value' : Json} (isList : key = "valid_values")
      (reworded : ListReworded value value') : ValueReworded key value value'

theorem ValueReworded.change_eq (reworded : ValueReworded key value value') :
    change key value = change key value' := by
  cases reworded with
  | same => rfl
  | text isText reworded =>
      simp only [textKeys, List.mem_cons, List.not_mem_nil, or_false] at isText
      rcases isText with rfl | rfl | rfl | rfl <;> simp only [change, reworded.text_eq]
  | boolean isBoolean reworded =>
      simp only [booleanKeys, List.mem_cons, List.not_mem_nil, or_false] at isBoolean
      rcases isBoolean with rfl | rfl <;> simp only [change, reworded.boolean_eq]
  | list isList reworded =>
      subst isList
      simp only [change, reworded.textList_eq]

/-- Attributes whose values are put in other words, and of which some that are null are left out. -/
inductive Reworded : List (String × Json) → List (String × Json) → Prop
  | nil : Reworded [] []
  | cons {key : String} {value value' : Json} {given given' : List (String × Json)}
      (here : ValueReworded (underscored key) value value') (later : Reworded given given') :
      Reworded ((key, value) :: given) ((key, value') :: given')
  | leftOut {key : String} {given given' : List (String × Json)} (isKnown : underscored key ∈ keys)
      (later : Reworded given given') : Reworded ((key, .null) :: given) given'

theorem exists_change_null (isKnown : key ∈ keys) : ∃ f, change key .null = .ok f := by
  simp only [keys, List.mem_cons, List.not_mem_nil, or_false] at isKnown
  rcases isKnown with rfl | rfl | rfl | rfl | rfl | rfl | rfl <;> exact ⟨_, rfl⟩

/-- Null sets nothing. -/
theorem change_null_unset {f : Attributes → Attributes} (h : change key .null = .ok f) :
    f unset = unset := by
  by_cases isKnown : key ∈ keys
  · simp only [keys, List.mem_cons, List.not_mem_nil, or_false] at isKnown
    rcases isKnown with rfl | rfl | rfl | rfl | rfl | rfl | rfl <;> (cases h; rfl)
  · rw [change_of_not_mem_keys isKnown] at h
    cases h

theorem Reworded.keys_sublist {given given' : List (String × Json)}
    (reworded : Reworded given given') :
    (given'.map fun member => underscored member.1).Sublist
      (given.map fun member => underscored member.1) := by
  induction reworded with
  | nil => exact .slnil
  | cons _ _ ih => exact ih.cons_cons _
  | leftOut _ _ ih => exact ih.cons _

/-- While the attributes that are still to come are unset, those that are null set nothing. -/
theorem Reworded.fill_eq {given given' : List (String × Json)} (reworded : Reworded given given')
    (distinct : DistinctKeys given) (record : Attributes)
    (unset : ∀ key f, key ∈ given.map (fun member => underscored member.1) →
      change key .null = .ok f → f record = record) :
    fill set record (given.map fun (key, value) => (underscored key, value)) =
      fill set record (given'.map fun (key, value) => (underscored key, value)) := by
  induction reworded generalizing record with
  | nil => rfl
  | @cons key value value' given given' here _ ih =>
      obtain ⟨new, distinct⟩ := List.nodup_cons.mp distinct
      rw [List.map_cons, List.map_cons]
      cases changes : change (underscored key) value' with
      | error failure =>
          rw [fill_cons_of_error fills_change changes,
            fill_cons_of_error fills_change (here.change_eq.trans changes)]
      | ok g =>
          rw [fill_cons_of_ok fills_change changes,
            fill_cons_of_ok fills_change (here.change_eq.trans changes)]
          refine ih distinct (g record) fun other f later changesNull => ?_
          have differ : other ≠ underscored key := by
            rintro rfl
            exact new later
          rw [fills_change.comm differ changesNull changes,
            unset other f (List.mem_cons_of_mem _ later) changesNull]
  | @leftOut key given given' isKnown _ ih =>
      obtain ⟨-, distinct⟩ := List.nodup_cons.mp distinct
      obtain ⟨f, changes⟩ := exists_change_null isKnown
      rw [List.map_cons, fill_cons_of_ok fills_change changes,
        unset _ f List.mem_cons_self changes]
      exact ih distinct record fun other f later => unset other f (List.mem_cons_of_mem _ later)

theorem Reworded.ofMembers_eq {given given' : List (String × Json)}
    (reworded : Reworded given given') (distinct : DistinctKeys given) :
    ofMembers given = ofMembers given' := by
  have distinct' : DistinctKeys given' := distinct.sublist reworded.keys_sublist
  rw [ofMembers, ofMembers, setAll_eq_fill, setAll_eq_fill, distinct.respell_eq,
    distinct'.respell_eq]
  exact reworded.fill_eq distinct unset fun _ _ _ => change_null_unset

end Attributes

/-! ## Settings -/

namespace Settings

/-- The settings that are texts. -/
def textKeys : List String := ["title", "description", "default_policy_branch", "policy_type"]

/-- The settings that are truth values. -/
def booleanKeys : List String :=
  ["with_variables_group", "wrap_with_policy", "include_identifier", "include_annotations"]

theorem change_eq_of_textReworded (isText : key ∈ textKeys) (reworded : TextReworded value value') :
    change key value = change key value' := by
  simp only [textKeys, List.mem_cons, List.not_mem_nil, or_false] at isText
  rcases isText with rfl | rfl | rfl | rfl <;> simp only [change, reworded.text_eq]

theorem change_eq_of_booleanReworded (isBoolean : key ∈ booleanKeys)
    (reworded : BooleanReworded value value') : change key value = change key value' := by
  simp only [booleanKeys, List.mem_cons, List.not_mem_nil, or_false] at isBoolean
  rcases isBoolean with rfl | rfl | rfl | rfl <;> simp only [change, reworded.boolean_eq]

end Settings

end Configuration

end FactoryBundler
