import FactoryBundler.Proofs.Compiler.Outcomes
import FactoryBundler.Proofs.Configuration.Coercion

/-!
# Values in other words, in whole configurations

Whether a truth value is given as such or as a word, a text as a string or as the number or truth
value that it is the JSON text of, a list as such or as its only entry, and no attributes as null,
as an empty object or as attributes that are null, makes no difference to the outcome.
-/

namespace FactoryBundler

open FactoryBundler.Configuration (SpelledAlike SameEntry SameSetting sections DistinctKeys
  TextReworded BooleanReworded IsWordFor)
open FactoryBundler.Configuration.Settings (textKeys booleanKeys)

/-- An entry of a section in other words. -/
inductive EntryReworded : Json → Json → Prop
  | same (entry : Json) : EntryReworded entry entry
  | null : EntryReworded .null (.object [])
  | attributes {given given' : List (String × Json)} (distinct : DistinctKeys given)
      (reworded : Configuration.Attributes.Reworded given given') :
      EntryReworded (.object given) (.object given')

/-- The value of a setting in other words. -/
inductive SettingReworded (setting : String) : Json → Json → Prop
  | same (value : Json) : SettingReworded setting value value
  | text {value value' : Json} (isText : setting ∈ textKeys)
      (reworded : TextReworded value value') : SettingReworded setting value value'
  | boolean {value value' : Json} (isBoolean : setting ∈ booleanKeys)
      (reworded : BooleanReworded value value') : SettingReworded setting value value'
  | entries {entries entries' : List (String × Json)} (isSection : setting ∈ sections)
      (reworded : Members.Alike (fun _ => EntryReworded) entries entries') :
      SettingReworded setting (.object entries) (.object entries')

variable {setting : String} {value value' : Json} {members members' : List (String × Json)}

theorem EntryReworded.sameEntry (reworded : EntryReworded value value') (identifier : String) :
    SameEntry True identifier value value' := by
  cases reworded with
  | same => exact .of_eq rfl
  | null => exact .of_eq rfl
  | attributes distinct reworded =>
      exact .of_eq (congrArg (Except.mapError _) (reworded.ofMembers_eq distinct))

theorem SettingReworded.sameSetting (reworded : SettingReworded setting value value') :
    SameSetting True setting value value' := by
  cases reworded with
  | same => exact .coerced rfl
  | text isText reworded =>
      exact .coerced (Configuration.Settings.change_eq_of_textReworded isText reworded)
  | boolean isBoolean reworded =>
      exact .coerced (Configuration.Settings.change_eq_of_booleanReworded isBoolean reworded)
  | entries isSection reworded =>
      exact .entries isSection (reworded.imp fun _ _ here => ⟨here.1, here.2.sameEntry _⟩)

/-! ## Void members -/

theorem isVoid_string_compact (value : Json) (notEmpty : value.compactChars ≠ []) :
    (Json.string value.compact).isVoid = false := by
  rw [Json.isVoid, Json.compact]
  simpa using notEmpty

theorem isVoid_string_of_isWordFor {b : Bool} {word : String} (isWord : IsWordFor b word) :
    (Json.string word).isVoid = false := by
  have read := isWord.booleanWord?_eq
  rw [Json.isVoid, Bool.eq_false_iff]
  intro empty
  rw [String.isEmpty_iff] at empty
  subst empty
  cases read

/-- Other words are void only where the value is. -/
theorem SettingReworded.isVoid_eq (reworded : SettingReworded setting value value') :
    value.isVoid = value'.isVoid := by
  cases reworded with
  | same => rfl
  | text _ reworded =>
      cases reworded with
      | same => rfl
      | number n => exact (isVoid_string_compact (.number n) (Json.numberChars_ne_nil n)).symm
      | bool b => exact (isVoid_string_compact (.bool b) (by cases b <;> decide)).symm
  | boolean _ reworded =>
      cases reworded with
      | same => rfl
      | word isWord => exact (isVoid_string_of_isWordFor isWord).symm
  | entries _ reworded => cases reworded <;> rfl

namespace Compiler

theorem spelledAlike_kept (reworded : SpelledAlike SettingReworded members members') :
    SpelledAlike SettingReworded (kept members) (kept members') := by
  induction reworded with
  | nil => exact .nil
  | @cons member member' more more' here _ ih =>
      obtain ⟨key, value⟩ := member
      obtain ⟨key', value'⟩ := member'
      have same : value.isVoid = value'.isVoid := here.2.isVoid_eq
      rw [kept_eq, kept_eq] at ih ⊢
      rw [List.filter_cons, List.filter_cons]
      simp only [← same]
      split
      · exact .cons here ih
      · exact ih

/-! ## The result -/

/-- The whole outcome stays the same if values anywhere in a configuration are put in other
words. -/
theorem values_immaterial (compiler : Compiler) (request : Request)
    (members members' : List (String × Json))
    (reworded : SpelledAlike SettingReworded members members') :
    compiler.compile (request.withMembers members) =
      compiler.compile (request.withMembers members') := by
  refine Except.Agree.eq (compile_agree_of_spelledAlike ?_)
  exact (spelledAlike_kept reworded).imp fun _ _ here => ⟨here.1, here.2.sameSetting⟩

/-- A request with a number for a text, a truth value, a variable with attributes and one
without. -/
def withValues : Request where
  name := "db"
  version := "v1"
  category := "core"
  policyTemplate := some "- !host"
  configuration := .null

/-- Values as such. -/
def asValues : List (String × Json) :=
  [("title", .bool true), ("with-variables-group", .bool false),
    ("variables", .object
      [("url", .object
        [("valid-values", .string "a"), ("default", .null), ("hidden", .bool true)]),
      ("password", .null)])]

/-- The same values in other words. -/
def asWords : List (String × Json) :=
  [("title", .string "true"), ("with-variables-group", .string " False"),
    ("variables", .object
      [("url", .object [("valid-values", .array [.string "a"]), ("hidden", .string "TRUE")]),
      ("password", .object [])])]

theorem values_immaterial_withValues :
    (∃ compiled, standard.compile (withValues.withMembers asValues) = .ok compiled) ∧
    standard.compile (withValues.withMembers asValues) =
      standard.compile (withValues.withMembers asWords) := by
  refine ⟨⟨_, rfl⟩, values_immaterial standard withValues asValues asWords ?_⟩
  have isFalse : IsWordFor false " False" :=
    ⟨[' '], "False".toList, [], rfl, by simp [Text.isBlankChar], by decide⟩
  have isTrue : IsWordFor true "TRUE" := ⟨[], "TRUE".toList, [], rfl, by simp, by decide⟩
  refine .cons ⟨rfl, .text (by decide) (.bool true)⟩ (.cons ⟨rfl, ?_⟩ (.cons ⟨rfl, ?_⟩ .nil))
  · exact .boolean (by decide) (.word isFalse)
  · refine .entries (by decide) (.cons ⟨rfl, .attributes (by decide) ?_⟩ (.cons ⟨rfl, .null⟩ .nil))
    refine .cons (.list (by decide) (.only (.string "a") (.same _))) (.leftOut (by decide) ?_)
    exact .cons (.boolean (by decide) (.word isTrue)) .nil

end Compiler

end FactoryBundler
