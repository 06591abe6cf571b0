import FactoryBundler.Proofs.Configuration.Coercion
import FactoryBundler.Proofs.Configuration.Congruence

/-!
# What is admitted

Which values each setting and each attribute admits, said without the coercions, and that those are
the values which can be taken in. Members are taken in if the value that counts under every key is
admitted, and a section is hydrated if every entry is null or an object of admitted attributes;
otherwise the first entry that is neither is the one that is reported.
-/

namespace FactoryBundler

namespace Text

/-- What trimming takes away is blank. -/
theorem exists_eq_append_trimChars (chars : List Char) :
    ∃ before after, chars = before ++ trimChars chars ++ after ∧
      ∀ c ∈ before ++ after, isBlankChar c = true := by
  have front := List.takeWhile_append_dropWhile (p := isBlankChar) (l := chars)
  have back := List.takeWhile_append_dropWhile (p := isBlankChar)
    (l := (chars.dropWhile isBlankChar).reverse)
  have trimmed : chars.dropWhile isBlankChar = trimChars chars ++
      ((chars.dropWhile isBlankChar).reverse.takeWhile isBlankChar).reverse := by
    rw [trimChars, ← List.reverse_append, back, List.reverse_reverse]
  refine ⟨chars.takeWhile isBlankChar,
    ((chars.dropWhile isBlankChar).reverse.takeWhile isBlankChar).reverse, ?_, ?_⟩
  · rw [List.append_assoc, ← trimmed, front]
  · intro c inBoth
    rw [List.mem_append, List.mem_reverse] at inBoth
    exact inBoth.elim List.mem_takeWhile_imp List.mem_takeWhile_imp

end Text

namespace Configuration

variable {value : Json} {key : String}

/-! ## Coercions that succeed -/

theorem eq_or_eq_toUpper_of_lowerAscii {letter c : Char} (lower : Text.lowerAscii c = letter) :
    c = letter ∨ c = letter.toUpper := by
  -- As a test, so that the letters are gone through and not all characters.
  have all : (List.range' 65 26).all fun n => (Char.ofNat (n + 32)).toUpper == Char.ofNat n := by
    decide
  simp only [List.all_eq_true, List.mem_range'_1, beq_iff_eq] at all
  rw [Text.lowerAscii] at lower
  split at lower
  · next inRange =>
    obtain ⟨fromA, toZ⟩ := inRange
    have fromA : 65 ≤ c.toNat := fromA
    have toZ : c.toNat ≤ 90 := toZ
    rw [← lower, all c.toNat ⟨fromA, by omega⟩, Char.ofNat_toNat]
    exact Or.inr rfl
  · exact Or.inl lower

theorem forall₂_of_map_lowerAscii {word letters : List Char}
    (lower : letters.map Text.lowerAscii = word) :
    List.Forall₂ (fun letter c => c = letter ∨ c = letter.toUpper) word letters := by
  rw [← lower, List.forall₂_map_left_iff, List.forall₂_same]
  exact fun c _ => eq_or_eq_toUpper_of_lowerAscii rfl

/-- The words for truth values are the only texts that are read as one. -/
theorem booleanWord?_eq_some_iff {word : String} {b : Bool} :
    booleanWord? word = some b ↔ IsWordFor b word := by
  refine ⟨fun read => ?_, IsWordFor.booleanWord?_eq⟩
  have lower : (Text.trimChars word.toList).map Text.lowerAscii = Json.boolChars b := by
    rw [booleanWord?] at read
    split at read
    · next isTrue =>
      cases read
      exact beq_iff_eq.mp isTrue
    · split at read
      · next isFalse =>
        cases read
        exact beq_iff_eq.mp isFalse
      · cases read
  obtain ⟨before, after, spelled, blank⟩ := Text.exists_eq_append_trimChars word.toList
  exact ⟨before, _, after, spelled, blank, forall₂_of_map_lowerAscii lower⟩

theorem exists_text_some_iff : (∃ given, text value = .ok (some given)) ↔ IsScalar value := by
  constructor
  · rintro ⟨given, taken⟩
    cases value with
    | string s => exact .string s
    | number n => exact .number n
    | bool b => exact .bool b
    | _ => cases taken
  · intro isScalar
    cases isScalar <;> exact ⟨_, rfl⟩

theorem exists_text_iff : (∃ given, text value = .ok given) ↔ value = .null ∨ IsScalar value := by
  rw [← exists_text_some_iff]
  constructor
  · rintro ⟨given, taken⟩
    cases value with
    | null => exact Or.inl rfl
    | string | number | bool =>
        cases taken
        exact Or.inr ⟨_, rfl⟩
    | _ => cases taken
  · rintro (rfl | ⟨given, taken⟩)
    · exact ⟨none, rfl⟩
    · exact ⟨some given, taken⟩

/-- The values that stand for a truth value. -/
inductive IsTruth : Json → Prop
  | bool (b : Bool) : IsTruth (.bool b)
  | word {b : Bool} {word : String} (isWord : IsWordFor b word) : IsTruth (.string word)

theorem exists_boolean_iff :
    (∃ given, boolean value = .ok given) ↔ value = .null ∨ IsTruth value := by
  constructor
  · rintro ⟨given, taken⟩
    cases value with
    | null => exact Or.inl rfl
    | bool b => exact Or.inr (.bool b)
    | string s =>
        rw [boolean] at taken
        split at taken
        · next b read => exact Or.inr (.word (booleanWord?_eq_some_iff.mp read))
        · cases taken
    | _ => cases taken
  · rintro (rfl | isTruth)
    · exact ⟨none, rfl⟩
    · cases isTruth with
      | bool b => exact ⟨some b, rfl⟩
      | word isWord =>
          rw [boolean, isWord.booleanWord?_eq]
          exact ⟨_, rfl⟩

theorem exists_entries_iff {items : List Json} :
    (∃ given, entries items = .ok given) ↔ ∀ item ∈ items, IsScalar item := by
  induction items with
  | nil => exact ⟨fun _ => nofun, fun _ => ⟨[], rfl⟩⟩
  | cons item more ih =>
      rw [List.forall_mem_cons, ← ih, ← exists_text_some_iff]
      constructor
      · rintro ⟨given, taken⟩
        rw [entries] at taken
        obtain ⟨first, isFirst, taken⟩ := Except.bind_eq_ok_iff.mp taken
        cases first with
        | none => cases taken
        | some s =>
            obtain ⟨later, areLater, -⟩ := Except.bind_eq_ok_iff.mp taken
            exact ⟨⟨s, isFirst⟩, later, areLater⟩
      · rintro ⟨⟨s, isFirst⟩, later, areLater⟩
        rw [entries, isFirst, areLater]
        exact ⟨_, rfl⟩

/-- The values that stand for a list of texts. -/
inductive IsList : Json → Prop
  | only {value : Json} (isScalar : IsScalar value) : IsList value
  | entries {items : List Json} (areScalars : ∀ item ∈ items, IsScalar item) :
      IsList (.array items)

theorem isList_array_iff {items : List Json} :
    IsList (.array items) ↔ ∀ item ∈ items, IsScalar item := by
  refine ⟨fun isList => ?_, .entries⟩
  cases isList with
  | only isScalar => cases isScalar
  | entries areScalars => exact areScalars

theorem isList_iff_isScalar (notArray : ∀ items, value ≠ .array items) :
    IsList value ↔ IsScalar value := by
  refine ⟨fun isList => ?_, .only⟩
  cases isList with
  | only isScalar => exact isScalar
  | @entries items => exact absurd rfl (notArray items)

theorem exists_textList_iff :
    (∃ given, textList value = .ok given) ↔ value = .null ∨ IsList value := by
  cases value with
  | array items =>
      rw [textList, Except.exists_map_eq_ok_iff, exists_entries_iff, isList_array_iff]
      simp
  | null | bool | number | string | object =>
      rw [textList, Except.exists_map_eq_ok_iff, exists_text_iff,
        isList_iff_isScalar (by intro items h; cases h)]
      intro items h
      cases h

theorem exists_members_iff :
    (∃ given, members value = .ok given) ↔ value = .null ∨ ∃ entries, value = .object entries := by
  constructor
  · rintro ⟨given, taken⟩
    cases value with
    | null => exact Or.inl rfl
    | object entries => exact Or.inr ⟨entries, rfl⟩
    | _ => cases taken
  · rintro (rfl | ⟨entries, rfl⟩)
    · exact ⟨none, rfl⟩
    · exact ⟨some entries, rfl⟩

/-! ## Members that are taken in -/

section Fill

variable {σ : Type} {set : σ → String → Json → Except Failure σ}
  {change : String → Json → Except Failure (σ → σ)} {members : List (String × Json)}

theorem exists_fill_iff (fills : Fills set change) (record : σ) :
    (∃ filled, fill set record members = .ok filled) ↔
      ∀ member ∈ members, ∃ f, change member.1 member.2 = .ok f := by
  induction members generalizing record with
  | nil => exact ⟨fun _ => nofun, fun _ => ⟨record, rfl⟩⟩
  | cons member more ih =>
      obtain ⟨key, value⟩ := member
      rw [List.forall_mem_cons]
      cases changes : change key value with
      | error failure =>
          rw [fill_cons_of_error fills changes]
          simp
      | ok f =>
          rw [fill_cons_of_ok fills changes, ih]
          simp

/-- Respelled members fill a record if the value that counts under every key can be taken in. -/
theorem exists_fill_respell_iff (fills : Fills set change) (record : σ) :
    (∃ filled, fill set record (respell members) = .ok filled) ↔
      ∀ key value, lastSpelled key members = some value → ∃ f, change key value = .ok f := by
  rw [exists_fill_iff fills]
  simp only [Prod.forall, mem_respell_iff]

end Fill

namespace Settings

/-- The values that a setting admits. -/
inductive Admits (key : String) : Json → Prop
  | unset (isKnown : key ∈ known) : Admits key .null
  | text {value : Json} (isText : key ∈ textKeys) (isScalar : IsScalar value) : Admits key value
  | boolean {value : Json} (isBoolean : key ∈ booleanKeys) (isTruth : IsTruth value) :
      Admits key value
  | entries (isSection : key ∈ sections) (entries : List (String × Json)) :
      Admits key (.object entries)

theorem exists_change_iff_of_text (isText : key ∈ textKeys) :
    (∃ f, change key value = .ok f) ↔ value = .null ∨ IsScalar value := by
  simp only [textKeys, List.mem_cons, List.not_mem_nil, or_false] at isText
  rcases isText with rfl | rfl | rfl | rfl <;>
    exact Except.exists_map_eq_ok_iff.trans exists_text_iff

theorem exists_change_iff_of_boolean (isBoolean : key ∈ booleanKeys) :
    (∃ f, change key value = .ok f) ↔ value = .null ∨ IsTruth value := by
  simp only [booleanKeys, List.mem_cons, List.not_mem_nil, or_false] at isBoolean
  rcases isBoolean with rfl | rfl | rfl | rfl <;>
    exact Except.exists_map_eq_ok_iff.trans exists_boolean_iff

theorem exists_change_iff_of_section (isSection : key ∈ sections) :
    (∃ f, change key value = .ok f) ↔ value = .null ∨ ∃ entries, value = .object entries := by
  simp only [sections, List.mem_cons, List.not_mem_nil, or_false] at isSection
  rcases isSection with rfl | rfl <;> exact Except.exists_map_eq_ok_iff.trans exists_members_iff

theorem mem_known_iff : key ∈ known ↔ key ∈ textKeys ∨ key ∈ booleanKeys ∨ key ∈ sections := by
  simp only [known, textKeys, booleanKeys, sections, List.mem_cons, List.not_mem_nil]
  tauto

theorem exists_change_iff : (∃ f, change key value = .ok f) ↔ Admits key value := by
  constructor
  · rintro ⟨f, changes⟩
    have isKnown : key ∈ known := by
      by_contra unknown
      rw [change_of_not_known unknown] at changes
      cases changes
    rcases mem_known_iff.mp isKnown with isText | isBoolean | isSection
    · rcases (exists_change_iff_of_text isText).mp ⟨f, changes⟩ with rfl | isScalar
      · exact .unset isKnown
      · exact .text isText isScalar
    · rcases (exists_change_iff_of_boolean isBoolean).mp ⟨f, changes⟩ with rfl | isTruth
      · exact .unset isKnown
      · exact .boolean isBoolean isTruth
    · rcases (exists_change_iff_of_section isSection).mp ⟨f, changes⟩ with rfl | ⟨entries, rfl⟩
      · exact .unset isKnown
      · exact .entries isSection entries
  · intro admits
    cases admits with
    | unset isKnown =>
        rcases mem_known_iff.mp isKnown with isText | isBoolean | isSection
        · exact (exists_change_iff_of_text isText).mpr (Or.inl rfl)
        · exact (exists_change_iff_of_boolean isBoolean).mpr (Or.inl rfl)
        · exact (exists_change_iff_of_section isSection).mpr (Or.inl rfl)
    | text isText isScalar => exact (exists_change_iff_of_text isText).mpr (Or.inr isScalar)
    | boolean isBoolean isTruth =>
        exact (exists_change_iff_of_boolean isBoolean).mpr (Or.inr isTruth)
    | entries isSection entries =>
        exact (exists_change_iff_of_section isSection).mpr (Or.inr ⟨entries, rfl⟩)

/-- Settings can be read exactly if what counts under every key is admitted there. -/
theorem exists_ofMembers_iff {members : List (String × Json)} :
    (∃ settings, ofMembers members = .ok settings) ↔
      ∀ key value, lastSpelled key members = some value → Admits key value := by
  simp only [ofMembers, setAll_eq_fill, exists_fill_respell_iff fills_change, exists_change_iff]

end Settings

namespace Attributes

/-- The values that an attribute admits. -/
inductive Admits (key : String) : Json → Prop
  | unset (isKnown : key ∈ keys) : Admits key .null
  | text {value : Json} (isText : key ∈ textKeys) (isScalar : IsScalar value) : Admits key value
  | boolean {value : Json} (isBoolean : key ∈ booleanKeys) (isTruth : IsTruth value) :
      Admits key value
  | list {value : Json} (isChoice : key = "valid_values") (isList : IsList value) :
      Admits key value

theorem exists_change_iff_of_text (isText : key ∈ textKeys) :
    (∃ f, change key value = .ok f) ↔ value = .null ∨ IsScalar value := by
  simp only [textKeys, List.mem_cons, List.not_mem_nil, or_false] at isText
  rcases isText with rfl | rfl | rfl | rfl <;>
    exact Except.exists_map_eq_ok_iff.trans exists_text_iff

theorem exists_change_iff_of_boolean (isBoolean : key ∈ booleanKeys) :
    (∃ f, change key value = .ok f) ↔ value = .null ∨ IsTruth value := by
  simp only [booleanKeys, List.mem_cons, List.not_mem_nil, or_false] at isBoolean
  rcases isBoolean with rfl | rfl <;> exact Except.exists_map_eq_ok_iff.trans exists_boolean_iff

theorem exists_change_iff_of_choices :
    (∃ f, change "valid_values" value = .ok f) ↔ value = .null ∨ IsList value :=
  Except.exists_map_eq_ok_iff.trans exists_textList_iff

theorem mem_keys_iff :
    key ∈ keys ↔ key ∈ textKeys ∨ key ∈ booleanKeys ∨ key = "valid_values" := by
  simp only [keys, textKeys, booleanKeys, List.mem_cons, List.not_mem_nil]
  tauto

theorem exists_change_iff : (∃ f, change key value = .ok f) ↔ Admits key value := by
  constructor
  · rintro ⟨f, changes⟩
    have isKnown : key ∈ keys := by
      by_contra unknown
      rw [change_of_not_mem_keys unknown] at changes
      cases changes
    rcases mem_keys_iff.mp isKnown with isText | isBoolean | rfl
    · rcases (exists_change_iff_of_text isText).mp ⟨f, changes⟩ with rfl | isScalar
      · exact .unset isKnown
      · exact .text isText isScalar
    · rcases (exists_change_iff_of_boolean isBoolean).mp ⟨f, changes⟩ with rfl | isTruth
      · exact .unset isKnown
      · exact .boolean isBoolean isTruth
    · rcases exists_change_iff_of_choices.mp ⟨f, changes⟩ with rfl | isList
      · exact .unset isKnown
      · exact .list rfl isList
  · intro admits
    cases admits with
    | unset isKnown => exact exists_change_null isKnown
    | text isText isScalar => exact (exists_change_iff_of_text isText).mpr (Or.inr isScalar)
    | boolean isBoolean isTruth =>
        exact (exists_change_iff_of_boolean isBoolean).mpr (Or.inr isTruth)
    | list isChoice isList => exact isChoice ▸ exists_change_iff_of_choices.mpr (Or.inr isList)

/-- Attributes can be read exactly if what counts under every key is admitted there. -/
theorem exists_ofMembers_iff {members : List (String × Json)} :
    (∃ attributes, ofMembers members = .ok attributes) ↔
      ∀ key value, lastSpelled key members = some value → Admits key value := by
  simp only [ofMembers, setAll_eq_fill, exists_fill_respell_iff fills_change, exists_change_iff]

end Attributes

/-! ## Sections that are hydrated -/

/-- The entries that a section admits: null, or an object of attributes that are admitted. -/
inductive IsEntry : Json → Prop
  | null : IsEntry .null
  | object {members : List (String × Json)}
      (admitted : ∀ key value, lastSpelled key members = some value →
        Attributes.Admits key value) : IsEntry (.object members)

theorem exists_attributesOf_iff {entry : Json} :
    (∃ attributes, attributesOf entry = .ok attributes) ↔ IsEntry entry := by
  constructor
  · rintro ⟨attributes, taken⟩
    cases entry with
    | null => exact .null
    | object members =>
        exact .object (Attributes.exists_ofMembers_iff.mp
          ⟨attributes, Except.mapError_eq_ok_iff.mp taken⟩)
    | _ => cases taken
  · intro isEntry
    cases isEntry with
    | null => exact ⟨.unset, rfl⟩
    | object admitted =>
        obtain ⟨attributes, taken⟩ := Attributes.exists_ofMembers_iff.mpr admitted
        exact ⟨attributes, Except.mapError_eq_ok_iff.mpr taken⟩

/-- The entry under the identifier is the first one that a section does not admit. -/
def FirstFault (entries : List (String × Json)) (identifier : String) : Prop :=
  ∃ before entry after, entries = before ++ (identifier, entry) :: after ∧
    (∀ earlier ∈ before, IsEntry earlier.2) ∧ ¬ IsEntry entry

theorem not_firstFault_nil {identifier : String} : ¬ FirstFault [] identifier := by
  rintro ⟨before, entry, after, split, -⟩
  simp at split

theorem firstFault_cons_iff {first identifier : String} {entry : Json}
    {more : List (String × Json)} :
    FirstFault ((first, entry) :: more) identifier ↔
      (¬ IsEntry entry ∧ first = identifier) ∨ (IsEntry entry ∧ FirstFault more identifier) := by
  constructor
  · rintro ⟨before, fault, after, split, admitted, isFault⟩
    cases before with
    | nil =>
        cases split
        exact Or.inl ⟨isFault, rfl⟩
    | cons earlier before =>
        obtain ⟨rfl, rfl⟩ := List.cons_eq_cons.mp split
        obtain ⟨here, admitted⟩ := List.forall_mem_cons.mp admitted
        exact Or.inr ⟨here, before, fault, after, rfl, admitted, isFault⟩
  · rintro (⟨isFault, rfl⟩ | ⟨here, before, fault, after, rfl, admitted, isFault⟩)
    · exact ⟨[], entry, more, rfl, nofun, isFault⟩
    · exact ⟨(first, entry) :: before, fault, after, rfl,
        List.forall_mem_cons.mpr ⟨here, admitted⟩, isFault⟩

variable {reserved : Option ReservedVariables} {known : List Variable}
  {entries : List (String × Json)}

theorem exists_hydrateInto_iff :
    (∃ hydrated, hydrateInto reserved known entries = .ok hydrated) ↔
      ∀ entry ∈ entries, IsEntry entry.2 := by
  induction entries generalizing known with
  | nil => exact ⟨fun _ => nofun, fun _ => ⟨known, rfl⟩⟩
  | cons entry more ih =>
      obtain ⟨identifier, value⟩ := entry
      rw [List.forall_mem_cons, ← exists_attributesOf_iff, hydrateInto]
      cases attributesOf value with
      | error fault => simp
      | ok attributes => simp [ih]

theorem exists_hydrateInto_error_iff {identifier : String} :
    (∃ fault, hydrateInto reserved known entries = .error (identifier, fault)) ↔
      FirstFault entries identifier := by
  induction entries generalizing known with
  | nil =>
      refine ⟨?_, fun faulty => absurd faulty not_firstFault_nil⟩
      rintro ⟨fault, failed⟩
      cases failed
  | cons entry more ih =>
      obtain ⟨first, value⟩ := entry
      rw [firstFault_cons_iff, ← exists_attributesOf_iff, hydrateInto]
      cases attributesOf value with
      | error fault => simp
      | ok attributes => simp [ih]

theorem exists_hydrate_iff {entries : Option (List (String × Json))} :
    (∃ hydrated, hydrate reserved entries = .ok hydrated) ↔
      ∀ entry ∈ entries.getD [], IsEntry entry.2 :=
  exists_hydrateInto_iff

theorem exists_hydrate_error_iff {entries : Option (List (String × Json))} {identifier : String} :
    (∃ fault, hydrate reserved entries = .error (identifier, fault)) ↔
      FirstFault (entries.getD []) identifier :=
  exists_hydrateInto_error_iff

theorem exists_firstFault (fault : ¬ ∀ entry ∈ entries, IsEntry entry.2) :
    ∃ identifier, FirstFault entries identifier := by
  cases outcome : hydrateInto none [] entries with
  | error failed =>
      obtain ⟨identifier, failure⟩ := failed
      exact ⟨identifier, exists_hydrateInto_error_iff.mp ⟨failure, outcome⟩⟩
  | ok hydrated => exact absurd (exists_hydrateInto_iff.mp ⟨hydrated, outcome⟩) fault

end Configuration

end FactoryBundler
