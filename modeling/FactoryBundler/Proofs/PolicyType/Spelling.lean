import FactoryBundler.Proofs.PolicyType.Catalog

/-!
# Spellings of one name

A name consists of words. Each of them may be capitalized where it is written, and they are set
apart by separators or, in front of a capitalized word, by nothing at all. However the words are
written, their name is the words with single underscores between them: a word ends in a character
behind which a capital begins a new word, and a separator is one behind which it does not.
-/

namespace FactoryBundler.PolicyType

open Text

/-! ## Words -/

/-- A character of which words consist: a lower-case ASCII letter or an ASCII digit. -/
def IsWordChar (c : Char) : Prop :=
  c.isLower = true ∨ c.isDigit = true

instance : DecidablePred IsWordChar :=
  fun c => inferInstanceAs (Decidable (c.isLower = true ∨ c.isDigit = true))

/-- A lower-case ASCII letter, followed by at least one more letter or a digit. -/
structure Word where
  first : Char
  rest : List Char
  isLower_first : first.isLower = true
  rest_ne_nil : rest ≠ []
  isWordChar_rest : ∀ c ∈ rest, IsWordChar c

namespace Word

/-- The word as it stands in a name. -/
def chars (word : Word) : List Char :=
  word.first :: word.rest

/-- The text of a word as it stands in a name. -/
def text (word : Word) : String :=
  String.ofList word.chars

/-- The word as it is written: with its first letter in upper case, or as it stands. -/
def written (word : Word) (capital : Bool) : List Char :=
  (if capital then toUpper word.first else [word.first]) ++ word.rest

end Word

/-- A way to write words one after the other. Between two words stand separators; there may be none
if the second word is capitalized. -/
inductive Writes : List Word → Bool → List Char → Prop
  | last (word : Word) (capital : Bool) : Writes [word] capital (word.written capital)
  | next (word : Word) (capital : Bool) (gap : List Char) {more : List Word} {nextCapital : Bool}
      {text : List Char} : (∀ c ∈ gap, c ∈ ['-', '_', ' ']) → (gap = [] → nextCapital = true) →
      Writes more nextCapital text →
      Writes (word :: more) capital (word.written capital ++ gap ++ text)

/-- A spelling of words: a way to write them, with blanks around it. -/
def Spells (words : List Word) (spelling : String) : Prop :=
  ∃ before capital text after, spelling.toList = before ++ text ++ after ∧
    (∀ c ∈ before ++ after, isBlankChar c = true) ∧ Writes words capital text

/-! ## Characters of words and separators -/

theorem forall_isLower {p : Char → Prop} (h : ∀ n < 26, p (Char.ofNat (n + 0x61))) {c : Char}
    (lower : c.isLower = true) : p c := by
  have inRange : (decide (c.val ≥ 0x61) && decide (c.val ≤ 0x7A)) = true := lower
  obtain ⟨low, high⟩ : 0x61 ≤ c.toNat ∧ c.toNat ≤ 0x7A := by
    simpa [UInt32.le_iff_toNat_le] using inRange
  have this := h (c.toNat - 0x61) (by omega)
  rwa [Nat.sub_add_cancel low, Char.ofNat_toNat] at this

/-- What a character of a word is to a name: it is kept, and a capital behind it begins a word. -/
structure IsKept (c : Char) : Prop where
  not_isSeparator : isSeparator c = false
  not_isUpper : isUpper c = false
  endsWord : endsWord (some c) = true
  not_isBlankChar : isBlankChar c = false

theorem IsWordChar.isKept {c : Char} (inWord : IsWordChar c) : IsKept c := by
  let kept (c : Char) : Prop := isSeparator c = false ∧ isUpper c = false ∧
    PolicyType.endsWord (some c) = true ∧ isBlankChar c = false
  obtain ⟨separator, upper, ends, blank⟩ : kept c := by
    rcases inWord with lower | digit
    · exact forall_isLower (p := kept) (by decide +kernel) lower
    · exact Json.forall_isDigit (p := kept) (by decide +kernel) digit
  exact ⟨separator, upper, ends, blank⟩

/-- The capital of a letter of a word is one letter, whose lower case is the letter again. -/
theorem exists_capital {c : Char} (lower : c.isLower = true) :
    ∃ d, toUpper c = [d] ∧ toLower d = [c] ∧ isUpper d = true ∧ isSeparator d = false ∧
      isBlankChar d = false := by
  let hasCapital (c : Char) : Prop := ∃ d, toUpper c = [d] ∧ toLower d = [c] ∧
    isUpper d = true ∧ isSeparator d = false ∧ isBlankChar d = false
  have letter : ∀ n < 26, toUpper (Char.ofNat (n + 0x61)) = [Char.ofNat (n + 0x41)] ∧
      toLower (Char.ofNat (n + 0x41)) = [Char.ofNat (n + 0x61)] ∧
      isUpper (Char.ofNat (n + 0x41)) = true ∧ isSeparator (Char.ofNat (n + 0x41)) = false ∧
      isBlankChar (Char.ofNat (n + 0x41)) = false := by
    decide +kernel
  exact forall_isLower (p := hasCapital) (fun n less => ⟨_, letter n less⟩) lower

theorem isSeparator_of_mem {c : Char} (h : c ∈ ['-', '_', ' ']) : isSeparator c = true := by
  simp only [List.mem_cons, List.not_mem_nil, or_false] at h
  rcases h with rfl | rfl | rfl <;> rfl

/-! ## Reading words -/

variable {previous : Option Char} {underscored : Bool} {chars more ending : List Char}

/-- Characters of words are read as they stand. What comes behind them is read from behind a
character that ends a word. -/
theorem nameFrom_wordChars (notNil : chars ≠ []) (inWord : ∀ c ∈ chars, IsWordChar c)
    (behind : ∀ last, endsWord last = true → nameFrom last false more = ending) :
    nameFrom previous underscored (chars ++ more) = chars ++ ending := by
  induction chars generalizing previous underscored with
  | nil => exact absurd rfl notNil
  | cons c rest ih =>
      rw [List.forall_mem_cons] at inWord
      have kept := inWord.1.isKept
      rw [List.cons_append, nameFrom_cons, piece, kept.not_isSeparator, kept.not_isUpper]
      refine congrArg (c :: ·) ?_
      cases rest with
      | nil => exact behind _ kept.endsWord
      | cons d rest => exact ih (List.cons_ne_nil d rest) inWord.2

/-- A word is read as it stands in a name. If it is capitalized and stands directly behind the end
of a word, an underscore comes first. -/
theorem nameFrom_written (word : Word) (capital : Bool)
    (behind : ∀ last, endsWord last = true → nameFrom last false more = ending) :
    nameFrom previous underscored (word.written capital ++ more) =
      (if capital && endsWord previous then ['_'] else []) ++ word.chars ++ ending := by
  cases capital with
  | false =>
      have inWord : ∀ c ∈ word.chars, IsWordChar c :=
        List.forall_mem_cons.mpr ⟨Or.inl word.isLower_first, word.isWordChar_rest⟩
      exact nameFrom_wordChars (List.cons_ne_nil _ _) inWord behind
  | true =>
      obtain ⟨d, isCapital, isLower, upper, notSeparator, -⟩ := exists_capital word.isLower_first
      rw [Word.written, if_pos rfl, isCapital, List.append_assoc, List.singleton_append,
        nameFrom_cons, piece, notSeparator, upper, isLower,
        nameFrom_wordChars word.rest_ne_nil word.isWordChar_rest behind, Word.chars]
      simp

/-- Behind an underscore further separators add nothing. -/
theorem nameFrom_gap_of_underscored {gap : List Char} (separators : ∀ c ∈ gap, c ∈ ['-', '_', ' '])
    (notEnd : endsWord previous = false)
    (ahead : ∀ last, endsWord last = false → nameFrom last true more = ending) :
    nameFrom previous true (gap ++ more) = ending := by
  induction gap generalizing previous with
  | nil => exact ahead previous notEnd
  | cons c gap ih =>
      rw [List.forall_mem_cons] at separators
      have separator := isSeparator_of_mem separators.1
      rw [List.cons_append, nameFrom_cons, piece, separator]
      exact ih separators.2 (endsWord_of_isSeparator separator)

/-- Separators are read as one underscore. -/
theorem nameFrom_gap {gap : List Char} (notNil : gap ≠ [])
    (separators : ∀ c ∈ gap, c ∈ ['-', '_', ' '])
    (ahead : ∀ last, endsWord last = false → nameFrom last true more = ending) :
    nameFrom previous false (gap ++ more) = '_' :: ending := by
  cases gap with
  | nil => exact absurd rfl notNil
  | cons c gap =>
      rw [List.forall_mem_cons] at separators
      have separator := isSeparator_of_mem separators.1
      rw [List.cons_append, nameFrom_cons, piece, separator,
        nameFrom_gap_of_underscored separators.2 (endsWord_of_isSeparator separator) ahead]
      rfl

/-! ## Reading spellings -/

variable {words : List Word} {capital : Bool} {text : List Char}

theorem Writes.words_ne_nil (writes : Writes words capital text) : words ≠ [] := by
  cases writes <;> exact List.cons_ne_nil _ _

/-- The invariant of reading words: wherever they begin, they are read as the words with single
underscores between them, behind another one if the first is capitalized and stands directly behind
the end of a word. -/
theorem nameFrom_writes (writes : Writes words capital text) :
    nameFrom previous underscored text =
      (if capital && endsWord previous then ['_'] else []) ++
        ['_'].intercalate (words.map Word.chars) := by
  induction writes generalizing previous underscored with
  | last word capital =>
      have read : nameFrom previous underscored (word.written capital ++ []) =
          (if capital && endsWord previous then ['_'] else []) ++ word.chars ++ [] :=
        nameFrom_written word capital fun _ _ => rfl
      simpa using read
  | @next word capital gap more nextCapital text separators apart writes ih =>
      -- The word ends, and there are separators behind it or the capital of the next word.
      have behind (last : Option Char) (ends : endsWord last = true) :
          nameFrom last false (gap ++ text) = '_' :: ['_'].intercalate (more.map Word.chars) := by
        by_cases nothing : gap = []
        · rw [nothing, List.nil_append, ih, apart nothing, ends]
          rfl
        · refine nameFrom_gap nothing separators fun last notEnd => ?_
          rw [ih, notEnd, Bool.and_false]
          rfl
      have rest : more.map Word.chars ≠ [] := List.map_eq_nil_iff.not.mpr writes.words_ne_nil
      rw [List.append_assoc, nameFrom_written word capital behind, List.map_cons,
        List.intercalate_cons_of_ne_nil rest, List.append_assoc, List.append_assoc,
        List.singleton_append]

theorem isTrimmed_written (word : Word) (capital : Bool) : IsTrimmed (word.written capital) := by
  have visible := fun c inRest => (word.isWordChar_rest c inRest).isKept.not_isBlankChar
  refine ⟨fun c inFirst => ?_, fun c inLast => ?_⟩
  · cases capital with
    | false =>
        cases inFirst
        exact (IsWordChar.isKept (Or.inl word.isLower_first)).not_isBlankChar
    | true =>
        obtain ⟨d, isCapital, -, -, -, notBlank⟩ := exists_capital word.isLower_first
        rw [Word.written, if_pos rfl, isCapital] at inFirst
        cases inFirst
        exact notBlank
  · rw [Word.written, List.getLast?_append_of_ne_nil _ word.rest_ne_nil] at inLast
    exact visible c (List.mem_of_mem_getLast? inLast)

theorem IsTrimmed.append {front back : List Char} (trimmed : IsTrimmed front)
    (trimmed' : IsTrimmed back) (notNil : front ≠ []) (notNil' : back ≠ []) (gap : List Char) :
    IsTrimmed (front ++ gap ++ back) := by
  refine ⟨?_, ?_⟩
  · rw [List.append_assoc, List.head?_append_of_ne_nil _ notNil]
    exact trimmed.1
  · rw [List.getLast?_append_of_ne_nil _ notNil']
    exact trimmed'.2

theorem Word.written_ne_nil (word : Word) (capital : Bool) : word.written capital ≠ [] :=
  List.append_ne_nil_of_right_ne_nil _ word.rest_ne_nil

theorem Writes.isTrimmed (writes : Writes words capital text) : text ≠ [] ∧ IsTrimmed text := by
  induction writes with
  | last word capital => exact ⟨word.written_ne_nil capital, isTrimmed_written word capital⟩
  | next word capital _ _ _ _ ih =>
      exact ⟨List.append_ne_nil_of_right_ne_nil _ ih.1,
        (isTrimmed_written word capital).append ih.2 (word.written_ne_nil capital) ih.1 _⟩

theorem IsTrimmed.trimChars_append {before after : List Char} (trimmed : IsTrimmed text)
    (notNil : text ≠ []) (blank : ∀ c ∈ before ++ after, isBlankChar c = true) :
    trimChars (before ++ text ++ after) = text := by
  rw [List.forall_mem_append] at blank
  have blankAfter : ∀ c ∈ after.reverse, isBlankChar c = true := by simpa using blank.2
  have firstVisible : ∀ c ∈ (text ++ after).head?, isBlankChar c = false := by
    rw [List.head?_append_of_ne_nil _ notNil]
    exact trimmed.1
  have lastVisible : ∀ c ∈ text.reverse.head?, isBlankChar c = false := by
    rw [List.head?_reverse]
    exact trimmed.2
  rw [trimChars, List.append_assoc, List.dropWhile_append_of_pos blank.1,
    dropWhile_isBlankChar firstVisible, List.reverse_append,
    List.dropWhile_append_of_pos blankAfter, dropWhile_isBlankChar lastVisible,
    List.reverse_reverse]

/-- The name of every spelling of words is the words with single underscores between them. -/
theorem name_of_spells {spelling : String} (spells : Spells words spelling) :
    name spelling = "_".intercalate (words.map Word.text) := by
  obtain ⟨before, capital, text, after, spelled, blank, writes⟩ := spells
  obtain ⟨notNil, trimmed⟩ := writes.isTrimmed
  rw [name, nameChars, spelled, trimmed.trimChars_append notNil blank,
    nameFrom_writes writes]
  apply String.toList_injective
  have texts : (words.map Word.text).map String.toList = words.map Word.chars := by
    rw [List.map_map]
    exact List.map_congr_left fun word _ => String.toList_ofList
  rw [String.toList_ofList, String.toList_intercalate, texts]
  simp [endsWord]

/-- All spellings of the same words meet: they have one name, which is the words with single
underscores between them, so they register the same policy type, and what is registered under one of
them is found under every other. -/
theorem spellings_meet {spelling other : String} (spells : Spells words spelling)
    (spells' : Spells words other) :
    name spelling = "_".intercalate (words.map Word.text) ∧
      ∀ (catalog : Catalog) (body : String),
        catalog.register spelling body = catalog.register other body ∧
        (catalog.register spelling body).get? other = some body ∧
        catalog.get? spelling = catalog.get? other := by
  have name_eq := name_of_spells spells
  have same : name spelling = name other :=
    name_eq.trans (name_of_spells spells').symm
  refine ⟨name_eq, fun catalog body => ⟨?_, ?_, ?_⟩⟩
  · rw [Catalog.register, Catalog.register, same]
  · rw [Catalog.get?_register, if_pos same.symm]
  · rw [Catalog.get?, Catalog.get?, same]

/-- Three words, two of which end in a digit. -/
def hostSets : List Word :=
  [⟨'h', ['o', 's', 't'], by decide, by decide, by simp [IsWordChar]⟩,
    ⟨'s', ['e', 't', '2'], by decide, by decide, by simp [IsWordChar]⟩,
    ⟨'v', ['1', '0'], by decide, by decide, by simp [IsWordChar]⟩]

theorem spellings_meet_hostSets :
    name "\t HostSet2 -_V10\u3000" = "host_set2_v10" ∧
      (PolicyType.builtin.register "\t HostSet2 -_V10\u3000" "- !host\n").get? "host-set2 v10" =
        some "- !host\n" := by
  have mixed : Spells hostSets "\t HostSet2 -_V10\u3000" :=
    ⟨['\t', ' '], true, _, ['\u3000'], rfl, List.all_eq_true.mp rfl,
      .next _ true [] nofun (fun _ => rfl)
        (.next _ true [' ', '-', '_'] (by simp) nofun (.last _ true))⟩
  have plain : Spells hostSets "host-set2 v10" :=
    ⟨[], false, _, [], rfl, nofun,
      .next _ false ['-'] (by simp) nofun
        (.next _ false [' '] (by simp) nofun (.last _ false))⟩
  obtain ⟨name_eq, meet⟩ := spellings_meet mixed plain
  exact ⟨name_eq.trans (by decide), (meet PolicyType.builtin "- !host\n").2.1⟩

end FactoryBundler.PolicyType
