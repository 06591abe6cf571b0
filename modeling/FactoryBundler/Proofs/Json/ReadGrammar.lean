import FactoryBundler.Proofs.Json.ReadLists

/-!
# Values that are read are those of the grammar

A reader with one level more of room than a value is deep takes the tokens of that value, and it
takes nothing else. The first byte of a token tells what the token is, so both directions go through
the bytes in the order in which the reader asks for them.
-/

namespace FactoryBundler.Json

variable {input rest token : List UInt8} {b : UInt8} {room depth : Nat} {value : Json}

/-! ## How tokens begin -/

theorem begins_of_isNumeral {numeral : Numeral} (isNumeral : IsNumeral numeral token) :
    ∃ b more, token = b :: more ∧ (b = '-'.toUInt8 ∨ isDigitByte b = true) := by
  cases isNumeral with
  | parts whole _ _ =>
      rw [signBytes]
      split
      · exact ⟨'-'.toUInt8, _, rfl, Or.inl rfl⟩
      · obtain ⟨b, more, digits⟩ := List.exists_cons_of_ne_nil whole.nonempty
        rw [digits]
        exact ⟨b, _, rfl, Or.inr (whole.all b (digits ▸ List.mem_cons_self))⟩

theorem begins_of_opens (opens : b = '-'.toUInt8 ∨ isDigitByte b = true) (more : List UInt8) :
    Begins (b :: more) :=
  ⟨b, more, rfl, isSpaceByte_of_opens opens, ne_of_opens opens (by decide) (by decide)⟩

theorem begins_of_isScalar (isScalar : IsScalar value token) : Begins token := by
  cases isScalar with
  | null => exact ⟨'n'.toUInt8, _, rfl, by decide, by decide⟩
  | isTrue => exact ⟨'t'.toUInt8, _, rfl, by decide, by decide⟩
  | isFalse => exact ⟨'f'.toUInt8, _, rfl, by decide, by decide⟩
  | number isNumber =>
      obtain ⟨spelled, -⟩ := isNumber
      obtain ⟨b, more, rfl, opens⟩ := begins_of_isNumeral spelled
      exact begins_of_opens opens more
  | string isString =>
      cases isString with
      | quoted => exact ⟨'"'.toUInt8, _, rfl, by decide, by decide⟩

theorem Bracketed.exists_cons {α : Type} {p : α → List UInt8 → Prop} {opening closing : UInt8}
    {xs : List α} (bracketed : Bracketed p opening closing xs token) :
    ∃ more, token = opening :: more := by
  cases bracketed with
  | empty => exact ⟨_, rfl⟩
  | elements => exact ⟨_, rfl⟩

theorem begins_of_isValue (isValue : IsValue depth value token) : Begins token := by
  cases depth with
  | zero => exact begins_of_isScalar isValue
  | succ depth =>
      rcases isValue with isScalar | ⟨items, -, bracketed⟩ | ⟨members, -, bracketed⟩
      · exact begins_of_isScalar isScalar
      · obtain ⟨more, rfl⟩ := bracketed.exists_cons
        exact ⟨'['.toUInt8, more, rfl, by decide, by decide⟩
      · obtain ⟨more, rfl⟩ := bracketed.exists_cons
        exact ⟨'\x7b'.toUInt8, more, rfl, by decide, by decide⟩

/-! ## Scalars -/

theorem readWord_eq_ok_iff {word : List Char} :
    readWord word input = .ok rest ↔ input = word.map Char.toUInt8 ++ rest := by
  induction word generalizing input with
  | nil => simp [readWord]
  | cons c word ih =>
      cases input with
      | nil => simp [readWord]
      | cons b behind =>
          rw [readWord]
          by_cases same : b = c.toUInt8
          · rw [if_pos (beq_iff_eq.mpr same), ih, same]
            simp
          · rw [if_neg (by simpa using same)]
            simp [same]

/-- A word is its first byte, which is known, and what is read behind it. -/
theorem cons_eq_word_append {c : Char} {word : List Char} (first : (b == c.toUInt8) = true)
    (read : readWord word input = .ok rest) :
    b :: input = (c :: word).map Char.toUInt8 ++ rest := by
  rw [beq_iff_eq.mp first, readWord_eq_ok_iff.mp read]
  rfl

theorem readValue_append {before : List UInt8} (space : IsSpace before) (input : List UInt8) :
    readValue (room + 1) (before ++ input) = readValue (room + 1) input := by
  rw [readValue, skipSpace_append space, readValue]

theorem readValue_of_isScalar (isScalar : IsScalar value token) (ends : EndsNumber rest) :
    readValue (room + 1) (token ++ rest) = .ok (value, rest) := by
  cases isScalar with
  | null => rfl
  | isTrue => rfl
  | isFalse => rfl
  | number isNumber =>
      have read := readNumber_of_isNumber isNumber ends
      obtain ⟨spelled, -⟩ := isNumber
      obtain ⟨b, more, rfl, opens⟩ := begins_of_isNumeral spelled
      rw [List.cons_append] at read ⊢
      rw [readValue_numeral opens, read]
      rfl
  | string isString =>
      cases isString with
      | @quoted inside spelling =>
          have read := readString_of_spelling spelling rest
          rw [List.cons_append, List.append_assoc, readValue_quote, List.singleton_append, read]
          rfl

/-! ## Brackets -/

variable {read : List UInt8 → Reading Json} {p : Json → List UInt8 → Prop}

/-- An array from behind its opening bracket. -/
def readArray (read : List UInt8 → Reading Json) (input : List UInt8) :
    Except (Fault Cause) (Json × List UInt8) := do
  match ← firstItem input with
  | (true, rest) =>
    let (items, rest) ← readItems read rest.length rest
    return (.array items, rest)
  | (false, rest) => return (.array [], rest)

theorem readArray_sound (reads : Reads read p) (h : readArray read input = .ok (value, rest)) :
    ∃ items token, '['.toUInt8 :: input = token ++ rest ∧ value = .array items ∧
      Bracketed p '['.toUInt8 ']'.toUInt8 items token := by
  obtain ⟨⟨more, unread⟩, first, h⟩ := Except.bind_eq_ok_iff.mp h
  cases more with
  | false =>
      cases h
      obtain ⟨before, rfl, space⟩ := firstItem_false_iff.mp first
      exact ⟨[], _, by simp, rfl, .empty space⟩
  | true =>
      obtain ⟨⟨items, unread'⟩, read, h⟩ := Except.bind_eq_ok_iff.mp h
      cases h
      obtain ⟨before, rfl, space, -⟩ := firstItem_true_iff.mp first
      obtain ⟨inside, rfl, elements⟩ := elements_of_readItems reads read
      exact ⟨items, _, by simp, rfl, .elements (elements.space_append space)⟩

theorem readArray_complete (reads : Reads read p) {items : List Json}
    (bracketed : Bracketed p '['.toUInt8 ']'.toUInt8 items token) :
    ∃ more, token = '['.toUInt8 :: more ∧
      ∀ rest, readArray read (more ++ rest) = .ok (.array items, rest) := by
  cases bracketed with
  | @empty space isSpace =>
      refine ⟨_, rfl, fun rest => ?_⟩
      have first : firstItem (space ++ ']'.toUInt8 :: rest) = .ok (false, rest) :=
        firstItem_false_iff.mpr ⟨space, rfl, isSpace⟩
      rw [List.append_assoc, List.singleton_append, readArray, first]
      rfl
  | elements elements =>
      refine ⟨_, rfl, fun rest => ?_⟩
      obtain ⟨more, elements, -, first⟩ := elements.exists_firstItem reads.begins
      have enough : more.length < (more ++ ']'.toUInt8 :: rest).length := by simp
      have read := readItems_of_elements reads elements enough rest
      rw [List.append_assoc, List.singleton_append, readArray, first]
      simp only [bind, Except.bind, read]
      rfl

/-- An object from behind its opening brace. -/
def readObject (read : List UInt8 → Reading Json) (input : List UInt8) :
    Except (Fault Cause) (Json × List UInt8) := do
  match ← firstKey input with
  | (some key, rest) =>
    let (members, rest) ← readMembers read rest.length key rest
    return (.object (Members.ofList members), rest)
  | (none, rest) => return (.object [], rest)

theorem readObject_sound (reads : Reads read p) (h : readObject read input = .ok (value, rest)) :
    ∃ members token, '\x7b'.toUInt8 :: input = token ++ rest ∧
      value = .object (Members.ofList members) ∧
      Bracketed (IsMember p) '\x7b'.toUInt8 '\x7d'.toUInt8 members token := by
  obtain ⟨⟨key, unread⟩, first, h⟩ := Except.bind_eq_ok_iff.mp h
  cases key with
  | none =>
      cases h
      obtain ⟨before, rfl, space⟩ := firstKey_none_iff.mp first
      exact ⟨[], _, by simp, rfl, .empty space⟩
  | some key =>
      obtain ⟨⟨members, unread'⟩, read, h⟩ := Except.bind_eq_ok_iff.mp h
      cases h
      obtain ⟨before, name, rfl, space, isString⟩ := firstKey_some_iff.mp first
      obtain ⟨inside, rfl, behind⟩ := behindKey_of_readMembers reads read
      exact ⟨members, _, by simp, rfl, .elements (behind.elements isString space)⟩

theorem readObject_complete (reads : Reads read p) {members : List (String × Json)}
    (bracketed : Bracketed (IsMember p) '\x7b'.toUInt8 '\x7d'.toUInt8 members token) :
    ∃ more, token = '\x7b'.toUInt8 :: more ∧
      ∀ rest, readObject read (more ++ rest) = .ok (.object (Members.ofList members), rest) := by
  cases bracketed with
  | @empty space isSpace =>
      refine ⟨_, rfl, fun rest => ?_⟩
      have first : firstKey (space ++ '\x7d'.toUInt8 :: rest) = .ok (none, rest) :=
        firstKey_none_iff.mpr ⟨space, rfl, isSpace⟩
      rw [List.append_assoc, List.singleton_append, readObject, first]
      rfl
  | elements elements =>
      refine ⟨_, rfl, fun rest => ?_⟩
      obtain ⟨key, before, name, behind, rfl, space, isString, isBehind⟩ :=
        exists_behindKey_of_elements elements
      have first : firstKey (before ++ (name ++ (behind ++ '\x7d'.toUInt8 :: rest))) =
          .ok (some key, behind ++ '\x7d'.toUInt8 :: rest) :=
        firstKey_some_iff.mpr ⟨before, name, rfl, space, isString⟩
      have enough : behind.length < (behind ++ '\x7d'.toUInt8 :: rest).length := by simp
      have read := readMembers_of_behindKey reads isBehind enough rest
      simp only [List.append_assoc, List.singleton_append]
      rw [readObject, first]
      simp only [bind, Except.bind, read]
      rfl

/-! ## Values -/

theorem isValue_of_isScalar (isScalar : IsScalar value token) : IsValue depth value token := by
  cases depth with
  | zero => exact isScalar
  | succ depth => exact Or.inl isScalar

/-- A word that is read to its end is the token of the scalar that it stands for. -/
theorem isValue_of_readWord {c : Char} {word : List Char} {scalar : Json}
    (first : (b == c.toUInt8) = true)
    (isScalar : IsScalar scalar ((c :: word).map Char.toUInt8))
    (h : (do let rest ← readWord word input; return (scalar, rest)) = Except.ok (value, rest)) :
    ∃ token, b :: input = token ++ rest ∧ IsValue depth value token := by
  obtain ⟨unread, read, h⟩ := Except.bind_eq_ok_iff.mp h
  cases h
  exact ⟨_, cons_eq_word_append first read, isValue_of_isScalar isScalar⟩

/-- Values inside brackets are read with one level of room less. -/
def ReadsInside (room : Nat) : Prop :=
  ∀ depth, room = depth + 1 → Reads (readValue room) (IsValue depth)

theorem isValue_of_readValue (inside : ReadsInside room)
    (h : readValue (room + 1) input = .ok (value, rest)) :
    ∃ before token, input = before ++ (token ++ rest) ∧ IsSpace before ∧
      IsValue room value token := by
  rw [readValue] at h
  split at h
  · cases h
  · next b behind seen =>
    obtain ⟨before, rfl, space, -⟩ := exists_of_skipSpace seen
    -- The first byte decides, in the order in which the reader asks for it.
    suffices found : ∃ token, b :: behind = token ++ rest ∧ IsValue room value token by
      obtain ⟨token, spelled, isValue⟩ := found
      exact ⟨before, token, by rw [spelled], space, isValue⟩
    split at h
    · next isNull => exact isValue_of_readWord isNull .null h
    split at h
    · next isTrue => exact isValue_of_readWord isTrue .isTrue h
    split at h
    · next isFalse => exact isValue_of_readWord isFalse .isFalse h
    split at h
    · obtain ⟨⟨n, unread⟩, read, h⟩ := Except.bind_eq_ok_iff.mp h
      cases h
      obtain ⟨token, spelled, isNumber⟩ := isNumber_of_readNumber read
      exact ⟨token, spelled, isValue_of_isScalar (.number isNumber)⟩
    split at h
    · next isQuote =>
      obtain ⟨⟨s, unread⟩, read, h⟩ := Except.bind_eq_ok_iff.mp h
      cases h
      obtain ⟨name, spelled, isString⟩ := readString_eq_ok_iff_isString.mp read
      exact ⟨name, by rw [beq_iff_eq.mp isQuote, spelled], isValue_of_isScalar (.string isString)⟩
    split at h
    · next isBracket =>
      cases room with
      | zero => cases h
      | succ depth =>
          have h : readArray (readValue (depth + 1)) behind = .ok (value, rest) := h
          obtain ⟨items, token, spelled, rfl, bracketed⟩ := readArray_sound (inside depth rfl) h
          exact ⟨token, by rw [beq_iff_eq.mp isBracket, spelled],
            Or.inr (Or.inl ⟨items, rfl, bracketed⟩)⟩
    split at h
    · next isBrace =>
      cases room with
      | zero => cases h
      | succ depth =>
          have h : readObject (readValue (depth + 1)) behind = .ok (value, rest) := h
          obtain ⟨members, token, spelled, rfl, bracketed⟩ := readObject_sound (inside depth rfl) h
          exact ⟨token, by rw [beq_iff_eq.mp isBrace, spelled],
            Or.inr (Or.inr ⟨members, rfl, bracketed⟩)⟩
    cases h

theorem readValue_of_isValue (inside : ReadsInside room) (isValue : IsValue room value token)
    (ends : EndsNumber rest) : readValue (room + 1) (token ++ rest) = .ok (value, rest) := by
  cases room with
  | zero => exact readValue_of_isScalar isValue ends
  | succ depth =>
      rcases isValue with isScalar | ⟨items, rfl, bracketed⟩ | ⟨members, rfl, bracketed⟩
      · exact readValue_of_isScalar isScalar ends
      · obtain ⟨more, rfl, read⟩ := readArray_complete (inside depth rfl) bracketed
        exact read rest
      · obtain ⟨more, rfl, read⟩ := readObject_complete (inside depth rfl) bracketed
        exact read rest

theorem ReadsInside.reads (inside : ReadsInside room) :
    Reads (readValue (room + 1)) (IsValue room) where
  sound := isValue_of_readValue inside
  complete space isValue ends := by
    rw [readValue_append space]
    exact readValue_of_isValue inside isValue ends
  begins := begins_of_isValue

/-- A reader takes the values that are less deep than it has room, and only them. -/
theorem reads_readValue (depth : Nat) : Reads (readValue (depth + 1)) (IsValue depth) := by
  induction depth with
  | zero =>
      have inside : ReadsInside 0 := fun depth none => absurd none (Nat.succ_ne_zero depth).symm
      exact inside.reads
  | succ depth ih =>
      have inside : ReadsInside (depth + 1) := by
        rintro other same
        cases same
        exact ih
      exact inside.reads

/-! ## Documents -/

/-- What is read from a text is the value of the document that the text is. -/
theorem readDocument_eq_ok_iff : readDocument input = .ok value ↔ IsDocument 127 value input := by
  have reads := reads_readValue 127
  constructor
  · intro h
    obtain ⟨⟨value', unread⟩, read, h⟩ := Except.bind_eq_ok_iff.mp h
    obtain ⟨_, ended, h⟩ := Except.bind_eq_ok_iff.mp h
    cases h
    obtain ⟨before, token, rfl, space, isValue⟩ := reads.sound read
    exact .document space isValue (readEnd_eq_ok_iff.mp ended)
  · rintro ⟨space, isValue, space'⟩
    rw [readDocument, depthLimit, reads.complete space isValue (endsNumber_of_isSpace space')]
    simp only [bind, Except.bind, readEnd_eq_ok_iff.mpr space']
    rfl

theorem readText_eq_ok_iff {text : String} :
    readText text = .ok value ↔ IsDocument 127 value (Text.Utf8.encode text) := by
  rw [readText, Json.read, Except.mapError_eq_ok_iff, readDocument_eq_ok_iff]

/-! ## Compact texts -/

end FactoryBundler.Json
