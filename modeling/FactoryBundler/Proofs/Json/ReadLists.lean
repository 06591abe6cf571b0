import FactoryBundler.Proofs.Json.ReadNumbers
import FactoryBundler.Proofs.Json.ReadStrings
import FactoryBundler.Proofs.Json.RoundTrip

/-!
# Lists that are read are those of the grammar

Arrays and objects are read token by token, whatever reads the tokens: if that reader takes just the
tokens of a grammar, then the tokens that are read between two brackets are the elements of the
grammar, with blanks and commas between them.
-/

namespace FactoryBundler.Json

variable {input rest before after : List UInt8} {b : UInt8} {fuel : Nat}

/-! ## Blanks -/

theorem skipSpace_append (space : IsSpace before) (input : List UInt8) :
    skipSpace (before ++ input) = skipSpace input := by
  rw [skipSpace, List.dropWhile_append_of_pos space]
  rfl

theorem skipSpace_append_cons (space : IsSpace before) (visible : isSpaceByte b = false) :
    skipSpace (before ++ b :: rest) = b :: rest := by
  rw [skipSpace_append space]
  exact skipSpace_cons visible

theorem exists_of_skipSpace (h : skipSpace input = b :: rest) :
    ∃ before, input = before ++ b :: rest ∧ IsSpace before ∧ isSpaceByte b = false := by
  refine ⟨input.takeWhile isSpaceByte, ?_, fun b inSpace => List.mem_takeWhile_imp inSpace, ?_⟩
  · rw [← h]
    exact (List.takeWhile_append_dropWhile).symm
  · have first := List.head?_dropWhile_not isSpaceByte input
    rw [show input.dropWhile isSpaceByte = b :: rest from h] at first
    exact first

theorem isSpace_nil : IsSpace [] := nofun

theorem isSpace_append (space : IsSpace before) (space' : IsSpace after) :
    IsSpace (before ++ after) :=
  fun b inBoth => (List.mem_append.mp inBoth).elim (space b) (space' b)

/-- The end of a text may be blank. -/
theorem readEnd_eq_ok_iff : readEnd input = .ok () ↔ IsSpace input := by
  rw [readEnd]
  constructor
  · intro h
    split at h
    · next seen => exact List.dropWhile_eq_nil_iff.mp seen
    · cases h
  · intro space
    rw [skipSpace, List.dropWhile_eq_nil_iff.mpr space]

/-- A blank does not continue a number. -/
theorem not_continuesNumber_of_isSpaceByte (isSpace : isSpaceByte b = true) :
    continuesNumber b = false := by
  simp only [isSpaceByte, Bool.or_eq_true, beq_iff_eq] at isSpace
  rcases isSpace with ((rfl | rfl) | rfl) | rfl <;> decide

/-- There may be blanks in front of what ends a number. -/
theorem endsNumber_space_append (space : IsSpace before) (ends : EndsNumber rest) :
    EndsNumber (before ++ rest) := by
  cases before with
  | nil => exact ends
  | cons b more =>
      exact endsNumber_cons (not_continuesNumber_of_isSpaceByte (space b List.mem_cons_self))

theorem endsNumber_space_cons (space : IsSpace before) (stops : continuesNumber b = false)
    (rest : List UInt8) : EndsNumber (before ++ b :: rest) :=
  endsNumber_space_append space (endsNumber_cons stops)

theorem endsNumber_of_isSpace (space : IsSpace rest) : EndsNumber rest := by
  have ends := endsNumber_space_append space endsNumber_nil
  rwa [List.append_nil] at ends

/-! ## Readers of tokens -/

/-- How a token begins: with a byte that is neither a blank nor the end of an array. -/
def Begins (token : List UInt8) : Prop :=
  ∃ b more, token = b :: more ∧ isSpaceByte b = false ∧ b ≠ ']'.toUInt8

/-- A reader takes tokens of a grammar, and all of them. Blanks in front of a token are skipped. -/
structure Reads {ε α : Type} (read : List UInt8 → Except ε (α × List UInt8))
    (p : α → List UInt8 → Prop) : Prop where
  sound : ∀ {input x rest}, read input = .ok (x, rest) →
    ∃ before token, input = before ++ (token ++ rest) ∧ IsSpace before ∧ p x token
  complete : ∀ {before token x rest}, IsSpace before → p x token → EndsNumber rest →
    read (before ++ (token ++ rest)) = .ok (x, rest)
  begins : ∀ {x token}, p x token → Begins token

theorem readString_eq_ok_iff_isString {s : String} :
    readString input = .ok (s, rest) ↔
      ∃ name, '"'.toUInt8 :: input = name ++ rest ∧ IsString s name := by
  rw [readString_eq_ok_iff]
  constructor
  · rintro ⟨inside, rfl, spelling⟩
    exact ⟨_, by simp, .quoted spelling⟩
  · rintro ⟨name, spelled, isString⟩
    obtain ⟨spelling⟩ := isString
    refine ⟨_, ?_, spelling⟩
    simpa using spelled

theorem readColon_eq_ok_iff :
    readColon input = .ok rest ↔
      ∃ before, input = before ++ ':'.toUInt8 :: rest ∧ IsSpace before := by
  constructor
  · intro h
    unfold readColon at h
    split at h
    · cases h
    · next b behind seen =>
      split at h
      · next isColon =>
        cases h
        obtain ⟨before, rfl, space, -⟩ := exists_of_skipSpace seen
        exact ⟨before, by rw [beq_iff_eq.mp isColon], space⟩
      · cases h
  · rintro ⟨before, rfl, space⟩
    rw [readColon, skipSpace_append_cons space (by decide)]
    rfl

theorem colon_append (space : IsSpace before) (rest : List UInt8) :
    readColon (before ++ ':'.toUInt8 :: rest) = .ok rest :=
  readColon_eq_ok_iff.mpr ⟨before, rfl, space⟩

/-! ## Items -/

theorem firstItem_false_iff :
    firstItem input = .ok (false, rest) ↔
      ∃ before, input = before ++ ']'.toUInt8 :: rest ∧ IsSpace before := by
  constructor
  · intro h
    unfold firstItem at h
    split at h
    · cases h
    · next b behind seen =>
      split at h
      · next isEnd =>
        cases h
        obtain ⟨before, rfl, space, -⟩ := exists_of_skipSpace seen
        exact ⟨before, by rw [beq_iff_eq.mp isEnd], space⟩
      · cases h
  · rintro ⟨before, rfl, space⟩
    rw [firstItem, skipSpace_append_cons space (by decide)]
    rfl

theorem firstItem_true_iff :
    firstItem input = .ok (true, rest) ↔
      ∃ before, input = before ++ rest ∧ IsSpace before ∧ Begins rest := by
  constructor
  · intro h
    unfold firstItem at h
    split at h
    · cases h
    · next b behind seen =>
      split at h
      · cases h
      · next notEnd =>
        cases h
        obtain ⟨before, rfl, space, visible⟩ := exists_of_skipSpace seen
        exact ⟨before, rfl, space, b, behind, rfl, visible, by simpa using notEnd⟩
  · rintro ⟨before, rfl, space, b, more, rfl, visible, notEnd⟩
    rw [firstItem, skipSpace_append_cons space visible]
    simp [notEnd]

theorem nextItem_false_iff :
    nextItem input = .ok (false, rest) ↔
      ∃ before, input = before ++ ']'.toUInt8 :: rest ∧ IsSpace before := by
  constructor
  · intro h
    unfold nextItem at h
    split at h
    · cases h
    · next b behind seen =>
      split at h
      · next isEnd =>
        cases h
        obtain ⟨before, rfl, space, -⟩ := exists_of_skipSpace seen
        exact ⟨before, by rw [beq_iff_eq.mp isEnd], space⟩
      · split at h
        · split at h
          · cases h
          · split at h <;> cases h
        · cases h
  · rintro ⟨before, rfl, space⟩
    rw [nextItem, skipSpace_append_cons space (by decide)]
    rfl

/-- A comma, and blanks around it. -/
def Comma (text : List UInt8) : Prop :=
  ∃ before after, text = before ++ ','.toUInt8 :: after ∧ IsSpace before ∧ IsSpace after

theorem nextItem_true_iff :
    nextItem input = .ok (true, rest) ↔
      ∃ comma, input = comma ++ rest ∧ Comma comma ∧ Begins rest := by
  constructor
  · intro h
    unfold nextItem at h
    split at h
    · cases h
    · next b behind seen =>
      split at h
      · cases h
      · split at h
        · next isComma =>
          obtain ⟨before, rfl, space, -⟩ := exists_of_skipSpace seen
          split at h
          · cases h
          · next c behind' seen' =>
            split at h
            · cases h
            · next notEnd =>
              cases h
              obtain ⟨after, rfl, space', visible⟩ := exists_of_skipSpace seen'
              refine ⟨before ++ ','.toUInt8 :: after, ?_, ⟨before, after, rfl, space, space'⟩,
                c, behind', rfl, visible, by simpa using notEnd⟩
              rw [beq_iff_eq.mp isComma]
              simp
        · cases h
  · rintro ⟨_, rfl, ⟨before, after, rfl, space, space'⟩, b, more, rfl, visible, notEnd⟩
    have goesOn : ','.toUInt8 ≠ ']'.toUInt8 := by decide
    rw [List.append_assoc, List.cons_append, nextItem, skipSpace_append_cons space (by decide)]
    simp [goesOn, skipSpace_append_cons space' visible, notEnd]

section Items

variable {α : Type} {p : α → List UInt8 → Prop} {x : α} {xs : List α} {inside token : List UInt8}

/-- Blanks in front of the first element. -/
theorem Elements.space_append (elements : Elements p xs inside) (space : IsSpace before) :
    Elements p xs (before ++ inside) := by
  cases elements with
  | last space' isToken space'' =>
      rw [← List.append_assoc]
      exact .last (isSpace_append space space') isToken space''
  | more space' isToken space'' later =>
      rw [← List.append_assoc]
      exact .more (isSpace_append space space') isToken space'' later

/-- Without the blanks in front of it, the first element comes first. -/
theorem Elements.exists_first (elements : Elements p xs inside) {first : UInt8 → Prop}
    (begins : ∀ {x token}, p x token → ∃ b more, token = b :: more ∧ first b) :
    ∃ before b more, inside = before ++ b :: more ∧ IsSpace before ∧ Elements p xs (b :: more) ∧
      first b := by
  cases elements with
  | @last x before token after space isToken space' =>
      obtain ⟨b, more, rfl, isFirst⟩ := begins isToken
      exact ⟨before, b, more ++ after, rfl, space, .last isSpace_nil isToken space', isFirst⟩
  | @more x xs before token after rest space isToken space' later =>
      obtain ⟨b, more, rfl, isFirst⟩ := begins isToken
      exact ⟨before, b, _, rfl, space, .more isSpace_nil isToken space' later, isFirst⟩

theorem Elements.cons_comma {comma : List UInt8} (space : IsSpace before) (isToken : p x token)
    (isComma : Comma comma) (later : Elements p xs inside) :
    Elements p (x :: xs) (before ++ (token ++ (comma ++ inside))) := by
  obtain ⟨after, blank, rfl, space', space''⟩ := isComma
  simpa using Elements.more space isToken space' (later.space_append space'')

theorem Elements.exists_firstItem (elements : Elements p xs inside)
    (begins : ∀ {x token}, p x token → Begins token) :
    ∃ more, Elements p xs more ∧ more.length ≤ inside.length ∧
      ∀ tail, firstItem (inside ++ tail) = .ok (true, more ++ tail) := by
  obtain ⟨before, b, more, rfl, space, elements, visible, notEnd⟩ := elements.exists_first begins
  refine ⟨b :: more, elements, by simp, fun tail => ?_⟩
  rw [List.append_assoc]
  exact firstItem_true_iff.mpr ⟨before, rfl, space, b, _, rfl, visible, notEnd⟩

theorem Elements.exists_nextItem (elements : Elements p xs inside)
    (begins : ∀ {x token}, p x token → Begins token) (space : IsSpace after) :
    ∃ more, Elements p xs more ∧ more.length ≤ inside.length ∧
      ∀ tail, nextItem (after ++ ','.toUInt8 :: (inside ++ tail)) = .ok (true, more ++ tail) := by
  obtain ⟨blank, b, more, rfl, space', elements, visible, notEnd⟩ := elements.exists_first begins
  refine ⟨b :: more, elements, by simp, fun tail => ?_⟩
  exact nextItem_true_iff.mpr ⟨after ++ ','.toUInt8 :: blank, by simp,
    ⟨after, blank, rfl, space, space'⟩, b, _, rfl, visible, notEnd⟩

/-- The first of several elements, and the way to the next one. -/
theorem Elements.exists_item {y : α} (elements : Elements p (x :: y :: xs) inside)
    (begins : ∀ {x token}, p x token → Begins token) :
    ∃ before token more, IsSpace before ∧ p x token ∧ Elements p (y :: xs) more ∧
      ∀ tail, ∃ unread, inside ++ tail = before ++ (token ++ unread) ∧ EndsNumber unread ∧
        nextItem unread = .ok (true, more ++ tail) := by
  cases elements with
  | @more _ _ before token after rest space isToken space' later =>
      obtain ⟨more, elements, -, next⟩ := later.exists_nextItem begins space'
      refine ⟨before, token, more, space, isToken, elements, fun tail => ?_⟩
      exact ⟨after ++ ','.toUInt8 :: (rest ++ tail), by simp,
        endsNumber_space_cons space' (by decide) _, next tail⟩

end Items

variable {read : List UInt8 → Reading Json} {p : Json → List UInt8 → Prop}

theorem elements_of_readItems (reads : Reads read p) {items : List Json}
    (h : readItems read fuel input = .ok (items, rest)) :
    ∃ inside, input = inside ++ ']'.toUInt8 :: rest ∧ Elements p items inside := by
  induction fuel generalizing input items with
  | zero => cases h
  | succ fuel ih =>
      rw [readItems] at h
      obtain ⟨⟨item, afterItem⟩, first, h⟩ := Except.bind_eq_ok_iff.mp h
      obtain ⟨⟨more, afterNext⟩, next, h⟩ := Except.bind_eq_ok_iff.mp h
      obtain ⟨before, token, rfl, space, isToken⟩ := reads.sound first
      cases more with
      | false =>
          cases h
          obtain ⟨after, rfl, space'⟩ := nextItem_false_iff.mp next
          exact ⟨_, by simp, .last space isToken space'⟩
      | true =>
          obtain ⟨⟨others, afterOthers⟩, later, h⟩ := Except.bind_eq_ok_iff.mp h
          cases h
          obtain ⟨comma, rfl, isComma, -⟩ := nextItem_true_iff.mp next
          obtain ⟨inside, rfl, elements⟩ := ih later
          exact ⟨_, by simp, .cons_comma space isToken isComma elements⟩

theorem readItems_of_elements (reads : Reads read p) {items : List Json} {inside : List UInt8}
    (elements : Elements p items inside) (enough : inside.length < fuel) (rest : List UInt8) :
    readItems read fuel (inside ++ ']'.toUInt8 :: rest) = .ok (items, rest) := by
  induction fuel generalizing items inside with
  | zero => exact absurd enough (Nat.not_lt_zero _)
  | succ fuel ih =>
      cases elements with
      | @last item before token after space isToken space' =>
          have ends : EndsNumber (after ++ ']'.toUInt8 :: rest) :=
            endsNumber_space_cons space' (by decide) _
          have first := reads.complete space isToken ends
          have stop : nextItem (after ++ ']'.toUInt8 :: rest) = .ok (false, rest) :=
            nextItem_false_iff.mpr ⟨after, rfl, space'⟩
          simp only [List.append_assoc]
          rw [readItems, first]
          simp only [bind, Except.bind, stop]
          rfl
      | @more item items before token after more space isToken space' later =>
          obtain ⟨others, elements, short, goesOn⟩ := later.exists_nextItem reads.begins space'
          have ends : EndsNumber (after ++ ','.toUInt8 :: (more ++ ']'.toUInt8 :: rest)) :=
            endsNumber_space_cons space' (by decide) _
          have first := reads.complete space isToken ends
          have enough' : others.length < fuel := by
            simp only [List.length_append, List.length_cons] at enough
            omega
          simp only [List.append_assoc, List.cons_append]
          rw [readItems, first]
          simp only [bind, Except.bind, goesOn, ih elements enough', if_true]
          rfl

/-! ## Members -/

theorem firstKey_none_iff :
    firstKey input = .ok (none, rest) ↔
      ∃ before, input = before ++ '\x7d'.toUInt8 :: rest ∧ IsSpace before := by
  constructor
  · intro h
    unfold firstKey at h
    split at h
    · cases h
    · next b behind seen =>
      split at h
      · next isEnd =>
        cases h
        obtain ⟨before, rfl, space, -⟩ := exists_of_skipSpace seen
        exact ⟨before, by rw [beq_iff_eq.mp isEnd], space⟩
      · split at h
        · split at h <;> cases h
        · cases h
  · rintro ⟨before, rfl, space⟩
    rw [firstKey, skipSpace_append_cons space (by decide)]
    rfl

theorem firstKey_some_iff {key : String} :
    firstKey input = .ok (some key, rest) ↔
      ∃ before name, input = before ++ (name ++ rest) ∧ IsSpace before ∧ IsString key name := by
  constructor
  · intro h
    unfold firstKey at h
    split at h
    · cases h
    · next b behind seen =>
      split at h
      · cases h
      · split at h
        · next isQuote =>
          split at h
          · cases h
          · next key' unread read =>
            cases h
            obtain ⟨before, rfl, space, -⟩ := exists_of_skipSpace seen
            obtain ⟨name, spelled, isString⟩ := readString_eq_ok_iff_isString.mp read
            exact ⟨before, name, by rw [beq_iff_eq.mp isQuote, spelled], space, isString⟩
        · cases h
  · rintro ⟨before, _, rfl, space, spelling⟩
    cases spelling with
    | @quoted inside spelling =>
        have read := readString_of_spelling spelling rest
        have goesOn : '"'.toUInt8 ≠ '\x7d'.toUInt8 := by decide
        rw [List.cons_append, firstKey, skipSpace_append_cons space (by decide)]
        simp [goesOn, read]

theorem nextKey_none_iff :
    nextKey input = .ok (none, rest) ↔
      ∃ before, input = before ++ '\x7d'.toUInt8 :: rest ∧ IsSpace before := by
  constructor
  · intro h
    unfold nextKey at h
    split at h
    · cases h
    · next b behind seen =>
      split at h
      · next isEnd =>
        cases h
        obtain ⟨before, rfl, space, -⟩ := exists_of_skipSpace seen
        exact ⟨before, by rw [beq_iff_eq.mp isEnd], space⟩
      · split at h
        · split at h
          · cases h
          · split at h
            · split at h <;> cases h
            · split at h <;> cases h
        · cases h
  · rintro ⟨before, rfl, space⟩
    rw [nextKey, skipSpace_append_cons space (by decide)]
    rfl

theorem nextKey_some_iff {key : String} :
    nextKey input = .ok (some key, rest) ↔
      ∃ comma name, input = comma ++ (name ++ rest) ∧ Comma comma ∧ IsString key name := by
  constructor
  · intro h
    unfold nextKey at h
    split at h
    · cases h
    · next b behind seen =>
      split at h
      · cases h
      · split at h
        · next isComma =>
          obtain ⟨before, rfl, space, -⟩ := exists_of_skipSpace seen
          split at h
          · cases h
          · next c behind' seen' =>
            split at h
            · next isQuote =>
              split at h
              · cases h
              · next key' unread read =>
                cases h
                obtain ⟨after, rfl, space', -⟩ := exists_of_skipSpace seen'
                obtain ⟨name, spelled, isString⟩ := readString_eq_ok_iff_isString.mp read
                refine ⟨before ++ ','.toUInt8 :: after, name, ?_,
                  ⟨before, after, rfl, space, space'⟩, isString⟩
                rw [beq_iff_eq.mp isComma, beq_iff_eq.mp isQuote, spelled]
                simp
            · split at h <;> cases h
        · cases h
  · rintro ⟨_, _, rfl, ⟨before, after, rfl, space, space'⟩, spelling⟩
    cases spelling with
    | @quoted inside spelling =>
        have read := readString_of_spelling spelling rest
        have quote : isSpaceByte '"'.toUInt8 = false := by decide
        have goesOn : ','.toUInt8 ≠ '\x7d'.toUInt8 := by decide
        rw [List.append_assoc, List.cons_append, List.cons_append, nextKey,
          skipSpace_append_cons space (by decide)]
        simp [goesOn, skipSpace_append_cons space' quote, read]

section Members

variable {α : Type} {p : α → List UInt8 → Prop} {key : String} {members : List (String × α)}

/-- The members of an object from behind the first key. -/
inductive BehindKey (p : α → List UInt8 → Prop) :
    String → List (String × α) → List UInt8 → Prop
  | last {key : String} {x : α} {before after token tail : List UInt8} (space : IsSpace before)
      (space' : IsSpace after) (isToken : p x token) (tailSpace : IsSpace tail) :
      BehindKey p key [(key, x)] (before ++ ':'.toUInt8 :: (after ++ (token ++ tail)))
  | more {key next : String} {x : α} {members : List (String × α)}
      {before after token comma name behind : List UInt8} (space : IsSpace before)
      (space' : IsSpace after) (isToken : p x token) (isComma : Comma comma)
      (isString : IsString next name) (later : BehindKey p next members behind) :
      BehindKey p key ((key, x) :: members)
        (before ++ ':'.toUInt8 :: (after ++ (token ++ (comma ++ (name ++ behind)))))

theorem BehindKey.elements {inside name : List UInt8} (behind : BehindKey p key members inside)
    (isString : IsString key name) (blank : IsSpace before) :
    Elements (IsMember p) members (before ++ (name ++ inside)) := by
  induction behind generalizing before name with
  | last space space' isToken tailSpace =>
      have member := IsMember.member isString space space' isToken
      simpa using Elements.last blank member tailSpace
  | more space space' isToken isComma isString' _ ih =>
      have member := IsMember.member isString space space' isToken
      have later := ih isString' isSpace_nil
      simpa using Elements.cons_comma blank member isComma later

theorem exists_behindKey_of_elements {inside : List UInt8}
    (elements : Elements (IsMember p) members inside) :
    ∃ key before name behind, inside = before ++ (name ++ behind) ∧ IsSpace before ∧
      IsString key name ∧ BehindKey p key members behind := by
  induction elements with
  | last blank isMember tailSpace =>
      obtain ⟨isString, space, space', isToken⟩ := isMember
      exact ⟨_, _, _, _, by simp, blank, isString, .last space space' isToken tailSpace⟩
  | more blank isMember spaceFirst _ ih =>
      obtain ⟨isString, space, space', isToken⟩ := isMember
      obtain ⟨next, second, name, behind, rfl, spaceSecond, isString', later⟩ := ih
      refine ⟨_, _, _, _, ?_, blank, isString,
        .more space space' isToken ⟨_, _, rfl, spaceFirst, spaceSecond⟩ isString' later⟩
      simp

end Members

theorem Comma.endsNumber {comma : List UInt8} (isComma : Comma comma) (rest : List UInt8) :
    EndsNumber (comma ++ rest) := by
  obtain ⟨before, after, rfl, space, -⟩ := isComma
  rw [List.append_assoc]
  exact endsNumber_space_cons space (by decide) _

variable {key : String} {members : List (String × Json)}

theorem behindKey_of_readMembers (reads : Reads read p)
    (h : readMembers read fuel key input = .ok (members, rest)) :
    ∃ behind, input = behind ++ '\x7d'.toUInt8 :: rest ∧ BehindKey p key members behind := by
  induction fuel generalizing input key members with
  | zero => cases h
  | succ fuel ih =>
      rw [readMembers] at h
      obtain ⟨afterColon, colon, h⟩ := Except.bind_eq_ok_iff.mp h
      obtain ⟨⟨value, afterValue⟩, first, h⟩ := Except.bind_eq_ok_iff.mp h
      obtain ⟨⟨next, afterNext⟩, goesOn, h⟩ := Except.bind_eq_ok_iff.mp h
      obtain ⟨before, rfl, space⟩ := readColon_eq_ok_iff.mp colon
      obtain ⟨after, token, rfl, space', isToken⟩ := reads.sound first
      cases next with
      | none =>
          cases h
          obtain ⟨tail, rfl, tailSpace⟩ := nextKey_none_iff.mp goesOn
          exact ⟨_, by simp, .last space space' isToken tailSpace⟩
      | some next =>
          obtain ⟨⟨others, afterOthers⟩, later, h⟩ := Except.bind_eq_ok_iff.mp h
          cases h
          obtain ⟨comma, name, rfl, isComma, isString⟩ := nextKey_some_iff.mp goesOn
          obtain ⟨behind, rfl, isBehind⟩ := ih later
          exact ⟨_, by simp, .more space space' isToken isComma isString isBehind⟩

theorem readMembers_of_behindKey (reads : Reads read p) {behind : List UInt8}
    (isBehind : BehindKey p key members behind) (enough : behind.length < fuel)
    (rest : List UInt8) :
    readMembers read fuel key (behind ++ '\x7d'.toUInt8 :: rest) = .ok (members, rest) := by
  induction isBehind generalizing fuel with
  | @last key x before after token tail space space' isToken tailSpace =>
      obtain ⟨fuel, rfl⟩ := Nat.exists_eq_succ_of_ne_zero (Nat.ne_zero_of_lt enough)
      have ends : EndsNumber (tail ++ '\x7d'.toUInt8 :: rest) :=
        endsNumber_space_cons tailSpace (by decide) _
      have colon := colon_append space (after ++ (token ++ (tail ++ '\x7d'.toUInt8 :: rest)))
      have value := reads.complete space' isToken ends
      have stop : nextKey (tail ++ '\x7d'.toUInt8 :: rest) = .ok (none, rest) :=
        nextKey_none_iff.mpr ⟨tail, rfl, tailSpace⟩
      simp only [List.append_assoc, List.cons_append]
      rw [readMembers, colon]
      simp only [bind, Except.bind, value, stop]
      rfl
  | @more key next x members before after token comma name behind space space' isToken isComma
      isString later ih =>
      obtain ⟨fuel, rfl⟩ := Nat.exists_eq_succ_of_ne_zero (Nat.ne_zero_of_lt enough)
      have ends := isComma.endsNumber (name ++ (behind ++ '\x7d'.toUInt8 :: rest))
      have colon := colon_append space
        (after ++ (token ++ (comma ++ (name ++ (behind ++ '\x7d'.toUInt8 :: rest)))))
      have value := reads.complete space' isToken ends
      have goesOn : nextKey (comma ++ (name ++ (behind ++ '\x7d'.toUInt8 :: rest))) =
          .ok (some next, behind ++ '\x7d'.toUInt8 :: rest) :=
        nextKey_some_iff.mpr ⟨comma, name, rfl, isComma, isString⟩
      have short : behind.length < fuel := by
        simp only [List.length_append, List.length_cons] at enough
        omega
      simp only [List.append_assoc, List.cons_append]
      rw [readMembers, colon]
      simp only [bind, Except.bind, value, goesOn, ih short]
      rfl

end FactoryBundler.Json
