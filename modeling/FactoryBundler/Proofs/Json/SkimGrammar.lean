import FactoryBundler.Proofs.Json.ReadGrammar

/-!
# Values that are skimmed are those of the loose grammar

Skimming keeps a list of the brackets that are still open. What the rest of a text has to be, once a
value has been skimmed, depends on that list alone: for every open bracket some more elements and
the closing bracket. So what is skimmed is a loose value, and every loose value is skimmed; each of
its bytes pays for two steps.
-/

namespace FactoryBundler.Json

variable {input rest token before : List UInt8} {b : UInt8} {fuel : Nat} {brackets : List Bracket}
  {bracket : Bracket}

/-! ## Scalars and keys -/

theorem skimKey_eq_ok_iff :
    skimKey input = .ok rest ↔
      ∃ before name after, input = before ++ (name ++ (after ++ ':'.toUInt8 :: rest)) ∧
        IsSpace before ∧ IsLooseString name ∧ IsSpace after := by
  constructor
  · intro h
    unfold skimKey at h
    split at h
    · cases h
    · next b behind seen =>
      split at h
      · next isQuote =>
        obtain ⟨unread, skimmed, colon⟩ := Except.bind_eq_ok_iff.mp h
        obtain ⟨before, rfl, space, -⟩ := exists_of_skipSpace seen
        obtain ⟨inside, rfl, spelling⟩ := skimString_eq_ok_iff.mp skimmed
        obtain ⟨after, rfl, space'⟩ := readColon_eq_ok_iff.mp colon
        refine ⟨before, _, after, ?_, space, .quoted spelling, space'⟩
        rw [beq_iff_eq.mp isQuote]
        simp
      · cases h
  · rintro ⟨before, _, after, rfl, space, spelling, space'⟩
    cases spelling with
    | @quoted inside spelling =>
        have skimmed := skimString_of_looseSpelling spelling (after ++ ':'.toUInt8 :: rest)
        rw [List.cons_append, skimKey, skipSpace_append_cons space (by decide)]
        simp [bind, Except.bind, skimmed, colon_append space']

theorem isLooseScalar_of_skimScalar (h : skimScalar b input = .ok rest) :
    ∃ token, b :: input = token ++ rest ∧ IsLooseScalar token := by
  unfold skimScalar at h
  split at h
  · next isNull => exact ⟨_, cons_eq_word_append isNull h, .null⟩
  split at h
  · next isTrue => exact ⟨_, cons_eq_word_append isTrue h, .isTrue⟩
  split at h
  · next isFalse => exact ⟨_, cons_eq_word_append isFalse h, .isFalse⟩
  split at h
  · next isQuote =>
    obtain ⟨inside, rfl, spelling⟩ := skimString_eq_ok_iff.mp h
    refine ⟨_, ?_, .string (.quoted spelling)⟩
    rw [beq_iff_eq.mp isQuote]
    simp
  split at h
  · obtain ⟨⟨numeral, unread⟩, scanned, rfl⟩ := Except.map_eq_ok_iff.mp h
    obtain ⟨token, spelled, isNumeral⟩ := isNumeral_of_scanNumeral scanned
    exact ⟨token, spelled, .number isNumeral⟩
  · cases h

/-- How a scalar is skimmed: its first byte is not that of a bracket. -/
theorem skimScalar_of_isLooseScalar (isScalar : IsLooseScalar token) (ends : EndsNumber rest) :
    ∃ b more, token = b :: more ∧ isSpaceByte b = false ∧ b ≠ ']'.toUInt8 ∧ b ≠ '['.toUInt8 ∧
      b ≠ '\x7b'.toUInt8 ∧ skimScalar b (more ++ rest) = .ok rest := by
  cases isScalar with
  | null => exact ⟨_, _, rfl, by decide, by decide, by decide, by decide, rfl⟩
  | isTrue => exact ⟨_, _, rfl, by decide, by decide, by decide, by decide, rfl⟩
  | isFalse => exact ⟨_, _, rfl, by decide, by decide, by decide, by decide, rfl⟩
  | number isNumeral =>
      have scanned : scanNumeral .invalidNumber (token ++ rest) = _ :=
        scanNumeral_of_isNumeral isNumeral ends
      obtain ⟨b, more, rfl, opens⟩ := begins_of_isNumeral isNumeral
      obtain ⟨_, _, same, visible, notEnd⟩ := begins_of_opens opens more
      cases same
      have other (c : UInt8) := ne_of_opens (c := c) opens
      have opened : (b == '-'.toUInt8 || isDigitByte b) = true := by simpa using opens
      refine ⟨b, more, rfl, visible, notEnd, other _ (by decide) (by decide),
        other _ (by decide) (by decide), ?_⟩
      rw [List.cons_append] at scanned
      rw [skimScalar, if_neg (by simpa using other 'n'.toUInt8 (by decide) (by decide)),
        if_neg (by simpa using other 't'.toUInt8 (by decide) (by decide)),
        if_neg (by simpa using other 'f'.toUInt8 (by decide) (by decide)),
        if_neg (by simpa using other '"'.toUInt8 (by decide) (by decide)), if_pos opened, scanned]
      rfl
  | string isString =>
      cases isString with
      | quoted spelling =>
          refine ⟨_, _, rfl, by decide, by decide, by decide, by decide, ?_⟩
          rw [List.append_assoc]
          exact skimString_of_looseSpelling spelling rest

/-! ## Open brackets -/

/-- The byte that opens a bracket. -/
def opening : Bracket → UInt8
  | .array => '['.toUInt8
  | .object => '\x7b'.toUInt8

/-- The byte that closes a bracket. -/
def closing : Bracket → UInt8
  | .array => ']'.toUInt8
  | .object => '\x7d'.toUInt8

/-- An element of what stands in a bracket: an item or a member. -/
def IsElement : Bracket → List UInt8 → Prop
  | .array, token => IsLoose token
  | .object, token => IsLooseMember IsLoose token

/-- The elements of what stands in a bracket. -/
def AreElements (bracket : Bracket) (inside : List UInt8) : Prop :=
  ∃ elements : List Unit, Elements (fun _ token => IsElement bracket token) elements inside

theorem isLoose_of_bracketed {inside : List UInt8}
    (isInside : IsSpace inside ∨ AreElements bracket inside) :
    IsLoose (opening bracket :: (inside ++ [closing bracket])) := by
  rcases isInside with space | ⟨elements, areElements⟩
  · cases bracket with
    | array => exact .array (.empty space)
    | object => exact .object (.empty space)
  · cases bracket with
    | array => exact .array (.elements areElements)
    | object => exact .object (.elements areElements)

/-- On to an element: past a key if there is one, and then past a value. -/
def enter (bracket : Bracket) (fuel : Nat) (brackets : List Bracket) (input : List UInt8) :
    Except (Fault Cause) (List UInt8) :=
  match bracket with
  | .array => skimFrom fuel .value (.array :: brackets) input
  | .object => do skimFrom fuel .value (.object :: brackets) (← skimKey input)

theorem skimFrom_first_close (space : IsSpace before) (rest : List UInt8) :
    skimFrom (fuel + 1) .first (bracket :: brackets) (before ++ closing bracket :: rest) =
      skimFrom fuel .next brackets rest := by
  cases bracket with
  | array =>
      rw [closing, skimFrom, skipSpace_append_cons space (by decide)]
      rfl
  | object =>
      rw [closing, skimFrom, skipSpace_append_cons space (by decide)]
      rfl

theorem skimFrom_next_close (space : IsSpace before) (rest : List UInt8) :
    skimFrom (fuel + 1) .next (bracket :: brackets) (before ++ closing bracket :: rest) =
      skimFrom fuel .next brackets rest := by
  cases bracket with
  | array =>
      rw [closing, skimFrom, skipSpace_append_cons space (by decide)]
      rfl
  | object =>
      rw [closing, skimFrom, skipSpace_append_cons space (by decide)]
      rfl

theorem skimFrom_next_comma (space : IsSpace before) (rest : List UInt8) :
    skimFrom (fuel + 1) .next (bracket :: brackets) (before ++ ','.toUInt8 :: rest) =
      enter bracket fuel brackets rest := by
  cases bracket with
  | array =>
      rw [enter, skimFrom, skipSpace_append_cons space (by decide)]
      rfl
  | object =>
      rw [enter, skimFrom, skipSpace_append_cons space (by decide)]
      rfl

theorem skimFrom_first_enter (space : IsSpace before) (visible : isSpaceByte b = false)
    (notEnd : b ≠ closing bracket) (rest : List UInt8) :
    skimFrom (fuel + 1) .first (bracket :: brackets) (before ++ b :: rest) =
      enter bracket fuel brackets (b :: rest) := by
  cases bracket with
  | array =>
      rw [closing] at notEnd
      rw [enter, skimFrom, skipSpace_append_cons space visible]
      simp [notEnd]
  | object =>
      rw [closing] at notEnd
      rw [enter, skimFrom, skipSpace_append_cons space visible]
      simp [notEnd]

/-- Behind a bracket it closes again, or an element follows. -/
theorem exists_of_skimFrom_first
    (h : skimFrom (fuel + 1) .first (bracket :: brackets) input = .ok rest) :
    ∃ before behind, IsSpace before ∧
      (input = before ++ closing bracket :: behind ∧
          skimFrom fuel .next brackets behind = .ok rest ∨
        input = before ++ behind ∧ enter bracket fuel brackets behind = .ok rest) := by
  cases bracket with
  | array | object =>
      rw [skimFrom] at h
      split at h
      · cases h
      · next b behind seen =>
        obtain ⟨before, rfl, space, -⟩ := exists_of_skipSpace seen
        split at h
        · next isEnd =>
          rw [beq_iff_eq.mp isEnd]
          exact ⟨before, behind, space, Or.inl ⟨rfl, h⟩⟩
        · exact ⟨before, b :: behind, space, Or.inr ⟨rfl, h⟩⟩

/-- Behind an element the bracket closes, or a comma and another element follow. -/
theorem exists_of_skimFrom_next
    (h : skimFrom (fuel + 1) .next (bracket :: brackets) input = .ok rest) :
    ∃ before behind, IsSpace before ∧
      (input = before ++ closing bracket :: behind ∧
          skimFrom fuel .next brackets behind = .ok rest ∨
        input = before ++ ','.toUInt8 :: behind ∧
          enter bracket fuel brackets behind = .ok rest) := by
  cases bracket with
  | array | object =>
      rw [skimFrom] at h
      split at h
      · cases h
      · next b behind seen =>
        obtain ⟨before, rfl, space, -⟩ := exists_of_skipSpace seen
        split at h
        · next isComma =>
          rw [beq_iff_eq.mp isComma]
          exact ⟨before, behind, space, Or.inr ⟨rfl, h⟩⟩
        · split at h
          · next isEnd =>
            rw [beq_iff_eq.mp isEnd]
            exact ⟨before, behind, space, Or.inl ⟨rfl, h⟩⟩
          · cases h

/-! ## What is skimmed is loose -/

/-- What brackets that are open behind a value still ask of a text, up to where the outermost one
has been closed. -/
inductive Closes : List Bracket → List UInt8 → List UInt8 → Prop
  | done (rest : List UInt8) : Closes [] rest rest
  | close {bracket : Bracket} {brackets : List Bracket} {before behind rest : List UInt8}
      (space : IsSpace before) (outer : Closes brackets behind rest) :
      Closes (bracket :: brackets) (before ++ closing bracket :: behind) rest
  | goOn {bracket : Bracket} {brackets : List Bracket} {before inside behind rest : List UInt8}
      (space : IsSpace before) (elements : AreElements bracket inside)
      (outer : Closes brackets behind rest) :
      Closes (bracket :: brackets)
        (before ++ ','.toUInt8 :: (inside ++ closing bracket :: behind)) rest

/-- An element, and what is asked behind it, make the elements in its bracket. -/
theorem Closes.exists_elements {behind : List UInt8} (space : IsSpace before)
    (isElement : IsElement bracket token) (closes : Closes (bracket :: brackets) behind rest) :
    ∃ inside outer, before ++ (token ++ behind) = inside ++ closing bracket :: outer ∧
      AreElements bracket inside ∧ Closes brackets outer rest := by
  cases closes with
  | close space' outer =>
      exact ⟨_, _, by simp, ⟨[()], .last space isElement space'⟩, outer⟩
  | goOn space' elements outer =>
      obtain ⟨elements, areElements⟩ := elements
      exact ⟨_, _, by simp, ⟨() :: elements, .more space isElement space' areElements⟩, outer⟩

/-- What is skimmed with so much fuel is what the grammar allows there. -/
structure SkimsLoose (fuel : Nat) : Prop where
  value : ∀ {brackets input rest}, skimFrom fuel .value brackets input = .ok rest →
    ∃ before token behind, input = before ++ (token ++ behind) ∧ IsSpace before ∧ IsLoose token ∧
      Closes brackets behind rest
  first : ∀ {bracket brackets input rest},
    skimFrom fuel .first (bracket :: brackets) input = .ok rest →
    ∃ inside behind, input = inside ++ closing bracket :: behind ∧
      (IsSpace inside ∨ AreElements bracket inside) ∧ Closes brackets behind rest
  next : ∀ {brackets input rest}, skimFrom fuel .next brackets input = .ok rest →
    Closes brackets input rest

theorem SkimsLoose.enter (skims : SkimsLoose fuel)
    (h : enter bracket fuel brackets input = .ok rest) :
    ∃ inside outer, input = inside ++ closing bracket :: outer ∧ AreElements bracket inside ∧
      Closes brackets outer rest := by
  cases bracket with
  | array =>
      obtain ⟨before, token, behind, rfl, space, isLoose, closes⟩ := skims.value h
      exact closes.exists_elements space isLoose
  | object =>
      obtain ⟨unread, key, skimmed⟩ := Except.bind_eq_ok_iff.mp h
      obtain ⟨before, name, after, rfl, space, isString, space'⟩ := skimKey_eq_ok_iff.mp key
      obtain ⟨blank, token, behind, rfl, blankSpace, isLoose, closes⟩ := skims.value skimmed
      have member : IsElement .object (name ++ (after ++ ':'.toUInt8 :: (blank ++ token))) :=
        IsLooseMember.member isString space' blankSpace isLoose
      obtain ⟨inside, outer, spelled, elements, closes⟩ := closes.exists_elements space member
      exact ⟨inside, outer, by rw [← spelled]; simp, elements, closes⟩

/-- Behind an opening bracket, the value is that of the bracket and what is left is asked of what
comes after it. -/
theorem SkimsLoose.bracketed (skims : SkimsLoose fuel) {behind : List UInt8}
    (h : skimFrom fuel .first (bracket :: brackets) behind = .ok rest) :
    ∃ token outer, opening bracket :: behind = token ++ outer ∧ IsLoose token ∧
      Closes brackets outer rest := by
  obtain ⟨inside, outer, rfl, isInside, closes⟩ := skims.first h
  exact ⟨_, outer, by simp, isLoose_of_bracketed isInside, closes⟩

theorem SkimsLoose.succ (skims : SkimsLoose fuel) : SkimsLoose (fuel + 1) where
  value {brackets input rest} h := by
    rw [skimFrom] at h
    split at h
    · cases h
    · next b behind seen =>
      obtain ⟨before, rfl, space, -⟩ := exists_of_skipSpace seen
      suffices found : ∃ token outer, b :: behind = token ++ outer ∧ IsLoose token ∧
          Closes brackets outer rest by
        obtain ⟨token, outer, spelled, isLoose, closes⟩ := found
        exact ⟨before, token, outer, by rw [spelled], space, isLoose, closes⟩
      split at h
      · next isBracket =>
        rw [beq_iff_eq.mp isBracket]
        exact skims.bracketed h
      split at h
      · next isBrace =>
        rw [beq_iff_eq.mp isBrace]
        exact skims.bracketed h
      · obtain ⟨unread, skimmed, h⟩ := Except.bind_eq_ok_iff.mp h
        obtain ⟨token, spelled, isScalar⟩ := isLooseScalar_of_skimScalar skimmed
        exact ⟨token, unread, spelled, .scalar isScalar, skims.next h⟩
  first {bracket brackets input rest} h := by
    obtain ⟨before, behind, space, ⟨rfl, closed⟩ | ⟨rfl, entered⟩⟩ := exists_of_skimFrom_first h
    · exact ⟨before, behind, rfl, Or.inl space, skims.next closed⟩
    · obtain ⟨inside, outer, rfl, ⟨elements, areElements⟩, closes⟩ := skims.enter entered
      exact ⟨before ++ inside, outer, by simp, Or.inr ⟨elements, areElements.space_append space⟩,
        closes⟩
  next {brackets input rest} h := by
    cases brackets with
    | nil =>
        cases h
        exact .done _
    | cons bracket brackets =>
        obtain ⟨before, behind, space, ⟨rfl, closed⟩ | ⟨rfl, entered⟩⟩ := exists_of_skimFrom_next h
        · exact .close space (skims.next closed)
        · obtain ⟨inside, outer, rfl, elements, closes⟩ := skims.enter entered
          exact .goOn space elements closes

theorem skimsLoose (fuel : Nat) : SkimsLoose fuel := by
  induction fuel with
  | zero => exact ⟨nofun, nofun, nofun⟩
  | succ fuel ih => exact ih.succ

/-! ## What is loose is skimmed -/

/-- A value is skimmed, in fewer steps than two for each of its bytes. -/
def IsSkimmed (token : List UInt8) : Prop :=
  ∃ steps, steps < 2 * token.length ∧
    ∀ fuel brackets before rest, IsSpace before → EndsNumber rest →
      skimFrom (fuel + steps) .value brackets (before ++ (token ++ rest)) =
        skimFrom fuel .next brackets rest

/-- The same of an element of a bracket. -/
def IsSkimmedElement (bracket : Bracket) (token : List UInt8) : Prop :=
  ∃ steps, steps < 2 * token.length ∧
    ∀ fuel brackets before rest, IsSpace before → EndsNumber rest →
      enter bracket (fuel + steps) brackets (before ++ (token ++ rest)) =
        skimFrom fuel .next (bracket :: brackets) rest

theorem isSkimmed_of_isLooseScalar (isScalar : IsLooseScalar token) : IsSkimmed token := by
  refine ⟨1, ?_, fun fuel brackets before rest space ends => ?_⟩
  · obtain ⟨b, more, rfl, -⟩ := skimScalar_of_isLooseScalar isScalar endsNumber_nil
    simp only [List.length_cons]
    omega
  · obtain ⟨b, more, rfl, visible, -, notBracket, notBrace, skimmed⟩ :=
      skimScalar_of_isLooseScalar isScalar ends
    rw [List.cons_append, skimFrom, skipSpace_append_cons space visible]
    simp [notBracket, notBrace, bind, Except.bind, skimmed]

theorem isSkimmedElement_of_isSkimmed (isSkimmed : IsSkimmed token) :
    IsSkimmedElement .array token := by
  obtain ⟨steps, few, skimmed⟩ := isSkimmed
  exact ⟨steps, few, fun fuel brackets => skimmed fuel (.array :: brackets)⟩

theorem isSkimmedElement_of_member {name after blank : List UInt8} (isString : IsLooseString name)
    (space : IsSpace after) (blankSpace : IsSpace blank) (isSkimmed : IsSkimmed token) :
    IsSkimmedElement .object (name ++ (after ++ ':'.toUInt8 :: (blank ++ token))) := by
  obtain ⟨steps, few, skimmed⟩ := isSkimmed
  refine ⟨steps, ?_, fun fuel brackets before rest beforeSpace ends => ?_⟩
  · simp only [List.length_append, List.length_cons]
    omega
  · have key : skimKey (before ++ (name ++ (after ++ ':'.toUInt8 :: (blank ++ (token ++ rest))))) =
        .ok (blank ++ (token ++ rest)) :=
      skimKey_eq_ok_iff.mpr ⟨before, name, after, rfl, beforeSpace, isString, space⟩
    simp only [List.append_assoc, List.cons_append]
    rw [enter, key]
    exact skimmed fuel (.object :: brackets) blank rest blankSpace ends

theorem closing_not_continues : continuesNumber (closing bracket) = false := by
  cases bracket <;> decide

/-- The elements of a bracket, up to where it closes. The comma behind an element and the closing
bracket are paid for by the element in front of them. -/
theorem exists_steps_of_elements {elements : List Unit} {inside : List UInt8}
    (areElements : Elements (fun _ token => IsElement bracket token) elements inside)
    (skimmed : ∀ token, token.length ≤ inside.length → IsElement bracket token →
      IsSkimmedElement bracket token) :
    ∃ steps, steps ≤ 2 * inside.length ∧ ∀ fuel brackets rest,
      enter bracket (fuel + steps) brackets (inside ++ closing bracket :: rest) =
        skimFrom fuel .next brackets rest := by
  induction areElements with
  | @last _ before token after space isElement space' =>
      obtain ⟨steps, few, element⟩ := skimmed token (by simp; omega) isElement
      refine ⟨steps + 1, ?_, fun fuel brackets rest => ?_⟩
      · simp only [List.length_append]
        omega
      · have ends : EndsNumber (after ++ closing bracket :: rest) :=
          endsNumber_space_cons space' closing_not_continues _
        rw [List.append_assoc, List.append_assoc, Nat.add_comm steps 1, ← Nat.add_assoc,
          element (fuel + 1) brackets before _ space ends, skimFrom_next_close space']
  | @more _ _ before token after more space isElement space' _ ih =>
      obtain ⟨steps, few, element⟩ := skimmed token (by simp; omega) isElement
      obtain ⟨steps', few', elements⟩ := ih fun token short => skimmed token (by simp; omega)
      refine ⟨steps + 1 + steps', ?_, fun fuel brackets rest => ?_⟩
      · simp only [List.length_append, List.length_cons]
        omega
      · have ends : EndsNumber (after ++ ','.toUInt8 :: (more ++ closing bracket :: rest)) :=
          endsNumber_space_cons space' (by decide) _
        have fuels : fuel + (steps + 1 + steps') = fuel + steps' + 1 + steps := by omega
        rw [List.append_assoc, List.append_assoc, List.append_assoc, List.cons_append, fuels,
          element (fuel + steps' + 1) brackets before _ space ends, skimFrom_next_comma space',
          elements]

theorem skimFrom_opening (space : IsSpace before) (rest : List UInt8) :
    skimFrom (fuel + 1) .value brackets (before ++ opening bracket :: rest) =
      skimFrom fuel .first (bracket :: brackets) rest := by
  cases bracket with
  | array | object =>
      rw [opening, skimFrom, skipSpace_append_cons space (by decide)]
      rfl

theorem begins_of_isLoose (isLoose : IsLoose token) :
    ∃ b more, token = b :: more ∧ isSpaceByte b = false ∧ b ≠ ']'.toUInt8 := by
  cases isLoose with
  | scalar isScalar =>
      obtain ⟨b, more, rfl, visible, notEnd, -⟩ :=
        skimScalar_of_isLooseScalar isScalar endsNumber_nil
      exact ⟨b, more, rfl, visible, notEnd⟩
  | array bracketed =>
      obtain ⟨more, rfl⟩ := bracketed.exists_cons
      exact ⟨_, more, rfl, by decide, by decide⟩
  | object bracketed =>
      obtain ⟨more, rfl⟩ := bracketed.exists_cons
      exact ⟨_, more, rfl, by decide, by decide⟩

theorem begins_of_isElement (isElement : IsElement bracket token) :
    ∃ b more, token = b :: more ∧ isSpaceByte b = false ∧ b ≠ closing bracket := by
  cases bracket with
  | array => exact begins_of_isLoose isElement
  | object =>
      obtain ⟨isString, -, -, -⟩ := isElement
      cases isString with
      | quoted => exact ⟨_, _, rfl, by decide, by decide⟩

theorem isSkimmed_of_bracketed (bracket : Bracket) {elements : List Unit}
    (bracketed : Bracketed (fun _ token => IsElement bracket token) (opening bracket)
      (closing bracket) elements token)
    (skimmed : ∀ element, element.length < token.length → IsElement bracket element →
      IsSkimmedElement bracket element) :
    IsSkimmed token := by
  cases bracketed with
  | empty space =>
      refine ⟨2, by simp, fun fuel brackets before rest space' _ => ?_⟩
      rw [List.cons_append, List.append_assoc, skimFrom_opening space', List.singleton_append,
        skimFrom_first_close space]
  | elements areElements =>
      obtain ⟨before, b, more, rfl, space, areElements, visible, notEnd⟩ :=
        areElements.exists_first begins_of_isElement
      obtain ⟨steps, few, entered⟩ := exists_steps_of_elements areElements
        fun element short => skimmed element (by simp at short ⊢; omega)
      refine ⟨steps + 2, ?_, fun fuel brackets before' rest space' _ => ?_⟩
      · simp only [List.length_append, List.length_cons] at few ⊢
        omega
      · have fuels : fuel + (steps + 2) = fuel + steps + 1 + 1 := by omega
        rw [fuels, List.cons_append, List.append_assoc, List.append_assoc, skimFrom_opening space',
          List.cons_append, skimFrom_first_enter space visible notEnd, List.singleton_append]
        exact entered fuel brackets rest

/-- Every loose value is skimmed, by induction on its length: what stands in its bracket is
shorter. -/
theorem isSkimmed_of_isLoose (isLoose : IsLoose token) : IsSkimmed token := by
  induction size : token.length using Nat.strongRecOn generalizing token with
  | ind size ih =>
      subst size
      cases isLoose with
      | scalar isScalar => exact isSkimmed_of_isLooseScalar isScalar
      | array bracketed =>
          have items : ∀ item, item.length < token.length → IsElement .array item →
              IsSkimmedElement .array item :=
            fun item short isLoose => isSkimmedElement_of_isSkimmed (ih _ short isLoose rfl)
          exact isSkimmed_of_bracketed .array bracketed items
      | object bracketed =>
          have members : ∀ member, member.length < token.length → IsElement .object member →
              IsSkimmedElement .object member := by
            rintro _ short ⟨isString, space, space', isToken⟩
            refine isSkimmedElement_of_member isString space space' (ih _ ?_ isToken rfl)
            simp only [List.length_append, List.length_cons] at short
            omega
          exact isSkimmed_of_bracketed .object bracketed members

/-! ## The result -/

theorem exists_of_skimValue (h : skimValue input = .ok rest) :
    ∃ before token, input = before ++ (token ++ rest) ∧ IsSpace before ∧ IsLoose token := by
  obtain ⟨before, token, behind, rfl, space, isLoose, closes⟩ := (skimsLoose _).value h
  cases closes with
  | done => exact ⟨before, token, rfl, space, isLoose⟩

theorem skimValue_of_isLoose (space : IsSpace before) (isLoose : IsLoose token)
    (ends : EndsNumber rest) : skimValue (before ++ (token ++ rest)) = .ok rest := by
  obtain ⟨steps, few, skimmed⟩ := isSkimmed_of_isLoose isLoose
  obtain ⟨fuel, enough⟩ : ∃ fuel, 2 * (before ++ (token ++ rest)).length + 2 = fuel + 1 + steps :=
    ⟨2 * (before ++ (token ++ rest)).length + 1 - steps, by
      simp only [List.length_append]
      omega⟩
  rw [skimValue, enough, skimmed (fuel + 1) [] before rest space ends, skimFrom]

end FactoryBundler.Json
