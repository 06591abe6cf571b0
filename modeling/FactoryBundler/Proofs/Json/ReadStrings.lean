import FactoryBundler.Json.Skim
import FactoryBundler.Proofs.Json.Grammar

/-!
# Strings that are read are those of the grammar

A string that is read is spelled by what stands between its quotes, and whatever the grammar allows
between quotes is read. The same holds of strings that are skimmed.
-/

namespace FactoryBundler.Json

variable {input rest : List UInt8} {code : Nat} {c : Char}

/-! ## Escapes -/

theorem readHex4_eq_ok_iff :
    readHex4 input = .ok (code, rest) ↔ ∃ digits, input = digits ++ rest ∧ IsHex4 digits code := by
  constructor
  · intro h
    unfold readHex4 at h
    split at h
    · split at h
      · next first second third fourth =>
        cases h
        exact ⟨_, rfl, .digits first second third fourth⟩
      · cases h
    · cases h
  · rintro ⟨_, rfl, spelled⟩
    cases spelled with
    | digits first second third fourth =>
        simp only [List.cons_append, List.nil_append, readHex4, first, second, third, fourth]

theorem isHighSurrogate_iff :
    (decide (0xD800 ≤ code) && decide (code ≤ 0xDBFF)) = true ↔ IsHighSurrogate code := by
  rw [Bool.and_eq_true, decide_eq_true_eq, decide_eq_true_eq, IsHighSurrogate]

theorem isLowSurrogate_iff :
    (decide (0xDC00 ≤ code) && decide (code ≤ 0xDFFF)) = true ↔ IsLowSurrogate code := by
  rw [Bool.and_eq_true, decide_eq_true_eq, decide_eq_true_eq, IsLowSurrogate]

theorem readLowSurrogate_eq_ok_iff {high : Nat} :
    readLowSurrogate high input = .ok (c, rest) ↔
      ∃ digits low, input = '\\'.toUInt8 :: 'u'.toUInt8 :: (digits ++ rest) ∧ IsHex4 digits low ∧
        IsLowSurrogate low ∧
        c = Char.ofNat (0x10000 + (high - 0xD800) * 0x400 + (low - 0xDC00)) := by
  constructor
  · intro h
    unfold readLowSurrogate at h
    split at h
    · cases h
    · split at h
      · next isBackslash =>
        split at h
        · cases h
        · split at h
          · next isU =>
            split at h
            · cases h
            · next low unread read =>
              split at h
              · next isLow =>
                obtain ⟨isChar, isRest⟩ := Prod.mk.inj (Except.ok.inj h)
                subst isRest
                obtain ⟨digits, rfl, spelled⟩ := readHex4_eq_ok_iff.mp read
                refine ⟨digits, low, ?_, spelled, isLowSurrogate_iff.mp isLow, isChar.symm⟩
                rw [beq_iff_eq.mp isBackslash, beq_iff_eq.mp isU]
              · cases h
          · cases h
      · cases h
  · rintro ⟨digits, low, rfl, spelled, isLow, isChar⟩
    have read : readHex4 (digits ++ rest) = .ok (low, rest) :=
      readHex4_eq_ok_iff.mpr ⟨digits, rfl, spelled⟩
    rw [readLowSurrogate]
    simp only [read, beq_self_eq_true, if_true]
    rw [if_pos (isLowSurrogate_iff.mpr isLow), isChar]

theorem letterEscape?_u : letterEscape? 'u'.toUInt8 = none := by decide

theorem readEscape_u_of_code {digits : List UInt8} (spelled : IsHex4 digits code)
    (notLow : ¬ IsLowSurrogate code) (rest : List UInt8) :
    readEscape ('u'.toUInt8 :: (digits ++ rest)) =
      if 0xD800 ≤ code && code ≤ 0xDBFF then readLowSurrogate code rest
      else .ok (Char.ofNat code, rest) := by
  have read : readHex4 (digits ++ rest) = .ok (code, rest) :=
    readHex4_eq_ok_iff.mpr ⟨digits, rfl, spelled⟩
  rw [readEscape]
  simp only [letterEscape?_u, read, beq_self_eq_true, if_true]
  rw [if_neg (notLow ∘ isLowSurrogate_iff.mp)]

theorem readEscape_eq_ok_iff :
    readEscape input = .ok (c, rest) ↔ ∃ escape, input = escape ++ rest ∧ IsEscape c escape := by
  constructor
  · intro h
    unfold readEscape at h
    split at h
    · cases h
    · next b behind =>
      split at h
      · next isLetter =>
        cases h
        exact ⟨[b], rfl, .letter isLetter⟩
      · split at h
        · next isU =>
          rw [beq_iff_eq.mp isU]
          split at h
          · cases h
          · next code unread read =>
            obtain ⟨digits, rfl, spelled⟩ := readHex4_eq_ok_iff.mp read
            split at h
            · cases h
            · next notLow =>
              split at h
              · next isHigh =>
                obtain ⟨digits', low, rfl, spelled', isLow, isChar⟩ :=
                  readLowSurrogate_eq_ok_iff.mp h
                rw [isChar]
                refine ⟨_, ?_, .pair spelled spelled' (isHighSurrogate_iff.mp isHigh) isLow⟩
                simp
              · next notHigh =>
                cases h
                exact ⟨_, rfl, .code spelled (notHigh ∘ isHighSurrogate_iff.mpr)
                  (notLow ∘ isLowSurrogate_iff.mpr)⟩
        · cases h
  · rintro ⟨escape, rfl, isEscape⟩
    cases isEscape with
    | letter isLetter => exact readEscape_letter isLetter
    | code spelled notHigh notLow =>
        rw [List.cons_append, readEscape_u_of_code spelled notLow,
          if_neg (notHigh ∘ isHighSurrogate_iff.mp)]
    | @pair digits digits' high low spelled spelled' isHigh isLow =>
        have notLow : ¬ IsLowSurrogate high := by
          rw [IsHighSurrogate] at isHigh
          rw [IsLowSurrogate]
          omega
        rw [List.cons_append, List.append_assoc, readEscape_u_of_code spelled notLow,
          if_pos (isHighSurrogate_iff.mpr isHigh)]
        exact readLowSurrogate_eq_ok_iff.mpr ⟨digits', low, rfl, spelled', isLow, rfl⟩

/-! ## Strings -/

theorem isPlain_iff {b : UInt8} :
    isPlain b = true ↔ b ≠ '"'.toUInt8 ∧ b ≠ '\\'.toUInt8 ∧ ¬ b < 0x20 := by
  simp only [isPlain, Bool.and_eq_true, bne_iff_ne, decide_eq_true_eq, and_assoc,
    UInt8.lt_iff_toNat_lt, Nat.not_lt]
  rfl

theorem spelling_of_readBytes {bytes : List UInt8} (h : readBytes input = .ok (bytes, rest)) :
    ∃ inside, input = inside ++ '"'.toUInt8 :: rest ∧ Spelling inside bytes := by
  fun_induction readBytes input generalizing bytes rest with
  | case1 => cases h
  | case2 b behind isQuote =>
      cases h
      rw [beq_iff_eq.mp isQuote]
      exact ⟨[], rfl, .nil⟩
  | case3 => cases h
  | case4 => cases h
  | case5 b behind notQuote isBackslash c unread escape bytes' rest' read ih =>
      cases h
      obtain ⟨inside, rfl, spelling⟩ := ih read
      obtain ⟨escape, rfl, isEscape⟩ := readEscape_eq_ok_iff.mp escape
      refine ⟨_, ?_, .escape isEscape spelling⟩
      rw [beq_iff_eq.mp isBackslash]
      simp
  | case6 => cases h
  | case7 => cases h
  | case8 b behind notQuote notBackslash notControl bytes' rest' read ih =>
      cases h
      obtain ⟨inside, rfl, spelling⟩ := ih read
      exact ⟨_, rfl, .plain (isPlain_iff.mpr
        ⟨by simpa using notQuote, by simpa using notBackslash, notControl⟩) spelling⟩

theorem readBytes_of_spelling {inside bytes : List UInt8} (spelling : Spelling inside bytes)
    (rest : List UInt8) : readBytes (inside ++ '"'.toUInt8 :: rest) = .ok (bytes, rest) := by
  induction spelling with
  | nil => exact readBytes_quote
  | plain plain _ ih =>
      rw [List.cons_append, readBytes_plain plain, ih]
      rfl
  | escape isEscape _ ih =>
      rw [List.cons_append, List.append_assoc,
        readBytes_escape (readEscape_eq_ok_iff.mpr ⟨_, rfl, isEscape⟩), ih]
      rfl

theorem readString_of_spelling {s : String} {inside : List UInt8}
    (spelling : Spelling inside (Text.Utf8.encode s)) (rest : List UInt8) :
    readString (inside ++ '"'.toUInt8 :: rest) = .ok (s, rest) := by
  rw [readString, readBytes_of_spelling spelling]
  simp only [Text.Utf8.decode_encode]

/-- What is read behind a quote is the rest of a string. -/
theorem readString_eq_ok_iff {s : String} :
    readString input = .ok (s, rest) ↔
      ∃ inside, input = inside ++ '"'.toUInt8 :: rest ∧ Spelling inside (Text.Utf8.encode s) := by
  constructor
  · intro h
    unfold readString at h
    split at h
    · cases h
    · next bytes unread read =>
      split at h
      · next decoded =>
        cases h
        obtain rfl := Text.Utf8.decode_eq_ok_iff.mp decoded
        exact spelling_of_readBytes read
      · cases h
  · rintro ⟨inside, rfl, spelling⟩
    exact readString_of_spelling spelling rest

/-! ## Strings that are skimmed -/

theorem looseSpelling_of_skimString (h : skimString input = .ok rest) :
    ∃ inside, input = inside ++ '"'.toUInt8 :: rest ∧ LooseSpelling inside := by
  fun_induction skimString input generalizing rest with
  | case1 => cases h
  | case2 b behind isQuote =>
      cases h
      rw [beq_iff_eq.mp isQuote]
      exact ⟨[], rfl, .nil⟩
  | case3 => cases h
  | case4 b notQuote isBackslash e behind isLetter ih =>
      obtain ⟨inside, rfl, spelling⟩ := ih h
      rw [beq_iff_eq.mp isBackslash]
      exact ⟨_, rfl, .escape (.letter isLetter) spelling⟩
  | case5 => cases h
  | case6 b notQuote isBackslash e behind notLetter isU code unread read ih =>
      obtain ⟨inside, rfl, spelling⟩ := ih h
      obtain ⟨digits, rfl, spelled⟩ := readHex4_eq_ok_iff.mp read
      rw [beq_iff_eq.mp isBackslash, beq_iff_eq.mp isU]
      refine ⟨_, ?_, .escape (.code spelled) spelling⟩
      simp
  | case7 => cases h
  | case8 => cases h
  | case9 b behind notQuote notBackslash notControl ih =>
      obtain ⟨inside, rfl, spelling⟩ := ih h
      exact ⟨_, rfl, .plain (isPlain_iff.mpr
        ⟨by simpa using notQuote, by simpa using notBackslash, notControl⟩) spelling⟩

theorem skimString_quote : skimString ('"'.toUInt8 :: rest) = .ok rest := by
  rw [skimString.eq_def]
  dsimp only
  rw [if_pos (beq_self_eq_true _)]

theorem skimString_plain {b : UInt8} (plain : isPlain b = true) :
    skimString (b :: rest) = skimString rest := by
  obtain ⟨notQuote, notBackslash, notControl⟩ := isPlain_iff.mp plain
  rw [skimString.eq_def]
  dsimp only
  rw [if_neg (by simpa using notQuote), if_neg (by simpa using notBackslash), if_neg notControl]

theorem skimString_letter {b : UInt8} (isLetter : (letterEscape? b).isSome = true) :
    skimString ('\\'.toUInt8 :: b :: rest) = skimString rest := by
  rw [skimString.eq_def]
  dsimp only
  rw [if_neg (by decide), if_pos (beq_self_eq_true _), if_pos isLetter]

theorem skimString_code {digits : List UInt8} (spelled : IsHex4 digits code) :
    skimString ('\\'.toUInt8 :: 'u'.toUInt8 :: (digits ++ rest)) = skimString rest := by
  have read : readHex4 (digits ++ rest) = .ok (code, rest) :=
    readHex4_eq_ok_iff.mpr ⟨digits, rfl, spelled⟩
  rw [skimString.eq_def]
  dsimp only
  rw [if_neg (by decide), if_pos (beq_self_eq_true _), if_neg (by decide),
    if_pos (beq_self_eq_true _)]
  split
  · next failed =>
    rw [read] at failed
    cases failed
  · next read' =>
    rw [read] at read'
    cases read'
    rfl

theorem skimString_of_looseSpelling {inside : List UInt8} (spelling : LooseSpelling inside)
    (rest : List UInt8) : skimString (inside ++ '"'.toUInt8 :: rest) = .ok rest := by
  induction spelling with
  | nil => exact skimString_quote
  | plain plain _ ih => rw [List.cons_append, skimString_plain plain, ih]
  | escape isEscape _ ih =>
      rw [List.cons_append, List.append_assoc]
      cases isEscape with
      | letter isLetter => rw [List.singleton_append, skimString_letter isLetter, ih]
      | code spelled => rw [List.cons_append, skimString_code spelled, ih]

theorem skimString_eq_ok_iff :
    skimString input = .ok rest ↔
      ∃ inside, input = inside ++ '"'.toUInt8 :: rest ∧ LooseSpelling inside := by
  constructor
  · exact looseSpelling_of_skimString
  · rintro ⟨inside, rfl, spelling⟩
    exact skimString_of_looseSpelling spelling rest

end FactoryBundler.Json
