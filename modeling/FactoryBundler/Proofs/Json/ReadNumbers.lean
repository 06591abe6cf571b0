import FactoryBundler.Proofs.Except
import FactoryBundler.Proofs.Json.Grammar

/-!
# Numbers that are read are those of the grammar

A number is read as far as it goes. So what is read is a numeral of the grammar, and a numeral of
the grammar is read if what comes after it does not continue it.
-/

namespace FactoryBundler.Json

variable {input rest digits : List UInt8} {atEnd : Cause} {b : UInt8}

/-! ## Digits -/

theorem allDigits_of_spanDigits (h : spanDigits input = (digits, rest)) :
    input = digits ++ rest ∧ AllDigits digits := by
  cases h
  exact ⟨(List.takeWhile_append_dropWhile).symm, fun b inDigits => List.mem_takeWhile_imp inDigits⟩

theorem isWhole_of_scanWhole (h : scanWhole atEnd input = .ok (digits, rest)) :
    input = digits ++ rest ∧ IsWhole digits := by
  have zero : IsWhole ['0'.toUInt8] :=
    ⟨by simp [AllDigits]; decide, List.cons_ne_nil _ _, fun _ h => (List.cons.inj h).2.symm⟩
  unfold scanWhole at h
  split at h
  · cases h
  · next b behind =>
    split at h
    · next isZero =>
      rw [beq_iff_eq.mp isZero] at h ⊢
      split at h
      · split at h <;> cases h
        exact ⟨rfl, zero⟩
      · cases h
        exact ⟨rfl, zero⟩
    · next notZero =>
      split at h
      · next isDigit =>
        obtain ⟨spelled, all⟩ := allDigits_of_spanDigits (Except.ok.inj h)
        have first : digits ≠ [] ∧ ∀ more, digits = '0'.toUInt8 :: more → False := by
          have span := Except.ok.inj h
          rw [spanDigits, List.takeWhile_cons_of_pos isDigit] at span
          obtain ⟨rfl, -⟩ := Prod.mk.inj span
          refine ⟨List.cons_ne_nil _ _, fun more same => ?_⟩
          exact notZero (beq_iff_eq.mpr (List.cons.inj same).1)
        exact ⟨spelled, all, first.1, fun more same => (first.2 more same).elim⟩
      · cases h

theorem scanWhole_of_isWhole (whole : IsWhole digits)
    (stops : ∀ b ∈ rest.head?, isDigitByte b = false) :
    scanWhole atEnd (digits ++ rest) = .ok (digits, rest) := by
  have span := spanDigits_append_of_stops whole.all stops
  obtain ⟨b, more, rfl⟩ := List.exists_cons_of_ne_nil whole.nonempty
  rw [List.cons_append] at span ⊢
  by_cases isZero : b = '0'.toUInt8
  · subst isZero
    obtain rfl := whole.noLeadingZero more rfl
    cases rest with
    | nil => rfl
    | cons d rest => simp [scanWhole, stops d rfl]
  · simp [scanWhole, isZero, whole.all b List.mem_cons_self, span]

/-! ## Fraction and exponent -/

theorem allDigits_of_scanFraction (h : scanFraction atEnd input = .ok (digits, rest)) :
    input = fractionBytes digits ++ rest ∧ AllDigits digits := by
  cases input with
  | nil =>
      cases h
      exact ⟨rfl, nofun⟩
  | cons b behind =>
      rw [scanFraction] at h
      by_cases isPoint : (b == '.'.toUInt8) = true
      · rw [if_pos isPoint] at h
        rcases spanned : spanDigits behind with ⟨digits', more⟩
        rw [spanned] at h
        cases digits' with
        | nil => cases more <;> cases h
        | cons d digits' =>
            cases h
            obtain ⟨rfl, all⟩ := allDigits_of_spanDigits spanned
            rw [beq_iff_eq.mp isPoint, fractionBytes, if_neg (List.cons_ne_nil d digits')]
            exact ⟨rfl, all⟩
      · rw [if_neg isPoint] at h
        cases h
        exact ⟨rfl, nofun⟩

theorem scanFraction_of_allDigits (all : AllDigits digits)
    (stops : ∀ b ∈ rest.head?, isDigitByte b = false ∧ b ≠ '.'.toUInt8) :
    scanFraction atEnd (fractionBytes digits ++ rest) = .ok (digits, rest) := by
  cases digits with
  | nil =>
      cases rest with
      | nil => rfl
      | cons b rest => simp [fractionBytes, scanFraction, stops b rfl]
  | cons d more =>
      have span := spanDigits_append_of_stops all fun b isHead => (stops b isHead).1
      rw [fractionBytes, if_neg (List.cons_ne_nil d more), List.cons_append, scanFraction,
        if_pos (beq_self_eq_true _), span]

/-- The digits of an exponent, from behind its mark and sign. -/
def scanExponentDigits (atEnd : Cause) (minus : Bool) :
    List UInt8 → Reading (Option (Bool × List UInt8))
  | [] => .error ⟨atEnd, []⟩
  | d :: more =>
    if isDigitByte d then .ok (some (minus, (spanDigits (d :: more)).1), (spanDigits (d :: more)).2)
    else .error ⟨.invalidNumber, more⟩

theorem scanExponentDigits_eq_ok {minus : Bool} {exponent : Option (Bool × List UInt8)}
    (h : scanExponentDigits atEnd minus input = .ok (exponent, rest)) :
    ∃ digits, exponent = some (minus, digits) ∧ input = digits ++ rest ∧ AllDigits digits ∧
      digits ≠ [] := by
  unfold scanExponentDigits at h
  split at h
  · cases h
  · next d more =>
    split at h
    · next isDigit =>
      cases h
      have span : spanDigits (d :: more) = (_, _) := rfl
      obtain ⟨spelled, all⟩ := allDigits_of_spanDigits span
      refine ⟨_, rfl, spelled, all, ?_⟩
      rw [spanDigits, List.takeWhile_cons_of_pos isDigit]
      exact List.cons_ne_nil _ _
    · cases h

theorem scanExponentDigits_append (minus : Bool) (all : AllDigits digits) (nonempty : digits ≠ [])
    (ends : EndsNumber rest) :
    scanExponentDigits atEnd minus (digits ++ rest) = .ok (some (minus, digits), rest) := by
  have span := spanDigits_append all ends
  obtain ⟨d, more, rfl⟩ := List.exists_cons_of_ne_nil nonempty
  rw [List.cons_append] at span ⊢
  rw [scanExponentDigits, if_pos (all d List.mem_cons_self), span]

/-- Behind the mark of an exponent a sign may stand. -/
theorem scanExponent_mark (isMark : b = 'e'.toUInt8 ∨ b = 'E'.toUInt8) (input : List UInt8) :
    scanExponent atEnd (b :: input) =
      match input with
      | [] => .error ⟨atEnd, []⟩
      | s :: more =>
        if s = '+'.toUInt8 then scanExponentDigits atEnd false more
        else if s = '-'.toUInt8 then scanExponentDigits atEnd true more
        else scanExponentDigits atEnd false (s :: more) := by
  have marked : (b == 'e'.toUInt8 || b == 'E'.toUInt8) = true := by simpa using isMark
  rw [scanExponent.eq_def]
  dsimp only
  rw [if_pos marked]
  cases input with
  | nil => rfl
  | cons s more =>
      by_cases plus : s = '+'.toUInt8
      · simp only [plus, beq_self_eq_true, if_true]
        cases more <;> rfl
      · by_cases minus : s = '-'.toUInt8
        · simp only [minus, beq_self_eq_true, if_true]
          cases more <;> rfl
        · simp only [plus, minus, beq_iff_eq, if_false]
          rfl

theorem isExponent_of_scanExponent {exponent : Option (Bool × List UInt8)}
    (h : scanExponent atEnd input = .ok (exponent, rest)) :
    ∃ text, input = text ++ rest ∧ IsExponent exponent text := by
  cases input with
  | nil =>
      cases h
      exact ⟨[], rfl, .none⟩
  | cons b behind =>
      by_cases isMark : b = 'e'.toUInt8 ∨ b = 'E'.toUInt8
      · rw [scanExponent_mark isMark] at h
        split at h
        · cases h
        · next s more =>
          split at h
          · next plus =>
            obtain ⟨digits, rfl, rfl, all, nonempty⟩ := scanExponentDigits_eq_ok h
            exact ⟨_, by rw [plus]; rfl, .plus isMark all nonempty⟩
          · split at h
            · next minus =>
              obtain ⟨digits, rfl, rfl, all, nonempty⟩ := scanExponentDigits_eq_ok h
              exact ⟨_, by rw [minus]; rfl, .minus isMark all nonempty⟩
            · obtain ⟨digits, rfl, spelled, all, nonempty⟩ := scanExponentDigits_eq_ok h
              exact ⟨_, by rw [spelled]; rfl, .unsigned isMark all nonempty⟩
      · rw [scanExponent.eq_def] at h
        dsimp only at h
        rw [if_neg (by simpa using isMark)] at h
        cases h
        exact ⟨[], rfl, .none⟩

theorem scanExponent_of_isExponent {exponent : Option (Bool × List UInt8)} {text : List UInt8}
    (isExponent : IsExponent exponent text) (ends : EndsNumber rest) :
    scanExponent atEnd (text ++ rest) = .ok (exponent, rest) := by
  cases isExponent with
  | none => exact scanExponent_of_endsNumber atEnd ends
  | unsigned isMark all nonempty =>
      have scanned : scanExponentDigits atEnd false (_ ++ rest) = _ :=
        scanExponentDigits_append false all nonempty ends
      obtain ⟨d, more, rfl⟩ := List.exists_cons_of_ne_nil nonempty
      have isDigit := all d List.mem_cons_self
      have notPlus : d ≠ '+'.toUInt8 := by
        rintro rfl
        exact absurd isDigit (by decide)
      rw [List.cons_append, scanExponent_mark isMark, List.cons_append]
      simp only [notPlus, ne_minus_of_isDigitByte isDigit, if_false]
      exact scanned
  | plus isMark all nonempty =>
      rw [List.cons_append, scanExponent_mark isMark, List.cons_append]
      exact scanExponentDigits_append false all nonempty ends
  | minus isMark all nonempty =>
      rw [List.cons_append, scanExponent_mark isMark, List.cons_append]
      exact scanExponentDigits_append true all nonempty ends

/-! ## Numerals -/

theorem head_exponent {exponent : Option (Bool × List UInt8)} {text : List UInt8}
    (isExponent : IsExponent exponent text) (ends : EndsNumber rest) :
    ∀ b ∈ (text ++ rest).head?, isDigitByte b = false ∧ b ≠ '.'.toUInt8 := by
  have mark {mark : UInt8} (isMark : mark = 'e'.toUInt8 ∨ mark = 'E'.toUInt8) :
      isDigitByte mark = false ∧ mark ≠ '.'.toUInt8 := by
    rcases isMark with rfl | rfl <;> decide
  cases isExponent with
  | none =>
      intro b isHead
      have stops := ends b isHead
      simp only [continuesNumber, Bool.or_eq_false_iff] at stops
      exact ⟨stops.1.1.1, by simpa using stops.1.1.2⟩
  | unsigned isMark _ _ | plus isMark _ _ | minus isMark _ _ =>
      intro b isHead
      cases isHead
      exact mark isMark

theorem head_fraction (stops : ∀ b ∈ rest.head?, isDigitByte b = false ∧ b ≠ '.'.toUInt8) :
    ∀ b ∈ (fractionBytes digits ++ rest).head?, isDigitByte b = false := by
  rw [fractionBytes]
  split
  · exact fun b isHead => (stops b isHead).1
  · intro b isHead
    cases isHead
    decide

/-- The numeral behind its sign. -/
theorem scanNumeral_sign (negative : Bool)
    (unsigned : negative = false → ∀ b ∈ input.head?, b ≠ '-'.toUInt8) :
    scanNumeral atEnd (signBytes negative ++ input) = (do
      let (whole, rest) ← scanWhole atEnd input
      let (fraction, rest) ← scanFraction atEnd rest
      let (exponent, rest) ← scanExponent atEnd rest
      return (⟨negative, whole, fraction, exponent⟩, rest)) := by
  cases negative with
  | true => rfl
  | false =>
      cases input with
      | nil => rfl
      | cons b behind =>
          have notMinus := unsigned rfl b rfl
          simp [scanNumeral, signBytes, notMinus]

theorem isNumeral_of_scanNumeral {numeral : Numeral}
    (h : scanNumeral atEnd input = .ok (numeral, rest)) :
    ∃ token, input = token ++ rest ∧ IsNumeral numeral token := by
  obtain ⟨negative, behind, rfl, unsigned⟩ : ∃ negative behind,
      input = signBytes negative ++ behind ∧
        (negative = false → ∀ b ∈ behind.head?, b ≠ '-'.toUInt8) := by
    by_cases minus : ∃ more, input = '-'.toUInt8 :: more
    · obtain ⟨more, rfl⟩ := minus
      exact ⟨true, more, rfl, nofun⟩
    · refine ⟨false, input, rfl, fun _ b isHead isMinus => minus ?_⟩
      obtain ⟨more, rfl⟩ := List.head?_eq_some_iff.mp isHead
      exact ⟨more, by rw [isMinus]⟩
  rw [scanNumeral_sign negative unsigned] at h
  obtain ⟨⟨whole, afterWhole⟩, scanned, h⟩ := Except.bind_eq_ok_iff.mp h
  obtain ⟨⟨fraction, afterFraction⟩, scanned', h⟩ := Except.bind_eq_ok_iff.mp h
  obtain ⟨⟨exponent, afterExponent⟩, scanned'', h⟩ := Except.bind_eq_ok_iff.mp h
  cases h
  obtain ⟨rfl, isWhole⟩ := isWhole_of_scanWhole scanned
  obtain ⟨rfl, allDigits⟩ := allDigits_of_scanFraction scanned'
  obtain ⟨text, rfl, isExponent⟩ := isExponent_of_scanExponent scanned''
  exact ⟨_, by simp only [List.append_assoc], .parts isWhole allDigits isExponent⟩

theorem scanNumeral_of_isNumeral {numeral : Numeral} {token : List UInt8}
    (isNumeral : IsNumeral numeral token) (ends : EndsNumber rest) :
    scanNumeral atEnd (token ++ rest) = .ok (numeral, rest) := by
  obtain ⟨negative, whole, fraction, exponent⟩ := numeral
  cases isNumeral with
  | @parts text isWhole allDigits isExponent =>
      have stops := head_exponent isExponent ends
      have scanned : scanWhole atEnd (whole ++ (fractionBytes fraction ++ (text ++ rest))) = _ :=
        scanWhole_of_isWhole isWhole (head_fraction stops)
      have scanned' : scanFraction atEnd (fractionBytes fraction ++ (text ++ rest)) = _ :=
        scanFraction_of_allDigits allDigits stops
      have scanned'' : scanExponent atEnd (text ++ rest) = _ :=
        scanExponent_of_isExponent isExponent ends
      have unsigned : ∀ b ∈ (whole ++ (fractionBytes fraction ++ (text ++ rest))).head?,
          b ≠ '-'.toUInt8 := by
        obtain ⟨d, more, rfl⟩ := List.exists_cons_of_ne_nil isWhole.nonempty
        intro b isHead
        cases isHead
        exact ne_minus_of_isDigitByte (isWhole.all d List.mem_cons_self)
      simp only [List.append_assoc]
      rw [scanNumeral_sign negative fun _ => unsigned, scanned]
      simp only [bind, Except.bind, scanned', scanned'']
      rfl

/-! ## Numbers -/

/-- Digits can be counted if their value can. -/
theorem exceedsAfter_eq_none_iff (start : Nat) (small : start ≤ greatestCounted) :
    exceedsAfter start digits = none ↔
      digits.foldl (fun n b => n * 10 + (b.toNat - '0'.toNat)) start ≤ greatestCounted := by
  induction digits generalizing start with
  | nil => simpa [exceedsAfter] using small
  | cons b digits ih =>
      rw [exceedsAfter, List.foldl_cons]
      split
      · next exceeds =>
        have grows := le_foldl_digits digits (start * 10 + (b.toNat - '0'.toNat))
        simp only [reduceCtorEq, false_iff]
        omega
      · next counts =>
        rw [Option.map_eq_none_iff]
        exact ih _ (Nat.not_lt.mp counts)

/-- What a reader makes of a numeral that it has scanned. -/
def numberOf (numeral : Numeral) (rest : List UInt8) : Reading Number :=
  let excess :=
    match numeral.exponent with
    | some (minus, digits) => (exceedsAfter 0 digits).map fun count => (minus, digits.drop count)
    | none => none
  match excess with
  | some (minus, unread) =>
    if !minus && digitsValue (numeral.whole ++ numeral.fraction) != 0 then
      .error ⟨.numberOutOfRange, unread ++ rest⟩
    else .ok (.double (.zero numeral.negative), rest)
  | none =>
    match numeral.value with
    | some value => .ok (value, rest)
    | none => .error ⟨.numberOutOfRange, rest⟩

theorem readNumber_eq (input : List UInt8) :
    readNumber input = (do
      let (numeral, rest) ← scanNumeral .endInValue input
      numberOf numeral rest) := rfl

theorem numberOf_of_counted {numeral : Numeral} {n : Number} {unread : List UInt8}
    (counted : ∀ minus digits, numeral.exponent = some (minus, digits) →
      exceedsAfter 0 digits = none) :
    numberOf numeral unread = .ok (n, rest) ↔ unread = rest ∧ numeral.value = some n := by
  have none : (match numeral.exponent with
      | some (minus, digits) => (exceedsAfter 0 digits).map fun count => (minus, digits.drop count)
      | none => none) = none := by
    split
    · next minus digits given => rw [counted minus digits given, Option.map_none]
    · rfl
  rw [numberOf]
  simp only [none]
  cases numeral.value with
  | none => simp
  | some value => simp [and_comm]

theorem numberOf_eq_ok_iff {numeral : Numeral} {n : Number} {unread : List UInt8} :
    numberOf numeral unread = .ok (n, rest) ↔ unread = rest ∧ numeral.number? = some n := by
  rw [Numeral.number?]
  split
  · next absent => exact numberOf_of_counted fun _ _ given => nomatch absent.symm.trans given
  · next minus digits given =>
    have counts : exceedsAfter 0 digits = none ↔ _ := exceedsAfter_eq_none_iff 0 (Nat.zero_le _)
    split
    · next counted =>
      refine numberOf_of_counted fun minus' digits' given' => ?_
      obtain ⟨rfl, rfl⟩ := Prod.mk.inj (Option.some.inj (given.symm.trans given'))
      exact counts.mpr counted
    · next tooLarge =>
      obtain ⟨count, exceeds⟩ := Option.ne_none_iff_exists'.mp (tooLarge ∘ counts.mp)
      rw [numberOf]
      simp only [given, exceeds, Option.map_some]
      cases minus with
      | true => simp [and_comm]
      | false =>
          by_cases zero : digitsValue (numeral.whole ++ numeral.fraction) = 0
          · simp [zero, and_comm]
          · simp [zero]

/-- A number is read from a numeral that stands for it. -/
theorem readNumber_eq_ok_iff_scan {n : Number} :
    readNumber input = .ok (n, rest) ↔
      ∃ numeral, scanNumeral .endInValue input = .ok (numeral, rest) ∧
        numeral.number? = some n := by
  rw [readNumber_eq, Except.bind_eq_ok_iff, Prod.exists]
  refine exists_congr fun numeral => ?_
  constructor
  · rintro ⟨unread, scanned, made⟩
    obtain ⟨rfl, isNumber⟩ := numberOf_eq_ok_iff.mp made
    exact ⟨scanned, isNumber⟩
  · rintro ⟨scanned, isNumber⟩
    exact ⟨rest, scanned, numberOf_eq_ok_iff.mpr ⟨rfl, isNumber⟩⟩

theorem isNumber_of_readNumber {n : Number} (h : readNumber input = .ok (n, rest)) :
    ∃ token, input = token ++ rest ∧ IsNumber n token := by
  obtain ⟨numeral, scanned, isNumber⟩ := readNumber_eq_ok_iff_scan.mp h
  obtain ⟨token, rfl, spelled⟩ := isNumeral_of_scanNumeral scanned
  exact ⟨token, rfl, .numeral spelled isNumber⟩

theorem readNumber_of_isNumber {n : Number} {token : List UInt8} (isNumber : IsNumber n token)
    (ends : EndsNumber rest) : readNumber (token ++ rest) = .ok (n, rest) := by
  obtain ⟨spelled, isNumber⟩ := isNumber
  exact readNumber_eq_ok_iff_scan.mpr ⟨_, scanNumeral_of_isNumeral spelled ends, isNumber⟩

end FactoryBundler.Json
