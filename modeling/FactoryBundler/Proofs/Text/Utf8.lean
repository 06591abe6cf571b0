import FactoryBundler.Text.Utf8
import Mathlib.Data.Nat.Basic
import Mathlib.Tactic.SplitIfs

/-!
# UTF-8 reads back what it writes

`step` undoes the encoding of one character, whatever bytes come after it, so reading the bytes of
a text returns the text. The four lengths of an encoding are treated by the numbers that their
bytes carry. The limits on the second byte are the only place where the exclusion of overlong
forms, surrogates and code points beyond the last one is used. The same limits make sure that
nothing but the encoding of a text can be read.
-/

namespace FactoryBundler.Text.Utf8

variable {b b₁ b₂ b₃ : UInt8} {rest : List UInt8}

theorem toNat_ofNat_of_lt {n : Nat} (h : n < 256) : (UInt8.ofNat n).toNat = n := by
  rw [UInt8.toNat_ofNat', Nat.mod_eq_of_lt h]

/-! ## One character, by the length of its encoding -/

theorem step_one (high : b.toNat < 0x80) : step b rest = .char (Char.ofNat b.toNat) 0 := by
  have ascii : b < 0x80 := by
    rw [UInt8.lt_iff_toNat_lt]
    exact high
  simp [step, ascii]

theorem step_two (low : 0xC2 ≤ b.toNat) (high : b.toNat ≤ 0xDF)
    (second : secondInRange b b₁ = true) :
    step b (b₁ :: rest) =
      .char (Char.ofNat (b.toNat % 32 * 64 + continuationBits b₁)) 1 := by
  have notAscii : ¬ b < 0x80 := by
    simp only [UInt8.lt_iff_toNat_lt, UInt8.reduceToNat]
    omega
  have leads : 0xC2 ≤ b ∧ b ≤ 0xDF := by
    simp only [UInt8.le_iff_toNat_le, UInt8.reduceToNat]
    omega
  simp [step, notAscii, leads, second]

theorem step_three (low : 0xE0 ≤ b.toNat) (high : b.toNat ≤ 0xEF)
    (second : secondInRange b b₁ = true) (third : isContinuation b₂ = true) :
    step b (b₁ :: b₂ :: rest) =
      .char (Char.ofNat
        ((b.toNat % 16 * 64 + continuationBits b₁) * 64 + continuationBits b₂)) 2 := by
  have notShorter : ¬ b < 0x80 ∧ ¬ b ≤ 0xDF := by
    simp only [UInt8.lt_iff_toNat_lt, UInt8.le_iff_toNat_le, UInt8.reduceToNat]
    omega
  have leads : 0xE0 ≤ b ∧ b ≤ 0xEF := by
    simp only [UInt8.le_iff_toNat_le, UInt8.reduceToNat]
    omega
  simp [step, notShorter, leads, second, third]

theorem step_four (low : 0xF0 ≤ b.toNat) (high : b.toNat ≤ 0xF4)
    (second : secondInRange b b₁ = true) (third : isContinuation b₂ = true)
    (fourth : isContinuation b₃ = true) :
    step b (b₁ :: b₂ :: b₃ :: rest) =
      .char (Char.ofNat (((b.toNat % 8 * 64 + continuationBits b₁) * 64
        + continuationBits b₂) * 64 + continuationBits b₃)) 3 := by
  have notShorter : ¬ b < 0x80 ∧ ¬ b ≤ 0xDF ∧ ¬ b ≤ 0xEF := by
    simp only [UInt8.lt_iff_toNat_lt, UInt8.le_iff_toNat_le, UInt8.reduceToNat]
    omega
  have leads : 0xF0 ≤ b ∧ b ≤ 0xF4 := by
    simp only [UInt8.le_iff_toNat_le, UInt8.reduceToNat]
    omega
  simp [step, notShorter, leads, second, third, fourth]

/-! ## The bytes that an encoding consists of -/

theorem isContinuation_ofNat : ∀ n < 64, isContinuation (UInt8.ofNat (n + 0x80)) = true := by
  decide

theorem continuationBits_ofNat : ∀ n < 64, continuationBits (UInt8.ofNat (n + 0x80)) = n := by
  decide

theorem secondInRange_two :
    ∀ x < 32, ∀ y < 64, secondInRange (UInt8.ofNat (x + 0xc0)) (UInt8.ofNat (y + 0x80)) = true := by
  decide +kernel

/-- Behind the first byte `0xE0` the low half is overlong, behind `0xED` the high half holds the
surrogates. -/
theorem secondInRange_three :
    ∀ x < 16, ∀ y < 64, (x = 0 → 32 ≤ y) → (x = 13 → y < 32) →
      secondInRange (UInt8.ofNat (x + 0xe0)) (UInt8.ofNat (y + 0x80)) = true := by
  decide +kernel

/-- Behind the first byte `0xF0` the lowest quarter is overlong, behind `0xF4` all but the lowest
quarter is beyond the last code point. -/
theorem secondInRange_four :
    ∀ x ≤ 4, ∀ y < 64, (x = 0 → 16 ≤ y) → (x = 4 → y < 16) →
      secondInRange (UInt8.ofNat (x + 0xf0)) (UInt8.ofNat (y + 0x80)) = true := by
  decide +kernel

/-- Reading undoes the encoding of one character: its first byte leads to the character and to
the number of bytes behind it. -/
theorem step_utf8EncodeChar (c : Char) (more : List UInt8) :
    ∃ b rest, String.utf8EncodeChar c = b :: rest ∧
      step b (rest ++ more) = .char c rest.length := by
  have valid : c.toNat < 0xD800 ∨ (0xDFFF < c.toNat ∧ c.toNat < 0x110000) := c.valid
  have same : Char.ofNat c.toNat = c := Char.ofNat_toNat c
  unfold String.utf8EncodeChar
  simp only [Char.toNat_val]
  generalize c.toNat = v at *
  split_ifs with one two three
  · refine ⟨_, _, rfl, ?_⟩
    have first := toNat_ofNat_of_lt (n := v) (by omega)
    rw [step_one (by omega), first, same, List.length_nil]
  · refine ⟨_, _, rfl, ?_⟩
    have first := toNat_ofNat_of_lt (n := v / 64 % 32 + 192) (by omega)
    have second := secondInRange_two (v / 64 % 32) (by omega) (v % 64) (by omega)
    rw [List.cons_append, step_two (by omega) (by omega) second, first,
      continuationBits_ofNat (v % 64) (by omega),
      show (v / 64 % 32 + 192) % 32 * 64 + v % 64 = v by omega, same]
    rfl
  · refine ⟨_, _, rfl, ?_⟩
    have first := toNat_ofNat_of_lt (n := v / 4096 % 16 + 224) (by omega)
    have second := secondInRange_three (v / 4096 % 16) (by omega) (v / 64 % 64) (by omega)
      (by omega) (by omega)
    have third := isContinuation_ofNat (v % 64) (by omega)
    rw [List.cons_append, List.cons_append, step_three (by omega) (by omega) second third, first,
      continuationBits_ofNat (v / 64 % 64) (by omega), continuationBits_ofNat (v % 64) (by omega),
      show ((v / 4096 % 16 + 224) % 16 * 64 + v / 64 % 64) * 64 + v % 64 = v by omega, same]
    rfl
  · refine ⟨_, _, rfl, ?_⟩
    have first := toNat_ofNat_of_lt (n := v / 262144 % 8 + 240) (by omega)
    have second := secondInRange_four (v / 262144 % 8) (by omega) (v / 4096 % 64) (by omega)
      (by omega) (by omega)
    have third := isContinuation_ofNat (v / 64 % 64) (by omega)
    have fourth := isContinuation_ofNat (v % 64) (by omega)
    rw [List.cons_append, List.cons_append, List.cons_append,
      step_four (by omega) (by omega) second third fourth, first,
      continuationBits_ofNat (v / 4096 % 64) (by omega),
      continuationBits_ofNat (v / 64 % 64) (by omega), continuationBits_ofNat (v % 64) (by omega),
      show (((v / 262144 % 8 + 240) % 8 * 64 + v / 4096 % 64) * 64 + v / 64 % 64) * 64 + v % 64
        = v by omega, same]
    rfl

/-! ## Whole texts -/

theorem decodeFrom_encode (chars : List Char) (index : Nat) :
    decodeFrom index (chars.flatMap String.utf8EncodeChar) = .ok chars := by
  induction chars generalizing index with
  | nil => rw [List.flatMap_nil, decodeFrom]
  | cons c chars ih =>
      obtain ⟨b, rest, encoded, read⟩ :=
        step_utf8EncodeChar c (chars.flatMap String.utf8EncodeChar)
      rw [List.flatMap_cons, encoded, List.cons_append, decodeFrom, read]
      simp only [List.drop_left, ih]

/-- Reading the bytes of a text returns the text. -/
theorem decode_encode (text : String) : decode (encode text) = .ok text := by
  rw [decode, encode, decodeFrom_encode]
  exact congrArg Except.ok String.ofList_toList

theorem encode_injective : Function.Injective encode := by
  intro first second equal
  have read := decode_encode first
  rw [equal, decode_encode second] at read
  exact (Except.ok.inj read).symm

/-! ## Characters as bytes -/

/-- The bytes of characters. -/
def bytesOf (chars : List Char) : List UInt8 :=
  chars.flatMap String.utf8EncodeChar

theorem encode_ofList (chars : List Char) : encode (String.ofList chars) = bytesOf chars := by
  rw [encode, String.toList_ofList, bytesOf]

@[simp]
theorem bytesOf_nil : bytesOf [] = [] := rfl

@[simp]
theorem bytesOf_append (first second : List Char) :
    bytesOf (first ++ second) = bytesOf first ++ bytesOf second :=
  List.flatMap_append

theorem bytesOf_cons (c : Char) (chars : List Char) :
    bytesOf (c :: chars) = String.utf8EncodeChar c ++ bytesOf chars :=
  List.flatMap_cons

theorem bytesOf_injective {first second : List Char} (h : bytesOf first = bytesOf second) :
    first = second := by
  have read := decodeFrom_encode first 0
  rw [← bytesOf, h, bytesOf, decodeFrom_encode second 0] at read
  exact (Except.ok.inj read).symm

/-! ## ASCII characters -/

theorem utf8EncodeChar_of_lt {c : Char} (h : c.toNat < 0x80) :
    String.utf8EncodeChar c = [c.toUInt8] := by
  have one : c.val.toNat ≤ 0x7f := Nat.le_of_lt_succ h
  rw [String.utf8EncodeChar, if_pos one]
  rfl

theorem bytesOf_cons_of_lt {c : Char} (h : c.toNat < 0x80) (chars : List Char) :
    bytesOf (c :: chars) = c.toUInt8 :: bytesOf chars := by
  rw [bytesOf_cons, utf8EncodeChar_of_lt h, List.singleton_append]

/-- Characters of ASCII are one byte each. -/
theorem bytesOf_of_lt {chars : List Char} (h : ∀ c ∈ chars, c.toNat < 0x80) :
    bytesOf chars = chars.map Char.toUInt8 := by
  induction chars with
  | nil => rfl
  | cons c chars ih =>
      rw [List.forall_mem_cons] at h
      rw [bytesOf_cons_of_lt h.1, ih h.2, List.map_cons]

/-- The bytes of a character outside ASCII are all outside ASCII. -/
theorem le_of_mem_utf8EncodeChar {c : Char} (h : 0x80 ≤ c.toNat) :
    ∀ b ∈ String.utf8EncodeChar c, 0x80 ≤ b.toNat := by
  have notOne : ¬ c.val.toNat ≤ 0x7f := Nat.not_le.mpr h
  intro b inBytes
  unfold String.utf8EncodeChar at inBytes
  simp only [if_neg notOne] at inBytes
  split_ifs at inBytes <;> simp only [List.mem_cons, List.not_mem_nil, or_false] at inBytes
  · rcases inBytes with rfl | rfl <;> rw [toNat_ofNat_of_lt (by omega)] <;> omega
  · rcases inBytes with rfl | rfl | rfl <;> rw [toNat_ofNat_of_lt (by omega)] <;> omega
  · rcases inBytes with rfl | rfl | rfl | rfl <;> rw [toNat_ofNat_of_lt (by omega)] <;> omega

/-- A character that is written for a byte below `0x80` is written back as that byte. -/
theorem utf8EncodeChar_ofNat_toNat (h : b.toNat < 0x80) :
    String.utf8EncodeChar (Char.ofNat b.toNat) = [b] := by
  have value : ∀ n < 0x80, (Char.ofNat n).toNat = n ∧ (Char.ofNat n).toUInt8 = UInt8.ofNat n := by
    decide
  obtain ⟨number, byte⟩ := value b.toNat h
  rw [utf8EncodeChar_of_lt (number.symm ▸ h), byte, UInt8.ofNat_toNat]

/-! ## Bytes that can be read -/

theorem isContinuation_iff : isContinuation b = true ↔ 0x80 ≤ b.toNat ∧ b.toNat ≤ 0xBF := by
  simp [isContinuation, UInt8.le_iff_toNat_le]

theorem secondInRange_iff :
    secondInRange b b₁ = true ↔ 0x80 ≤ b₁.toNat ∧ b₁.toNat ≤ 0xBF ∧
      (b.toNat = 0xE0 → 0xA0 ≤ b₁.toNat) ∧ (b.toNat = 0xED → b₁.toNat ≤ 0x9F) ∧
      (b.toNat = 0xF0 → 0x90 ≤ b₁.toNat) ∧ (b.toNat = 0xF4 → b₁.toNat ≤ 0x8F) := by
  have same (n : UInt8) : (b == n) = true ↔ b.toNat = n.toNat := by
    rw [beq_iff_eq, UInt8.toNat_inj]
  unfold secondInRange
  simp only [same]
  simp only [UInt8.reduceToNat]
  split_ifs <;> simp only [isContinuation_iff, Bool.and_eq_true, decide_eq_true_eq,
    UInt8.le_iff_toNat_le, UInt8.reduceToNat] <;> omega

/-- The encoding of the character with a number, by the length of the encoding. -/
theorem utf8EncodeChar_ofNat {n : Nat} (valid : n.isValidChar) :
    String.utf8EncodeChar (Char.ofNat n) =
      if n ≤ 0x7F then [UInt8.ofNat n]
      else if n ≤ 0x7FF then [UInt8.ofNat (n / 64 % 32 + 0xC0), UInt8.ofNat (n % 64 + 0x80)]
      else if n ≤ 0xFFFF then
        [UInt8.ofNat (n / 4096 % 16 + 0xE0), UInt8.ofNat (n / 64 % 64 + 0x80),
          UInt8.ofNat (n % 64 + 0x80)]
      else
        [UInt8.ofNat (n / 262144 % 8 + 0xF0), UInt8.ofNat (n / 4096 % 64 + 0x80),
          UInt8.ofNat (n / 64 % 64 + 0x80), UInt8.ofNat (n % 64 + 0x80)] := by
  have number : (Char.ofNat n).toNat = n := by
    rw [Char.ofNat, dif_pos valid]
    rfl
  unfold String.utf8EncodeChar
  simp only [Char.toNat_val, number]

theorem ofNat_of_eq_toNat {n : Nat} (same : n = b.toNat) : UInt8.ofNat n = b := by
  rw [same, UInt8.ofNat_toNat]

theorem utf8EncodeChar_two (low : 0xC2 ≤ b.toNat) (high : b.toNat ≤ 0xDF)
    (second : secondInRange b b₁ = true) :
    String.utf8EncodeChar (Char.ofNat (b.toNat % 32 * 64 + continuationBits b₁)) = [b, b₁] := by
  have second := secondInRange_iff.mp second
  unfold continuationBits
  rw [utf8EncodeChar_ofNat (Or.inl (by omega)), if_neg (by omega), if_pos (by omega),
    ofNat_of_eq_toNat (b := b) (by omega), ofNat_of_eq_toNat (b := b₁) (by omega)]

theorem utf8EncodeChar_three (low : 0xE0 ≤ b.toNat) (high : b.toNat ≤ 0xEF)
    (second : secondInRange b b₁ = true) (third : isContinuation b₂ = true) :
    String.utf8EncodeChar (Char.ofNat
      ((b.toNat % 16 * 64 + continuationBits b₁) * 64 + continuationBits b₂)) = [b, b₁, b₂] := by
  have second := secondInRange_iff.mp second
  have third := isContinuation_iff.mp third
  unfold continuationBits
  rw [utf8EncodeChar_ofNat (by unfold Nat.isValidChar; omega), if_neg (by omega),
    if_neg (by omega), if_pos (by omega), ofNat_of_eq_toNat (b := b) (by omega),
    ofNat_of_eq_toNat (b := b₁) (by omega), ofNat_of_eq_toNat (b := b₂) (by omega)]

theorem utf8EncodeChar_four (low : 0xF0 ≤ b.toNat) (high : b.toNat ≤ 0xF4)
    (second : secondInRange b b₁ = true) (third : isContinuation b₂ = true)
    (fourth : isContinuation b₃ = true) :
    String.utf8EncodeChar (Char.ofNat (((b.toNat % 8 * 64 + continuationBits b₁) * 64
      + continuationBits b₂) * 64 + continuationBits b₃)) = [b, b₁, b₂, b₃] := by
  have second := secondInRange_iff.mp second
  have third := isContinuation_iff.mp third
  have fourth := isContinuation_iff.mp fourth
  unfold continuationBits
  rw [utf8EncodeChar_ofNat (by unfold Nat.isValidChar; omega), if_neg (by omega),
    if_neg (by omega), if_neg (by omega), ofNat_of_eq_toNat (b := b) (by omega),
    ofNat_of_eq_toNat (b := b₁) (by omega), ofNat_of_eq_toNat (b := b₂) (by omega),
    ofNat_of_eq_toNat (b := b₃) (by omega)]

/-- What is read as a character is its encoding. -/
theorem utf8EncodeChar_of_step {c : Char} {continuations : Nat}
    (read : step b rest = .char c continuations) :
    String.utf8EncodeChar c ++ rest.drop continuations = b :: rest := by
  simp only [step, UInt8.lt_iff_toNat_lt, UInt8.le_iff_toNat_le, Bool.and_eq_true,
    decide_eq_true_eq, UInt8.reduceToNat] at read
  split_ifs at read with one two three four
  · cases read
    rw [utf8EncodeChar_ofNat_toNat one, List.drop_zero, List.singleton_append]
  · rcases rest with _ | ⟨b₁, rest⟩
    · cases read
    dsimp only at read
    split_ifs at read with second
    cases read
    rw [utf8EncodeChar_two two.1 two.2 second]
    rfl
  · rcases rest with _ | ⟨b₁, _ | ⟨b₂, rest⟩⟩
    · cases read
    · dsimp only at read
      split_ifs at read
    dsimp only at read
    split_ifs at read with second third
    cases read
    rw [utf8EncodeChar_three three.1 three.2 second third]
    rfl
  · rcases rest with _ | ⟨b₁, _ | ⟨b₂, _ | ⟨b₃, rest⟩⟩⟩
    · cases read
    · dsimp only at read
      split_ifs at read
    · dsimp only at read
      split_ifs at read
    dsimp only at read
    split_ifs at read with second third fourth
    cases read
    rw [utf8EncodeChar_four four.1 four.2 second third fourth]
    rfl

theorem encode_of_decodeFrom {index : Nat} {bytes : List UInt8} {chars : List Char}
    (read : decodeFrom index bytes = .ok chars) : bytesOf chars = bytes := by
  fun_induction decodeFrom index bytes generalizing chars with
  | case1 =>
      cases read
      rfl
  | case2 index b rest c continuations isChar cs rec ih =>
      cases read
      rw [bytesOf_cons, ih rec, utf8EncodeChar_of_step isChar]
  | _ => cases read

/-- The bytes that can be read are the encodings of texts. -/
theorem decode_eq_ok_iff {bytes : List UInt8} {text : String} :
    decode bytes = .ok text ↔ bytes = encode text := by
  constructor
  · intro read
    rw [decode] at read
    cases chars : decodeFrom 0 bytes with
    | error fault =>
        rw [chars] at read
        cases read
    | ok cs =>
        rw [chars] at read
        cases read
        rw [encode_ofList, encode_of_decodeFrom chars]
  · rintro rfl
    exact decode_encode text

/-! ## Bytes that are shown -/

theorem lossyChars_bytesOf (chars : List Char) : lossyChars (bytesOf chars) = chars := by
  induction chars with
  | nil => rw [bytesOf_nil, lossyChars]
  | cons c chars ih =>
      obtain ⟨b, rest, encoded, read⟩ := step_utf8EncodeChar c (bytesOf chars)
      rw [bytesOf_cons, encoded, List.cons_append, lossyChars, read]
      simp only [List.drop_left, ih]

/-- A text is shown as itself. -/
theorem lossy_encode (text : String) : lossy (encode text) = text := by
  have shown : lossyChars (encode text) = text.toList := lossyChars_bytesOf text.toList
  rw [lossy, shown, String.ofList_toList]

/-- A character of ASCII is shown only where it is among the bytes. -/
theorem toUInt8_mem_of_mem_lossyChars {c : Char} {bytes : List UInt8} (ascii : c.toNat < 0x80)
    (shown : c ∈ lossyChars bytes) : c.toUInt8 ∈ bytes := by
  have notReplacement : c ≠ replacement := by
    rintro rfl
    exact absurd ascii (by decide)
  fun_induction lossyChars bytes with
  | case1 => cases shown
  | case2 b rest d continuations isChar ih =>
      rcases List.mem_cons.mp shown with rfl | later
      · have encoded := utf8EncodeChar_of_step isChar
        rw [utf8EncodeChar_of_lt ascii, List.singleton_append, List.cons.injEq] at encoded
        rw [encoded.1]
        exact List.mem_cons_self
      · exact List.mem_cons_of_mem _ (List.mem_of_mem_drop (ih later))
  | case3 b rest length isInvalid ih =>
      have later := (List.mem_cons.mp shown).resolve_left notReplacement
      exact List.mem_cons_of_mem _ (List.mem_of_mem_drop (ih later))
  | case4 b rest isTruncated => exact absurd (List.mem_singleton.mp shown) notReplacement

end FactoryBundler.Text.Utf8
