import FactoryBundler.Encoding.Base64
import FactoryBundler.Proofs.Except
import FactoryBundler.Proofs.Text.Utf8
import FactoryBundler.Text.Blank
import Mathlib.Data.List.Basic

/-!
# Base64 reads back what it writes

What is written for a byte sequence is a row of six-bit groups as symbols and then the padding.
Seen in this way the chunks of eight symbols in which a text is read are harmless: the last chunk
begins at a multiple of four symbols and before the padding, so cutting there cuts the row of
groups only. Nothing else is read: padding may only fill up the last four symbols, and what is left
over of the bits in front of it has to be zero, so the groups are those of the bytes they spell.
-/

namespace FactoryBundler.Encoding.Base64

/-- The six-bit groups of a byte sequence, the last one filled up with zero bits. -/
def groupsOf : List UInt8 → List Nat
  | [] => []
  | [a] => [a.toNat / 4, a.toNat % 4 * 16]
  | [a, b] => [a.toNat / 4, a.toNat % 4 * 16 + b.toNat / 16, b.toNat % 16 * 4]
  | a :: b :: c :: rest =>
    a.toNat / 4 :: (a.toNat % 4 * 16 + b.toNat / 16) :: (b.toNat % 16 * 4 + c.toNat / 64) ::
      c.toNat % 64 :: groupsOf rest

/-- The number of padding symbols behind the groups of a byte sequence. -/
def paddingsOf : List UInt8 → Nat
  | [] => 0
  | [_] => 2
  | [_, _] => 1
  | _ :: _ :: _ :: rest => paddingsOf rest

theorem encodeBytes_eq_symbols (bytes : List UInt8) :
    encodeBytes bytes =
      (groupsOf bytes).map symbol ++ List.replicate (paddingsOf bytes) padding := by
  fun_induction encodeBytes bytes with
  | case1 => rfl
  | case2 a => rfl
  | case3 a b => rfl
  | case4 a b c rest ih => simp only [groupsOf, paddingsOf, List.map_cons, List.cons_append, ih]

theorem groupsOf_lt (bytes : List UInt8) : ∀ group ∈ groupsOf bytes, group < 64 := by
  fun_induction groupsOf bytes with
  | case1 => simp
  | case2 a =>
      have := a.toNat_lt
      simp only [List.mem_cons, List.not_mem_nil, or_false, forall_eq_or_imp, forall_eq]
      omega
  | case3 a b =>
      have := a.toNat_lt
      have := b.toNat_lt
      simp only [List.mem_cons, List.not_mem_nil, or_false, forall_eq_or_imp, forall_eq]
      omega
  | case4 a b c rest ih =>
      have := a.toNat_lt
      have := b.toNat_lt
      have := c.toNat_lt
      simp only [List.mem_cons, forall_eq_or_imp]
      exact ⟨by omega, by omega, by omega, by omega, ih⟩

theorem paddingsOf_le (bytes : List UInt8) : paddingsOf bytes ≤ 2 := by
  fun_induction paddingsOf bytes <;> omega

/-- Groups and padding fill up whole fours. -/
theorem length_groupsOf (bytes : List UInt8) :
    ((groupsOf bytes).length + paddingsOf bytes) % 4 = 0 := by
  fun_induction groupsOf bytes with
  | case1 => rfl
  | case2 a => simp [paddingsOf]
  | case3 a b => simp [paddingsOf]
  | case4 a b c rest ih =>
      simp only [List.length_cons, paddingsOf]
      omega

theorem leftOverIsZero_groupsOf (bytes : List UInt8) :
    leftOverIsZero (groupsOf bytes) = true := by
  fun_induction groupsOf bytes with
  | case1 => rfl
  | case2 a => simp [leftOverIsZero]
  | case3 a b => simp [leftOverIsZero]
  | case4 a b c rest ih => exact ih

/-- The groups spell the bytes that they were made from. -/
theorem groupBytes_groupsOf (bytes : List UInt8) : groupBytes (groupsOf bytes) = bytes := by
  have byte (b : UInt8) (n : Nat) (h : n = b.toNat) : n.toUInt8 = b := by
    rw [h]
    exact UInt8.ofNat_toNat
  fun_induction groupsOf bytes with
  | case1 => rfl
  | case2 a =>
      rw [groupBytes, byte a _ (by omega)]
  | case3 a b =>
      have := b.toNat_lt
      rw [groupBytes, byte a _ (by omega), byte b _ (by omega)]
  | case4 a b c rest ih =>
      have := b.toNat_lt
      have := c.toNat_lt
      rw [groupBytes, byte a _ (by omega), byte b _ (by omega), byte c _ (by omega), ih]

/-! ## Symbols -/

theorem bits?_symbol : ∀ n < 64, bits? (symbol n) = some n := by decide

theorem symbol_ne_padding : ∀ n < 64, symbol n ≠ padding := by decide

/-- Every byte of a base64 text is an ASCII character other than a blank. -/
theorem symbol_toNat : ∀ n < 64, 0x20 < (symbol n).toNat ∧ (symbol n).toNat < 0x80 := by decide

variable {groups : List Nat}

theorem symbolBits_map_symbol (small : ∀ group ∈ groups, group < 64) (offset : Nat) :
    symbolBits offset (groups.map symbol) = .ok groups := by
  induction groups generalizing offset with
  | nil => rfl
  | cons group groups ih =>
      rw [List.forall_mem_cons] at small
      rw [List.map_cons, symbolBits, bits?_symbol group small.1]
      simp only [ih small.2]

/-! ## The last chunk -/

theorem lastChunk_replicate_padding (start index count : Nat) (first : Option Nat)
    (few : count ≤ 2) (full : (index + count) % 4 = 0) :
    lastChunk start index first (List.replicate count padding) = .ok ([], count) := by
  induction count generalizing index first with
  | zero => rfl
  | succ count ih =>
      have late : ¬ index % 4 < 2 := by omega
      simp only [List.replicate_succ, lastChunk, beq_self_eq_true, if_true, if_neg late,
        ih (index + 1) _ (by omega) (by omega)]

theorem lastChunk_symbols (small : ∀ group ∈ groups, group < 64) (start index count : Nat)
    (few : count ≤ 2) (full : (index + groups.length + count) % 4 = 0) :
    lastChunk start index none (groups.map symbol ++ List.replicate count padding) =
      .ok (groups, count) := by
  induction groups generalizing index with
  | nil =>
      rw [List.map_nil, List.nil_append]
      exact lastChunk_replicate_padding start index count none few (by simpa using full)
  | cons group groups ih =>
      rw [List.forall_mem_cons] at small
      have notPadding : ¬ (symbol group == padding) = true := by
        rw [beq_iff_eq]
        exact symbol_ne_padding group small.1
      rw [List.length_cons] at full
      rw [List.map_cons, List.cons_append, lastChunk, if_neg notPadding,
        bits?_symbol group small.1]
      simp only [ih small.2 (index + 1) (by omega)]

/-! ## Cutting off the last chunk -/

/-- Cutting off whole fours leaves the bits that are left over as they are. -/
theorem leftOverIsZero_drop (count : Nat) (h : leftOverIsZero groups = true) :
    leftOverIsZero (groups.drop (4 * count)) = true := by
  induction count generalizing groups with
  | zero => exact h
  | succ count ih =>
      match groups with
      | [] => rfl
      | [_] => rfl
      | [_, _] => rfl
      | [_, _, _] => rfl
      | _ :: _ :: _ :: _ :: rest =>
        have restIsZero : leftOverIsZero rest = true := h
        exact ih restIsZero

/-- The last chunk begins before the padding, at a multiple of eight. -/
theorem lastChunkStart_le (bytes : List UInt8) :
    lastChunkStart ((groupsOf bytes).length + paddingsOf bytes) ≤ (groupsOf bytes).length := by
  have full := length_groupsOf bytes
  have few := paddingsOf_le bytes
  unfold lastChunkStart
  omega

/-- Reading the symbols of a byte sequence returns the byte sequence. -/
theorem decodeBytes_encodeBytes (bytes : List UInt8) :
    decodeBytes (encodeBytes bytes) = .ok bytes := by
  have small := groupsOf_lt bytes
  have full := length_groupsOf bytes
  have before := lastChunkStart_le bytes
  have length : (encodeBytes bytes).length = (groupsOf bytes).length + paddingsOf bytes := by
    rw [encodeBytes_eq_symbols, List.length_append, List.length_map, List.length_replicate]
  have lengthChecked : checkLength (encodeBytes bytes) = .ok () := by
    rw [checkLength, if_neg]
    rw [length, full]
    decide
  have eights : lastChunkStart ((groupsOf bytes).length + paddingsOf bytes) % 8 = 0 :=
    Nat.mul_mod_left _ 8
  rw [decodeBytes, lengthChecked, length]
  generalize lastChunkStart ((groupsOf bytes).length + paddingsOf bytes) = start at *
  -- The cut falls into the row of groups, so both parts are rows of symbols.
  have front : (encodeBytes bytes).take start = ((groupsOf bytes).take start).map symbol := by
    rw [encodeBytes_eq_symbols, List.take_append_of_le_length (by simpa using before),
      List.map_take]
  have back : (encodeBytes bytes).drop start =
      ((groupsOf bytes).drop start).map symbol ++ List.replicate (paddingsOf bytes) padding := by
    rw [encodeBytes_eq_symbols, List.drop_append_of_le_length (by simpa using before),
      List.map_drop]
  have frontSmall : ∀ group ∈ (groupsOf bytes).take start, group < 64 := by
    intro group h
    exact small group (List.mem_of_mem_take h)
  have backSmall : ∀ group ∈ (groupsOf bytes).drop start, group < 64 := by
    intro group h
    exact small group (List.mem_of_mem_drop h)
  have frontRead := symbolBits_map_symbol frontSmall 0
  have backRead := lastChunk_symbols backSmall start 0 (paddingsOf bytes)
    (paddingsOf_le bytes) (by rw [List.length_drop]; omega)
  have noRest : ¬ ((((groupsOf bytes).drop start).length + paddingsOf bytes) % 4 != 0) = true := by
    rw [List.length_drop, bne_iff_ne, not_not]
    omega
  have noBits : leftOverIsZero ((groupsOf bytes).drop start) = true := by
    have fours : start = 4 * (start / 4) := by omega
    rw [fours]
    exact leftOverIsZero_drop _ (leftOverIsZero_groupsOf bytes)
  simp only [front, back, frontRead, backRead, bind, Except.bind, if_neg noRest, noBits,
    Bool.not_true, Bool.false_eq_true, if_false, List.take_append_drop, groupBytes_groupsOf]
  rfl

theorem encodeBytes_injective : Function.Injective encodeBytes := by
  intro first second equal
  have read := decodeBytes_encodeBytes first
  rw [equal, decodeBytes_encodeBytes second] at read
  exact (Except.ok.inj read).symm

/-! ## Nothing else is read -/

variable {text bytes : List UInt8}

theorem symbol_of_bits? {b : UInt8} {bits : Nat} (h : bits? b = some bits) :
    bits < 64 ∧ symbol bits = b := by
  have all : ∀ n < 256, ∀ bits ∈ bits? (UInt8.ofNat n),
      bits < 64 ∧ symbol bits = UInt8.ofNat n := by decide +kernel
  rw [← UInt8.ofNat_toNat (x := b)] at h ⊢
  exact all b.toNat b.toNat_lt bits h

theorem map_symbol_of_symbolBits {offset : Nat} (h : symbolBits offset text = .ok groups) :
    text = groups.map symbol ∧ ∀ group ∈ groups, group < 64 := by
  induction text generalizing offset groups with
  | nil =>
      cases h
      exact ⟨rfl, nofun⟩
  | cons b text ih =>
      rw [symbolBits] at h
      split at h
      · cases h
      · next bits isSymbol =>
        split at h
        · cases h
        · next more read =>
          cases h
          obtain ⟨small, rfl⟩ := symbol_of_bits? isSymbol
          obtain ⟨rfl, smaller⟩ := ih read
          exact ⟨rfl, List.forall_mem_cons.mpr ⟨small, smaller⟩⟩

/-- A last chunk is symbols and then padding, which stays within the second half of one group of
four. -/
theorem symbols_of_lastChunk {start index count : Nat} {first : Option Nat}
    (h : lastChunk start index first text = .ok (groups, count)) :
    text = groups.map symbol ++ List.replicate count padding ∧ (∀ group ∈ groups, group < 64) ∧
      (first.isSome = true → groups = []) ∧
      (count = 0 ∨ 2 ≤ (index + groups.length) % 4 ∧ (index + groups.length) % 4 + count ≤ 4) := by
  induction text generalizing index first groups count with
  | nil =>
      cases h
      exact ⟨rfl, nofun, fun _ => rfl, Or.inl rfl⟩
  | cons b text ih =>
      unfold lastChunk at h
      split at h
      · next isPadding =>
        split at h
        · cases h
        · next late =>
          simp only at h
          split at h
          · cases h
          · next more paddings read =>
            cases h
            obtain ⟨rfl, -, none, few⟩ := ih read
            cases none rfl
            rw [beq_iff_eq.mp isPadding]
            refine ⟨rfl, nofun, fun _ => rfl, Or.inr ?_⟩
            simp only [List.length_nil, Nat.add_zero] at few ⊢
            omega
      · split at h
        · cases h
        · split at h
          · cases h
          · next bits isSymbol =>
            split at h
            · cases h
            · next more paddings read =>
              cases h
              obtain ⟨small, rfl⟩ := symbol_of_bits? isSymbol
              obtain ⟨rfl, smaller, -, few⟩ := ih read
              refine ⟨rfl, List.forall_mem_cons.mpr ⟨small, smaller⟩, nofun, ?_⟩
              rw [List.length_cons, Nat.add_comm more.length 1, ← Nat.add_assoc]
              exact few

/-- Groups that fill up whole fours with the padding behind them are those of the bytes that they
spell. -/
theorem groupsOf_groupBytes {count : Nat} (small : ∀ group ∈ groups, group < 64) (few : count ≤ 2)
    (full : (groups.length + count) % 4 = 0) (noBits : leftOverIsZero groups = true) :
    groupsOf (groupBytes groups) = groups ∧ paddingsOf (groupBytes groups) = count := by
  have spelled (n : Nat) (h : n < 256) : n.toUInt8.toNat = n := UInt8.toNat_ofNat_of_lt' h
  fun_induction groupBytes groups with
  | case1 a b c d rest ih =>
      simp only [List.forall_mem_cons] at small
      obtain ⟨smallA, smallB, smallC, smallD, smaller⟩ := small
      simp only [List.length_cons] at full
      obtain ⟨groups, paddings⟩ := ih smaller (by omega) noBits
      rw [groupsOf, paddingsOf, groups, paddings, spelled _ (by omega), spelled _ (by omega),
        spelled _ (by omega)]
      refine ⟨?_, rfl⟩
      congr 1
      · omega
      congr 1
      · omega
      congr 1
      · omega
      congr 1
      omega
  | case2 a b c =>
      simp only [List.forall_mem_cons] at small
      simp only [List.length_cons, List.length_nil] at full
      simp only [leftOverIsZero, beq_iff_eq] at noBits
      rw [groupsOf, paddingsOf, spelled _ (by omega), spelled _ (by omega)]
      refine ⟨?_, by omega⟩
      simp only [List.cons.injEq, and_true]
      omega
  | case3 a b =>
      simp only [List.forall_mem_cons] at small
      simp only [List.length_cons, List.length_nil] at full
      simp only [leftOverIsZero, beq_iff_eq] at noBits
      rw [groupsOf, paddingsOf, spelled _ (by omega)]
      refine ⟨?_, by omega⟩
      simp only [List.cons.injEq, and_true]
      omega
  | case4 groups notFour notThree notTwo =>
      obtain _ | ⟨a, _ | ⟨b, _ | ⟨c, _ | ⟨d, rest⟩⟩⟩⟩ := groups
      · simp only [List.length_nil] at full
        exact ⟨rfl, by rw [paddingsOf]; omega⟩
      · simp only [List.length_cons, List.length_nil] at full
        omega
      · exact absurd rfl (notTwo a b)
      · exact absurd rfl (notThree a b c)
      · exact absurd rfl (notFour a b c d rest)

/-- Whole fours in front have no bits that are left over. -/
theorem leftOverIsZero_append {body : List Nat} {count : Nat} (fours : body.length = 4 * count) :
    leftOverIsZero (body ++ groups) = leftOverIsZero groups := by
  induction count generalizing body with
  | zero => rw [List.eq_nil_of_length_eq_zero fours, List.nil_append]
  | succ count ih =>
      match body with
      | [] | [_] | [_, _] | [_, _, _] =>
        simp only [List.length_cons, List.length_nil] at fours
        omega
      | _ :: _ :: _ :: _ :: rest =>
        have fewer : rest.length = 4 * count := by
          simp only [List.length_cons] at fours
          omega
        have behind : leftOverIsZero (rest ++ groups) = leftOverIsZero groups := ih fewer
        exact behind

/-- Only what is written for a byte sequence is read. -/
theorem eq_encodeBytes_of_decodeBytes (h : decodeBytes text = .ok bytes) :
    text = encodeBytes bytes := by
  rw [decodeBytes] at h
  obtain ⟨_, -, h⟩ := Except.bind_eq_ok_iff.mp h
  obtain ⟨body, bodyRead, h⟩ := Except.bind_eq_ok_iff.mp h
  obtain ⟨⟨groups, paddings⟩, lastRead, h⟩ := Except.bind_eq_ok_iff.mp h
  dsimp only at h
  split at h
  · cases h
  next full =>
  split at h
  · cases h
  next noBits =>
  cases h
  have eights : lastChunkStart text.length % 8 = 0 := Nat.mul_mod_left _ 8
  have start_le : lastChunkStart text.length ≤ text.length := by
    unfold lastChunkStart
    omega
  generalize lastChunkStart text.length = start at *
  obtain ⟨front, small⟩ := map_symbol_of_symbolBits bodyRead
  obtain ⟨back, small', -, few⟩ := symbols_of_lastChunk lastRead
  have body_length : body.length = start := by
    have length := congrArg List.length front
    rw [List.length_map, List.length_take] at length
    omega
  have allSmall : ∀ group ∈ body ++ groups, group < 64 := by
    intro group inRow
    exact (List.mem_append.mp inRow).elim (small group) (small' group)
  have fours : ((body ++ groups).length + paddings) % 4 = 0 := by
    rw [bne_iff_ne, not_not] at full
    rw [List.length_append]
    omega
  have noBits' : leftOverIsZero (body ++ groups) = true := by
    have body_fours : body.length = 4 * (start / 4) := by omega
    rw [leftOverIsZero_append body_fours]
    simpa using noBits
  obtain ⟨row, behind⟩ := groupsOf_groupBytes allSmall (by omega) fours noBits'
  rw [encodeBytes_eq_symbols, row, behind, List.map_append, List.append_assoc, ← front, ← back,
    List.take_append_drop]

theorem decodeBytes_eq_ok_iff : decodeBytes text = .ok bytes ↔ text = encodeBytes bytes := by
  constructor
  · exact eq_encodeBytes_of_decodeBytes
  · rintro rfl
    exact decodeBytes_encodeBytes bytes

/-! ## The text -/

theorem encodeBytes_toNat (bytes : List UInt8) :
    ∀ b ∈ encodeBytes bytes, 0x20 < b.toNat ∧ b.toNat < 0x80 := by
  intro b h
  rw [encodeBytes_eq_symbols, List.mem_append, List.mem_map] at h
  rcases h with ⟨group, inGroups, rfl⟩ | h
  · exact symbol_toNat group (groupsOf_lt bytes group inGroups)
  · rw [List.eq_of_mem_replicate h]
    decide

/-- The bytes of a base64 text are its symbols. -/
theorem utf8_encode (bytes : List UInt8) : Text.Utf8.encode (encode bytes) = encodeBytes bytes := by
  have ascii := encodeBytes_toNat bytes
  rw [encode, Text.Utf8.encode, String.toList_ofList]
  generalize encodeBytes bytes = symbols at *
  induction symbols with
  | nil => rfl
  | cons b symbols ih =>
      rw [List.forall_mem_cons] at ascii
      rw [List.map_cons, List.flatMap_cons, Text.Utf8.utf8EncodeChar_ofNat_toNat ascii.1.2,
        ih ascii.2, List.singleton_append]

/-- A base64 text has no blanks, so trimming leaves it as it is. -/
theorem trim_encode (bytes : List UInt8) : Text.trim (encode bytes) = encode bytes := by
  have visible : ∀ n < 0x80, 0x20 < n → Text.isBlankChar (Char.ofNat n) = false := by decide
  have noBlank : ∀ c ∈ (encode bytes).toList, Text.isBlankChar c = false := by
    intro c h
    rw [encode, String.toList_ofList, List.mem_map] at h
    obtain ⟨b, inSymbols, rfl⟩ := h
    obtain ⟨low, high⟩ := encodeBytes_toNat bytes b inSymbols
    exact visible b.toNat high low
  have kept (chars : List Char) (h : ∀ c ∈ chars, Text.isBlankChar c = false) :
      chars.dropWhile Text.isBlankChar = chars := by
    cases chars with
    | nil => rfl
    | cons c chars => rw [List.dropWhile_cons_of_neg (by simp [h c List.mem_cons_self])]
  rw [Text.trim, Text.trimChars, kept _ noBlank, kept _ (by simpa using noBlank),
    List.reverse_reverse, String.ofList_toList]

theorem encode_injective : Function.Injective encode := by
  intro first second equal
  apply encodeBytes_injective
  rw [← utf8_encode, ← utf8_encode, equal]

/-- A text is read if it is what is written for a byte sequence. -/
theorem decodeBytes_utf8_eq_ok_iff {text : String} :
    decodeBytes (Text.Utf8.encode text) = .ok bytes ↔ text = encode bytes := by
  rw [decodeBytes_eq_ok_iff, ← utf8_encode]
  exact Text.Utf8.encode_injective.eq_iff

end FactoryBundler.Encoding.Base64
