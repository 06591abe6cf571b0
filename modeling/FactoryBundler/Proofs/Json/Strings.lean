import FactoryBundler.Json.Printer
import FactoryBundler.Json.Reader
import FactoryBundler.Proofs.Text.Utf8

/-!
# Strings read back as they were written

Inside a string a character is written as an escape or as its own bytes. Either way the reader
spells its bytes again, and it stops at the first bare quote. As no quote is written bare inside a
string, the text behind the closing quote does not matter; this also makes the written forms of
two strings comparable when something else follows them.
-/

namespace FactoryBundler.Json

open Text.Utf8

variable {b : UInt8} {c : Char} {rest input : List UInt8}

/-- What a reader makes of a text that begins with bytes which spell `front`. -/
def spelled (front : List UInt8) (reading : Reading (List UInt8)) : Reading (List UInt8) :=
  reading.map fun (bytes, unread) => (front ++ bytes, unread)

theorem spelled_spelled (first second : List UInt8) (reading : Reading (List UInt8)) :
    spelled first (spelled second reading) = spelled (first ++ second) reading := by
  cases reading with
  | error fault => rfl
  | ok read => simp [spelled, Except.map]

theorem readBytes_quote : readBytes ('"'.toUInt8 :: rest) = .ok ([], rest) := by
  rw [readBytes, if_pos (beq_self_eq_true _)]

/-- A byte that stands for itself inside a string. -/
def isPlain (b : UInt8) : Bool :=
  b != '"'.toUInt8 && b != '\\'.toUInt8 && decide (0x20 ≤ b.toNat)

theorem readBytes_plain (plain : isPlain b = true) :
    readBytes (b :: rest) = spelled [b] (readBytes rest) := by
  simp only [isPlain, Bool.and_eq_true, bne_iff_ne, decide_eq_true_eq] at plain
  obtain ⟨⟨noQuote, noBackslash⟩, visible⟩ := plain
  have noControl : ¬ b < 0x20 := by
    rw [UInt8.lt_iff_toNat_lt]
    exact Nat.not_lt.mpr visible
  rw [readBytes, if_neg (by simpa using noQuote), if_neg (by simpa using noBackslash),
    if_neg noControl]
  cases readBytes rest with
  | error fault => rfl
  | ok read => rfl

theorem readBytes_plain_append {front : List UInt8} (plain : ∀ b ∈ front, isPlain b = true) :
    readBytes (front ++ rest) = spelled front (readBytes rest) := by
  induction front with
  | nil =>
      cases h : readBytes rest <;> simp [spelled, Except.map, h]
  | cons b front ih =>
      rw [List.forall_mem_cons] at plain
      rw [List.cons_append, readBytes_plain plain.1, ih plain.2, spelled_spelled,
        List.singleton_append]

theorem readBytes_escape (escape : readEscape input = .ok (c, rest)) :
    readBytes ('\\'.toUInt8 :: input) = spelled (String.utf8EncodeChar c) (readBytes rest) := by
  rw [readBytes, if_neg (by decide), if_pos (beq_self_eq_true _)]
  split
  · next fault failed =>
    rw [escape] at failed
    contradiction
  · next other unread read =>
    rw [escape] at read
    obtain ⟨rfl, rfl⟩ := Prod.mk.inj (Except.ok.inj read)
    cases readBytes rest with
    | error fault => rfl
    | ok read => rfl

/-! ## The three ways to write a character -/

theorem readEscape_letter (letter : letterEscape? b = some c) :
    readEscape (b :: rest) = .ok (c, rest) := by
  rw [readEscape]
  simp only [letter]

theorem hexDigit?_digitChar : ∀ n < 16, hexDigit? (Nat.digitChar n).toUInt8 = some n := by
  decide

/-- A control character is read from the two digits of its code. -/
theorem readEscape_control {n : Nat} (small : n < 0x20) (rest : List UInt8) :
    readEscape ('u'.toUInt8 :: '0'.toUInt8 :: '0'.toUInt8 :: (Nat.digitChar (n / 16)).toUInt8 ::
      (Nat.digitChar (n % 16)).toUInt8 :: rest) = .ok (Char.ofNat n, rest) := by
  have noLetter : letterEscape? 'u'.toUInt8 = none := by decide
  have zero : hexDigit? '0'.toUInt8 = some 0 := by decide
  have digits : readHex4 ('0'.toUInt8 :: '0'.toUInt8 :: (Nat.digitChar (n / 16)).toUInt8 ::
      (Nat.digitChar (n % 16)).toUInt8 :: rest) = .ok (n, rest) := by
    simp only [readHex4, zero, hexDigit?_digitChar (n / 16) (by omega),
      hexDigit?_digitChar (n % 16) (by omega)]
    congr 2
    omega
  rw [readEscape]
  simp only [noLetter, digits, beq_self_eq_true, if_true]
  rw [if_neg (by simp; omega), if_neg (by simp; omega)]

theorem isPlain_of_le (high : 0x80 ≤ b.toNat) : isPlain b = true := by
  simp only [isPlain, Bool.and_eq_true, bne_iff_ne, decide_eq_true_eq]
  refine ⟨⟨?_, ?_⟩, by omega⟩
  · rintro rfl
    exact absurd high (by decide)
  · rintro rfl
    exact absurd high (by decide)

theorem isPlain_utf8EncodeChar (noQuote : c ≠ '"') (noBackslash : c ≠ '\\')
    (visible : 0x20 ≤ c.toNat) : ∀ b ∈ String.utf8EncodeChar c, isPlain b = true := by
  intro b inBytes
  by_cases ascii : c.toNat < 0x80
  · have other : ∀ n < 0x80, 0x20 ≤ n → Char.ofNat n ≠ '"' → Char.ofNat n ≠ '\\' →
        isPlain (Char.ofNat n).toUInt8 = true := by
      decide
    rw [utf8EncodeChar_of_lt ascii, List.mem_singleton] at inBytes
    have plain := other c.toNat ascii visible
    rw [Char.ofNat_toNat] at plain
    exact inBytes ▸ plain noQuote noBackslash
  · have high := le_of_mem_utf8EncodeChar (Nat.not_lt.mp ascii) b inBytes
    exact isPlain_of_le high

/-- Whatever way a character is written in, the reader spells its bytes. -/
theorem readBytes_escapeChar (c : Char) (rest : List UInt8) :
    readBytes (bytesOf (escapeChar c) ++ rest) =
      spelled (String.utf8EncodeChar c) (readBytes rest) := by
  have letter (c letter : Char) (ascii : letter.toNat < 0x80)
      (means : letterEscape? letter.toUInt8 = some c) :
      readBytes (bytesOf ['\\', letter] ++ rest) =
        spelled (String.utf8EncodeChar c) (readBytes rest) := by
    rw [bytesOf_cons_of_lt (by decide), bytesOf_cons_of_lt ascii]
    exact readBytes_escape (readEscape_letter means)
  unfold escapeChar
  split
  · exact letter '"' '"' (by decide) (by decide)
  · exact letter '\\' '\\' (by decide) (by decide)
  · exact letter '\x08' 'b' (by decide) (by decide)
  · exact letter '\x0c' 'f' (by decide) (by decide)
  · exact letter '\n' 'n' (by decide) (by decide)
  · exact letter '\r' 'r' (by decide) (by decide)
  · exact letter '\t' 't' (by decide) (by decide)
  · next noQuote noBackslash _ _ _ _ _ =>
    split
    · next control =>
      have digit : ∀ n < 16, (Nat.digitChar n).toNat < 0x80 := by decide
      have read := readEscape_control control rest
      rw [Char.ofNat_toNat] at read
      rw [bytesOf_cons_of_lt (by decide), bytesOf_cons_of_lt (by decide),
        bytesOf_cons_of_lt (by decide), bytesOf_cons_of_lt (by decide),
        bytesOf_cons_of_lt (digit _ (by omega)), bytesOf_cons_of_lt (digit _ (by omega))]
      exact readBytes_escape read
    · next visible =>
      rw [bytesOf_cons, bytesOf_nil, List.append_nil]
      exact readBytes_plain_append
        (isPlain_utf8EncodeChar noQuote noBackslash (Nat.not_lt.mp visible))

/-! ## Whole strings -/

theorem readBytes_escaped (chars : List Char) (rest : List UInt8) :
    readBytes (bytesOf (chars.flatMap escapeChar) ++ '"'.toUInt8 :: rest) =
      .ok (bytesOf chars, rest) := by
  induction chars with
  | nil => exact readBytes_quote
  | cons c chars ih =>
      rw [List.flatMap_cons, bytesOf_append, List.append_assoc, readBytes_escapeChar, ih,
        bytesOf_cons]
      rfl

/-- A string reads back as it was written, whatever comes after it. -/
theorem readString_stringChars (s : String) (rest : List UInt8) :
    ∃ input, bytesOf (stringChars s) ++ rest = '"'.toUInt8 :: input ∧
      readString input = .ok (s, rest) := by
  refine ⟨bytesOf (s.toList.flatMap escapeChar) ++ '"'.toUInt8 :: rest, ?_, ?_⟩
  · rw [stringChars, bytesOf_cons_of_lt (by decide), bytesOf_append,
      bytesOf_cons_of_lt (by decide), bytesOf_nil, List.cons_append, List.append_assoc,
      List.singleton_append]
  · have read : Text.Utf8.decode (bytesOf s.toList) = .ok s := decode_encode s
    rw [readString, readBytes_escaped]
    simp only [read]

/-- Where a string ends does not depend on what comes after it. -/
theorem stringChars_append_inj {s t : String} {after other : List Char}
    (h : stringChars s ++ after = stringChars t ++ other) : s = t ∧ after = other := by
  obtain ⟨input, text, read⟩ := readString_stringChars s (bytesOf after)
  obtain ⟨input', text', read'⟩ := readString_stringChars t (bytesOf other)
  rw [← bytesOf_append] at text text'
  rw [← h, text] at text'
  rw [(List.cons.inj text').2, read'] at read
  obtain ⟨same, sameRest⟩ := Prod.mk.inj (Except.ok.inj read)
  exact ⟨same.symm, (bytesOf_injective sameRest).symm⟩

end FactoryBundler.Json
