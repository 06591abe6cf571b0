import FactoryBundler.Proofs.Text.Utf8
import Mathlib.Data.List.Lex
import Mathlib.Data.String.Basic

/-!
# The order of texts is the order of their bytes

Texts are compared character by character, their encodings byte by byte, and both comparisons come
out the same. It is enough to see that a greater character begins with greater bytes: of two
encodings of different lengths the longer one has the greater first byte, and of two of the same
length the digits of the code points are compared from the highest one on.
-/

namespace FactoryBundler.Text.Utf8

theorem ofNat_lt_ofNat_iff {m n : Nat} (hm : m < 256) (hn : n < 256) :
    UInt8.ofNat m < UInt8.ofNat n ↔ m < n := by
  rw [UInt8.lt_iff_toNat_lt, toNat_ofNat_of_lt hm, toNat_ofNat_of_lt hn]

theorem ofNat_eq_ofNat_iff {m n : Nat} (hm : m < 256) (hn : n < 256) :
    UInt8.ofNat m = UInt8.ofNat n ↔ m = n := by
  rw [← UInt8.toNat_inj, toNat_ofNat_of_lt hm, toNat_ofNat_of_lt hn]

/-- A lesser character decides the comparison, whatever bytes come after it. -/
theorem utf8EncodeChar_append_lt {c d : Char} (less : c < d) (rest more : List UInt8) :
    String.utf8EncodeChar c ++ rest < String.utf8EncodeChar d ++ more := by
  have valid : d.toNat < 0x110000 := by
    rcases d.valid with low | ⟨-, high⟩
    · exact Nat.lt_trans low (by decide)
    · exact high
  have less : c.toNat < d.toNat := less
  unfold String.utf8EncodeChar
  simp only [Char.toNat_val]
  generalize c.toNat = v at *
  generalize d.toNat = w at *
  -- every digit but the last is one of the number without its last digit
  have digits (n : Nat) (h : n < 0x110000) :
      n / 4096 = n / 64 / 64 ∧ n / 262144 = n / 4096 / 64 ∧ n / 262144 % 8 = n / 262144 := by
    omega
  have vDigits := digits v (by omega)
  have wDigits := digits w valid
  split_ifs <;> try omega
  all_goals
    simp only [List.cons_append, List.nil_append, List.cons_lt_cons_iff]
    simp (disch := omega) only [ofNat_lt_ofNat_iff, ofNat_eq_ofNat_iff]
    omega

theorem bytesOf_lt_bytesOf {first second : List Char} (less : first < second) :
    bytesOf first < bytesOf second := by
  induction first generalizing second with
  | nil =>
      cases second with
      | nil => exact absurd less (List.not_lt_nil _)
      | cons d second =>
          obtain ⟨b, rest, encoded, -⟩ := step_utf8EncodeChar d []
          rw [bytesOf_cons, encoded, List.cons_append]
          exact List.nil_lt_cons _ _
  | cons c first ih =>
      cases second with
      | nil => exact absurd less (List.not_lt_nil _)
      | cons d second =>
          rw [bytesOf_cons, bytesOf_cons]
          rcases List.cons_lt_cons_iff.mp less with decided | ⟨rfl, undecided⟩
          · exact utf8EncodeChar_append_lt decided _ _
          · exact List.append_left_lt (ih undecided)

/-- Texts are in the order of their bytes. -/
theorem encode_lt_encode_iff {first second : String} :
    encode first < encode second ↔ first < second := by
  have keeps {first second : String} (less : first < second) : encode first < encode second :=
    bytesOf_lt_bytesOf (String.lt_iff.mp less)
  constructor
  · intro less
    rcases lt_trichotomy first second with before | rfl | after
    · exact before
    · exact absurd less (List.lt_irrefl _)
    · exact absurd (keeps after) (List.lt_asymm less)
  · exact keeps

end FactoryBundler.Text.Utf8
