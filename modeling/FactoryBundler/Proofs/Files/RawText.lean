import FactoryBundler.Files.RawText
import FactoryBundler.Proofs.Except
import FactoryBundler.Proofs.Text.Utf8

/-!
# Raw texts that are texts

A text that is made raw can be had back, and it is shown as itself. Raw texts that are no texts are
shown as well, and two of them may look alike. But what is shown of a raw text has no character of
ASCII in it that is not among the bytes.
-/

namespace FactoryBundler.RawText

variable {raw : RawText} {text : String}

@[simp]
theorem display_ofText (text : String) : (ofText text).display = text :=
  Text.Utf8.lossy_encode text

theorem ofText_injective : Function.Injective ofText :=
  Function.LeftInverse.injective display_ofText

@[simp]
theorem ofText_inj {first second : String} : ofText first = ofText second ↔ first = second :=
  ofText_injective.eq_iff

theorem ofText_append (first second : String) :
    ofText (first ++ second) = ofText first ++ ofText second := by
  have bytes : Text.Utf8.encode (first ++ second) =
      Text.Utf8.encode first ++ Text.Utf8.encode second := by
    rw [Text.Utf8.encode, String.toList_append, List.flatMap_append]
    rfl
  exact congrArg mk bytes

theorem isEmpty_iff : raw.isEmpty = true ↔ raw = ofText "" := by
  rw [isEmpty, List.isEmpty_iff]
  exact ⟨congrArg mk, congrArg bytes⟩

/-- The bytes that spell a text are those of the text. -/
theorem text?_eq_some_iff : raw.text? = some text ↔ raw = ofText text := by
  rw [text?, Except.toOption_eq_some_iff, Text.Utf8.decode_eq_ok_iff]
  exact ⟨congrArg mk, congrArg bytes⟩

@[simp]
theorem text?_ofText (text : String) : (ofText text).text? = some text :=
  text?_eq_some_iff.mpr rfl

/-- The bytes are those of a text. -/
def IsText (raw : RawText) : Prop :=
  ∃ text, raw = ofText text

theorem isText_iff : raw.IsText ↔ raw.text?.isSome = true := by
  rw [Option.isSome_iff_exists, IsText]
  exact exists_congr fun text => text?_eq_some_iff.symm

instance : DecidablePred IsText := fun _ => decidable_of_iff _ isText_iff.symm

/-- A text is what is shown of it. -/
theorem IsText.eq_display (isText : raw.IsText) : raw = ofText raw.display := by
  obtain ⟨text, rfl⟩ := isText
  rw [display_ofText]

theorem not_mem_display {c : Char} (ascii : c.toNat < 0x80) (free : c.toUInt8 ∉ raw.bytes) :
    c ∉ raw.display.toList := by
  rw [display, Text.Utf8.lossy, String.toList_ofList]
  exact fun shown => free (Text.Utf8.toUInt8_mem_of_mem_lossyChars ascii shown)

/-! ## The order of the bytes -/

instance : Std.IsLinearOrder RawText where
  le_refl raw := Std.le_refl raw.bytes
  le_trans _ _ _ first second := Std.le_trans (α := List UInt8) first second
  le_antisymm _ _ first second := congrArg mk (Std.le_antisymm (α := List UInt8) first second)
  le_total first second := Std.le_total (a := first.bytes) (b := second.bytes)

instance : Std.LawfulOrderLT RawText where
  lt_iff first second := Std.lt_iff_le_and_not_ge (a := first.bytes) (b := second.bytes)

end FactoryBundler.RawText
