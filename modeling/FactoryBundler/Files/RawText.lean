import FactoryBundler.Text.Utf8

/-!
# Raw texts

Names and paths as a file system has them: bytes that need not be UTF-8. Where they are they have a
text, and where they are shown they are shown as one in any case, with a replacement character for
every sequence that is none. So what is shown need not tell two of them apart.
-/

namespace FactoryBundler

/-- The bytes of a name or a path. -/
structure RawText where
  bytes : List UInt8
deriving Repr, DecidableEq, Inhabited

namespace RawText

/-- A text in bytes. -/
def ofText (text : String) : RawText :=
  ⟨Text.Utf8.encode text⟩

/-- The text that the bytes spell, if they are UTF-8. -/
def text? (raw : RawText) : Option String :=
  (Text.Utf8.decode raw.bytes).toOption

/-- The bytes as they are shown. -/
def display (raw : RawText) : String :=
  Text.Utf8.lossy raw.bytes

instance : Coe String RawText := ⟨ofText⟩

/-- Where a text is called for, a raw text is shown. -/
instance : Coe RawText String := ⟨display⟩

instance : Append RawText := ⟨fun first second => ⟨first.bytes ++ second.bytes⟩⟩

/-- Raw texts are in the order of their bytes. -/
instance : LE RawText := ⟨fun first second => first.bytes ≤ second.bytes⟩

instance : LT RawText := ⟨fun first second => first.bytes < second.bytes⟩

instance : DecidableLE RawText := fun first second =>
  inferInstanceAs (Decidable (first.bytes ≤ second.bytes))

instance : DecidableLT RawText := fun first second =>
  inferInstanceAs (Decidable (first.bytes < second.bytes))

/-- Whether there are no bytes. -/
def isEmpty (raw : RawText) : Bool :=
  raw.bytes.isEmpty

end RawText

end FactoryBundler
