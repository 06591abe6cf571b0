/-!
# UTF-8

Characters as bytes and bytes as characters. Reading goes one character at a time and, where the
bytes are no UTF-8, says how far a well-formed sequence could still have been under way: `step`
is the rule for one character, `decode` applies it to a whole text. `lossy` does so, too, and puts a
replacement character in the place of every sequence that is none.
-/

namespace FactoryBundler.Text.Utf8

/-- The bytes of a text. -/
def encode (text : String) : List UInt8 :=
  text.toList.flatMap String.utf8EncodeChar

/-- A continuation byte. -/
def isContinuation (b : UInt8) : Bool :=
  0x80 ≤ b && b ≤ 0xBF

/-- The six bits that a continuation byte carries. -/
def continuationBits (b : UInt8) : Nat :=
  b.toNat % 64

/-- What stands at the front of a byte sequence. -/
inductive Step where
  /-- A character, and the number of continuation bytes after its first byte. -/
  | char (c : Char) (continuations : Nat)
  /-- No character: `length` bytes, at least the first, could have begun one. -/
  | invalid (length : Nat)
  /-- The bytes end inside what could have become a character. -/
  | truncated
deriving Repr, DecidableEq

/-- The bytes that may follow the first byte `b` of a character of two bytes or more. The limits
keep out overlong forms, surrogates and code points beyond the last one. -/
def secondInRange (b next : UInt8) : Bool :=
  if b == 0xE0 then 0xA0 ≤ next && next ≤ 0xBF
  else if b == 0xED then 0x80 ≤ next && next ≤ 0x9F
  else if b == 0xF0 then 0x90 ≤ next && next ≤ 0xBF
  else if b == 0xF4 then 0x80 ≤ next && next ≤ 0x8F
  else isContinuation next

/-- Read the character that begins with `b` and goes on in `rest`. -/
def step (b : UInt8) (rest : List UInt8) : Step :=
  if b < 0x80 then .char (Char.ofNat b.toNat) 0
  else if 0xC2 ≤ b && b ≤ 0xDF then
    match rest with
    | [] => .truncated
    | b₁ :: _ =>
      if secondInRange b b₁ then
        .char (Char.ofNat (b.toNat % 32 * 64 + continuationBits b₁)) 1
      else .invalid 1
  else if 0xE0 ≤ b && b ≤ 0xEF then
    match rest with
    | [] => .truncated
    | b₁ :: rest =>
      if secondInRange b b₁ then
        match rest with
        | [] => .truncated
        | b₂ :: _ =>
          if isContinuation b₂ then
            .char (Char.ofNat
              ((b.toNat % 16 * 64 + continuationBits b₁) * 64 + continuationBits b₂)) 2
          else .invalid 2
      else .invalid 1
  else if 0xF0 ≤ b && b ≤ 0xF4 then
    match rest with
    | [] => .truncated
    | b₁ :: rest =>
      if secondInRange b b₁ then
        match rest with
        | [] => .truncated
        | b₂ :: rest =>
          if isContinuation b₂ then
            match rest with
            | [] => .truncated
            | b₃ :: _ =>
              if isContinuation b₃ then
                .char (Char.ofNat (((b.toNat % 8 * 64 + continuationBits b₁) * 64
                  + continuationBits b₂) * 64 + continuationBits b₃)) 3
              else .invalid 3
          else .invalid 2
      else .invalid 1
  else .invalid 1

/-- Why bytes are no text: where the first bad sequence starts and, unless the bytes simply end
inside it, how many of its bytes could have begun a character. -/
structure Fault where
  index : Nat
  length : Option Nat
deriving Repr, DecidableEq

/-- The wording of a fault. -/
def Fault.message (fault : Fault) : String :=
  match fault.length with
  | some n => s!"invalid utf-8 sequence of {n} bytes from index {fault.index}"
  | none => s!"incomplete utf-8 byte sequence from index {fault.index}"

/-- Read characters from `index` on. -/
def decodeFrom (index : Nat) : List UInt8 → Except Fault (List Char)
  | [] => .ok []
  | b :: rest =>
    match step b rest with
    | .char c continuations =>
      match decodeFrom (index + 1 + continuations) (rest.drop continuations) with
      | .ok cs => .ok (c :: cs)
      | .error fault => .error fault
    | .invalid length => .error ⟨index, some length⟩
    | .truncated => .error ⟨index, none⟩
termination_by bytes => bytes.length
decreasing_by simp only [List.length_drop, List.length_cons]; omega

/-- The text that the bytes spell, if they are UTF-8. -/
def decode (bytes : List UInt8) : Except Fault String :=
  (decodeFrom 0 bytes).map String.ofList

/-- The character that is shown in the place of bytes that are none. -/
def replacement : Char := '\uFFFD'

/-- The characters that are shown for bytes. -/
def lossyChars : List UInt8 → List Char
  | [] => []
  | b :: rest =>
    match step b rest with
    | .char c continuations => c :: lossyChars (rest.drop continuations)
    | .invalid length => replacement :: lossyChars (rest.drop (length - 1))
    | .truncated => [replacement]
termination_by bytes => bytes.length
decreasing_by all_goals simp only [List.length_drop, List.length_cons]; omega

/-- The text that is shown for bytes. -/
def lossy (bytes : List UInt8) : String :=
  String.ofList (lossyChars bytes)

end FactoryBundler.Text.Utf8
