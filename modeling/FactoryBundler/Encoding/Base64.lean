/-!
# Base64

The standard alphabet with canonical padding: three bytes become four symbols, and a shorter last
group is filled up with `=` to four. Reading accepts exactly the written forms; everything else is
a fault, and of several faults the one reported follows a fixed order. The text is looked at in
chunks of eight symbols, of which only the last may hold padding:

1. a length that leaves one symbol over;
2. a byte outside the alphabet before the last chunk;
3. in the last chunk, from the left, a byte outside the alphabet or padding in a wrong place;
4. padding that does not fill up a group of four;
5. bits of the last symbol that belong to no byte and are not zero.
-/

namespace FactoryBundler.Encoding.Base64

/-- The symbol for six bits. -/
def symbol (bits : Nat) : UInt8 :=
  if bits < 26 then ('A'.toNat + bits).toUInt8
  else if bits < 52 then ('a'.toNat + (bits - 26)).toUInt8
  else if bits < 62 then ('0'.toNat + (bits - 52)).toUInt8
  else if bits == 62 then '+'.toUInt8
  else '/'.toUInt8

/-- The six bits of a symbol. -/
def bits? (b : UInt8) : Option Nat :=
  if 'A'.toUInt8 ≤ b && b ≤ 'Z'.toUInt8 then some (b.toNat - 'A'.toNat)
  else if 'a'.toUInt8 ≤ b && b ≤ 'z'.toUInt8 then some (b.toNat - 'a'.toNat + 26)
  else if '0'.toUInt8 ≤ b && b ≤ '9'.toUInt8 then some (b.toNat - '0'.toNat + 52)
  else if b == '+'.toUInt8 then some 62
  else if b == '/'.toUInt8 then some 63
  else none

/-- The padding symbol. -/
def padding : UInt8 := '='.toUInt8

/-- The symbols for a byte sequence, with padding. -/
def encodeBytes : List UInt8 → List UInt8
  | [] => []
  | [a] => [symbol (a.toNat / 4), symbol (a.toNat % 4 * 16), padding, padding]
  | [a, b] =>
    [symbol (a.toNat / 4), symbol (a.toNat % 4 * 16 + b.toNat / 16), symbol (b.toNat % 16 * 4),
      padding]
  | a :: b :: c :: rest =>
    symbol (a.toNat / 4) :: symbol (a.toNat % 4 * 16 + b.toNat / 16) ::
      symbol (b.toNat % 16 * 4 + c.toNat / 64) :: symbol (c.toNat % 64) :: encodeBytes rest

/-- The base64 text of a byte sequence. -/
def encode (bytes : List UInt8) : String :=
  String.ofList ((encodeBytes bytes).map fun b => Char.ofNat b.toNat)

/-- Why a text is not base64. Offsets count bytes. -/
inductive Fault where
  | invalidByte (byte : UInt8) (offset : Nat)
  /-- One symbol is left over, which is less than a byte. -/
  | symbolLeftOver
  | invalidLastSymbol (byte : UInt8) (offset : Nat)
  | invalidPadding
deriving Repr, DecidableEq

/-- The wording of a fault. -/
def Fault.message : Fault → String
  | .invalidByte byte offset => s!"Invalid byte {byte.toNat}, offset {offset}."
  | .symbolLeftOver => "Encoded text cannot have a 6-bit remainder."
  | .invalidLastSymbol byte offset => s!"Invalid last symbol {byte.toNat}, offset {offset}."
  | .invalidPadding => "Invalid padding"

/-- The length check. A last byte that is neither symbol nor padding is reported instead. -/
def checkLength (text : List UInt8) : Except Fault Unit :=
  if text.length % 4 == 1 then
    match text.getLast? with
    | some last =>
      if last != padding && (bits? last).isNone then
        .error (.invalidByte last (text.length - 1))
      else .error .symbolLeftOver
    | none => .error .symbolLeftOver
  else .ok ()

/-- The six-bit groups of symbols that start at `offset`, without padding. -/
def symbolBits (offset : Nat) : List UInt8 → Except Fault (List Nat)
  | [] => .ok []
  | b :: rest =>
    match bits? b with
    | none => .error (.invalidByte b offset)
    | some bits =>
      match symbolBits (offset + 1) rest with
      | .error fault => .error fault
      | .ok more => .ok (bits :: more)

/-- The six-bit groups of the last chunk, and how many padding symbols follow them. The chunk
starts at `start`, `index` of its symbols have been read, and the first padding among them stood
at `firstPadding`. -/
def lastChunk (start : Nat) :
    (index : Nat) → (firstPadding : Option Nat) → List UInt8 → Except Fault (List Nat × Nat)
  | _, _, [] => .ok ([], 0)
  | index, firstPadding, b :: rest =>
    if b == padding then
      let first := firstPadding.getD index
      if index % 4 < 2 then .error (.invalidByte padding (start + first))
      else
        match lastChunk start (index + 1) (some first) rest with
        | .error fault => .error fault
        | .ok (groups, paddings) => .ok (groups, paddings + 1)
    else
      match firstPadding with
      | some first => .error (.invalidByte padding (start + first))
      | none =>
        match bits? b with
        | none => .error (.invalidByte b (start + index))
        | some bits =>
          match lastChunk start (index + 1) none rest with
          | .error fault => .error fault
          | .ok (groups, paddings) => .ok (bits :: groups, paddings)

/-- The bytes that six-bit groups spell; what is left over of an incomplete last group of four is
dropped. -/
def groupBytes : List Nat → List UInt8
  | a :: b :: c :: d :: rest =>
    (a * 4 + b / 16).toUInt8 :: (b % 16 * 16 + c / 4).toUInt8 :: (c % 4 * 64 + d).toUInt8 ::
      groupBytes rest
  | [a, b, c] => [(a * 4 + b / 16).toUInt8, (b % 16 * 16 + c / 4).toUInt8]
  | [a, b] => [(a * 4 + b / 16).toUInt8]
  | _ => []

/-- Whether the bits that an incomplete last group of four leaves over are all zero. -/
def leftOverIsZero : List Nat → Bool
  | _ :: _ :: _ :: _ :: rest => leftOverIsZero rest
  | [_, _, c] => c % 4 == 0
  | [_, b] => b % 16 == 0
  | _ => true

/-- Where the last chunk of eight symbols begins. -/
def lastChunkStart (length : Nat) : Nat :=
  (length - 1) / 8 * 8

/-- Read base64 symbols. -/
def decodeBytes (text : List UInt8) : Except Fault (List UInt8) := do
  checkLength text
  let start := lastChunkStart text.length
  let body ← symbolBits 0 (text.take start)
  let (groups, paddings) ← lastChunk start 0 none (text.drop start)
  if (groups.length + paddings) % 4 != 0 then .error .invalidPadding
  else if !leftOverIsZero groups then
    let last := start + groups.length - 1
    .error (.invalidLastSymbol (text.getD last padding) last)
  else return groupBytes (body ++ groups)

end FactoryBundler.Encoding.Base64
