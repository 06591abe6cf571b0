import FactoryBundler.Json.Numeral
import FactoryBundler.Text.Utf8

/-!
# Reading JSON

A reader takes the bytes of a text and returns a value with the bytes it left unread, or a fault.
Values nest at most 127 arrays and objects deep. Of a key that is repeated in one object the first
place and the last value count. `Json.read` reads a whole text: one value with blanks around it.
-/

namespace FactoryBundler.Json

/-- A blank between tokens. -/
def isSpaceByte (b : UInt8) : Bool :=
  b == ' '.toUInt8 || b == '\t'.toUInt8 || b == '\n'.toUInt8 || b == '\r'.toUInt8

/-- The text without the blanks at its front. -/
def skipSpace (input : List UInt8) : List UInt8 :=
  input.dropWhile isSpaceByte

/-- Read the letters of a literal. -/
def readWord : List Char → List UInt8 → Except (Fault Cause) (List UInt8)
  | [], input => .ok input
  | _ :: _, [] => .error ⟨.endInValue, []⟩
  | c :: more, b :: rest =>
    if b == c.toUInt8 then readWord more rest else .error ⟨.expectedWord, rest⟩

/-- The value of a hexadecimal digit. -/
def hexDigit? (b : UInt8) : Option Nat :=
  if isDigitByte b then some (b.toNat - '0'.toNat)
  else if 'a'.toUInt8 ≤ b && b ≤ 'f'.toUInt8 then some (b.toNat - 'a'.toNat + 10)
  else if 'A'.toUInt8 ≤ b && b ≤ 'F'.toUInt8 then some (b.toNat - 'A'.toNat + 10)
  else none

/-- Four hexadecimal digits. -/
def readHex4 : List UInt8 → Reading Nat
  | a :: b :: c :: d :: rest =>
    match hexDigit? a, hexDigit? b, hexDigit? c, hexDigit? d with
    | some a, some b, some c, some d => .ok (((a * 16 + b) * 16 + c) * 16 + d, rest)
    | _, _, _, _ => .error ⟨.invalidEscape, rest⟩
  | _ => .error ⟨.endInString, []⟩

/-- The escape that must follow a high surrogate: a low one. -/
def readLowSurrogate (high : Nat) : List UInt8 → Reading Char
  | [] => .error ⟨.endInString, []⟩
  | b :: rest =>
    if b == '\\'.toUInt8 then
      match rest with
      | [] => .error ⟨.endInString, []⟩
      | u :: rest =>
        if u == 'u'.toUInt8 then
          match readHex4 rest with
          | .error fault => .error fault
          | .ok (low, rest) =>
            if 0xDC00 ≤ low && low ≤ 0xDFFF then
              .ok (Char.ofNat (0x10000 + (high - 0xD800) * 0x400 + (low - 0xDC00)), rest)
            else .error ⟨.loneSurrogate, rest⟩
        else .error ⟨.unfinishedSurrogates, rest⟩
    else .error ⟨.unfinishedSurrogates, rest⟩

/-- The character that one letter behind a backslash stands for. -/
def letterEscape? (b : UInt8) : Option Char :=
  if b == '"'.toUInt8 then some '"'
  else if b == '\\'.toUInt8 then some '\\'
  else if b == '/'.toUInt8 then some '/'
  else if b == 'b'.toUInt8 then some '\x08'
  else if b == 'f'.toUInt8 then some '\x0c'
  else if b == 'n'.toUInt8 then some '\n'
  else if b == 'r'.toUInt8 then some '\r'
  else if b == 't'.toUInt8 then some '\t'
  else none

/-- The character that an escape stands for, read from behind its backslash. -/
def readEscape : List UInt8 → Reading Char
  | [] => .error ⟨.endInString, []⟩
  | b :: rest =>
    match letterEscape? b with
    | some c => .ok (c, rest)
    | none =>
      if b == 'u'.toUInt8 then
        match readHex4 rest with
        | .error fault => .error fault
        | .ok (code, rest) =>
          if 0xDC00 ≤ code && code ≤ 0xDFFF then .error ⟨.loneSurrogate, rest⟩
          else if 0xD800 ≤ code && code ≤ 0xDBFF then readLowSurrogate code rest
          else .ok (Char.ofNat code, rest)
      else .error ⟨.invalidEscape, rest⟩

theorem length_of_readHex4 {input rest : List UInt8} {code : Nat}
    (h : readHex4 input = .ok (code, rest)) : rest.length < input.length := by
  unfold readHex4 at h
  split at h
  · split at h
    · simp only [Except.ok.injEq, Prod.mk.injEq] at h
      obtain ⟨_, rfl⟩ := h
      simp only [List.length_cons]
      omega
    · contradiction
  · contradiction

theorem length_of_readLowSurrogate {high : Nat} {input rest : List UInt8} {c : Char}
    (h : readLowSurrogate high input = .ok (c, rest)) : rest.length < input.length := by
  unfold readLowSurrogate at h
  split at h
  · contradiction
  · split at h
    · split at h
      · contradiction
      · split at h
        · split at h
          · contradiction
          · next hex =>
            split at h
            · simp only [Except.ok.injEq, Prod.mk.injEq] at h
              obtain ⟨_, rfl⟩ := h
              have := length_of_readHex4 hex
              simp only [List.length_cons]
              omega
            · contradiction
        · contradiction
    · contradiction

/-- An escape takes at least one byte. -/
theorem length_of_readEscape {input rest : List UInt8} {c : Char}
    (h : readEscape input = .ok (c, rest)) : rest.length < input.length := by
  unfold readEscape at h
  split at h
  · contradiction
  · split at h
    · simp only [Except.ok.injEq, Prod.mk.injEq] at h
      obtain ⟨_, rfl⟩ := h
      simp only [List.length_cons]
      omega
    · split at h
      · split at h
        · contradiction
        · next hex =>
          have := length_of_readHex4 hex
          split at h
          · contradiction
          · split at h
            · have := length_of_readLowSurrogate h
              simp only [List.length_cons]
              omega
            · simp only [Except.ok.injEq, Prod.mk.injEq] at h
              obtain ⟨_, rfl⟩ := h
              simp only [List.length_cons]
              omega
      · contradiction

/-- The bytes that a string spells, read from behind its opening quote up to the closing one. An
escape spells the bytes of its character. -/
def readBytes (input : List UInt8) : Reading (List UInt8) :=
  match input with
  | [] => .error ⟨.endInString, []⟩
  | b :: rest =>
    if b == '"'.toUInt8 then .ok ([], rest)
    else if b == '\\'.toUInt8 then
      match _escape : readEscape rest with
      | .error fault => .error fault
      | .ok (c, rest') =>
        match readBytes rest' with
        | .error fault => .error fault
        | .ok (bytes, rest'') => .ok (String.utf8EncodeChar c ++ bytes, rest'')
    else if b < 0x20 then .error ⟨.controlCharacter, rest⟩
    else
      match readBytes rest with
      | .error fault => .error fault
      | .ok (bytes, rest') => .ok (b :: bytes, rest')
termination_by input.length
decreasing_by
  · have := length_of_readEscape _escape
    simp only [List.length_cons]
    omega
  · simp only [List.length_cons]
    omega

/-- The last `count` bytes. -/
def lastBytes (count : Nat) (input : List UInt8) : List UInt8 :=
  input.drop (input.length - count)

/-- A string, read from behind its opening quote. That it spells no UTF-8 is only noticed at its
end. The place reported lies before the end by as many bytes as are spelled from the first bad
sequence on, so it is that of the bad byte if no escape follows. -/
def readString (input : List UInt8) : Reading String :=
  match readBytes input with
  | .error fault => .error fault
  | .ok (bytes, rest) =>
    match Text.Utf8.decode bytes with
    | .ok s => .ok (s, rest)
    | .error fault =>
      .error ⟨.invalidCodePoint, lastBytes (rest.length + (bytes.length - fault.index)) input⟩

/-- Whether an array holds an item, asked behind its opening bracket. If so the item is next. -/
def firstItem (input : List UInt8) : Reading Bool :=
  match skipSpace input with
  | [] => .error ⟨.endInArray, []⟩
  | b :: rest => if b == ']'.toUInt8 then .ok (false, rest) else .ok (true, b :: rest)

/-- Whether an array goes on, asked behind an item. If so the next item is next. -/
def nextItem (input : List UInt8) : Reading Bool :=
  match skipSpace input with
  | [] => .error ⟨.endInArray, []⟩
  | b :: rest =>
    if b == ']'.toUInt8 then .ok (false, rest)
    else if b == ','.toUInt8 then
      match skipSpace rest with
      | [] => .error ⟨.endInValue, []⟩
      | b :: rest =>
        if b == ']'.toUInt8 then .error ⟨.trailingComma, rest⟩ else .ok (true, b :: rest)
    else .error ⟨.expectedCommaInArray, rest⟩

/-- The first key of an object, asked behind its opening brace; none if the object ends. -/
def firstKey (input : List UInt8) : Reading (Option String) :=
  match skipSpace input with
  | [] => .error ⟨.endInObject, []⟩
  | b :: rest =>
    if b == '\x7d'.toUInt8 then .ok (none, rest)
    else if b == '"'.toUInt8 then
      match readString rest with
      | .error fault => .error fault
      | .ok (key, rest) => .ok (some key, rest)
    else .error ⟨.keyNotString, rest⟩

/-- The next key of an object, asked behind a member; none if the object ends. -/
def nextKey (input : List UInt8) : Reading (Option String) :=
  match skipSpace input with
  | [] => .error ⟨.endInObject, []⟩
  | b :: rest =>
    if b == '\x7d'.toUInt8 then .ok (none, rest)
    else if b == ','.toUInt8 then
      match skipSpace rest with
      | [] => .error ⟨.endInValue, []⟩
      | b :: rest =>
        if b == '"'.toUInt8 then
          match readString rest with
          | .error fault => .error fault
          | .ok (key, rest) => .ok (some key, rest)
        else if b == '\x7d'.toUInt8 then .error ⟨.trailingComma, rest⟩
        else .error ⟨.keyNotString, rest⟩
    else .error ⟨.expectedCommaInObject, rest⟩

/-- The colon behind a key. -/
def readColon (input : List UInt8) : Except (Fault Cause) (List UInt8) :=
  match skipSpace input with
  | [] => .error ⟨.endInObject, []⟩
  | b :: rest => if b == ':'.toUInt8 then .ok rest else .error ⟨.expectedColon, rest⟩

/-- The items of an array from one that is known to be there. Each item takes at least one byte, so
`fuel` can be the number of bytes. -/
def readItems (readItem : List UInt8 → Reading Json) :
    Nat → List UInt8 → Except (Fault Cause) (List Json × List UInt8)
  | 0, input => .error ⟨.endInArray, input⟩
  | fuel + 1, input => do
    let (item, rest) ← readItem input
    let (more, rest) ← nextItem rest
    if more then
      let (items, rest) ← readItems readItem fuel rest
      return (item :: items, rest)
    else return ([item], rest)

/-- The members of an object as written, from one whose key has been read. -/
def readMembers (readItem : List UInt8 → Reading Json) :
    Nat → String → List UInt8 → Except (Fault Cause) (List (String × Json) × List UInt8)
  | 0, _, input => .error ⟨.endInObject, input⟩
  | fuel + 1, key, input => do
    let rest ← readColon input
    let (value, rest) ← readItem rest
    match ← nextKey rest with
    | (some next, rest) =>
      let (members, rest) ← readMembers readItem fuel next rest
      return ((key, value) :: members, rest)
    | (none, rest) => return ([(key, value)], rest)

/-- Read a value with room for `depth` levels, itself included if it is an array or an object:
opening the last one is a fault. -/
def readValue : Nat → List UInt8 → Except (Fault Cause) (Json × List UInt8)
  | 0, input => .error (.peek .tooDeep (skipSpace input))
  | depth + 1, input =>
    match skipSpace input with
    | [] => .error ⟨.endInValue, []⟩
    | b :: rest =>
      if b == 'n'.toUInt8 then do
        let rest ← readWord ['u', 'l', 'l'] rest
        return (.null, rest)
      else if b == 't'.toUInt8 then do
        let rest ← readWord ['r', 'u', 'e'] rest
        return (.bool true, rest)
      else if b == 'f'.toUInt8 then do
        let rest ← readWord ['a', 'l', 's', 'e'] rest
        return (.bool false, rest)
      else if b == '-'.toUInt8 || isDigitByte b then do
        let (n, rest) ← readNumber (b :: rest)
        return (.number n, rest)
      else if b == '"'.toUInt8 then do
        let (text, rest) ← readString rest
        return (.string text, rest)
      else if b == '['.toUInt8 then
        if depth == 0 then .error ⟨.tooDeep, rest⟩
        else do
          match ← firstItem rest with
          | (true, rest) =>
            let (items, rest) ← readItems (readValue depth) rest.length rest
            return (.array items, rest)
          | (false, rest) => return (.array [], rest)
      else if b == '\x7b'.toUInt8 then
        if depth == 0 then .error ⟨.tooDeep, rest⟩
        else do
          match ← firstKey rest with
          | (some key, rest) =>
            let (members, rest) ← readMembers (readValue depth) rest.length key rest
            return (.object (Members.ofList members), rest)
          | (none, rest) => return (.object [], rest)
      else .error ⟨.expectedValue, rest⟩

/-- The room of a reader at the start of a text; one level is never filled. -/
def depthLimit : Nat := 128

/-- Nothing but blanks up to the end of the text. -/
def readEnd (input : List UInt8) : Except (Fault Cause) Unit :=
  match skipSpace input with
  | [] => .ok ()
  | _ :: rest => .error ⟨.trailingCharacters, rest⟩

/-- Read a text that is one value. -/
def readDocument (input : List UInt8) : Except (Fault Cause) Json := do
  let (value, rest) ← readValue depthLimit input
  readEnd rest
  return value

/-- Read a text that is one value, with the place of the fault if it is none. -/
def read (input : List UInt8) : Except (Located Cause) Json :=
  (readDocument input).mapError (·.locate input)

/-- Read a text that is one value, with the place of the fault if it is none. -/
def readText (text : String) : Except (Located Cause) Json :=
  read (Text.Utf8.encode text)

end FactoryBundler.Json
