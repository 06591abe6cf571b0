/-!
# Faults of a JSON text

A fault is a cause together with what was still unread when it was found; everything before that
is consumed. The position reported for it is the line and the column at the end of the consumed
bytes, so a fault that is found by looking at a byte counts that byte as consumed.
-/

namespace FactoryBundler.Json

/-- What can be wrong with a JSON text. -/
inductive Cause where
  /-- The text ends where a value is due, or inside a literal or a number. -/
  | endInValue
  /-- The text ends after `[` or after an item. -/
  | endInArray
  /-- The text ends after an opening brace, after a key or after a member. -/
  | endInObject
  /-- The text ends inside a string. -/
  | endInString
  | expectedValue
  /-- A letter other than the next one of `null`, `true` or `false`. -/
  | expectedWord
  | invalidNumber
  | numberOutOfRange
  | keyNotString
  | expectedColon
  | expectedCommaInArray
  | expectedCommaInObject
  | trailingComma
  | trailingCharacters
  | controlCharacter
  | invalidEscape
  /-- A low surrogate without a high one before it, or a high one before no low one. -/
  | loneSurrogate
  /-- A high surrogate with no second escape after it. -/
  | unfinishedSurrogates
  /-- Bytes that are no UTF-8. -/
  | invalidCodePoint
  /-- More open arrays and objects than a reader keeps track of. -/
  | tooDeep
deriving Repr, DecidableEq

/-- The wording of a cause. -/
def Cause.message : Cause → String
  | .endInValue => "EOF while parsing a value"
  | .endInArray => "EOF while parsing a list"
  | .endInObject => "EOF while parsing an object"
  | .endInString => "EOF while parsing a string"
  | .expectedValue => "expected value"
  | .expectedWord => "expected ident"
  | .invalidNumber => "invalid number"
  | .numberOutOfRange => "number out of range"
  | .keyNotString => "key must be a string"
  | .expectedColon => "expected \x60:\x60"
  | .expectedCommaInArray => "expected \x60,\x60 or \x60]\x60"
  | .expectedCommaInObject => "expected \x60,\x60 or \x60\x7d\x60"
  | .trailingComma => "trailing comma"
  | .trailingCharacters => "trailing characters"
  | .controlCharacter => "control character (\\u0000-\\u001F) found while parsing a string"
  | .invalidEscape => "invalid escape"
  | .loneSurrogate => "lone leading surrogate in hex escape"
  | .unfinishedSurrogates => "unexpected end of hex escape"
  | .invalidCodePoint => "invalid unicode code point"
  | .tooDeep => "recursion limit exceeded"

/-- A cause of kind `κ` and the bytes that were unread when it was found. -/
structure Fault (κ : Type) where
  cause : κ
  unread : List UInt8
deriving Repr, DecidableEq

/-- A fault found by looking at the next byte, if there is one. -/
def Fault.peek {κ : Type} (cause : κ) (unread : List UInt8) : Fault κ :=
  ⟨cause, unread.drop 1⟩

/-- What a reader makes of the front of a text: a value and the rest, or a fault. -/
abbrev Reading (α : Type) : Type :=
  Except (Fault Cause) (α × List UInt8)

/-- A place in a text: the line, counted from one, and the number of bytes read of it. -/
structure Position where
  line : Nat
  column : Nat
deriving Repr, DecidableEq

/-- The place reached by consuming the bytes. -/
def Position.after (consumed : List UInt8) : Position :=
  ⟨consumed.count '\n'.toUInt8 + 1, (consumed.reverse.takeWhile (· != '\n'.toUInt8)).length⟩

/-- A cause with its place in the text. -/
structure Located (κ : Type) where
  cause : κ
  position : Position
deriving Repr, DecidableEq

/-- The place of a fault found in `input`. -/
def Fault.locate {κ : Type} (input : List UInt8) (fault : Fault κ) : Located κ :=
  ⟨fault.cause, .after (input.take (input.length - fault.unread.length))⟩

/-- A wording with its place in the text. -/
def Position.describe (position : Position) (wording : String) : String :=
  s!"{wording} at line {position.line} column {position.column}"

/-- The wording of a cause with its place. -/
def Located.message (error : Located Cause) : String :=
  error.position.describe error.cause.message

end FactoryBundler.Json
