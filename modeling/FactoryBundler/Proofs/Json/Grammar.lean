import FactoryBundler.Json.Reader
import FactoryBundler.Proofs.Json.Integers
import FactoryBundler.Proofs.Json.Strings

/-!
# The grammar of JSON texts

Which bytes spell which value, said without a reader. A token is a text without blanks around it;
`IsString`, `IsNumber`, `IsScalar` and `IsValue` relate a token to what it stands for, `Elements`
and `Bracketed` put tokens together, with blanks and commas between them, and `IsDocument` is a
whole text. `IsLoose` is the grammar of values that are skimmed: of them no more than the shape is
looked at, down to any depth.
-/

namespace FactoryBundler.Json

/-- A text of blanks. -/
def IsSpace (text : List UInt8) : Prop :=
  ∀ b ∈ text, isSpaceByte b = true

/-! ## Strings -/

/-- Four hexadecimal digits and the number that they spell. -/
inductive IsHex4 : List UInt8 → Nat → Prop
  | digits {a b c d : UInt8} {i j k l : Nat} (first : hexDigit? a = some i)
      (second : hexDigit? b = some j) (third : hexDigit? c = some k)
      (fourth : hexDigit? d = some l) : IsHex4 [a, b, c, d] (((i * 16 + j) * 16 + k) * 16 + l)

/-- The first half of a pair of escapes for one character. -/
def IsHighSurrogate (code : Nat) : Prop := 0xD800 ≤ code ∧ code ≤ 0xDBFF

/-- The second half of a pair of escapes for one character. -/
def IsLowSurrogate (code : Nat) : Prop := 0xDC00 ≤ code ∧ code ≤ 0xDFFF

/-- What may stand behind a backslash, and the character that it stands for. -/
inductive IsEscape : Char → List UInt8 → Prop
  | letter {b : UInt8} {c : Char} (isLetter : letterEscape? b = some c) : IsEscape c [b]
  | code {digits : List UInt8} {code : Nat} (spelled : IsHex4 digits code)
      (notHigh : ¬ IsHighSurrogate code) (notLow : ¬ IsLowSurrogate code) :
      IsEscape (Char.ofNat code) ('u'.toUInt8 :: digits)
  | pair {digits digits' : List UInt8} {high low : Nat} (spelled : IsHex4 digits high)
      (spelled' : IsHex4 digits' low) (isHigh : IsHighSurrogate high) (isLow : IsLowSurrogate low) :
      IsEscape (Char.ofNat (0x10000 + (high - 0xD800) * 0x400 + (low - 0xDC00)))
        ('u'.toUInt8 :: (digits ++ '\\'.toUInt8 :: 'u'.toUInt8 :: digits'))

/-- What stands between two quotes, and the bytes that it spells. -/
inductive Spelling : List UInt8 → List UInt8 → Prop
  | nil : Spelling [] []
  | plain {b : UInt8} {inside bytes : List UInt8} (plain : isPlain b = true)
      (more : Spelling inside bytes) : Spelling (b :: inside) (b :: bytes)
  | escape {c : Char} {escape inside bytes : List UInt8} (isEscape : IsEscape c escape)
      (more : Spelling inside bytes) :
      Spelling ('\\'.toUInt8 :: (escape ++ inside)) (String.utf8EncodeChar c ++ bytes)

/-- A string between its quotes. What it spells has to be UTF-8. -/
inductive IsString (s : String) : List UInt8 → Prop
  | quoted {inside : List UInt8} (spelling : Spelling inside (Text.Utf8.encode s)) :
      IsString s ('"'.toUInt8 :: (inside ++ ['"'.toUInt8]))

/-! ## Numbers -/

/-- Digits, if there are any. -/
def AllDigits (digits : List UInt8) : Prop :=
  ∀ b ∈ digits, isDigitByte b = true

/-- Whole digits do not begin with a zero unless it is the only one. -/
structure IsWhole (digits : List UInt8) : Prop where
  all : AllDigits digits
  nonempty : digits ≠ []
  noLeadingZero : ∀ more, digits = '0'.toUInt8 :: more → more = []

/-- The digits behind the point, and the point if there are any. -/
def fractionBytes (digits : List UInt8) : List UInt8 :=
  if digits = [] then [] else '.'.toUInt8 :: digits

/-- An exponent: a mark, a sign that may be left out if it is plus, and digits. -/
inductive IsExponent : Option (Bool × List UInt8) → List UInt8 → Prop
  | none : IsExponent none []
  | unsigned {mark : UInt8} {digits : List UInt8} (isMark : mark = 'e'.toUInt8 ∨ mark = 'E'.toUInt8)
      (all : AllDigits digits) (nonempty : digits ≠ []) :
      IsExponent (some (false, digits)) (mark :: digits)
  | plus {mark : UInt8} {digits : List UInt8} (isMark : mark = 'e'.toUInt8 ∨ mark = 'E'.toUInt8)
      (all : AllDigits digits) (nonempty : digits ≠ []) :
      IsExponent (some (false, digits)) (mark :: '+'.toUInt8 :: digits)
  | minus {mark : UInt8} {digits : List UInt8} (isMark : mark = 'e'.toUInt8 ∨ mark = 'E'.toUInt8)
      (all : AllDigits digits) (nonempty : digits ≠ []) :
      IsExponent (some (true, digits)) (mark :: '-'.toUInt8 :: digits)

/-- A numeral in its parts. -/
inductive IsNumeral (numeral : Numeral) : List UInt8 → Prop
  | parts {exponent : List UInt8} (whole : IsWhole numeral.whole)
      (fraction : AllDigits numeral.fraction) (isExponent : IsExponent numeral.exponent exponent) :
      IsNumeral numeral
        (signBytes numeral.negative ++
          (numeral.whole ++ (fractionBytes numeral.fraction ++ exponent)))

/-- The number that is read from a numeral, or none if it is too large. A number whose exponent is
too large to be counted is a zero if it is small or zero. -/
def Numeral.number? (numeral : Numeral) : Option Number :=
  match numeral.exponent with
  | none => numeral.value
  | some (minus, digits) =>
    if digitsValue digits ≤ greatestCounted then numeral.value
    else if minus = true ∨ digitsValue (numeral.whole ++ numeral.fraction) = 0 then
      some (.double (.zero numeral.negative))
    else none

/-- A numeral that a number is read from. -/
inductive IsNumber (n : Number) (token : List UInt8) : Prop
  | numeral {numeral : Numeral} (spelled : IsNumeral numeral token)
      (isNumber : numeral.number? = some n)

/-! ## Values -/

/-- A literal in bytes. -/
def wordBytes (word : String) : List UInt8 :=
  word.toList.map Char.toUInt8

/-- A value that is neither an array nor an object. -/
inductive IsScalar : Json → List UInt8 → Prop
  | null : IsScalar .null (wordBytes "null")
  | isTrue : IsScalar (.bool true) (wordBytes "true")
  | isFalse : IsScalar (.bool false) (wordBytes "false")
  | number {n : Number} {token : List UInt8} (isNumber : IsNumber n token) :
      IsScalar (.number n) token
  | string {s : String} {token : List UInt8} (isString : IsString s token) :
      IsScalar (.string s) token

section Lists

variable {α : Type}

/-- At least one token of `p`, each with blanks around it and commas between them. -/
inductive Elements (p : α → List UInt8 → Prop) : List α → List UInt8 → Prop
  | last {x : α} {before token after : List UInt8} (space : IsSpace before) (isToken : p x token)
      (space' : IsSpace after) : Elements p [x] (before ++ (token ++ after))
  | more {x : α} {xs : List α} {before token after rest : List UInt8} (space : IsSpace before)
      (isToken : p x token) (space' : IsSpace after) (later : Elements p xs rest) :
      Elements p (x :: xs) (before ++ (token ++ (after ++ ','.toUInt8 :: rest)))

/-- Tokens of `p` in brackets. -/
inductive Bracketed (p : α → List UInt8 → Prop) (opening closing : UInt8) :
    List α → List UInt8 → Prop
  | empty {space : List UInt8} (isSpace : IsSpace space) :
      Bracketed p opening closing [] (opening :: (space ++ [closing]))
  | elements {xs : List α} {inside : List UInt8} (elements : Elements p xs inside) :
      Bracketed p opening closing xs (opening :: (inside ++ [closing]))

theorem Elements.exists_token {p : α → List UInt8 → Prop} {xs : List α} {inside : List UInt8}
    (elements : Elements p xs inside) {x : α} (isElement : x ∈ xs) : ∃ token, p x token := by
  induction elements with
  | last _ isToken _ =>
      cases List.mem_singleton.mp isElement
      exact ⟨_, isToken⟩
  | more _ isToken _ _ ih =>
      rcases List.mem_cons.mp isElement with rfl | later
      · exact ⟨_, isToken⟩
      · exact ih later

/-- The tokens of elements are those of what is made of them. -/
theorem Elements.map {β : Type} {p : α → List UInt8 → Prop} {q : β → List UInt8 → Prop} {f : α → β}
    {xs : List α} {inside : List UInt8} (elements : Elements p xs inside)
    (tokens : ∀ {x token}, p x token → q (f x) token) : Elements q (xs.map f) inside := by
  induction elements with
  | last space isToken space' => exact .last space (tokens isToken) space'
  | more space isToken space' _ ih => exact .more space (tokens isToken) space' ih

/-- What stands in brackets is spelled there. -/
theorem Bracketed.exists_token {p : α → List UInt8 → Prop} {opening closing : UInt8}
    {xs : List α} {token : List UInt8} (bracketed : Bracketed p opening closing xs token) {x : α}
    (isElement : x ∈ xs) : ∃ token, p x token := by
  cases bracketed with
  | empty => cases isElement
  | elements elements => exact elements.exists_token isElement

/-- A member: its key, a colon and a token of `p` for what it holds. -/
inductive IsMember (p : α → List UInt8 → Prop) : String × α → List UInt8 → Prop
  | member {key : String} {x : α} {name before after token : List UInt8}
      (isString : IsString key name) (space : IsSpace before) (space' : IsSpace after)
      (isToken : p x token) :
      IsMember p (key, x) (name ++ (before ++ ':'.toUInt8 :: (after ++ token)))

theorem IsMember.map {β : Type} {p : β → List UInt8 → Prop} {f : α → β} {member : String × α}
    {token : List UInt8} (isMember : IsMember (fun x => p (f x)) member token) :
    IsMember p (Prod.map id f member) token := by
  cases isMember with
  | member isString space space' isToken => exact .member isString space space' isToken

end Lists

/-- A value with arrays and objects in it at most so deep. Of a key that is repeated the first place
and the last value count. -/
def IsValue : Nat → Json → List UInt8 → Prop
  | 0, value, token => IsScalar value token
  | depth + 1, value, token =>
    IsScalar value token ∨
      (∃ items, value = .array items ∧
        Bracketed (IsValue depth) '['.toUInt8 ']'.toUInt8 items token) ∨
      ∃ members, value = .object (Members.ofList members) ∧
        Bracketed (IsMember (IsValue depth)) '\x7b'.toUInt8 '\x7d'.toUInt8 members token

/-- A text that is one value, at most so deep, with blanks around it. -/
inductive IsDocument (depth : Nat) (value : Json) : List UInt8 → Prop
  | document {before token after : List UInt8} (space : IsSpace before)
      (isValue : IsValue depth value token) (space' : IsSpace after) :
      IsDocument depth value (before ++ (token ++ after))

/-! ## Values that are skimmed -/

/-- What may stand behind a backslash. -/
inductive IsLooseEscape : List UInt8 → Prop
  | letter {b : UInt8} (isLetter : (letterEscape? b).isSome = true) : IsLooseEscape [b]
  | code {digits : List UInt8} {code : Nat} (spelled : IsHex4 digits code) :
      IsLooseEscape ('u'.toUInt8 :: digits)

/-- What may stand between two quotes. -/
inductive LooseSpelling : List UInt8 → Prop
  | nil : LooseSpelling []
  | plain {b : UInt8} {inside : List UInt8} (plain : isPlain b = true)
      (more : LooseSpelling inside) : LooseSpelling (b :: inside)
  | escape {escape inside : List UInt8} (isEscape : IsLooseEscape escape)
      (more : LooseSpelling inside) : LooseSpelling ('\\'.toUInt8 :: (escape ++ inside))

/-- A string between its quotes, whatever it spells. -/
inductive IsLooseString : List UInt8 → Prop
  | quoted {inside : List UInt8} (spelling : LooseSpelling inside) :
      IsLooseString ('"'.toUInt8 :: (inside ++ ['"'.toUInt8]))

/-- A scalar, whatever its string spells and however large its number is. -/
inductive IsLooseScalar : List UInt8 → Prop
  | null : IsLooseScalar (wordBytes "null")
  | isTrue : IsLooseScalar (wordBytes "true")
  | isFalse : IsLooseScalar (wordBytes "false")
  | number {numeral : Numeral} {token : List UInt8} (spelled : IsNumeral numeral token) :
      IsLooseScalar token
  | string {token : List UInt8} (isString : IsLooseString token) : IsLooseScalar token

/-- A member whose key is loose, too. -/
inductive IsLooseMember (p : List UInt8 → Prop) : List UInt8 → Prop
  | member {name before after token : List UInt8} (isString : IsLooseString name)
      (space : IsSpace before) (space' : IsSpace after) (isToken : p token) :
      IsLooseMember p (name ++ (before ++ ':'.toUInt8 :: (after ++ token)))

/-- A value that can be skimmed. -/
inductive IsLoose : List UInt8 → Prop
  | scalar {token : List UInt8} (isScalar : IsLooseScalar token) : IsLoose token
  | array {items : List Unit} {token : List UInt8}
      (bracketed : Bracketed (fun _ token => IsLoose token) '['.toUInt8 ']'.toUInt8 items token) :
      IsLoose token
  | object {members : List Unit} {token : List UInt8}
      (bracketed : Bracketed (fun _ token => IsLooseMember IsLoose token) '\x7b'.toUInt8
        '\x7d'.toUInt8 members token) :
      IsLoose token

end FactoryBundler.Json
