import FactoryBundler.Json.Reader

/-!
# Skimming JSON

Reading past a value that nobody asked for. The syntax is checked, but nothing is built: strings
need not be UTF-8, escapes need not pair up, numbers have no range, and there is no limit on depth.
Faults are reported as they would be met without a plan of what comes next: a comma is followed by
an item or a key, whatever closes there.
-/

namespace FactoryBundler.Json

/-- An array or an object that is still open. -/
inductive Bracket where
  | array
  | object
deriving Repr, DecidableEq

/-- Past the rest of a string, its opening quote being read. -/
def skimString (input : List UInt8) : Except (Fault Cause) (List UInt8) :=
  match input with
  | [] => .error ⟨.endInString, []⟩
  | b :: rest =>
    if b == '"'.toUInt8 then .ok rest
    else if b == '\\'.toUInt8 then
      match rest with
      | [] => .error ⟨.endInString, []⟩
      | e :: rest =>
        if (letterEscape? e).isSome then skimString rest
        else if e == 'u'.toUInt8 then
          match _hex : readHex4 rest with
          | .error fault => .error fault
          | .ok (_, rest') => skimString rest'
        else .error ⟨.invalidEscape, rest⟩
    else if b < 0x20 then .error ⟨.controlCharacter, b :: rest⟩
    else skimString rest
termination_by input.length
decreasing_by
  · simp only [List.length_cons]
    omega
  · have := length_of_readHex4 _hex
    simp only [List.length_cons]
    omega
  · simp only [List.length_cons]
    omega

/-- Past a key, its opening quote and the colon behind it. -/
def skimKey (input : List UInt8) : Except (Fault Cause) (List UInt8) :=
  match skipSpace input with
  | [] => .error ⟨.endInObject, []⟩
  | b :: rest =>
    if b == '"'.toUInt8 then do readColon (← skimString rest)
    else .error ⟨.keyNotString, rest⟩

/-- Past a scalar. -/
def skimScalar (b : UInt8) (rest : List UInt8) : Except (Fault Cause) (List UInt8) :=
  if b == 'n'.toUInt8 then readWord ['u', 'l', 'l'] rest
  else if b == 't'.toUInt8 then readWord ['r', 'u', 'e'] rest
  else if b == 'f'.toUInt8 then readWord ['a', 'l', 's', 'e'] rest
  else if b == '"'.toUInt8 then skimString rest
  else if b == '-'.toUInt8 || isDigitByte b then
    (scanNumeral .invalidNumber (b :: rest)).map Prod.snd
  else .error ⟨.expectedValue, rest⟩

/-- What a skimming reader looks for next. -/
inductive Skim where
  /-- A value. -/
  | value
  /-- The first item or member of the innermost bracket, or its end. -/
  | first
  /-- Whatever follows a value. -/
  | next
deriving Repr, DecidableEq

/-- Past a value and everything that is still open around it, the innermost bracket first. Each
step but the one into a bracket takes at least one byte, so `fuel` can be twice the number of
bytes and one more. -/
def skimFrom : Nat → Skim → List Bracket → List UInt8 → Except (Fault Cause) (List UInt8)
  | 0, _, _, input => .error ⟨.endInValue, input⟩
  | fuel + 1, .value, brackets, input =>
    match skipSpace input with
    | [] => .error ⟨.endInValue, []⟩
    | b :: rest =>
      if b == '['.toUInt8 then skimFrom fuel .first (.array :: brackets) rest
      else if b == '\x7b'.toUInt8 then skimFrom fuel .first (.object :: brackets) rest
      else do skimFrom fuel .next brackets (← skimScalar b rest)
  | _ + 1, .first, [], input => .ok input
  | fuel + 1, .first, .array :: brackets, input =>
    match skipSpace input with
    | [] => .error ⟨.endInArray, []⟩
    | b :: rest =>
      if b == ']'.toUInt8 then skimFrom fuel .next brackets rest
      else skimFrom fuel .value (.array :: brackets) (b :: rest)
  | fuel + 1, .first, .object :: brackets, input =>
    match skipSpace input with
    | [] => .error ⟨.endInObject, []⟩
    | b :: rest =>
      if b == '\x7d'.toUInt8 then skimFrom fuel .next brackets rest
      else do skimFrom fuel .value (.object :: brackets) (← skimKey (b :: rest))
  | _ + 1, .next, [], input => .ok input
  | fuel + 1, .next, .array :: brackets, input =>
    match skipSpace input with
    | [] => .error ⟨.endInArray, []⟩
    | b :: rest =>
      if b == ','.toUInt8 then skimFrom fuel .value (.array :: brackets) rest
      else if b == ']'.toUInt8 then skimFrom fuel .next brackets rest
      else .error ⟨.expectedCommaInArray, rest⟩
  | fuel + 1, .next, .object :: brackets, input =>
    match skipSpace input with
    | [] => .error ⟨.endInObject, []⟩
    | b :: rest =>
      if b == ','.toUInt8 then do skimFrom fuel .value (.object :: brackets) (← skimKey rest)
      else if b == '\x7d'.toUInt8 then skimFrom fuel .next brackets rest
      else .error ⟨.expectedCommaInObject, rest⟩

/-- Past one value. -/
def skimValue (input : List UInt8) : Except (Fault Cause) (List UInt8) :=
  skimFrom (2 * input.length + 2) .value [] input

end FactoryBundler.Json
