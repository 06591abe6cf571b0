import FactoryBundler.Text.CaseTable

/-!
# Letter case

Whether a character is an upper- or lower-case letter, and what it becomes in the other case.
The mappings are the full unconditional ones: a character may become several (`ß` becomes `SS`)
and a mapping never looks at its neighbours, so `Σ` always becomes `σ`.
-/

namespace FactoryBundler.Text

/-- Whether `n` lies on one of the runs. -/
def onRun (runs : List (Nat × Nat × Nat)) (n : Nat) : Bool :=
  runs.any fun (first, last, stride) => first ≤ n && n ≤ last && (n - first) % stride == 0

/-- The derived property Uppercase. -/
def isUpper (c : Char) : Bool :=
  onRun upperRuns c.toNat

/-- The derived property Lowercase. -/
def isLower (c : Char) : Bool :=
  onRun lowerRuns c.toNat

/-- One of the ten ASCII digits. -/
def isDigit (c : Char) : Bool :=
  '0' ≤ c && c ≤ '9'

/-- Map one character: by its own entry if it has one, else by the run that it lies on, else to
itself. -/
def mapCase (several : List (Nat × List Nat)) (runs : List (Nat × Nat × Nat × Int)) (c : Char) :
    List Char :=
  match several.lookup c.toNat with
  | some codes => codes.map Char.ofNat
  | none =>
    match runs.find? fun (first, last, stride, _) =>
        first ≤ c.toNat && c.toNat ≤ last && (c.toNat - first) % stride == 0 with
    | some (_, _, _, distance) => [Char.ofNat (c.toNat + distance).toNat]
    | none => [c]

/-- The lower case of a character. -/
def toLower (c : Char) : List Char :=
  mapCase toLowerSeveral toLowerRuns c

/-- The upper case of a character. -/
def toUpper (c : Char) : List Char :=
  mapCase toUpperSeveral toUpperRuns c

/-- The first character in upper case, the others in lower case. -/
def capitalizeChars : List Char → List Char
  | [] => []
  | first :: rest => toUpper first ++ rest.flatMap toLower

/-- A word with its first character in upper case and the others in lower case. -/
def capitalize (word : String) : String :=
  String.ofList (capitalizeChars word.toList)

/-- The lower case of the ASCII letters; every other character stays. -/
def lowerAscii (c : Char) : Char :=
  if 'A' ≤ c ∧ c ≤ 'Z' then Char.ofNat (c.toNat + 32) else c

end FactoryBundler.Text
