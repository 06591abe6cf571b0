import FactoryBundler.Decimal.Double
import FactoryBundler.Json.Members

/-!
# JSON values

A value keeps what its text shows: the order of an object's members and whether a number was
written as an integer. Equality is equality of everything kept and is decided by `Json.same`.
`Json.depth` counts how deep arrays and objects are nested.
-/

namespace FactoryBundler

/-- A JSON number: an integer of at most 64 bits, or a double. -/
inductive Number where
  | integer (n : Int)
  | double (d : Decimal.Double)
deriving Repr, DecidableEq

/-- A JSON value, with the members of its objects in order. -/
inductive Json where
  | null
  | bool (b : Bool)
  | number (n : Number)
  | string (s : String)
  | array (items : List Json)
  | object (members : List (String × Json))
deriving Repr, Inhabited

namespace Json

mutual

/-- Whether two values are equal. -/
def same : Json → Json → Bool
  | .null, .null => true
  | .bool a, .bool b => a == b
  | .number a, .number b => a == b
  | .string a, .string b => a == b
  | .array a, .array b => sameItems a b
  | .object a, .object b => sameMembers a b
  | _, _ => false

/-- Whether two lists of values are equal. -/
def sameItems : List Json → List Json → Bool
  | [], [] => true
  | a :: as, b :: bs => same a b && sameItems as bs
  | _, _ => false

/-- Whether two lists of members are equal, keys and order included. -/
def sameMembers : List (String × Json) → List (String × Json) → Bool
  | [], [] => true
  | (k, a) :: as, (l, b) :: bs => k == l && same a b && sameMembers as bs
  | _, _ => false

end

mutual

theorem eq_of_same : ∀ {a b : Json}, same a b = true → a = b
  | a, b, h => by
    cases a <;> cases b <;> simp only [same, Bool.false_eq_true, beq_iff_eq] at h <;>
      first
        | rfl
        | exact congrArg _ h
        | exact congrArg _ (eq_of_sameItems h)
        | exact congrArg _ (eq_of_sameMembers h)

theorem eq_of_sameItems : ∀ {a b : List Json}, sameItems a b = true → a = b
  | [], [], _ => rfl
  | a :: as, b :: bs, h => by
    simp only [sameItems, Bool.and_eq_true] at h
    rw [eq_of_same h.1, eq_of_sameItems h.2]

theorem eq_of_sameMembers : ∀ {a b : List (String × Json)}, sameMembers a b = true → a = b
  | [], [], _ => rfl
  | (k, a) :: as, (l, b) :: bs, h => by
    simp only [sameMembers, Bool.and_eq_true, beq_iff_eq] at h
    rw [h.1.1, eq_of_same h.1.2, eq_of_sameMembers h.2]

end

mutual

theorem same_refl : ∀ a : Json, same a a = true
  | .null => rfl
  | .bool a => by simp [same]
  | .number a => by simp [same]
  | .string a => by simp [same]
  | .array a => by simpa [same] using sameItems_refl a
  | .object a => by simpa [same] using sameMembers_refl a

theorem sameItems_refl : ∀ a : List Json, sameItems a a = true
  | [] => rfl
  | a :: as => by simp [sameItems, same_refl a, sameItems_refl as]

theorem sameMembers_refl : ∀ a : List (String × Json), sameMembers a a = true
  | [] => rfl
  | (k, a) :: as => by simp [sameMembers, same_refl a, sameMembers_refl as]

end

instance : DecidableEq Json := fun a b =>
  if h : same a b = true then isTrue (eq_of_same h)
  else isFalse fun equal => h (equal ▸ same_refl a)

mutual

/-- How deep arrays and objects are nested: a scalar has depth zero, an empty array or object
depth one. -/
def depth : Json → Nat
  | .array items => depthItems items + 1
  | .object members => depthMembers members + 1
  | _ => 0

/-- The greatest depth of the items. -/
def depthItems : List Json → Nat
  | [] => 0
  | item :: more => max (depth item) (depthItems more)

/-- The greatest depth of the members' values. -/
def depthMembers : List (String × Json) → Nat
  | [] => 0
  | (_, value) :: more => max (depth value) (depthMembers more)

end

/-- The members of an object. -/
def members? : Json → Option (List (String × Json))
  | .object members => some members
  | _ => none

/-- The text of a string. -/
def text? : Json → Option String
  | .string s => some s
  | _ => none

/-- The value of a key; none where the value is no object or lacks the key. -/
def get? (key : String) : Json → Option Json
  | .object members => members.lookup key
  | _ => none

/-- A text or, where it is absent, null. -/
def ofOption : Option String → Json
  | some s => .string s
  | none => .null

end Json

end FactoryBundler
