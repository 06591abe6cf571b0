import FactoryBundler.Json.Printer

/-!
# The compact layout

The first character of a written value tells its kind, and behind an item or a member comes a comma
or the closing bracket. With that the writer's three functions are seen as one pass from left to
right: `itemsTail` and `membersTail` are what is still to be written behind an item or a member.
-/

namespace FactoryBundler.Json

/-! ## Digits -/

theorem toNat_of_isDigit {c : Char} (h : c.isDigit = true) : 0x30 ≤ c.toNat ∧ c.toNat ≤ 0x39 := by
  simpa [Char.isDigit, UInt32.le_iff_toNat_le] using h

/-- What holds of the ten digits holds of every digit. -/
theorem forall_isDigit {p : Char → Prop} (h : ∀ n < 10, p (Char.ofNat (n + 0x30))) {c : Char}
    (digit : c.isDigit = true) : p c := by
  obtain ⟨low, high⟩ := toNat_of_isDigit digit
  have this := h (c.toNat - 0x30) (by omega)
  rwa [Nat.sub_add_cancel low, Char.ofNat_toNat] at this

theorem isDigit_of_mem {n : Nat} {c : Char} (h : c ∈ Nat.toDigits 10 n) : c.isDigit = true :=
  Nat.isDigit_of_mem_toDigits (by decide) (by decide) h

/-! ## Numerals -/

/-- The characters that numerals consist of. -/
def numeralChars : List Char :=
  ['-', '+', '.', 'e', 'E', '0', '1', '2', '3', '4', '5', '6', '7', '8', '9']

theorem toDigits_subset (n : Nat) : Nat.toDigits 10 n ⊆ numeralChars := by
  intro c h
  exact forall_isDigit (p := (· ∈ numeralChars)) (by decide) (isDigit_of_mem h)

theorem dropTrailingZeros_subset (digits : List Char) :
    Decimal.dropTrailingZeros digits ⊆ digits := by
  intro c h
  rw [Decimal.dropTrailingZeros, List.mem_reverse] at h
  exact List.mem_reverse.mp ((List.dropWhile_sublist _).subset h)

theorem numeral_chars_subset (numeral : Decimal.Numeral) : numeral.chars ⊆ numeralChars := by
  have digits := List.Subset.trans (dropTrailingZeros_subset _) (toDigits_subset numeral.digits)
  have zeros (count : Nat) : List.replicate count '0' ⊆ numeralChars := by
    intro c h
    rw [List.eq_of_mem_replicate h]
    decide
  unfold Decimal.Numeral.chars
  dsimp only
  generalize Decimal.dropTrailingZeros (Nat.toDigits 10 numeral.digits) = shown at digits ⊢
  split
  · split
    · exact List.append_subset.mpr ⟨List.append_subset.mpr ⟨digits, zeros _⟩, by decide⟩
    · exact List.append_subset.mpr ⟨List.append_subset.mpr
        ⟨List.Subset.trans (List.take_subset _ _) digits, by decide⟩,
        List.Subset.trans (List.drop_subset _ _) digits⟩
  · split
    · exact List.append_subset.mpr ⟨List.append_subset.mpr ⟨by decide, zeros _⟩, digits⟩
    · refine List.append_subset.mpr ⟨List.append_subset.mpr ⟨?_, ?_⟩, toDigits_subset _⟩
      · split
        · exact List.nil_subset _
        · exact digits
        · rw [List.cons_subset] at digits ⊢
          exact ⟨digits.1, List.cons_subset.mpr ⟨by decide, digits.2⟩⟩
      · split <;> decide

theorem numeral_chars_ne_nil (numeral : Decimal.Numeral) : numeral.chars ≠ [] := by
  unfold Decimal.Numeral.chars
  dsimp only
  split
  · split <;> simp
  · split <;> simp

theorem numberChars_subset (n : Number) : numberChars n ⊆ numeralChars := by
  have minus (negative : Prop) [Decidable negative] :
      (if negative then ['-'] else []) ⊆ numeralChars := by
    split <;> decide
  cases n with
  | integer i => exact List.append_subset.mpr ⟨minus _, toDigits_subset _⟩
  | double d =>
      refine List.append_subset.mpr ⟨minus _, ?_⟩
      split
      · decide
      · exact numeral_chars_subset _

theorem numberChars_ne_nil (n : Number) : numberChars n ≠ [] := by
  cases n with
  | integer i => simp [numberChars]
  | double d =>
      apply List.append_ne_nil_of_right_ne_nil
      split
      · decide
      · exact numeral_chars_ne_nil _

/-! ## First characters -/

/-- The kinds of values. -/
inductive Kind where
  | null
  | bool
  | number
  | string
  | array
  | object
deriving Repr, DecidableEq

/-- The kind of a value. -/
def kind : Json → Kind
  | .null => .null
  | .bool _ => .bool
  | .number _ => .number
  | .string _ => .string
  | .array _ => .array
  | .object _ => .object

/-- The kind of value that begins with a character. -/
def kindOfFirst (c : Char) : Kind :=
  if c == 'n' then .null
  else if c == 't' || c == 'f' then .bool
  else if c == '"' then .string
  else if c == '[' then .array
  else if c == '\x7b' then .object
  else .number

/-- The characters that values begin with. -/
def firstChars : List Char :=
  ['n', 't', 'f', '"', '[', '\x7b'] ++ numeralChars

/-- The first character of a written value tells its kind. -/
theorem compactChars_eq_cons (value : Json) :
    ∃ c more, compactChars value = c :: more ∧ c ∈ firstChars ∧ kindOfFirst c = value.kind := by
  cases value with
  | null => exact ⟨'n', ['u', 'l', 'l'], rfl, by decide, rfl⟩
  | bool b =>
      cases b with
      | false => exact ⟨'f', ['a', 'l', 's', 'e'], rfl, by decide, rfl⟩
      | true => exact ⟨'t', ['r', 'u', 'e'], rfl, by decide, rfl⟩
  | number n =>
      obtain ⟨c, more, chars⟩ := List.exists_cons_of_ne_nil (numberChars_ne_nil n)
      have inNumeral : c ∈ numeralChars := numberChars_subset n (chars ▸ List.mem_cons_self)
      have all : numeralChars.all (fun c => kindOfFirst c == .number) = true := by decide
      have isNumber : kindOfFirst c = .number := by simpa using List.all_eq_true.mp all c inNumeral
      exact ⟨c, more, chars, List.mem_append_right _ inNumeral, isNumber⟩
  | string s => exact ⟨'"', _, rfl, by decide, rfl⟩
  | array items => exact ⟨'[', _, rfl, by decide, rfl⟩
  | object members => exact ⟨'\x7b', _, rfl, by decide, rfl⟩

/-! ## Tails -/

/-- What is written behind an item: the other items and the closing bracket. -/
def itemsTail : List Json → List Char
  | [] => [']']
  | item :: more => ',' :: (compactChars item ++ itemsTail more)

/-- What is written behind a member: the other members and the closing brace. -/
def membersTail : List (String × Json) → List Char
  | [] => ['\x7d']
  | (key, value) :: more =>
    ',' :: (stringChars key ++ ':' :: (compactChars value ++ membersTail more))

theorem compactItems_append_bracket (item : Json) (more : List Json) :
    compactItems (item :: more) ++ [']'] = compactChars item ++ itemsTail more := by
  induction more generalizing item with
  | nil => rfl
  | cons next more ih =>
      rw [compactItems, List.append_assoc, List.cons_append, ih next, itemsTail]
      exact List.cons_ne_nil _ _

theorem compactMembers_append_brace (key : String) (value : Json)
    (more : List (String × Json)) :
    compactMembers ((key, value) :: more) ++ ['\x7d'] =
      stringChars key ++ ':' :: (compactChars value ++ membersTail more) := by
  induction more generalizing key value with
  | nil => simp [compactMembers, membersTail]
  | cons next more ih =>
      obtain ⟨nextKey, nextValue⟩ := next
      rw [compactMembers, List.append_assoc, List.cons_append, List.append_assoc,
        List.cons_append, ih nextKey nextValue, membersTail]
      exact List.cons_ne_nil _ _

theorem compactChars_array_cons (item : Json) (more : List Json) :
    compactChars (.array (item :: more)) = '[' :: (compactChars item ++ itemsTail more) := by
  rw [compactChars, compactItems_append_bracket]

theorem compactChars_object_cons (key : String) (value : Json) (more : List (String × Json)) :
    compactChars (.object ((key, value) :: more)) =
      '\x7b' :: (stringChars key ++ ':' :: (compactChars value ++ membersTail more)) := by
  rw [compactChars, compactMembers_append_brace]

end FactoryBundler.Json
