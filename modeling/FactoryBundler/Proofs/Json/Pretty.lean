import FactoryBundler.Proofs.Json.Range
import FactoryBundler.Proofs.Json.ReadGrammar
import FactoryBundler.Proofs.Json.Values

/-!
# The pretty layout reads back

Between two brackets the pretty layout puts every token on a line of its own. New lines and
indentation are blanks, so the text is one of the grammar, together with the line that ends it, and
a reader takes it. What it makes of the text is the value with every number as it is read from its
own text: integers are read as they were, and of a double some number is read.
-/

namespace FactoryBundler.Json

open Text.Utf8

variable {value : Json} {depth level : Nat} {s : String} {n : Number}

/-! ## Tokens -/

theorem isString_stringChars (s : String) : IsString s (bytesOf (stringChars s)) := by
  obtain ⟨input, text, read⟩ := readString_stringChars s []
  obtain ⟨name, spelled, isString⟩ := readString_eq_ok_iff_isString.mp read
  rw [List.append_nil] at text spelled
  rw [text, spelled]
  exact isString

theorem isSpace_newline (level : Nat) : IsSpace (bytesOf (newline level)) := by
  have blank : ∀ c ∈ newline level, c = '\n' ∨ c = ' ' := by
    intro c inLine
    rcases List.mem_cons.mp inLine with rfl | indents
    · exact Or.inl rfl
    · exact Or.inr (List.eq_of_mem_replicate indents)
  rw [bytesOf_of_lt fun c inLine => by rcases blank c inLine with rfl | rfl <;> decide]
  intro b inBytes
  obtain ⟨c, inLine, rfl⟩ := List.mem_map.mp inBytes
  rcases blank c inLine with rfl | rfl <;> decide

/-! ## Lines between two brackets -/

section Lists

variable {p : Json → List UInt8 → Prop} {after : List UInt8}

theorem elements_prettyItems {item : Json} {more : List Json} (space : IsSpace after)
    (tokens : ∀ inner ∈ item :: more, p inner (bytesOf (prettyChars level inner))) :
    Elements p (item :: more) (bytesOf (prettyItems level (item :: more)) ++ after) := by
  induction more generalizing item with
  | nil =>
      rw [prettyItems, bytesOf_append, List.append_assoc]
      exact .last (isSpace_newline level) (tokens item List.mem_cons_self) space
  | cons next more ih =>
      rw [List.forall_mem_cons] at tokens
      rw [prettyItems, bytesOf_append, bytesOf_append, bytesOf_cons_of_lt (by decide)]
      · simp only [List.append_assoc, List.cons_append]
        exact .more (isSpace_newline level) tokens.1 isSpace_nil (ih tokens.2)
      · simp

/-- A member is written with its value behind a colon and a blank. -/
theorem isMember_line {key : String} (isToken : p value (bytesOf (prettyChars level value))) :
    IsMember p (key, value)
      (bytesOf (stringChars key ++ [':', ' '] ++ prettyChars level value)) := by
  have colon : bytesOf [':', ' '] = [] ++ ':'.toUInt8 :: ([' '.toUInt8] ++ []) := rfl
  have blank : IsSpace [' '.toUInt8] := by
    intro b isBlank
    rw [List.mem_singleton.mp isBlank]
    decide
  have member := IsMember.member (isString_stringChars key) isSpace_nil blank isToken
  rw [bytesOf_append, bytesOf_append, colon]
  simpa using member

theorem elements_prettyMembers {member : String × Json} {more : List (String × Json)}
    (space : IsSpace after)
    (tokens : ∀ inner ∈ member :: more, p inner.2 (bytesOf (prettyChars level inner.2))) :
    Elements (IsMember p) (member :: more)
      (bytesOf (prettyMembers level (member :: more)) ++ after) := by
  obtain ⟨key, value⟩ := member
  induction more generalizing key value with
  | nil =>
      have line : IsMember p (key, value) _ := isMember_line (tokens _ List.mem_cons_self)
      rw [prettyMembers, List.append_assoc, List.append_assoc, bytesOf_append, List.append_assoc,
        ← List.append_assoc (stringChars key)]
      exact .last (isSpace_newline level) line space
  | cons next more ih =>
      obtain ⟨nextKey, nextValue⟩ := next
      rw [List.forall_mem_cons] at tokens
      have line : IsMember p (key, value) _ := isMember_line tokens.1
      have elements := Elements.more (isSpace_newline level) line isSpace_nil
        (ih nextKey nextValue tokens.2)
      rw [prettyMembers, bytesOf_append, bytesOf_cons_of_lt (by decide)]
      · rw [bytesOf_append, bytesOf_append] at elements ⊢
        simpa using elements
      · simp

end Lists

/-! ## Numbers that are read again -/

instance : DecidablePred Decimal.Double.InFormat := fun d =>
  decidable_of_iff (d.significand < 2 ^ 53 ∧
      (2 ^ 52 ≤ d.significand ∨ d.exponent = Decimal.leastExponent) ∧
      Decimal.leastExponent ≤ d.exponent ∧ d.exponent ≤ Decimal.greatestExponent)
    ⟨fun ⟨small, normal, least, greatest⟩ => ⟨small, normal, least, greatest⟩,
      fun inFormat => ⟨inFormat.small, inFormat.normal, inFormat.least, inFormat.greatest⟩⟩

/-- What is read from the text of a number. -/
def rereadNumber (n : Number) : Number :=
  match readNumber (bytesOf (numberChars n)) with
  | .ok (reread, _) => reread
  | .error _ => n

theorem rereadNumber_eq {n' : Number} (isNumber : IsNumber n' (bytesOf (numberChars n))) :
    rereadNumber n = n' := by
  have read := readNumber_of_isNumber isNumber endsNumber_nil
  rw [List.append_nil] at read
  rw [rereadNumber, read]

theorem rereadNumber_integer {i : Int} (within : isWithin64Bits i = true) :
    rereadNumber (.integer i) = .integer i := by
  have read := readNumber_integer within endsNumber_nil
  rw [List.append_nil] at read
  rw [rereadNumber, read]

/-- Whether a number is one that is read. -/
def isReadable : Json → Bool
  | .number (.integer i) => isWithin64Bits i
  | .number (.double d) => decide d.InFormat
  | _ => true

/-- A number that is readable is read again from its own text. -/
theorem isNumber_rereadNumber (readable : isReadable (.number n) = true) :
    IsNumber (rereadNumber n) (bytesOf (numberChars n)) := by
  obtain ⟨n', isNumber⟩ : ∃ n', IsNumber n' (bytesOf (numberChars n)) := by
    cases n with
    | integer i =>
        have read := readNumber_integer readable endsNumber_nil
        obtain ⟨token, text, isNumber⟩ := isNumber_of_readNumber read
        rw [List.append_nil, List.append_nil] at text
        rw [text]
        exact ⟨_, isNumber⟩
    | double d => exact exists_isNumber_double (of_decide_eq_true readable)
  rw [rereadNumber_eq isNumber]
  exact isNumber

mutual

/-- A value with every number as it is read from its own text. -/
def reread : Json → Json
  | .number n => .number (rereadNumber n)
  | .array items => .array (rereadItems items)
  | .object members => .object (rereadMembers members)
  | .null => .null
  | .bool b => .bool b
  | .string s => .string s

/-- Items with every number as it is read from its own text. -/
def rereadItems : List Json → List Json
  | [] => []
  | item :: more => reread item :: rereadItems more

/-- Members with every number as it is read from its own text. -/
def rereadMembers : List (String × Json) → List (String × Json)
  | [] => []
  | (key, value) :: more => (key, reread value) :: rereadMembers more

end

theorem rereadItems_eq (items : List Json) : rereadItems items = items.map reread := by
  induction items with
  | nil => rfl
  | cons item more ih => rw [rereadItems, ih, List.map_cons]

theorem rereadMembers_eq (members : List (String × Json)) :
    rereadMembers members = members.map (Prod.map id reread) := by
  induction members with
  | nil => rfl
  | cons member more ih =>
      obtain ⟨key, value⟩ := member
      rw [rereadMembers, ih, List.map_cons]
      rfl

mutual

/-- A value without doubles stays as it is. -/
theorem reread_of_doubleFree : ∀ {value : Json}, value.WellFormed → value.DoubleFree →
    value.reread = value
  | .number (.integer i), wellFormed, _ => by
    rw [reread, rereadNumber_integer (wellFormed_integer_iff.mp wellFormed)]
  | .number (.double d), _, doubleFree => absurd doubleFree not_doubleFree_double
  | .array items, wellFormed, doubleFree => by
    rw [reread, rereadItems_of_doubleFree (wellFormed_array_iff.mp wellFormed)
      (doubleFree_array_iff.mp doubleFree)]
  | .object members, wellFormed, doubleFree => by
    rw [reread, rereadMembers_of_doubleFree (wellFormed_object_iff.mp wellFormed).2
      (doubleFree_object_iff.mp doubleFree)]
  | .null, _, _ | .bool _, _, _ | .string _, _, _ => rfl

theorem rereadItems_of_doubleFree : ∀ {items : List Json}, (∀ item ∈ items, item.WellFormed) →
    (∀ item ∈ items, item.DoubleFree) → rereadItems items = items
  | [], _, _ => rfl
  | item :: more, wellFormed, doubleFree => by
    rw [List.forall_mem_cons] at wellFormed doubleFree
    rw [rereadItems, reread_of_doubleFree wellFormed.1 doubleFree.1,
      rereadItems_of_doubleFree wellFormed.2 doubleFree.2]

theorem rereadMembers_of_doubleFree : ∀ {members : List (String × Json)},
    (∀ member ∈ members, member.2.WellFormed) → (∀ member ∈ members, member.2.DoubleFree) →
    rereadMembers members = members
  | [], _, _ => rfl
  | (key, value) :: more, wellFormed, doubleFree => by
    rw [List.forall_mem_cons] at wellFormed doubleFree
    rw [rereadMembers, reread_of_doubleFree wellFormed.1 doubleFree.1,
      rereadMembers_of_doubleFree wellFormed.2 doubleFree.2]

end

theorem get?_reread (key : String) (value : Json) :
    value.reread.get? key = (value.get? key).map reread := by
  cases value with
  | object members =>
      rw [reread, rereadMembers_eq, get?, get?]
      induction members with
      | nil => rfl
      | cons member more ih =>
          obtain ⟨key', value⟩ := member
          rw [List.map_cons, Prod.map, List.lookup_cons, List.lookup_cons, id]
          cases key == key' with
          | true => rfl
          | false => exact ih
  | null | bool | number | string | array => rfl

/-! ## Legible values -/

/-- Objects inside the value have distinct keys, and its numbers are readable. -/
def Legible (value : Json) : Prop :=
  value.everywhere (fun inner => hasDistinctKeys inner && isReadable inner) = true

theorem legible_array_iff {items : List Json} :
    Legible (.array items) ↔ ∀ item ∈ items, item.Legible := by
  simp [Legible, everywhere_array_iff, hasDistinctKeys, isReadable]

theorem legible_object_iff {members : List (String × Json)} :
    Legible (.object members) ↔
      (Members.keys members).Nodup ∧ ∀ member ∈ members, member.2.Legible := by
  simp [Legible, everywhere_object_iff, hasDistinctKeys, isReadable]

theorem legible_number_iff : Legible (.number n) ↔ isReadable (.number n) = true := by
  simp [Legible, everywhere, hasDistinctKeys]

theorem legible_string (s : String) : Legible (.string s) := rfl

/-- A value without doubles is legible. -/
theorem legible_of_doubleFree (wellFormed : value.WellFormed) (doubleFree : value.DoubleFree) :
    value.Legible := by
  refine everywhere_of_both (fun inner isWellFormed isNoDouble => ?_) wellFormed doubleFree
  rw [Bool.and_eq_true] at isWellFormed ⊢
  refine ⟨isWellFormed.1, ?_⟩
  cases inner with
  | number n =>
      cases n with
      | integer i => exact isWellFormed.2
      | double d => cases isNoDouble
  | _ => rfl

theorem isReadable_of_isScalar {token : List UInt8} (isScalar : IsScalar value token) :
    isReadable value = true := by
  cases isScalar with
  | null | isTrue | isFalse | string => rfl
  | @number n _ isNumber =>
      cases n with
      | integer i => exact isWithin64Bits_of_isNumber isNumber
      | double d => exact decide_eq_true (inFormat_of_isNumber isNumber)

/-- A value that was read is legible. -/
theorem legible_of_isValue {token : List UInt8} (isValue : IsValue depth value token) :
    value.Legible := by
  refine everywhere_of_isValue (fun isScalar => ?_) (fun _ => rfl) (fun members distinct => ?_)
    isValue
  · rw [Bool.and_eq_true]
    refine ⟨?_, isReadable_of_isScalar isScalar⟩
    cases isScalar <;> rfl
  · simp [hasDistinctKeys, isReadable, distinct]

/-! ## The pretty text -/

theorem isScalar_reread (legible : value.Legible) (flat : value.depth = 0) :
    IsScalar value.reread (bytesOf (prettyChars level value)) := by
  cases value with
  | null => exact .null
  | bool b =>
      cases b with
      | false => exact .isFalse
      | true => exact .isTrue
  | number n => exact .number (isNumber_rereadNumber (legible_number_iff.mp legible))
  | string s => exact .string (isString_stringChars s)
  | array items | object members => simp [depth] at flat

/-- The pretty text of a value is a token of the grammar for what is read again. -/
theorem isValue_reread (legible : value.Legible) (fits : value.depth ≤ depth) :
    IsValue depth value.reread (bytesOf (prettyChars level value)) := by
  -- One level is spent at every bracket, so the induction is on the levels that are left.
  induction depth generalizing value level with
  | zero => exact isScalar_reread legible (Nat.le_zero.mp fits)
  | succ depth ih =>
      cases value with
      | null | bool | number | string => exact Or.inl (isScalar_reread legible rfl)
      | array items =>
          have items' := legible_array_iff.mp legible
          have shallow := depth_array_le_iff.mp fits
          refine Or.inr (Or.inl ⟨items.map reread, by rw [reread, rereadItems_eq], ?_⟩)
          cases items with
          | nil => exact .empty isSpace_nil
          | cons item more =>
              have tokens : ∀ inner ∈ item :: more,
                  IsValue depth inner.reread (bytesOf (prettyChars (level + 1) inner)) :=
                fun inner inItems => ih (items' inner inItems) (shallow inner inItems)
              have elements := elements_prettyItems
                (p := fun inner => IsValue depth inner.reread) (isSpace_newline level) tokens
              rw [prettyChars, bytesOf_cons_of_lt (by decide), bytesOf_append, bytesOf_append]
              exact .elements (elements.map id)
      | object members =>
          obtain ⟨distinct, members'⟩ := legible_object_iff.mp legible
          have shallow := depth_object_le_iff.mp fits
          refine Or.inr (Or.inr ⟨members.map (Prod.map id reread), ?_, ?_⟩)
          · rw [reread, rereadMembers_eq, Members.ofList_of_nodup]
            rwa [Members.keys, List.map_map]
          cases members with
          | nil => exact .empty isSpace_nil
          | cons member more =>
              have tokens : ∀ inner ∈ member :: more,
                  IsValue depth inner.2.reread (bytesOf (prettyChars (level + 1) inner.2)) :=
                fun inner inMembers => ih (members' inner inMembers) (shallow inner inMembers)
              have elements := elements_prettyMembers
                (p := fun inner => IsValue depth inner.reread) (isSpace_newline level) tokens
              rw [prettyChars, bytesOf_cons_of_lt (by decide), bytesOf_append, bytesOf_append]
              exact .elements (elements.map IsMember.map)

/-- What is written on indented lines, with a line end behind it, is read to its end. -/
theorem readText_pretty (legible : value.Legible) (fits : value.depth < depthLimit) :
    readText (value.pretty ++ "\n") = .ok value.reread := by
  have isValue : IsValue 127 value.reread (bytesOf (prettyChars 0 value)) :=
    isValue_reread legible (Nat.le_of_lt_succ fits)
  have text : encode (value.pretty ++ "\n") =
      [] ++ (bytesOf (prettyChars 0 value) ++ bytesOf (newline 0)) := by
    have line : "\n" = String.ofList (newline 0) := rfl
    rw [pretty, line, ← String.ofList_append, encode_ofList, bytesOf_append, List.nil_append]
  rw [readText_eq_ok_iff, text]
  exact .document isSpace_nil isValue (isSpace_newline 0)

/-- Without doubles it reads back. -/
theorem readText_pretty_of_doubleFree (wellFormed : value.WellFormed)
    (doubleFree : value.DoubleFree) (fits : value.depth < depthLimit) :
    readText (value.pretty ++ "\n") = .ok value := by
  have read := readText_pretty (legible_of_doubleFree wellFormed doubleFree) fits
  rwa [reread_of_doubleFree wellFormed doubleFree] at read

end FactoryBundler.Json
