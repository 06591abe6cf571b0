import FactoryBundler.Proofs.Json.Everywhere
import FactoryBundler.Proofs.Json.Members
import FactoryBundler.Proofs.Json.Strings

/-!
# Values read back as they were written

A well-formed value without doubles is read back from its compact text if the reader has more room
than the value is deep, and is too deep for it otherwise. The reader hands its remaining room down
to what it finds inside a bracket, so both statements go by induction on the room; for the items
and members of one bracket it is enough to know what reading each of them does.
-/

namespace FactoryBundler.Json

open Text.Utf8

variable {b : UInt8} {rest : List UInt8} {room fuel : Nat}

/-! ## Between the tokens -/

theorem skipSpace_cons (h : isSpaceByte b = false) : skipSpace (b :: rest) = b :: rest := by
  rw [skipSpace, List.dropWhile_cons_of_neg (by simp [h])]

/-- A written value begins with a byte that is neither a blank nor a closing bracket. -/
theorem bytesOf_compactChars_eq_cons (value : Json) (after : List Char) :
    ∃ b more, bytesOf (compactChars value ++ after) = b :: more ∧
      isSpaceByte b = false ∧ b ≠ ']'.toUInt8 := by
  have all : firstChars.all (fun c =>
      c.toNat < 0x80 && !isSpaceByte c.toUInt8 && c.toUInt8 != ']'.toUInt8) = true := by
    decide
  have first : ∀ c ∈ firstChars,
      c.toNat < 0x80 ∧ isSpaceByte c.toUInt8 = false ∧ c.toUInt8 ≠ ']'.toUInt8 := by
    simpa [and_assoc] using all
  obtain ⟨c, more, chars, inFirst, -⟩ := compactChars_eq_cons value
  obtain ⟨ascii, noSpace, noBracket⟩ := first c inFirst
  refine ⟨c.toUInt8, bytesOf (more ++ after), ?_, noSpace, noBracket⟩
  rw [chars, List.cons_append, bytesOf_cons_of_lt ascii]

theorem not_length_le_zero (value : Json) (after : List Char) (rest : List UInt8) :
    ¬ (bytesOf (compactChars value ++ after) ++ rest).length ≤ 0 := by
  obtain ⟨b, more, bytes, -⟩ := bytesOf_compactChars_eq_cons value after
  simp [bytes]

theorem firstItem_value (value : Json) (after : List Char) (rest : List UInt8) :
    firstItem (bytesOf (compactChars value ++ after) ++ rest) =
      .ok (true, bytesOf (compactChars value ++ after) ++ rest) := by
  obtain ⟨b, more, bytes, noSpace, noBracket⟩ := bytesOf_compactChars_eq_cons value after
  rw [bytes, List.cons_append]
  simp [firstItem, skipSpace_cons noSpace, noBracket]

theorem nextItem_itemsTail_nil (rest : List UInt8) :
    nextItem (bytesOf (itemsTail []) ++ rest) = .ok (false, rest) := rfl

theorem nextItem_itemsTail_cons (item : Json) (more : List Json) (rest : List UInt8) :
    nextItem (bytesOf (itemsTail (item :: more)) ++ rest) =
      .ok (true, bytesOf (compactChars item ++ itemsTail more) ++ rest) := by
  obtain ⟨b, bytes, chars, noSpace, noBracket⟩ :=
    bytesOf_compactChars_eq_cons item (itemsTail more)
  have comma : skipSpace (','.toUInt8 :: b :: (bytes ++ rest)) =
      ','.toUInt8 :: b :: (bytes ++ rest) := skipSpace_cons (by decide)
  have goesOn : ','.toUInt8 ≠ ']'.toUInt8 := by decide
  rw [itemsTail, bytesOf_cons_of_lt (by decide), chars, List.cons_append, List.cons_append]
  simp [nextItem, comma, goesOn, skipSpace_cons noSpace, noBracket]

theorem readColon_colon (rest : List UInt8) : readColon (':'.toUInt8 :: rest) = .ok rest := rfl

theorem firstKey_stringChars (key : String) (rest : List UInt8) :
    firstKey (bytesOf (stringChars key) ++ rest) = .ok (some key, rest) := by
  obtain ⟨input, text, read⟩ := readString_stringChars key rest
  have quote : skipSpace ('"'.toUInt8 :: input) = '"'.toUInt8 :: input :=
    skipSpace_cons (by decide)
  have goesOn : '"'.toUInt8 ≠ '\x7d'.toUInt8 := by decide
  rw [text]
  simp [firstKey, quote, goesOn, read]

theorem nextKey_membersTail_nil (rest : List UInt8) :
    nextKey (bytesOf (membersTail []) ++ rest) = .ok (none, rest) := rfl

theorem nextKey_membersTail_cons (key : String) (value : Json) (more : List (String × Json))
    (rest : List UInt8) :
    nextKey (bytesOf (membersTail ((key, value) :: more)) ++ rest) =
      .ok (some key,
        ':'.toUInt8 :: (bytesOf (compactChars value ++ membersTail more) ++ rest)) := by
  obtain ⟨input, text, read⟩ := readString_stringChars key
    (':'.toUInt8 :: (bytesOf (compactChars value ++ membersTail more) ++ rest))
  have comma : skipSpace (','.toUInt8 :: '"'.toUInt8 :: input) =
      ','.toUInt8 :: '"'.toUInt8 :: input := skipSpace_cons (by decide)
  have quote : skipSpace ('"'.toUInt8 :: input) = '"'.toUInt8 :: input :=
    skipSpace_cons (by decide)
  have goesOn : ','.toUInt8 ≠ '\x7d'.toUInt8 := by decide
  rw [membersTail, bytesOf_cons_of_lt (by decide), bytesOf_append, bytesOf_cons_of_lt (by decide),
    List.cons_append, List.append_assoc, List.cons_append, text]
  simp [nextKey, comma, quote, goesOn, read]

theorem endsNumber_itemsTail (more : List Json) (rest : List UInt8) :
    EndsNumber (bytesOf (itemsTail more) ++ rest) := by
  cases more with
  | nil => exact endsNumber_cons (by decide)
  | cons item more => exact endsNumber_cons (by decide)

theorem endsNumber_membersTail (more : List (String × Json)) (rest : List UInt8) :
    EndsNumber (bytesOf (membersTail more) ++ rest) := by
  cases more with
  | nil => exact endsNumber_cons (by decide)
  | cons member more => exact endsNumber_cons (by decide)

/-! ## Inside one bracket -/

/-- A reader that returns a value from its compact text. -/
def ReadsBack (read : List UInt8 → Reading Json) (value : Json) : Prop :=
  ∀ rest, EndsNumber rest → read (bytesOf (compactChars value) ++ rest) = .ok (value, rest)

/-- A reader that has no room for the compact text of a value. -/
def FindsTooDeep (read : List UInt8 → Reading Json) (value : Json) : Prop :=
  ∀ rest, ∃ unread, read (bytesOf (compactChars value) ++ rest) = .error ⟨.tooDeep, unread⟩

variable {read : List UInt8 → Reading Json}

theorem not_findsTooDeep {value : Json} (reads : ReadsBack read value) :
    ¬ FindsTooDeep read value := by
  intro fails
  obtain ⟨unread, failed⟩ := fails []
  rw [reads [] endsNumber_nil] at failed
  contradiction

/-- The comma behind an item pays for the step to the next one. -/
theorem enough_itemsTail {item next : Json} {more : List Json}
    (enough :
      (bytesOf (compactChars item ++ itemsTail (next :: more)) ++ rest).length ≤ fuel + 1) :
    (bytesOf (compactChars next ++ itemsTail more) ++ rest).length ≤ fuel := by
  rw [itemsTail, bytesOf_append, bytesOf_cons_of_lt (by decide)] at enough
  simp only [List.length_append, List.length_cons] at enough ⊢
  omega

/-- The comma behind a member pays for the step to the next one. -/
theorem enough_membersTail {value nextValue : Json} {nextKey : String}
    {more : List (String × Json)}
    (enough : (bytesOf (compactChars value ++ membersTail ((nextKey, nextValue) :: more)) ++
      rest).length < fuel + 1) :
    (bytesOf (compactChars nextValue ++ membersTail more) ++ rest).length < fuel := by
  rw [membersTail, bytesOf_append, bytesOf_cons_of_lt (by decide), bytesOf_append,
    bytesOf_cons_of_lt (by decide)] at enough
  simp only [List.length_append, List.length_cons] at enough ⊢
  omega

theorem readItems_of_readsBack (rest : List UInt8) {item : Json} {more : List Json}
    (reads : ∀ inner ∈ item :: more, ReadsBack read inner)
    (enough : (bytesOf (compactChars item ++ itemsTail more) ++ rest).length ≤ fuel) :
    readItems read fuel (bytesOf (compactChars item ++ itemsTail more) ++ rest) =
      .ok (item :: more, rest) := by
  induction more generalizing item fuel with
  | nil =>
      cases fuel with
      | zero => exact absurd enough (not_length_le_zero item _ rest)
      | succ fuel =>
        have first := reads item List.mem_cons_self _ (endsNumber_itemsTail [] rest)
        rw [bytesOf_append, List.append_assoc, readItems, first]
        simp only [bind, Except.bind, nextItem_itemsTail_nil]
        rfl
  | cons next more ih =>
      cases fuel with
      | zero => exact absurd enough (not_length_le_zero item _ rest)
      | succ fuel =>
        have first := reads item List.mem_cons_self _ (endsNumber_itemsTail (next :: more) rest)
        have others := ih (List.forall_mem_cons.mp reads).2 (enough_itemsTail enough)
        rw [bytesOf_append, List.append_assoc, readItems, first]
        simp only [bind, Except.bind, nextItem_itemsTail_cons, if_true, others]
        rfl

theorem readMembers_of_readsBack (rest : List UInt8) {key : String} {value : Json}
    {more : List (String × Json)}
    (reads : ∀ member ∈ (key, value) :: more, ReadsBack read member.2)
    (enough : (bytesOf (compactChars value ++ membersTail more) ++ rest).length < fuel) :
    readMembers read fuel key
        (':'.toUInt8 :: (bytesOf (compactChars value ++ membersTail more) ++ rest)) =
      .ok ((key, value) :: more, rest) := by
  induction more generalizing key value fuel with
  | nil =>
      cases fuel with
      | zero => omega
      | succ fuel =>
        have first := reads (key, value) List.mem_cons_self _ (endsNumber_membersTail [] rest)
        rw [bytesOf_append, List.append_assoc, readMembers, readColon_colon]
        simp only [bind, Except.bind, first, nextKey_membersTail_nil]
        rfl
  | cons next more ih =>
      obtain ⟨nextKey, nextValue⟩ := next
      cases fuel with
      | zero => omega
      | succ fuel =>
        have first := reads (key, value) List.mem_cons_self _
          (endsNumber_membersTail ((nextKey, nextValue) :: more) rest)
        have others := ih (List.forall_mem_cons.mp reads).2 (enough_membersTail enough)
        rw [bytesOf_append, List.append_assoc, readMembers, readColon_colon]
        simp only [bind, Except.bind, first, nextKey_membersTail_cons, others]
        rfl

/-- An item that is too deep ends the reading, whatever comes behind it. -/
theorem readItems_of_findsTooDeep {item : Json} (fails : FindsTooDeep read item) (more : List Json)
    (rest : List UInt8) :
    ∃ unread, readItems read (fuel + 1) (bytesOf (compactChars item ++ itemsTail more) ++ rest) =
      .error ⟨.tooDeep, unread⟩ := by
  obtain ⟨unread, failed⟩ := fails (bytesOf (itemsTail more) ++ rest)
  refine ⟨unread, ?_⟩
  rw [bytesOf_append, List.append_assoc, readItems, failed]
  rfl

/-- A value that is too deep ends the reading of the members, whatever comes behind it. -/
theorem readMembers_of_findsTooDeep {value : Json} (fails : FindsTooDeep read value) (key : String)
    (more : List (String × Json)) (rest : List UInt8) :
    ∃ unread, readMembers read (fuel + 1) key
        (':'.toUInt8 :: (bytesOf (compactChars value ++ membersTail more) ++ rest)) =
      .error ⟨.tooDeep, unread⟩ := by
  obtain ⟨unread, failed⟩ := fails (bytesOf (membersTail more) ++ rest)
  refine ⟨unread, ?_⟩
  rw [bytesOf_append, List.append_assoc, readMembers, readColon_colon]
  simp only [bind, Except.bind, failed]

/-- Behind an element that is read back, what is too deep is still to come. -/
theorem exists_findsTooDeep_behind {α : Type} (valueOf : α → Json) {x : α} {xs : List α}
    (reads : ReadsBack read (valueOf x)) (deep : ∃ y ∈ x :: xs, FindsTooDeep read (valueOf y)) :
    ∃ y ∈ xs, FindsTooDeep read (valueOf y) := by
  obtain ⟨y, inList, fails⟩ := deep
  rcases List.mem_cons.mp inList with rfl | behind
  · exact absurd fails (not_findsTooDeep reads)
  · exact ⟨y, behind, fails⟩

/-- The first value that is too deep ends the reading of the items. -/
theorem readItems_tooDeep (rest : List UInt8) {item : Json} {more : List Json}
    (known : ∀ inner ∈ item :: more, ReadsBack read inner ∨ FindsTooDeep read inner)
    (deep : ∃ inner ∈ item :: more, FindsTooDeep read inner)
    (enough : (bytesOf (compactChars item ++ itemsTail more) ++ rest).length ≤ fuel) :
    ∃ unread, readItems read fuel (bytesOf (compactChars item ++ itemsTail more) ++ rest) =
      .error ⟨.tooDeep, unread⟩ := by
  induction more generalizing item fuel with
  | nil =>
      cases fuel with
      | zero => exact absurd enough (not_length_le_zero item _ rest)
      | succ fuel =>
        obtain ⟨inner, isItem, fails⟩ := deep
        rw [List.mem_singleton.mp isItem] at fails
        exact readItems_of_findsTooDeep fails [] rest
  | cons next more ih =>
      cases fuel with
      | zero => exact absurd enough (not_length_le_zero item _ rest)
      | succ fuel =>
        rcases known item List.mem_cons_self with reads | fails
        · have later := exists_findsTooDeep_behind (fun inner => inner) reads deep
          obtain ⟨unread, failed⟩ :=
            ih (List.forall_mem_cons.mp known).2 later (enough_itemsTail enough)
          refine ⟨unread, ?_⟩
          rw [bytesOf_append, List.append_assoc, readItems,
            reads _ (endsNumber_itemsTail (next :: more) rest)]
          simp only [bind, Except.bind, nextItem_itemsTail_cons, if_true, failed]
        · exact readItems_of_findsTooDeep fails (next :: more) rest

theorem readMembers_tooDeep (rest : List UInt8) {key : String} {value : Json}
    {more : List (String × Json)}
    (known : ∀ member ∈ (key, value) :: more,
      ReadsBack read member.2 ∨ FindsTooDeep read member.2)
    (deep : ∃ member ∈ (key, value) :: more, FindsTooDeep read member.2)
    (enough : (bytesOf (compactChars value ++ membersTail more) ++ rest).length < fuel) :
    ∃ unread, readMembers read fuel key
        (':'.toUInt8 :: (bytesOf (compactChars value ++ membersTail more) ++ rest)) =
      .error ⟨.tooDeep, unread⟩ := by
  induction more generalizing key value fuel with
  | nil =>
      cases fuel with
      | zero => omega
      | succ fuel =>
        obtain ⟨member, isMember, fails⟩ := deep
        rw [List.mem_singleton.mp isMember] at fails
        exact readMembers_of_findsTooDeep fails key [] rest
  | cons next more ih =>
      obtain ⟨nextKey, nextValue⟩ := next
      cases fuel with
      | zero => omega
      | succ fuel =>
        rcases known (key, value) List.mem_cons_self with reads | fails
        · have later := exists_findsTooDeep_behind Prod.snd reads deep
          obtain ⟨unread, failed⟩ :=
            ih (List.forall_mem_cons.mp known).2 later (enough_membersTail enough)
          refine ⟨unread, ?_⟩
          rw [bytesOf_append, List.append_assoc, readMembers, readColon_colon]
          simp only [bind, Except.bind,
            reads _ (endsNumber_membersTail ((nextKey, nextValue) :: more) rest),
            nextKey_membersTail_cons, failed]
        · exact readMembers_of_findsTooDeep fails key ((nextKey, nextValue) :: more) rest

/-! ## Whole values -/

theorem readValue_null : readValue (room + 1) (bytesOf (compactChars .null) ++ rest) =
    .ok (.null, rest) := rfl

theorem readValue_bool (value : Bool) :
    readValue (room + 1) (bytesOf (compactChars (.bool value)) ++ rest) =
      .ok (.bool value, rest) := by
  cases value <;> rfl

/-- The first byte of a numeral is none of the bytes that are neither the sign nor a digit. -/
theorem ne_of_opens {c : UInt8} (opens : b = '-'.toUInt8 ∨ isDigitByte b = true)
    (notMinus : c ≠ '-'.toUInt8) (notDigit : isDigitByte c = false) : b ≠ c := by
  rintro rfl
  rcases opens with isMinus | isDigit
  · exact notMinus isMinus
  · exact Bool.false_ne_true (notDigit.symm.trans isDigit)

theorem isSpaceByte_of_opens (opens : b = '-'.toUInt8 ∨ isDigitByte b = true) :
    isSpaceByte b = false := by
  have other (c : UInt8) := ne_of_opens (c := c) opens
  simp only [isSpaceByte, Bool.or_eq_false_iff, beq_eq_false_iff_ne]
  exact ⟨⟨⟨other _ (by decide) (by decide), other _ (by decide) (by decide)⟩,
    other _ (by decide) (by decide)⟩, other _ (by decide) (by decide)⟩

theorem readValue_numeral (opens : b = '-'.toUInt8 ∨ isDigitByte b = true) :
    readValue (room + 1) (b :: rest) =
      (readNumber (b :: rest)).map fun (n, unread) => (.number n, unread) := by
  have other (c : UInt8) := ne_of_opens (c := c) opens
  have numeral : (b == '-'.toUInt8 || isDigitByte b) = true := by simpa using opens
  rw [readValue, skipSpace_cons (isSpaceByte_of_opens opens)]
  simp only [beq_false_of_ne (other 'n'.toUInt8 (by decide) (by decide)),
    beq_false_of_ne (other 't'.toUInt8 (by decide) (by decide)),
    beq_false_of_ne (other 'f'.toUInt8 (by decide) (by decide)), numeral, Bool.false_eq_true,
    if_false, if_true]
  cases readNumber (b :: rest) <;> rfl

theorem readValue_integer {i : Int} (within : isWithin64Bits i = true) (ends : EndsNumber rest) :
    readValue (room + 1) (bytesOf (compactChars (.number (.integer i))) ++ rest) =
      .ok (.number (.integer i), rest) := by
  have read := readNumber_integer within ends
  obtain ⟨b, more, chars, opens⟩ := head_numberChars_integer i
  rw [compactChars]
  rw [chars, List.cons_append] at read ⊢
  rw [readValue_numeral opens, read]
  rfl

theorem readValue_quote (rest : List UInt8) :
    readValue (room + 1) ('"'.toUInt8 :: rest) = (do
      let (text, rest) ← readString rest
      return (.string text, rest)) := rfl

theorem readValue_string (s : String) (rest : List UInt8) :
    readValue (room + 1) (bytesOf (compactChars (.string s)) ++ rest) = .ok (.string s, rest) := by
  obtain ⟨input, text, read⟩ := readString_stringChars s rest
  rw [compactChars, text, readValue_quote, read]
  rfl

/-- Behind a bracket the reader goes on with one level less. -/
theorem readValue_bracket (rest : List UInt8) :
    readValue (room + 1) ('['.toUInt8 :: rest) =
      if room == 0 then .error ⟨.tooDeep, rest⟩
      else do
        match ← firstItem rest with
        | (true, rest) =>
          let (items, rest) ← readItems (readValue room) rest.length rest
          return (.array items, rest)
        | (false, rest) => return (.array [], rest) := rfl

theorem readValue_brace (rest : List UInt8) :
    readValue (room + 1) ('\x7b'.toUInt8 :: rest) =
      if room == 0 then .error ⟨.tooDeep, rest⟩
      else do
        match ← firstKey rest with
        | (some key, rest) =>
          let (members, rest) ← readMembers (readValue room) rest.length key rest
          return (.object (Members.ofList members), rest)
        | (none, rest) => return (.object [], rest) := rfl

theorem readValue_array_nil (rest : List UInt8) :
    readValue (room + 2) (bytesOf (compactChars (.array [])) ++ rest) = .ok (.array [], rest) := rfl

theorem readValue_object_nil (rest : List UInt8) :
    readValue (room + 2) (bytesOf (compactChars (.object [])) ++ rest) = .ok (.object [], rest) :=
  rfl

theorem readValue_array_cons (room : Nat) (item : Json) (more : List Json) (rest : List UInt8) :
    ∃ fuel, (bytesOf (compactChars item ++ itemsTail more) ++ rest).length ≤ fuel ∧
      readValue (room + 2) (bytesOf (compactChars (.array (item :: more))) ++ rest) =
        (readItems (readValue (room + 1)) fuel
          (bytesOf (compactChars item ++ itemsTail more) ++ rest)).map
            fun (items, unread) => (.array items, unread) := by
  refine ⟨_, Nat.le_refl _, ?_⟩
  rw [compactChars_array_cons, bytesOf_cons_of_lt (by decide), List.cons_append,
    readValue_bracket, if_neg (by simp)]
  simp only [bind, Except.bind, firstItem_value]
  cases readItems (readValue (room + 1)) _ (bytesOf (compactChars item ++ itemsTail more) ++ rest)
    <;> rfl

theorem readValue_object_cons (room : Nat) (key : String) (value : Json)
    (more : List (String × Json)) (rest : List UInt8) :
    ∃ fuel, (bytesOf (compactChars value ++ membersTail more) ++ rest).length < fuel ∧
      readValue (room + 2) (bytesOf (compactChars (.object ((key, value) :: more))) ++ rest) =
        (readMembers (readValue (room + 1)) fuel key
          (':'.toUInt8 :: (bytesOf (compactChars value ++ membersTail more) ++ rest))).map
            fun (members, unread) => (.object (Members.ofList members), unread) := by
  refine ⟨_, Nat.lt_succ_self _, ?_⟩
  rw [compactChars_object_cons, bytesOf_cons_of_lt (by decide), bytesOf_append,
    bytesOf_cons_of_lt (by decide), List.cons_append, List.append_assoc, List.cons_append,
    readValue_brace, if_neg (by simp)]
  simp only [bind, Except.bind, firstKey_stringChars, List.length_cons]
  cases readMembers (readValue (room + 1)) _ key
    (':'.toUInt8 :: (bytesOf (compactChars value ++ membersTail more) ++ rest)) <;> rfl

/-! ## One bracket around what is known -/

theorem readsBack_array {items : List Json}
    (reads : ∀ item ∈ items, ReadsBack (readValue (room + 1)) item) :
    ReadsBack (readValue (room + 2)) (.array items) := by
  intro rest _
  cases items with
  | nil => exact readValue_array_nil rest
  | cons item more =>
      obtain ⟨fuel, enough, read⟩ := readValue_array_cons room item more rest
      rw [read, readItems_of_readsBack rest reads enough]
      rfl

theorem readsBack_object {members : List (String × Json)}
    (distinct : (Members.keys members).Nodup)
    (reads : ∀ member ∈ members, ReadsBack (readValue (room + 1)) member.2) :
    ReadsBack (readValue (room + 2)) (.object members) := by
  intro rest _
  cases members with
  | nil => exact readValue_object_nil rest
  | cons member more =>
      obtain ⟨key, value⟩ := member
      obtain ⟨fuel, enough, read⟩ := readValue_object_cons room key value more rest
      rw [read, readMembers_of_readsBack rest reads enough]
      simp only [Except.map, Members.ofList_of_nodup distinct]

theorem findsTooDeep_array {items : List Json}
    (known : ∀ item ∈ items,
      ReadsBack (readValue (room + 1)) item ∨ FindsTooDeep (readValue (room + 1)) item)
    (deep : ∃ item ∈ items, FindsTooDeep (readValue (room + 1)) item) :
    FindsTooDeep (readValue (room + 2)) (.array items) := by
  intro rest
  cases items with
  | nil => simp at deep
  | cons item more =>
      obtain ⟨fuel, enough, read⟩ := readValue_array_cons room item more rest
      obtain ⟨unread, failed⟩ := readItems_tooDeep rest known deep enough
      refine ⟨unread, ?_⟩
      rw [read, failed]
      rfl

theorem findsTooDeep_object {members : List (String × Json)}
    (known : ∀ member ∈ members,
      ReadsBack (readValue (room + 1)) member.2 ∨ FindsTooDeep (readValue (room + 1)) member.2)
    (deep : ∃ member ∈ members, FindsTooDeep (readValue (room + 1)) member.2) :
    FindsTooDeep (readValue (room + 2)) (.object members) := by
  intro rest
  cases members with
  | nil => simp at deep
  | cons member more =>
      obtain ⟨key, value⟩ := member
      obtain ⟨fuel, enough, read⟩ := readValue_object_cons room key value more rest
      obtain ⟨unread, failed⟩ := readMembers_tooDeep rest known deep enough
      refine ⟨unread, ?_⟩
      rw [read, failed]
      rfl

/-- The last level of a reader is for scalars, it opens no bracket. -/
theorem findsTooDeep_of_one_le_depth {value : Json} (deep : 1 ≤ value.depth) :
    FindsTooDeep (readValue 1) value := by
  intro rest
  cases value with
  | array items =>
      refine ⟨bytesOf (compactItems items ++ [']']) ++ rest, ?_⟩
      rw [compactChars, bytesOf_cons_of_lt (by decide), List.cons_append]
      exact readValue_bracket _
  | object members =>
      refine ⟨bytesOf (compactMembers members ++ ['\x7d']) ++ rest, ?_⟩
      rw [compactChars, bytesOf_cons_of_lt (by decide), List.cons_append]
      exact readValue_brace _
  | _ => simp [depth] at deep

/-! ## Every value -/

/-- A reader with more room than a value is deep reads the value back. -/
theorem readsBack_of_depth_lt {value : Json} (wellFormed : value.WellFormed)
    (doubleFree : value.DoubleFree) (fits : value.depth < room) :
    ReadsBack (readValue room) value := by
  -- The reader opens a bracket with one level less, so the induction is on its room.
  induction room generalizing value with
  | zero => exact absurd fits (Nat.not_lt_zero _)
  | succ room ih =>
      cases value with
      | null => exact fun _ _ => readValue_null
      | bool b => exact fun _ _ => readValue_bool b
      | number n =>
          cases n with
          | integer i =>
              intro rest ends
              exact readValue_integer (wellFormed_integer_iff.mp wellFormed) ends
          | double d => exact absurd doubleFree not_doubleFree_double
      | string s => exact fun rest _ => readValue_string s rest
      | array items =>
          obtain ⟨room, rfl⟩ : ∃ less, room = less + 1 :=
            Nat.exists_eq_add_one.mpr (by simp only [depth] at fits; omega)
          rw [wellFormed_array_iff] at wellFormed
          rw [doubleFree_array_iff] at doubleFree
          have shallow := depth_array_le_iff.mp (Nat.le_of_lt_succ fits)
          apply readsBack_array
          intro item inItems
          exact ih (wellFormed item inItems) (doubleFree item inItems)
            (Nat.lt_succ_of_le (shallow item inItems))
      | object members =>
          obtain ⟨room, rfl⟩ : ∃ less, room = less + 1 :=
            Nat.exists_eq_add_one.mpr (by simp only [depth] at fits; omega)
          rw [wellFormed_object_iff] at wellFormed
          rw [doubleFree_object_iff] at doubleFree
          have shallow := depth_object_le_iff.mp (Nat.le_of_lt_succ fits)
          apply readsBack_object wellFormed.1
          intro member inMembers
          exact ih (wellFormed.2 member inMembers) (doubleFree member inMembers)
            (Nat.lt_succ_of_le (shallow member inMembers))

/-- A reader with no more room than a value is deep gives up on it. -/
theorem findsTooDeep_of_le_depth {value : Json} (wellFormed : value.WellFormed)
    (doubleFree : value.DoubleFree) (deep : room + 1 ≤ value.depth) :
    FindsTooDeep (readValue (room + 1)) value := by
  induction room generalizing value with
  | zero => exact findsTooDeep_of_one_le_depth deep
  | succ room ih =>
      -- What is inside is read back or too deep, and something inside is too deep.
      have either {inner : Json} (wellFormed : inner.WellFormed) (doubleFree : inner.DoubleFree) :
          ReadsBack (readValue (room + 1)) inner ∨ FindsTooDeep (readValue (room + 1)) inner := by
        rcases Nat.lt_or_ge inner.depth (room + 1) with fits | deep
        · exact Or.inl (readsBack_of_depth_lt wellFormed doubleFree fits)
        · exact Or.inr (ih wellFormed doubleFree deep)
      cases value with
      | array items =>
          rw [wellFormed_array_iff] at wellFormed
          rw [doubleFree_array_iff] at doubleFree
          obtain ⟨item, inItems, deepItem⟩ := exists_item_of_lt_depth deep
          apply findsTooDeep_array
          · intro item inItems
            exact either (wellFormed item inItems) (doubleFree item inItems)
          · exact ⟨item, inItems, ih (wellFormed item inItems) (doubleFree item inItems) deepItem⟩
      | object members =>
          rw [wellFormed_object_iff] at wellFormed
          rw [doubleFree_object_iff] at doubleFree
          obtain ⟨member, inMembers, deepMember⟩ := exists_member_of_lt_depth deep
          apply findsTooDeep_object
          · intro member inMembers
            exact either (wellFormed.2 member inMembers) (doubleFree member inMembers)
          · exact ⟨member, inMembers,
              ih (wellFormed.2 member inMembers) (doubleFree member inMembers) deepMember⟩
      | _ => simp [depth] at deep

end FactoryBundler.Json
