import FactoryBundler.Json.Canonical
import FactoryBundler.Proofs.Json.Everywhere
import FactoryBundler.Proofs.Json.Members
import FactoryBundler.Proofs.Json.Strings

/-!
# Values that differ in the order of members

Two values have the same canonical text exactly if they are equal up to the order of members.
Sorting brings the members of an object into an order that only their keys decide, so reordered
values are written alike. The other direction reads the two texts side by side: the first character
tells the kind of a value, and what a value is written as does not depend on what comes after it.
-/

namespace FactoryBundler.Json

mutual

/-- Two values are equal up to the order of members, at every depth: the members of two objects can
be brought into orders in which they agree one by one. Numbers agree if they are written alike. -/
inductive SameUpToOrder : Json → Json → Prop
  | null : SameUpToOrder .null .null
  | bool (b : Bool) : SameUpToOrder (.bool b) (.bool b)
  | number {m n : Number} : numberChars m = numberChars n →
      SameUpToOrder (.number m) (.number n)
  | string (s : String) : SameUpToOrder (.string s) (.string s)
  | array {items others : List Json} : ItemsSameUpToOrder items others →
      SameUpToOrder (.array items) (.array others)
  | object {members reordered others reordered' : List (String × Json)} :
      members.Perm reordered → MembersSameUpToOrder reordered reordered' →
      reordered'.Perm others → SameUpToOrder (.object members) (.object others)

/-- Items agree one by one. -/
inductive ItemsSameUpToOrder : List Json → List Json → Prop
  | nil : ItemsSameUpToOrder [] []
  | cons {item other : Json} {more others : List Json} : SameUpToOrder item other →
      ItemsSameUpToOrder more others → ItemsSameUpToOrder (item :: more) (other :: others)

/-- Members agree one by one, in their keys and up to order in their values. -/
inductive MembersSameUpToOrder : List (String × Json) → List (String × Json) → Prop
  | nil : MembersSameUpToOrder [] []
  | cons (key : String) {value other : Json} {more others : List (String × Json)} :
      SameUpToOrder value other → MembersSameUpToOrder more others →
      MembersSameUpToOrder ((key, value) :: more) ((key, other) :: others)

end

variable {value other : Json} {items others : List Json}
  {members members' : List (String × Json)}

/-! ## Sorted members -/

section Sorted

variable {α : Type} {entries reordered : List (String × α)}

/-- The order of members in an object that is written canonically. -/
def keyLe (a b : String × α) : Bool :=
  decide (a.1 ≤ b.1)

theorem pairwise_mergeSort_keyLe (entries : List (String × α)) :
    (entries.mergeSort keyLe).Pairwise (keyLe · ·) := by
  apply List.pairwise_mergeSort
  · intro a b c first second
    simp only [keyLe, decide_eq_true_eq] at first second ⊢
    exact String.le_trans first second
  · intro a b
    simpa [keyLe] using String.le_total a.1 b.1

/-- The order in which members were given is lost if their keys are distinct. -/
theorem mergeSort_eq_of_perm (distinct : (Members.keys entries).Nodup)
    (perm : entries.Perm reordered) : entries.mergeSort keyLe = reordered.mergeSort keyLe := by
  refine List.Perm.eq_of_pairwise ?_ (pairwise_mergeSort_keyLe _)
    (pairwise_mergeSort_keyLe _)
    ((List.mergeSort_perm _ _).trans (perm.trans (List.mergeSort_perm _ _).symm))
  intro a b inFirst inSecond le ge
  simp only [keyLe, decide_eq_true_eq] at le ge
  refine List.inj_on_of_nodup_map distinct ?_ ?_ (String.le_antisymm le ge)
  · exact List.mem_mergeSort.mp inFirst
  · exact perm.mem_iff.mpr (List.mem_mergeSort.mp inSecond)

end Sorted

theorem canonicalItems_eq_map (items : List Json) :
    canonicalItems items = items.map canonical := by
  induction items with
  | nil => rfl
  | cons item more ih => rw [canonicalItems, ih, List.map_cons]

theorem canonicalMembers_eq_map (members : List (String × Json)) :
    canonicalMembers members = members.map fun member => (member.1, canonical member.2) := by
  induction members with
  | nil => rfl
  | cons member more ih =>
      obtain ⟨key, value⟩ := member
      rw [canonicalMembers, ih, List.map_cons]

/-- The members can be sorted before their values are brought into canonical form. -/
theorem canonical_object (members : List (String × Json)) :
    canonical (.object members) = .object (canonicalMembers (members.mergeSort keyLe)) := by
  have commutes : (members.mergeSort keyLe).map (fun member => (member.1, canonical member.2)) =
      (members.map fun member => (member.1, canonical member.2)).mergeSort keyLe :=
    List.map_mergeSort fun _ _ _ _ => rfl
  rw [canonical, canonicalMembers_eq_map, canonicalMembers_eq_map, commutes]
  rfl

/-! ## Reordered values are written alike -/

/-- The canonical text of a value, as characters. -/
def canonicalChars (value : Json) : List Char :=
  compactChars value.canonical

/-- A key with the canonical text of its value. -/
def canonicalEntry (member : String × Json) : String × List Char :=
  (member.1, canonicalChars member.2)

theorem compactItems_eq_intercalate (items : List Json) :
    compactItems items = [','].intercalate (items.map compactChars) := by
  induction items with
  | nil => rfl
  | cons item more ih =>
      cases more with
      | nil => simp [compactItems]
      | cons next more =>
          rw [compactItems, ih]
          · simp
          · exact List.cons_ne_nil _ _

theorem compactMembers_eq_intercalate (members : List (String × Json)) :
    compactMembers members = [','].intercalate (members.map fun member =>
      stringChars member.1 ++ ':' :: compactChars member.2) := by
  induction members with
  | nil => rfl
  | cons member more ih =>
      obtain ⟨key, value⟩ := member
      cases more with
      | nil => simp [compactMembers]
      | cons next more =>
          rw [compactMembers, ih]
          · simp
          · exact List.cons_ne_nil _ _

theorem canonicalChars_array (items : List Json) :
    canonicalChars (.array items) =
      '[' :: ([','].intercalate (items.map canonicalChars) ++ [']']) := by
  rw [canonicalChars, canonical, compactChars, compactItems_eq_intercalate, canonicalItems_eq_map,
    List.map_map]
  rfl

/-- The canonical text of an object is made of its sorted entries. -/
theorem canonicalChars_object (members : List (String × Json)) :
    canonicalChars (.object members) =
      '\x7b' :: ([','].intercalate (((members.map canonicalEntry).mergeSort keyLe).map fun entry =>
        stringChars entry.1 ++ ':' :: entry.2) ++ ['\x7d']) := by
  have commutes : (members.mergeSort keyLe).map canonicalEntry =
      (members.map canonicalEntry).mergeSort keyLe :=
    List.map_mergeSort fun _ _ _ _ => rfl
  rw [canonicalChars, canonical_object, compactChars, compactMembers_eq_intercalate,
    canonicalMembers_eq_map, List.map_map, ← commutes, List.map_map]
  rfl

theorem keys_map_canonicalEntry (members : List (String × Json)) :
    Members.keys (members.map canonicalEntry) = Members.keys members := by
  rw [Members.keys, List.map_map]
  rfl

mutual

/-- By induction on how the values agree. -/
theorem SameUpToOrder.canonicalChars_eq : ∀ {value other : Json}, SameUpToOrder value other →
    value.DistinctKeys → canonicalChars value = canonicalChars other
  | _, _, .null, _ => rfl
  | _, _, .bool _, _ => rfl
  | _, _, .number alike, _ => alike
  | _, _, .string _, _ => rfl
  | _, _, .array agree, distinct => by
      rw [canonicalChars_array, canonicalChars_array,
        agree.map_canonicalChars (distinctKeys_array_iff.mp distinct)]
  | _, _, @SameUpToOrder.object _ reordered _ _ perm agree perm', distinct => by
      obtain ⟨distinct, inside⟩ := distinctKeys_object_iff.mp distinct
      have inside' : ∀ member ∈ reordered, member.2.DistinctKeys := by
        intro member inReordered
        exact inside member (perm.mem_iff.mpr inReordered)
      have entries := agree.map_canonicalEntry inside'
      have sorted := mergeSort_eq_of_perm ((keys_map_canonicalEntry _).symm ▸ distinct)
        ((perm.map canonicalEntry).trans (entries ▸ perm'.map canonicalEntry))
      rw [canonicalChars_object, canonicalChars_object, sorted]

theorem ItemsSameUpToOrder.map_canonicalChars : ∀ {items others : List Json},
    ItemsSameUpToOrder items others → (∀ item ∈ items, item.DistinctKeys) →
    items.map canonicalChars = others.map canonicalChars
  | _, _, .nil, _ => rfl
  | _, _, .cons head tail, distinct => by
      obtain ⟨first, more⟩ := List.forall_mem_cons.mp distinct
      rw [List.map_cons, List.map_cons, head.canonicalChars_eq first, tail.map_canonicalChars more]

theorem MembersSameUpToOrder.map_canonicalEntry : ∀ {members others : List (String × Json)},
    MembersSameUpToOrder members others → (∀ member ∈ members, member.2.DistinctKeys) →
    members.map canonicalEntry = others.map canonicalEntry
  | _, _, .nil, _ => rfl
  | _, _, .cons key head tail, distinct => by
      obtain ⟨first, more⟩ := List.forall_mem_cons.mp distinct
      rw [List.map_cons, List.map_cons, tail.map_canonicalEntry more, canonicalEntry,
        canonicalEntry, head.canonicalChars_eq first]

end

/-! ## Values that are written alike are reordered -/

/-- A numeral ends before this text. -/
def EndsNumeral (after : List Char) : Prop :=
  ∀ c ∈ after.head?, c ∉ numeralChars

theorem endsNumeral_nil : EndsNumeral [] := by
  intro c h
  cases h

theorem endsNumeral_itemsTail (items : List Json) (after : List Char) :
    EndsNumeral (itemsTail items ++ after) := by
  cases items <;> simp [EndsNumeral, itemsTail, numeralChars]

theorem endsNumeral_membersTail (members : List (String × Json)) (after : List Char) :
    EndsNumeral (membersTail members ++ after) := by
  cases members <;> simp [EndsNumeral, membersTail, numeralChars]

theorem takeWhile_numberChars_append (n : Number) {after : List Char} (ends : EndsNumeral after) :
    (numberChars n ++ after).takeWhile (· ∈ numeralChars) = numberChars n := by
  rw [List.takeWhile_append_of_pos fun c h => by simpa using numberChars_subset n h]
  cases after with
  | nil => simp
  | cons c after =>
      have stops : c ∉ numeralChars := ends c rfl
      simp [stops]

theorem numberChars_append_inj {m n : Number} {after after' : List Char}
    (ends : EndsNumeral after) (ends' : EndsNumeral after')
    (h : numberChars m ++ after = numberChars n ++ after') :
    numberChars m = numberChars n ∧ after = after' := by
  have numerals := congrArg (List.takeWhile (· ∈ numeralChars)) h
  rw [takeWhile_numberChars_append m ends, takeWhile_numberChars_append n ends'] at numerals
  rw [numerals] at h
  exact ⟨numerals, List.append_cancel_left h⟩

theorem kind_canonical (value : Json) : value.canonical.kind = value.kind := by
  cases value <;> rfl

theorem kind_eq_of_canonicalChars {after after' : List Char}
    (h : canonicalChars value ++ after = canonicalChars other ++ after') :
    value.kind = other.kind := by
  obtain ⟨c, more, chars, -, first⟩ := compactChars_eq_cons value.canonical
  obtain ⟨c', more', chars', -, first'⟩ := compactChars_eq_cons other.canonical
  rw [canonicalChars, canonicalChars, chars, chars'] at h
  rw [← kind_canonical value, ← kind_canonical other, ← first, ← first', (List.cons.inj h).1]

/-- A value can be told, up to order, from any text that begins with its canonical text. -/
def ToldByText (value : Json) : Prop :=
  ∀ (other : Json) (after after' : List Char), EndsNumeral after → EndsNumeral after' →
    canonicalChars value ++ after = canonicalChars other ++ after' →
    SameUpToOrder value other ∧ after = after'

theorem member_append_inj {key key' : String} {tail tail' : List Char}
    (told : ToldByText value) (ends : EndsNumeral tail) (ends' : EndsNumeral tail')
    (h : stringChars key ++ ':' :: (canonicalChars value ++ tail) =
      stringChars key' ++ ':' :: (canonicalChars other ++ tail')) :
    key = key' ∧ SameUpToOrder value other ∧ tail = tail' := by
  obtain ⟨sameKey, values⟩ := stringChars_append_inj h
  exact ⟨sameKey, told other tail tail' ends ends' (List.cons.inj values).2⟩

theorem itemsTail_canonical_inj (told : ∀ item ∈ items, ToldByText item)
    {after after' : List Char}
    (h : itemsTail (canonicalItems items) ++ after = itemsTail (canonicalItems others) ++ after') :
    ItemsSameUpToOrder items others ∧ after = after' := by
  induction items generalizing others with
  | nil =>
      cases others with
      | nil => exact ⟨.nil, List.append_cancel_left h⟩
      | cons other others => simp [canonicalItems, itemsTail] at h
  | cons item items ih =>
      obtain ⟨first, more⟩ := List.forall_mem_cons.mp told
      cases others with
      | nil => simp [canonicalItems, itemsTail] at h
      | cons other others =>
          rw [canonicalItems, canonicalItems, itemsTail, itemsTail, List.cons_append,
            List.cons_append, List.append_assoc, List.append_assoc] at h
          obtain ⟨agree, h⟩ := first other _ _ (endsNumeral_itemsTail _ _)
            (endsNumeral_itemsTail _ _) (List.cons.inj h).2
          obtain ⟨agreeMore, h⟩ := ih more h
          exact ⟨.cons agree agreeMore, h⟩

theorem membersTail_canonical_inj (told : ∀ member ∈ members, ToldByText member.2)
    {after after' : List Char}
    (h : membersTail (canonicalMembers members) ++ after =
      membersTail (canonicalMembers members') ++ after') :
    MembersSameUpToOrder members members' ∧ after = after' := by
  induction members generalizing members' with
  | nil =>
      cases members' with
      | nil => exact ⟨.nil, List.append_cancel_left h⟩
      | cons member members' => simp [canonicalMembers, membersTail] at h
  | cons member members ih =>
      obtain ⟨key, value⟩ := member
      obtain ⟨first, more⟩ := List.forall_mem_cons.mp told
      cases members' with
      | nil => simp [canonicalMembers, membersTail] at h
      | cons member' members' =>
          obtain ⟨key', value'⟩ := member'
          rw [canonicalMembers, canonicalMembers, membersTail, membersTail, List.cons_append,
            List.cons_append, List.append_assoc, List.append_assoc, List.cons_append,
            List.cons_append, List.append_assoc, List.append_assoc] at h
          obtain ⟨sameKey, agree, tails⟩ := member_append_inj first
            (endsNumeral_membersTail _ _) (endsNumeral_membersTail _ _) (List.cons.inj h).2
          obtain ⟨agreeMore, rests⟩ := ih more tails
          subst sameKey
          exact ⟨.cons key agree agreeMore, rests⟩

theorem canonicalChars_array_cons (item : Json) (items : List Json) :
    canonicalChars (.array (item :: items)) =
      '[' :: (canonicalChars item ++ itemsTail (canonicalItems items)) := by
  rw [canonicalChars, canonical, canonicalItems, compactChars_array_cons]
  rfl

theorem canonicalChars_append_ne_bracket (value : Json) (after after' : List Char) :
    canonicalChars value ++ after ≠ ']' :: after' := by
  obtain ⟨c, more, chars, begins, -⟩ := compactChars_eq_cons value.canonical
  have noValue : ']' ∉ firstChars := by decide
  rw [canonicalChars, chars]
  intro h
  exact noValue ((List.cons.inj h).1 ▸ begins)

theorem toldByText_array (told : ∀ item ∈ items, ToldByText item) :
    ToldByText (.array items) := by
  intro other after after' _ _ h
  have kinds := kind_eq_of_canonicalChars h
  cases other <;> cases kinds
  rename_i others
  cases items with
  | nil =>
      cases others with
      | nil => exact ⟨.array .nil, List.append_cancel_left h⟩
      | cons other others =>
          rw [canonicalChars_array_cons, List.cons_append, List.append_assoc] at h
          exact absurd (List.cons.inj h).2.symm (canonicalChars_append_ne_bracket _ _ _)
  | cons item items =>
      obtain ⟨first, more⟩ := List.forall_mem_cons.mp told
      rw [canonicalChars_array_cons, List.cons_append, List.append_assoc] at h
      cases others with
      | nil => exact absurd (List.cons.inj h).2 (canonicalChars_append_ne_bracket _ _ _)
      | cons other others =>
          rw [canonicalChars_array_cons, List.cons_append, List.append_assoc] at h
          obtain ⟨agree, tails⟩ := first other _ _ (endsNumeral_itemsTail _ _)
            (endsNumeral_itemsTail _ _) (List.cons.inj h).2
          obtain ⟨agreeMore, rests⟩ := itemsTail_canonical_inj more tails
          exact ⟨.array (.cons agree agreeMore), rests⟩

theorem canonicalChars_object_eq (members : List (String × Json)) :
    canonicalChars (.object members) =
      compactChars (.object (canonicalMembers (members.mergeSort keyLe))) := by
  rw [canonicalChars, canonical_object]

/-- The members, sorted or not, of two objects that are written alike agree one by one. -/
theorem compactChars_object_inj (told : ∀ member ∈ members, ToldByText member.2)
    {after after' : List Char}
    (h : compactChars (.object (canonicalMembers members)) ++ after =
      compactChars (.object (canonicalMembers members')) ++ after') :
    MembersSameUpToOrder members members' ∧ after = after' := by
  cases members with
  | nil =>
      cases members' with
      | nil => exact ⟨.nil, List.append_cancel_left h⟩
      | cons member' members' =>
          rw [canonicalMembers, canonicalMembers, compactChars_object_cons] at h
          cases (List.cons.inj h).2
  | cons member members =>
      obtain ⟨key, value⟩ := member
      obtain ⟨first, more⟩ := List.forall_mem_cons.mp told
      rw [canonicalMembers, compactChars_object_cons] at h
      cases members' with
      | nil => cases (List.cons.inj h).2
      | cons member' members' =>
          obtain ⟨key', value'⟩ := member'
          rw [canonicalMembers, compactChars_object_cons, List.cons_append, List.cons_append,
            List.append_assoc, List.append_assoc, List.cons_append, List.cons_append,
            List.append_assoc, List.append_assoc] at h
          obtain ⟨sameKey, agree, tails⟩ := member_append_inj first
            (endsNumeral_membersTail _ _) (endsNumeral_membersTail _ _) (List.cons.inj h).2
          obtain ⟨agreeMore, rests⟩ := membersTail_canonical_inj more tails
          subst sameKey
          exact ⟨.cons key agree agreeMore, rests⟩

theorem toldByText_object (told : ∀ member ∈ members, ToldByText member.2) :
    ToldByText (.object members) := by
  intro other after after' _ _ h
  have kinds := kind_eq_of_canonicalChars h
  cases other <;> cases kinds
  rename_i members'
  rw [canonicalChars_object_eq, canonicalChars_object_eq] at h
  obtain ⟨agree, rests⟩ := compactChars_object_inj
    (fun member inSorted => told member (List.mem_mergeSort.mp inSorted)) h
  exact ⟨.object (List.mergeSort_perm _ _).symm agree (List.mergeSort_perm _ _), rests⟩

theorem toldByText_scalar (value : Json) (scalar : value.depth = 0) : ToldByText value := by
  intro other after after' ends ends' h
  have kinds := kind_eq_of_canonicalChars h
  cases value with
  | null =>
      cases other <;> cases kinds
      exact ⟨.null, List.append_cancel_left h⟩
  | bool b =>
      cases other <;> cases kinds
      rename_i b'
      obtain rfl : b = b' := by cases b <;> cases b' <;> first | rfl | cases (List.cons.inj h).1
      exact ⟨.bool b, List.append_cancel_left h⟩
  | number n =>
      cases other <;> cases kinds
      obtain ⟨numerals, rests⟩ := numberChars_append_inj ends ends' h
      exact ⟨.number numerals, rests⟩
  | string s =>
      cases other <;> cases kinds
      obtain ⟨rfl, rests⟩ := stringChars_append_inj h
      exact ⟨.string s, rests⟩
  | array items => cases scalar
  | object members => cases scalar

mutual

/-- By induction on the value. -/
theorem toldByText : ∀ value : Json, ToldByText value
  | .null => toldByText_scalar _ rfl
  | .bool _ => toldByText_scalar _ rfl
  | .number _ => toldByText_scalar _ rfl
  | .string _ => toldByText_scalar _ rfl
  | .array items => toldByText_array (toldByText_items items)
  | .object members => toldByText_object (toldByText_members members)

theorem toldByText_items : ∀ items : List Json, ∀ item ∈ items, ToldByText item
  | [] => by simp
  | item :: more => List.forall_mem_cons.mpr ⟨toldByText item, toldByText_items more⟩

theorem toldByText_members : ∀ members : List (String × Json),
    ∀ member ∈ members, ToldByText member.2
  | [] => by simp
  | (_, value) :: more =>
    List.forall_mem_cons.mpr ⟨toldByText value, toldByText_members more⟩

end

/-- The canonical text of a value is its own up to the order of members, and no other's. -/
theorem canonicalText_inj_iff (distinct : value.DistinctKeys) :
    value.canonicalText = other.canonicalText ↔ SameUpToOrder value other := by
  rw [canonicalText, canonicalText, compact, compact, String.ofList_inj]
  constructor
  · intro h
    have texts : canonicalChars value ++ [] = canonicalChars other ++ [] := by
      rw [List.append_nil, List.append_nil]
      exact h
    exact (toldByText value other [] [] endsNumeral_nil endsNumeral_nil texts).1
  · intro agree
    exact agree.canonicalChars_eq distinct

/-! ## Members of reordered objects -/

theorem MembersSameUpToOrder.exists_mem (agree : MembersSameUpToOrder members members')
    {key : String} (h : (key, value) ∈ members) :
    ∃ other, (key, other) ∈ members' ∧ SameUpToOrder value other := by
  induction members generalizing members' with
  | nil => cases h
  | cons member members ih =>
      cases agree with
      | cons key' head tail =>
          rcases List.mem_cons.mp h with here | later
          · cases here
            exact ⟨_, List.mem_cons_self, head⟩
          · obtain ⟨other, found, agree⟩ := ih tail later
            exact ⟨other, List.mem_cons_of_mem _ found, agree⟩

theorem SameUpToOrder.exists_mem (agree : SameUpToOrder (.object members) (.object members'))
    (key : String) (h : (key, value) ∈ members) :
    ∃ other, (key, other) ∈ members' ∧ SameUpToOrder value other := by
  cases agree with
  | object perm agree perm' =>
      obtain ⟨other, found, agree⟩ := agree.exists_mem (perm.mem_iff.mp h)
      exact ⟨other, perm'.mem_iff.mp found, agree⟩

theorem SameUpToOrder.string_inj {s t : String}
    (agree : SameUpToOrder (.string s) (.string t)) : s = t := by
  cases agree
  rfl

end FactoryBundler.Json
