import FactoryBundler.Proofs.Json.Integers

/-!
# Properties of everything inside a value

A test of single values holds everywhere in a value if the value and all values inside it pass.
Three such tests matter for reading back what was written: objects with distinct keys, integers of
at most 64 bits, and the absence of doubles. The first two hold of every value that a reader
returns.
-/

namespace FactoryBundler.Json

mutual

/-- Whether a value and every value inside it pass a test. -/
def everywhere (test : Json → Bool) : Json → Bool
  | .array items => test (.array items) && everywhereItems test items
  | .object members => test (.object members) && everywhereMembers test members
  | .null => test .null
  | .bool b => test (.bool b)
  | .number n => test (.number n)
  | .string s => test (.string s)

/-- Whether the test holds everywhere in the items. -/
def everywhereItems (test : Json → Bool) : List Json → Bool
  | [] => true
  | item :: more => everywhere test item && everywhereItems test more

/-- Whether the test holds everywhere in the members' values. -/
def everywhereMembers (test : Json → Bool) : List (String × Json) → Bool
  | [] => true
  | (_, value) :: more => everywhere test value && everywhereMembers test more

end

variable {test : Json → Bool} {items : List Json} {members : List (String × Json)}

theorem everywhereItems_iff :
    everywhereItems test items = true ↔ ∀ item ∈ items, everywhere test item = true := by
  induction items with
  | nil => simp [everywhereItems]
  | cons item more ih => simp [everywhereItems, ih]

theorem everywhereMembers_iff :
    everywhereMembers test members = true ↔
      ∀ member ∈ members, everywhere test member.2 = true := by
  induction members with
  | nil => simp [everywhereMembers]
  | cons member more ih =>
      obtain ⟨key, value⟩ := member
      simp [everywhereMembers, ih]

theorem everywhere_array_iff :
    everywhere test (.array items) = true ↔
      test (.array items) = true ∧ ∀ item ∈ items, everywhere test item = true := by
  rw [everywhere, Bool.and_eq_true, everywhereItems_iff]

theorem everywhere_object_iff :
    everywhere test (.object members) = true ↔
      test (.object members) = true ∧ ∀ member ∈ members, everywhere test member.2 = true := by
  rw [everywhere, Bool.and_eq_true, everywhereMembers_iff]

mutual

/-- A test that follows from two others holds everywhere if both of them do. -/
theorem everywhere_of_both {first second : Json → Bool}
    (both : ∀ value, first value = true → second value = true → test value = true) :
    ∀ {value : Json}, everywhere first value = true → everywhere second value = true →
      everywhere test value = true
  | .array items, h, h' => by
    rw [everywhere, Bool.and_eq_true] at h h' ⊢
    exact ⟨both _ h.1 h'.1, everywhereItems_of_both both h.2 h'.2⟩
  | .object members, h, h' => by
    rw [everywhere, Bool.and_eq_true] at h h' ⊢
    exact ⟨both _ h.1 h'.1, everywhereMembers_of_both both h.2 h'.2⟩
  | .null, h, h' | .bool _, h, h' | .number _, h, h' | .string _, h, h' => both _ h h'

theorem everywhereItems_of_both {first second : Json → Bool}
    (both : ∀ value, first value = true → second value = true → test value = true) :
    ∀ {items : List Json}, everywhereItems first items = true →
      everywhereItems second items = true → everywhereItems test items = true
  | [], _, _ => rfl
  | _ :: _, h, h' => by
    rw [everywhereItems, Bool.and_eq_true] at h h' ⊢
    exact ⟨everywhere_of_both both h.1 h'.1, everywhereItems_of_both both h.2 h'.2⟩

theorem everywhereMembers_of_both {first second : Json → Bool}
    (both : ∀ value, first value = true → second value = true → test value = true) :
    ∀ {members : List (String × Json)}, everywhereMembers first members = true →
      everywhereMembers second members = true → everywhereMembers test members = true
  | [], _, _ => rfl
  | (_, _) :: _, h, h' => by
    rw [everywhereMembers, Bool.and_eq_true] at h h' ⊢
    exact ⟨everywhere_of_both both h.1 h'.1, everywhereMembers_of_both both h.2 h'.2⟩

end

/-! ## The tests -/

/-- Whether an object names every key once. -/
def hasDistinctKeys : Json → Bool
  | .object members => decide (Members.keys members).Nodup
  | _ => true

/-- Whether an integer fits 64 bits. -/
def fits64Bits : Json → Bool
  | .number (.integer i) => isWithin64Bits i
  | _ => true

/-- Whether a value is anything but a double. -/
def isNoDouble : Json → Bool
  | .number (.double _) => false
  | _ => true

/-- Objects inside the value have distinct keys. -/
def DistinctKeys (value : Json) : Prop :=
  value.everywhere hasDistinctKeys = true

/-- A value as a reader returns it: objects have distinct keys and integers fit 64 bits. -/
def WellFormed (value : Json) : Prop :=
  value.everywhere (fun inner => hasDistinctKeys inner && fits64Bits inner) = true

/-- No number inside the value is a double. -/
def DoubleFree (value : Json) : Prop :=
  value.everywhere isNoDouble = true

instance (value : Json) : Decidable value.DistinctKeys := inferInstanceAs (Decidable (_ = true))

instance (value : Json) : Decidable value.WellFormed := inferInstanceAs (Decidable (_ = true))

instance (value : Json) : Decidable value.DoubleFree := inferInstanceAs (Decidable (_ = true))

theorem distinctKeys_array_iff :
    DistinctKeys (.array items) ↔ ∀ item ∈ items, item.DistinctKeys := by
  simp [DistinctKeys, everywhere_array_iff, hasDistinctKeys]

theorem distinctKeys_object_iff :
    DistinctKeys (.object members) ↔
      (Members.keys members).Nodup ∧ ∀ member ∈ members, member.2.DistinctKeys := by
  simp [DistinctKeys, everywhere_object_iff, hasDistinctKeys]

theorem wellFormed_array_iff :
    WellFormed (.array items) ↔ ∀ item ∈ items, item.WellFormed := by
  simp [WellFormed, everywhere_array_iff, hasDistinctKeys, fits64Bits]

theorem wellFormed_object_iff :
    WellFormed (.object members) ↔
      (Members.keys members).Nodup ∧ ∀ member ∈ members, member.2.WellFormed := by
  simp [WellFormed, everywhere_object_iff, hasDistinctKeys, fits64Bits]

theorem wellFormed_integer_iff {i : Int} :
    WellFormed (.number (.integer i)) ↔ isWithin64Bits i = true := by
  simp [WellFormed, everywhere, hasDistinctKeys, fits64Bits]

theorem doubleFree_array_iff :
    DoubleFree (.array items) ↔ ∀ item ∈ items, item.DoubleFree := by
  simp [DoubleFree, everywhere_array_iff, isNoDouble]

theorem doubleFree_object_iff :
    DoubleFree (.object members) ↔ ∀ member ∈ members, member.2.DoubleFree := by
  simp [DoubleFree, everywhere_object_iff, isNoDouble]

theorem not_doubleFree_double {d : Decimal.Double} : ¬ DoubleFree (.number (.double d)) := by
  simp [DoubleFree, everywhere, isNoDouble]

/-! ## Depth -/

variable {bound : Nat}

theorem depthItems_le_iff : depthItems items ≤ bound ↔ ∀ item ∈ items, item.depth ≤ bound := by
  induction items with
  | nil => simp [depthItems]
  | cons item more ih => rw [depthItems, Nat.max_le, ih, List.forall_mem_cons]

theorem depthMembers_le_iff :
    depthMembers members ≤ bound ↔ ∀ member ∈ members, member.2.depth ≤ bound := by
  induction members with
  | nil => simp [depthMembers]
  | cons member more ih =>
      obtain ⟨key, value⟩ := member
      rw [depthMembers, Nat.max_le, ih, List.forall_mem_cons]

theorem depth_array_le_iff :
    depth (.array items) ≤ bound + 1 ↔ ∀ item ∈ items, item.depth ≤ bound := by
  rw [depth, Nat.add_le_add_iff_right, depthItems_le_iff]

theorem depth_object_le_iff :
    depth (.object members) ≤ bound + 1 ↔ ∀ member ∈ members, member.2.depth ≤ bound := by
  rw [depth, Nat.add_le_add_iff_right, depthMembers_le_iff]

theorem exists_item_of_lt_depth (h : bound + 1 < depth (.array items)) :
    ∃ item ∈ items, bound < item.depth := by
  by_contra none
  simp only [not_exists, not_and, Nat.not_lt] at none
  exact Nat.not_le.mpr h (depth_array_le_iff.mpr none)

theorem exists_member_of_lt_depth (h : bound + 1 < depth (.object members)) :
    ∃ member ∈ members, bound < member.2.depth := by
  by_contra none
  simp only [not_exists, not_and, Nat.not_lt] at none
  exact Nat.not_le.mpr h (depth_object_le_iff.mpr none)

end FactoryBundler.Json
