import FactoryBundler.Json.Members
import Mathlib.Data.List.Induction
import Mathlib.Data.List.Nodup

/-!
# Laws of members in order

Setting a key keeps the other keys and their order, so the keys of members that were set one after
the other are distinct. What a look-up finds afterwards is the value that was set last.
-/

namespace FactoryBundler.Members

/-! ## Looking up -/

section

variable {κ α : Type} [DecidableEq κ]

theorem lookup_cons (k : κ) (member : κ × α) (rest : List (κ × α)) :
    (member :: rest).lookup k = if k = member.1 then some member.2 else rest.lookup k := by
  by_cases here : k = member.1
  · rw [if_pos here, here, List.lookup_cons_self]
  · rw [if_neg here, List.lookup_cons, beq_false_of_ne here]

/-- Members with distinct keys are what look-ups find. -/
theorem lookup_eq_some_iff_mem {key : κ} {value : α} {members : List (κ × α)}
    (distinct : (keys members).Nodup) :
    members.lookup key = some value ↔ (key, value) ∈ members := by
  induction members with
  | nil => simp
  | cons member rest ih =>
      obtain ⟨k, v⟩ := member
      rw [keys, List.map_cons, List.nodup_cons] at distinct
      rw [lookup_cons, List.mem_cons, Prod.mk.injEq]
      by_cases here : key = k
      · have notLater : (key, value) ∉ rest := by
          intro later
          exact distinct.1 (List.mem_map.mpr ⟨(key, value), later, here⟩)
        simp [here, eq_comm, here ▸ notLater]
      · simp [here, ih distinct.2]

end

variable {α : Type} {key : String} {value : α} {members : List (String × α)}

/-! ## Setting one key -/

theorem insert_of_not_mem (h : key ∉ keys members) :
    insert key value members = members ++ [(key, value)] := by
  induction members with
  | nil => rfl
  | cons member rest ih =>
      obtain ⟨k, v⟩ := member
      simp only [keys, List.map_cons, List.mem_cons, not_or] at h
      rw [insert, if_neg (by simpa using Ne.symm h.1), ih h.2, List.cons_append]

theorem keys_insert_of_mem (h : key ∈ keys members) :
    keys (insert key value members) = keys members := by
  induction members with
  | nil => cases h
  | cons member rest ih =>
      obtain ⟨k, v⟩ := member
      rw [insert]
      split
      · rfl
      · next other =>
        have notHere : key ≠ k := by
          intro equal
          exact other (beq_iff_eq.mpr equal.symm)
        have inRest : key ∈ keys rest := (List.mem_cons.mp h).resolve_left notHere
        exact congrArg (k :: ·) (ih inRest)

theorem mem_keys_insert {k : String} :
    k ∈ keys (insert key value members) ↔ k = key ∨ k ∈ keys members := by
  by_cases known : key ∈ keys members
  · rw [keys_insert_of_mem known]
    exact ⟨Or.inr, fun h => h.elim (· ▸ known) id⟩
  · simp [insert_of_not_mem known, keys, or_comm]

theorem nodup_keys_insert (distinct : (keys members).Nodup) :
    (keys (insert key value members)).Nodup := by
  by_cases known : key ∈ keys members
  · rwa [keys_insert_of_mem known]
  · rw [insert_of_not_mem known, keys, List.map_append]
    exact List.nodup_append.mpr ⟨distinct, List.nodup_singleton _, by
      intro k inKeys k' isKey
      rw [List.map_singleton, List.mem_singleton] at isKey
      rintro rfl
      subst isKey
      exact known inKeys⟩

theorem mem_insert {member : String × α} (h : member ∈ insert key value members) :
    member = (key, value) ∨ member ∈ members := by
  induction members with
  | nil => exact Or.inl (List.mem_singleton.mp h)
  | cons first rest ih =>
      obtain ⟨k, v⟩ := first
      rw [insert] at h
      split at h
      · next here =>
        rw [beq_iff_eq.mp here, List.mem_cons] at h
        exact h.imp_right (List.mem_cons_of_mem _)
      · rw [List.mem_cons] at h
        rcases h with rfl | h
        · exact Or.inr List.mem_cons_self
        · exact (ih h).imp_right (List.mem_cons_of_mem _)

theorem lookup_insert (k : String) :
    (insert key value members).lookup k = if k = key then some value else members.lookup k := by
  induction members with
  | nil => rw [insert, lookup_cons]
  | cons first rest ih =>
      obtain ⟨first, v⟩ := first
      rw [insert]
      split
      · next here =>
        rw [lookup_cons, lookup_cons, beq_iff_eq.mp here]
        split <;> rfl
      · next other =>
        have notKey : first ≠ key := by simpa using other
        rw [lookup_cons, lookup_cons, ih]
        by_cases asked : k = first
        · rw [if_pos asked, if_pos asked, if_neg (asked ▸ notKey)]
        · rw [if_neg asked, if_neg asked]

/-! ## Members with other values -/

theorem keys_map_snd {β : Type} (f : α → β) (members : List (String × α)) :
    keys (members.map fun member => (member.1, f member.2)) = keys members := by
  rw [keys, List.map_map]
  rfl

theorem lookup_map_snd {β : Type} (f : α → β) (k : String) (members : List (String × α)) :
    (members.map fun member => (member.1, f member.2)).lookup k =
      (members.lookup k).map f := by
  induction members with
  | nil => rfl
  | cons member rest ih =>
      rw [List.map_cons, lookup_cons, lookup_cons, ih]
      by_cases here : k = member.1
      · rw [if_pos here, if_pos here]
        rfl
      · rw [if_neg here, if_neg here]

/-! ## Setting keys one after the other -/

theorem ofList_concat (pairs : List (String × α)) :
    ofList (pairs ++ [(key, value)]) = insert key value (ofList pairs) := by
  rw [ofList, List.foldl_append]
  rfl

theorem nodup_keys_ofList (pairs : List (String × α)) : (keys (ofList pairs)).Nodup := by
  induction pairs using List.reverseRecOn with
  | nil => exact List.nodup_nil
  | append_singleton pairs pair ih =>
      rw [ofList_concat]
      exact nodup_keys_insert ih

theorem mem_keys_ofList {k : String} {pairs : List (String × α)} :
    k ∈ keys (ofList pairs) ↔ k ∈ keys pairs := by
  induction pairs using List.reverseRecOn with
  | nil => exact Iff.rfl
  | append_singleton pairs pair ih =>
      rw [ofList_concat, mem_keys_insert, ih]
      simp [keys, or_comm]

theorem mem_of_mem_ofList {member : String × α} {pairs : List (String × α)}
    (h : member ∈ ofList pairs) : member ∈ pairs := by
  induction pairs using List.reverseRecOn with
  | nil => cases h
  | append_singleton pairs pair ih =>
      rw [ofList_concat] at h
      rw [List.mem_append, List.mem_singleton]
      exact (mem_insert h).symm.imp_left ih

/-- Members with distinct keys are what setting them one after the other makes of them. -/
theorem ofList_of_nodup {pairs : List (String × α)} (distinct : (keys pairs).Nodup) :
    ofList pairs = pairs := by
  induction pairs using List.reverseRecOn with
  | nil => rfl
  | append_singleton pairs pair ih =>
      rw [keys, List.map_append, List.map_singleton, List.nodup_append] at distinct
      have notKnown : pair.1 ∉ keys pairs := by
        intro h
        exact distinct.2.2 _ h _ (List.mem_singleton_self _) rfl
      rw [ofList_concat, ih distinct.1, insert_of_not_mem notKnown]

/-- The value that was set last under a key is the one that is found. -/
theorem lookup_ofList (k : String) (pairs : List (String × α)) :
    (ofList pairs).lookup k = pairs.reverse.lookup k := by
  induction pairs using List.reverseRecOn with
  | nil => rfl
  | append_singleton pairs pair ih =>
      rw [ofList_concat, lookup_insert, ih, List.reverse_append, List.reverse_singleton,
        List.singleton_append, lookup_cons]

end FactoryBundler.Members
