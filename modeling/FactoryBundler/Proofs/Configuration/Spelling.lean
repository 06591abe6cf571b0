import FactoryBundler.Proofs.Configuration.Settings

/-!
# Spellings of keys

Members are read with underscores for the dashes in their keys. Respelled members are decided, up
to their order, by the last value under each key; and values that are alike stay alike when their
keys are respelled.
-/

namespace FactoryBundler

/-! ## Alike members -/

namespace Members

variable {α β : Type} {r : String → α → β → Prop} {key : String}

/-- Members with the same keys in the same order and with values that are alike under their keys. -/
def Alike (r : String → α → β → Prop) (first : List (String × α)) (second : List (String × β)) :
    Prop :=
  List.Forall₂ (fun a b => a.1 = b.1 ∧ r a.1 a.2 b.2) first second

theorem Alike.insert {first : List (String × α)} {second : List (String × β)} {a : α} {b : β}
    (alike : Alike r first second) (related : r key a b) :
    Alike r (Members.insert key a first) (Members.insert key b second) := by
  induction alike with
  | nil => exact .cons ⟨rfl, related⟩ .nil
  | @cons member member' more more' here later ih =>
      obtain ⟨k, v⟩ := member
      obtain ⟨k', v'⟩ := member'
      obtain ⟨rfl, alike⟩ := here
      rw [Members.insert, Members.insert]
      by_cases found : k = key
      · subst found
        simp only [beq_self_eq_true, if_true]
        exact .cons ⟨rfl, related⟩ later
      · rw [if_neg (by simpa using found), if_neg (by simpa using found)]
        exact .cons ⟨rfl, alike⟩ ih

theorem Alike.ofList {first : List (String × α)} {second : List (String × β)}
    (alike : Alike r first second) : Alike r (Members.ofList first) (Members.ofList second) := by
  have inserted (known : List (String × α)) (known' : List (String × β))
      (before : Alike r known known') :
      Alike r (first.foldl (fun members member => Members.insert member.1 member.2 members) known)
        (second.foldl (fun members member => Members.insert member.1 member.2 members)
          known') := by
    induction alike generalizing known known' with
    | nil => exact before
    | @cons member member' more more' here later ih =>
        obtain ⟨k, v⟩ := member
        obtain ⟨k', v'⟩ := member'
        obtain ⟨rfl, related⟩ := here
        exact ih _ _ (before.insert related)
  exact inserted [] [] .nil

end Members

namespace Configuration

variable {members members' : List (String × Json)} {key setting : String} {value : Json}
  {r : String → Json → Json → Prop}

/-- Members whose keys are spelled alike, one for one, and whose values are alike. -/
def SpelledAlike (r : String → Json → Json → Prop) (first second : List (String × Json)) : Prop :=
  List.Forall₂ (fun a b => underscored a.1 = underscored b.1 ∧ r (underscored a.1) a.2 b.2)
    first second

theorem SpelledAlike.keys_eq (alike : SpelledAlike r members members') :
    (members.map fun member => underscored member.1) =
      members'.map fun member => underscored member.1 := by
  induction alike with
  | nil => rfl
  | cons here _ ih => exact congrArg₂ List.cons here.1 ih

theorem SpelledAlike.respell (alike : SpelledAlike r members members') :
    Members.Alike r (respell members) (respell members') := by
  apply Members.Alike.ofList
  rw [Members.Alike, List.forall₂_map_left_iff, List.forall₂_map_right_iff]
  exact alike

/-- Keys that are spelled alike and have the same values are the same once they are respelled. -/
theorem SpelledAlike.respell_eq (alike : SpelledAlike (fun _ => Eq) members members') :
    Configuration.respell members = Configuration.respell members' := by
  have same := alike.respell
  rw [Members.Alike] at same
  refine List.forall₂_eq_eq_eq ▸ same.imp ?_
  rintro ⟨key, value⟩ ⟨key', value'⟩ ⟨rfl, rfl⟩
  rfl

/-! ## The last value under each key -/

/-- A key without dashes and underscores has no other spelling. -/
theorem underscored_eq_iff {key setting : String} (noDash : '-' ∉ setting.toList)
    (noUnderscore : '_' ∉ setting.toList) : underscored key = setting ↔ key = setting := by
  have spelled : underscored key = setting ↔
      (key.toList.map fun c => if c == '-' then '_' else c) = setting.toList := by
    rw [← String.toList_inj, underscored, String.toList_ofList]
  rw [spelled, ← String.toList_inj]
  constructor
  · intro same
    rw [← same, List.map_congr_left (g := id), List.map_id]
    intro c inKey
    by_cases dash : c = '-'
    · subst dash
      exact absurd (same ▸ List.mem_map.mpr ⟨'-', inKey, rfl⟩) noUnderscore
    · simp [dash]
  · intro same
    rw [same, List.map_congr_left (g := id), List.map_id]
    intro c inSetting
    have notDash : c ≠ '-' := fun dash => noDash (dash ▸ inSetting)
    simp [notDash]

theorem lastSpelled_append (setting : String) (first second : List (String × Json)) :
    lastSpelled setting (first ++ second) =
      (lastSpelled setting second).or (lastSpelled setting first) := by
  rw [lastSpelled, List.reverse_append, List.find?_append, Option.map_or]
  rfl

theorem lastSpelled_cons_of_ne (other : underscored key ≠ setting)
    (more : List (String × Json)) :
    lastSpelled setting ((key, value) :: more) = lastSpelled setting more := by
  rw [← List.singleton_append, lastSpelled_append]
  simp [lastSpelled, other]

theorem lastSpelled_singleton (setting key : String) (value : Json) :
    lastSpelled setting [(key, value)] =
      if underscored key = setting then some value else none := by
  by_cases spelled : underscored key = setting <;> simp [lastSpelled, spelled]

theorem isSome_lastSpelled_iff :
    (lastSpelled setting members).isSome = true ↔
      setting ∈ members.map fun member => underscored member.1 := by
  simp [lastSpelled, List.find?_isSome]

/-- A member that is followed by another spelling of its key does not count. -/
theorem lastSpelled_of_overridden {key' : String} {value' : Json}
    (alike : underscored key = underscored key') (setting : String)
    (before between after : List (String × Json)) :
    lastSpelled setting (before ++ (key, value) :: (between ++ (key', value') :: after)) =
      lastSpelled setting (before ++ (between ++ (key', value') :: after)) := by
  rw [lastSpelled_append, lastSpelled_append setting before]
  by_cases spelled : underscored key = setting
  · -- the later spelling is found first
    have found : (lastSpelled setting (between ++ (key', value') :: after)).isSome = true := by
      rw [isSome_lastSpelled_iff]
      simp [← spelled, alike]
    obtain ⟨last, isLast⟩ := Option.isSome_iff_exists.mp found
    rw [← List.singleton_append, lastSpelled_append setting [_], isLast]
    rfl
  · rw [lastSpelled_cons_of_ne spelled]

/-- Respelled members are decided, up to their order, by the last value under each key. -/
theorem respell_perm
    (same : ∀ setting, lastSpelled setting members = lastSpelled setting members') :
    (respell members).Perm (respell members') := by
  have distinct (members : List (String × Json)) : (respell members).Nodup :=
    .of_map Prod.fst (nodup_keys_respell members)
  refine (List.perm_ext_iff_of_nodup (distinct members) (distinct members')).mpr ?_
  rintro ⟨key, value⟩
  rw [mem_respell_iff, mem_respell_iff, same]

/-! ## Distinct keys -/

/-- Keys that stay distinct when their dashes become underscores. -/
def DistinctKeys (members : List (String × Json)) : Prop :=
  (members.map fun member => underscored member.1).Nodup

instance (members : List (String × Json)) : Decidable (DistinctKeys members) :=
  inferInstanceAs (Decidable (List.Nodup _))

theorem DistinctKeys.respell_eq (distinct : DistinctKeys members) :
    respell members = members.map fun (key, value) => (underscored key, value) := by
  apply Members.ofList_of_nodup
  rw [Members.keys, List.map_map]
  exact distinct

/-- The order of members with distinct keys does not matter for the last value under each. -/
theorem DistinctKeys.lastSpelled_perm (distinct : DistinctKeys members)
    (perm : members.Perm members') (setting : String) :
    lastSpelled setting members = lastSpelled setting members' := by
  have distinct' : DistinctKeys members' := (perm.map _).nodup_iff.mp distinct
  rw [← lookup_respell, ← lookup_respell]
  apply Option.ext
  intro value
  rw [Members.lookup_eq_some_iff_mem (nodup_keys_respell members),
    Members.lookup_eq_some_iff_mem (nodup_keys_respell members'), distinct.respell_eq,
    distinct'.respell_eq, (perm.map _).mem_iff]

end Configuration

end FactoryBundler
