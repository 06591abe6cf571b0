import FactoryBundler.PolicyType.Name

/-!
# The catalog of policy types

A catalog holds one policy body for each name, in ascending order of the names. Every look-up and
every registration goes through the name of the spelling that it is given, and the last body
registered under a name is the one that is found.
-/

namespace FactoryBundler

/-- Put a key into an ascending list of keys and values, in place of an equal one if there is
one. -/
def placeAscending (key value : String) : List (String × String) → List (String × String)
  | [] => [(key, value)]
  | (k, v) :: rest =>
    if key < k then (key, value) :: (k, v) :: rest
    else if k == key then (key, value) :: rest
    else (k, v) :: placeAscending key value rest

theorem mem_keys_placeAscending {key value k : String} {entries : List (String × String)}
    (h : k ∈ (placeAscending key value entries).map Prod.fst) :
    k = key ∨ k ∈ entries.map Prod.fst := by
  induction entries with
  | nil => simpa [placeAscending] using h
  | cons entry rest ih =>
    obtain ⟨j, v⟩ := entry
    simp only [placeAscending] at h
    split at h
    · simpa using h
    · split at h
      · simp only [List.map_cons, List.mem_cons] at h ⊢
        rcases h with h | h
        · exact Or.inl h
        · exact Or.inr (Or.inr h)
      · simp only [List.map_cons, List.mem_cons] at h ⊢
        rcases h with h | h
        · exact Or.inr (Or.inl h)
        · exact (ih h).imp_right Or.inr

/-- Placing a key keeps the keys ascending. -/
theorem pairwise_placeAscending {key value : String} {entries : List (String × String)}
    (h : (entries.map Prod.fst).Pairwise (· < ·)) :
    ((placeAscending key value entries).map Prod.fst).Pairwise (· < ·) := by
  induction entries with
  | nil => simp [placeAscending]
  | cons entry rest ih =>
    obtain ⟨j, v⟩ := entry
    simp only [List.map_cons, List.pairwise_cons] at h
    simp only [placeAscending]
    split
    · next less =>
      simp only [List.map_cons, List.pairwise_cons, List.mem_cons]
      refine ⟨?_, h⟩
      rintro k (rfl | inRest)
      · exact less
      · exact String.lt_trans less (h.1 k inRest)
    · split
      · next equal =>
        rw [beq_iff_eq] at equal
        subst equal
        simpa only [List.map_cons, List.pairwise_cons] using h
      · next notLess notEqual =>
        simp only [beq_iff_eq] at notEqual
        simp only [List.map_cons, List.pairwise_cons]
        refine ⟨fun k inPlaced => ?_, ih h.2⟩
        rcases mem_keys_placeAscending inPlaced with rfl | inRest
        · exact Std.lt_of_le_of_ne (String.not_lt.mp notLess) notEqual
        · exact h.1 k inRest

/-- The policy bodies by name, with the names in ascending order. -/
structure Catalog where
  entries : List (String × String)
  ascending : (entries.map Prod.fst).Pairwise (· < ·)
deriving DecidableEq

namespace Catalog

/-- The catalog without any policy type. -/
def empty : Catalog := ⟨[], by simp⟩

/-- The catalog with a body under a name that is taken as it stands. -/
def set (catalog : Catalog) (name body : String) : Catalog :=
  ⟨placeAscending name body catalog.entries, pairwise_placeAscending catalog.ascending⟩

/-- The catalog with a body under the name of a spelling. -/
def register (catalog : Catalog) (spelling body : String) : Catalog :=
  catalog.set (PolicyType.name spelling) body

/-- The catalog with all bodies of another one, which replace those of the same name. -/
def extend (catalog other : Catalog) : Catalog :=
  other.entries.foldl (fun catalog (name, body) => catalog.set name body) catalog

/-- The body under the name of a spelling. -/
def get? (catalog : Catalog) (spelling : String) : Option String :=
  catalog.entries.lookup (PolicyType.name spelling)

/-- The names, in ascending order. -/
def names (catalog : Catalog) : List String :=
  catalog.entries.map Prod.fst

/-- The number of names. -/
def size (catalog : Catalog) : Nat :=
  catalog.entries.length

/-- Whether there is no name. -/
def isEmpty (catalog : Catalog) : Bool :=
  catalog.entries.isEmpty

/-- Register spellings and bodies one after the other. -/
def registerAll (catalog : Catalog) (bodies : List (String × String)) : Catalog :=
  bodies.foldl (fun catalog (spelling, body) => catalog.register spelling body) catalog

end Catalog

end FactoryBundler
