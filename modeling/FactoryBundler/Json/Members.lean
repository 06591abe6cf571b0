/-!
# Members in order

The members of an object are a list of keys and values in the order in which the keys first
appeared. Setting a key that is already there replaces its value and keeps its place.
-/

namespace FactoryBundler.Members

variable {α : Type}

/-- Set a key: in its place if it is there, at the end otherwise. -/
def insert (key : String) (value : α) : List (String × α) → List (String × α)
  | [] => [(key, value)]
  | (k, v) :: rest => if k == key then (k, value) :: rest else (k, v) :: insert key value rest

/-- Set the keys one after the other, starting from no members. -/
def ofList (pairs : List (String × α)) : List (String × α) :=
  pairs.foldl (fun members (key, value) => insert key value members) []

/-- The keys in order. -/
def keys {κ : Type} (members : List (κ × α)) : List κ :=
  members.map Prod.fst

/-- Whether a key is set. -/
def contains (key : String) (members : List (String × α)) : Bool :=
  members.any fun (k, _) => k == key

end FactoryBundler.Members
