import FactoryBundler.Configuration.Attributes

/-!
# Hydrating variables

The entries of a section become variables in the order of the entries. A section may start out with
reserved variables; an entry for an identifier that is already there takes its place, and an entry
for a reserved identifier is laid over what is known of the reserved variable.
-/

namespace FactoryBundler.Configuration

/-- What is wrong with one entry of a section. -/
inductive EntryFault where
  | notAttributes (found : Json)
  | attribute (failure : Failure)
deriving Repr, DecidableEq

/-- The wording of what is wrong with an entry. -/
def EntryFault.message : EntryFault → String
  | .notAttributes found => s!"expected an object of attributes, found {found.compact}"
  | .attribute failure => failure.message

/-- The attributes of an entry; null gives none. -/
def attributesOf (entry : Json) : Except EntryFault Attributes :=
  match entry with
  | .null => .ok .unset
  | .object members => (Attributes.ofMembers members).mapError .attribute
  | other => .error (.notAttributes other)

/-- A variable in place of the one with its identifier, or at the end. -/
def placeVariable (v : Variable) : List Variable → List Variable
  | [] => [v]
  | other :: more =>
    if other.identifier == v.identifier then v :: more else other :: placeVariable v more

/-- What an identifier starts from: its reserved variable, or a plain one. -/
def baseOf (reserved : Option ReservedVariables) (identifier : String) : Variable :=
  match reserved.bind (·.get? identifier) with
  | some base => { base with identifier := identifier }
  | none => .plain identifier

/-- Add the variables of the entries one after the other. A faulty entry is reported with its
identifier. -/
def hydrateInto (reserved : Option ReservedVariables) (known : List Variable) :
    List (String × Json) → Except (String × EntryFault) (List Variable)
  | [] => .ok known
  | (identifier, entry) :: more =>
    match attributesOf entry with
    | .error fault => .error (identifier, fault)
    | .ok attributes =>
      hydrateInto reserved
        (placeVariable (attributes.applyTo (baseOf reserved identifier)) known) more

/-- The variables of a section, after the reserved ones if it has them. -/
def hydrate (reserved : Option ReservedVariables) (entries : Option (List (String × Json))) :
    Except (String × EntryFault) (List Variable) :=
  hydrateInto reserved ((reserved.map ReservedVariables.toList).getD []) (entries.getD [])

end FactoryBundler.Configuration
