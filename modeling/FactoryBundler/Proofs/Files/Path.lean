import FactoryBundler.Files.Path
import FactoryBundler.Proofs.Files.RawText
import FactoryBundler.Proofs.Text.Words
import Mathlib.Data.List.TakeWhile
import Mathlib.Data.String.Basic

/-!
# Paths as sequences of components

A path that is followed by a name says what it said before and the name, however the path is
spelled: whether it is empty or ends in a slash decides only how the two are put together.
-/

namespace FactoryBundler

namespace Path

/-- A name that an entry of a directory can have. -/
def IsName (name : RawText) : Prop :=
  name ≠ "" ∧ name ≠ "." ∧ name ≠ ".." ∧ slash ∉ name.bytes

instance : DecidablePred IsName :=
  fun name => inferInstanceAs (Decidable (name ≠ "" ∧ name ≠ "." ∧ name ≠ ".." ∧ _))

/-- The components that the pieces of a path say. -/
def pieces (path : List UInt8) : List Component :=
  (Text.cutAt (· == slash) path).filterMap component?

theorem bytes_append (first second : RawText) :
    (first ++ second).bytes = first.bytes ++ second.bytes := rfl

theorem component?_of_isName {name : RawText} (isName : IsName name) :
    component? name.bytes = some (.entry name) := by
  obtain ⟨notEmpty, notCurrent, notParent, -⟩ := isName
  have differs {bytes : List UInt8} (differ : name ≠ ⟨bytes⟩) : name.bytes ≠ bytes :=
    fun same => differ (congrArg RawText.mk same)
  have counts : ¬ (name.bytes = [] ∨ name.bytes = [dot]) :=
    not_or.mpr ⟨differs notEmpty, differs notCurrent⟩
  have notUp : name.bytes ≠ [dot, dot] := differs notParent
  rw [component?, if_neg counts, if_neg notUp]

theorem pieces_of_isName {name : RawText} (isName : IsName name) :
    pieces name.bytes = [.entry name] := by
  rw [pieces, Text.cutAt_of_forall_not, List.filterMap_cons_some (component?_of_isName isName)]
  · rfl
  · intro b inName
    simpa using fun isSlash : b = slash => isName.2.2.2 (isSlash ▸ inName)

theorem pieces_append_slash (first second : List UInt8) :
    pieces (first ++ slash :: second) = pieces first ++ pieces second := by
  rw [pieces, Text.cutAt_append_cons (by rfl), List.filterMap_append]
  rfl

theorem pieces_nil : pieces [] = [] := rfl

theorem components_eq (path : RawText) :
    components path = lead path.bytes ++ pieces path.bytes := rfl

theorem lead_of_isName {name : RawText} (isName : IsName name) : lead name.bytes = [] := by
  obtain ⟨-, notCurrent, -, noSlash⟩ := isName
  have notRoot : name.bytes.take 1 ≠ [slash] := fun begins =>
    noSlash (List.mem_of_mem_take (begins ▸ List.mem_singleton_self slash))
  have notCurrent : ¬ (name.bytes = [dot] ∨ name.bytes.take 2 = [dot, slash]) := by
    rintro (alone | begins)
    · exact notCurrent (congrArg RawText.mk alone)
    · exact noSlash (List.mem_of_mem_take (begins ▸ List.mem_cons_of_mem _ List.mem_cons_self))
  rw [lead, if_neg notRoot, if_neg notCurrent]

/-- Of a path that is cut at a slash only what is in front of it can count as its beginning. -/
theorem lead_append_slash (front rest : List UInt8) :
    lead (front ++ slash :: rest) = lead (front ++ [slash]) := by
  rcases front with _ | ⟨b, _ | ⟨c, front⟩⟩ <;> simp [lead]

theorem lead_concat_slash {front : List UInt8} (notEmpty : front ≠ []) :
    lead (front ++ [slash]) = lead front := by
  rcases front with _ | ⟨b, _ | ⟨c, front⟩⟩
  · exact absurd rfl notEmpty
  all_goals simp [lead]

/-- A path followed by a name has one more component. -/
theorem components_join {path name : RawText} (isName : IsName name) :
    components (join path name) = components path ++ [.entry name] := by
  rw [components_eq, components_eq, join]
  split
  · next empty =>
    rw [RawText.isEmpty_iff.mp empty, lead_of_isName isName, pieces_of_isName isName]
    rfl
  · next notEmpty =>
    split
    · next endsInSlash =>
      obtain ⟨front, isPath⟩ := List.getLast?_eq_some_iff.mp endsInSlash
      rw [bytes_append, isPath, List.append_assoc, List.singleton_append,
        lead_append_slash, pieces_append_slash, pieces_append_slash, pieces_of_isName isName,
        pieces_nil, List.append_nil, List.append_assoc]
    · have notNil : path.bytes ≠ [] := fun empty => notEmpty (List.isEmpty_iff.mpr empty)
      have between : (path ++ "/" ++ name).bytes = path.bytes ++ slash :: name.bytes :=
        List.append_assoc path.bytes [slash] name.bytes
      rw [between, lead_append_slash, lead_concat_slash notNil, pieces_append_slash,
        pieces_of_isName isName, List.append_assoc]

theorem not_isEmpty_join {path name : RawText} (isName : IsName name) :
    ¬ (join path name).isEmpty = true := by
  rw [RawText.isEmpty_iff]
  intro empty
  have said : components (join path name) = components path ++ [.entry name] :=
    components_join isName
  rw [empty] at said
  exact absurd said.symm (List.append_ne_nil_of_right_ne_nil _ (List.cons_ne_nil _ _))

/-- Slashes at the end do not count. -/
theorem dropTrailingSlashes_append (path : String) (slashes : Nat) :
    dropTrailingSlashes (path ++ String.ofList (.replicate slashes '/')) =
      dropTrailingSlashes path := by
  rw [dropTrailingSlashes, String.toList_append, String.toList_ofList, List.reverse_append,
    List.reverse_replicate, List.dropWhile_append_of_pos, dropTrailingSlashes]
  intro c inSlashes
  simpa using List.eq_of_mem_replicate inSlashes

/-! ## Extensions -/

/-- A name is cut at its last dot, if anything stands before it. -/
theorem splitExtension?_eq_some_iff {name stem extension : RawText} :
    splitExtension? name = some (stem, extension) ↔
      stem ≠ "" ∧ dot ∉ extension.bytes ∧ name = stem ++ "." ++ extension := by
  constructor
  · intro cut
    rw [splitExtension?] at cut
    split at cut
    case h_3 first reversed notAlone found =>
      have parts := List.takeWhile_append_dropWhile (p := (· != dot)) (l := name.bytes.reverse)
      obtain rfl : first = dot := by
        have stops := List.head?_dropWhile_not (· != dot) name.bytes.reverse
        simpa [found] using stops
      have noDot : dot ∉ name.bytes.reverse.takeWhile (· != dot) := fun inFront =>
        absurd (List.mem_takeWhile_imp inFront) (by decide)
      rw [found] at parts
      generalize name.bytes.reverse.takeWhile (· != dot) = behind at *
      cases cut
      refine ⟨?_, by simpa using noDot, ?_⟩
      · intro empty
        exact notAlone (List.reverse_eq_nil_iff.mp (congrArg RawText.bytes empty))
      · have spelled : name.bytes = reversed.reverse ++ [dot] ++ behind.reverse := by
          rw [← List.reverse_inj, ← parts]
          simp
        exact congrArg RawText.mk spelled
    all_goals cases cut
  · rintro ⟨nonempty, noDot, rfl⟩
    have spelled : (stem ++ "." ++ extension).bytes.reverse =
        extension.bytes.reverse ++ dot :: stem.bytes.reverse := by
      change (stem.bytes ++ [dot] ++ extension.bytes).reverse = _
      simp
    have others : ∀ b ∈ extension.bytes.reverse, (b != dot) = true := by
      intro b inExtension
      simpa using ne_of_mem_of_not_mem (List.mem_reverse.mp inExtension) noDot
    have notNil : stem.bytes.reverse ≠ [] := fun empty =>
      nonempty (congrArg RawText.mk (List.reverse_eq_nil_iff.mp empty))
    rw [splitExtension?]
    simp only [spelled, List.dropWhile_append_of_pos others, List.takeWhile_append_of_pos others]
    simp

end Path

end FactoryBundler
