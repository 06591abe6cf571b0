import FactoryBundler.PolicyType.Name
import FactoryBundler.Proofs.Text.Letter
import Mathlib.Tactic.SplitIfs

/-!
# Names of policy types that name themselves

Taking the name of a name changes nothing, with one exception. An upper-case letter that has no
lower case stays in a name as it is; if it stands behind a letter that was upper case in the
spelling and is lower case in the name, then the name of the name puts an underscore between the
two.
-/

namespace FactoryBundler.PolicyType

open Text

variable {c d : Char} {previous : Option Char} {underscored : Bool} {chars rest : List Char}

/-! ## Character by character -/

/-- What one character of a spelling adds to its name. -/
def piece (previous : Option Char) (underscored : Bool) (c : Char) : List Char :=
  if isSeparator c then if underscored then [] else ['_']
  else if isUpper c then (if endsWord previous then ['_'] else []) ++ toLower c
  else [c]

theorem nameFrom_cons :
    nameFrom previous underscored (c :: rest) =
      piece previous underscored c ++ nameFrom (some c) (isSeparator c) rest := by
  rw [nameFrom, piece]
  cases separator : isSeparator c with
  | true => rfl
  | false =>
      simp only [Bool.false_eq_true, if_false]
      split <;> rfl

theorem eq_of_isSeparator (separator : isSeparator c = true) : c = '-' ∨ c = ' ' ∨ c = '_' := by
  simpa [isSeparator, or_assoc] using separator

theorem endsWord_of_isSeparator (separator : isSeparator c = true) :
    endsWord (some c) = false := by
  rcases eq_of_isSeparator separator with rfl | rfl | rfl <;> decide +kernel

/-- The code points of separators and blanks. -/
def gaps : List Nat :=
  [0x09, 0x0A, 0x0B, 0x0C, 0x0D, 0x20, 0x2D, 0x5F, 0x85, 0xA0, 0x1680, 0x2000, 0x2001, 0x2002,
    0x2003, 0x2004, 0x2005, 0x2006, 0x2007, 0x2008, 0x2009, 0x200A, 0x2028, 0x2029, 0x202F, 0x205F,
    0x3000]

theorem mem_gaps_of_isBlankChar (blank : isBlankChar c = true) : c.toNat ∈ gaps := by
  simp only [isBlankChar, Bool.or_eq_true, Bool.and_eq_true, decide_eq_true_eq, beq_iff_eq]
    at blank
  simp only [gaps, List.mem_cons, List.not_mem_nil, or_false]
  omega

theorem mem_gaps_of_isSeparator (separator : isSeparator c = true) : c.toNat ∈ gaps := by
  rcases eq_of_isSeparator separator with rfl | rfl | rfl <;> decide

theorem isCaseless_of_mem_gaps : ∀ n ∈ gaps, isCaseless n = true := by
  decide +kernel

/-- In lower case a letter becomes neither a separator nor a blank. -/
theorem toNat_not_mem_gaps (upper : isUpper c = true) (h : d ∈ toLower c) : d.toNat ∉ gaps := by
  intro gap
  have caseless := isCaseless_of_mem_gaps _ gap
  rw [not_isCaseless_of_mem_toLower upper h] at caseless
  cases caseless

theorem not_isSeparator_of_mem_toLower (upper : isUpper c = true) (h : d ∈ toLower c) :
    isSeparator d = false := by
  rw [Bool.eq_false_iff]
  exact fun separator => toNat_not_mem_gaps upper h (mem_gaps_of_isSeparator separator)

theorem not_isBlankChar_of_mem_toLower (upper : isUpper c = true) (h : d ∈ toLower c) :
    isBlankChar d = false := by
  rw [Bool.eq_false_iff]
  exact fun blank => toNat_not_mem_gaps upper h (mem_gaps_of_isBlankChar blank)

/-! ## What a name looks like -/

/-- What can stand in a name, from its beginning on or behind an underscore: no separator but single
underscores, and no upper-case letter that has a lower case. -/
inductive Tidy : Bool → List Char → Prop
  | nil (underscored : Bool) : Tidy underscored []
  | underscore {rest : List Char} : Tidy true rest → Tidy false ('_' :: rest)
  | letter {underscored : Bool} {c : Char} {rest : List Char} : isSeparator c = false →
      (isUpper c = true → toLower c = [c]) → Tidy false rest → Tidy underscored (c :: rest)

theorem tidy_toLower_append (upper : isUpper c = true) (tidy : Tidy false rest) :
    Tidy underscored (toLower c ++ rest) := by
  have letters : ∀ d ∈ toLower c, isSeparator d = false ∧ (isUpper d = true → toLower d = [d]) := by
    intro d inLower
    refine ⟨not_isSeparator_of_mem_toLower upper inLower, fun isUpper => ?_⟩
    obtain ⟨unmapped, rfl⟩ := eq_of_mem_toLower_of_isUpper inLower isUpper
    exact unmapped
  have notNil := toLower_ne_nil c
  generalize toLower c = lower at letters notNil
  induction lower generalizing underscored with
  | nil => exact absurd rfl notNil
  | cons d lower ih =>
      rw [List.forall_mem_cons] at letters
      refine .letter letters.1.1 letters.1.2 ?_
      cases lower with
      | nil => exact tidy
      | cons e lower => exact ih letters.2 (List.cons_ne_nil _ _)

theorem tidy_nameFrom (behind : underscored = true → endsWord previous = false) :
    Tidy underscored (nameFrom previous underscored chars) := by
  induction chars generalizing previous underscored with
  | nil => exact .nil _
  | cons c rest ih =>
      rw [nameFrom_cons, piece]
      by_cases separator : isSeparator c = true
      · have tidy : Tidy true (nameFrom (some c) true rest) :=
          ih fun _ => endsWord_of_isSeparator separator
        rw [if_pos separator, separator]
        cases underscored with
        | true => exact tidy
        | false => exact .underscore tidy
      · have notSeparator := Bool.eq_false_iff.mpr separator
        have tidy : Tidy false (nameFrom (some c) false rest) := ih nofun
        rw [if_neg separator, notSeparator]
        by_cases upper : isUpper c = true
        · rw [if_pos upper]
          cases newWord : endsWord previous with
          | false => exact tidy_toLower_append upper tidy
          | true =>
              have notBehind : underscored = false := by
                rw [Bool.eq_false_iff]
                exact fun isBehind => nomatch newWord.symm.trans (behind isBehind)
              rw [notBehind]
              exact .underscore (tidy_toLower_append upper tidy)
        · rw [if_neg upper]
          exact .letter notSeparator (absurd · upper) tidy

/-! ## Blanks at the ends -/

/-- Neither end is blank. -/
def IsTrimmed (chars : List Char) : Prop :=
  (∀ c ∈ chars.head?, isBlankChar c = false) ∧ ∀ c ∈ chars.getLast?, isBlankChar c = false

theorem dropWhile_isBlankChar (h : ∀ c ∈ chars.head?, isBlankChar c = false) :
    chars.dropWhile isBlankChar = chars := by
  cases chars with
  | nil => rfl
  | cons c rest => exact List.dropWhile_cons_of_neg (by simpa using h c)

theorem IsTrimmed.trimChars_eq (trimmed : IsTrimmed chars) : trimChars chars = chars := by
  rw [trimChars, dropWhile_isBlankChar trimmed.1, dropWhile_isBlankChar, List.reverse_reverse]
  rw [List.head?_reverse]
  exact trimmed.2

theorem not_isBlankChar_of_mem_head?_dropWhile (h : c ∈ (chars.dropWhile isBlankChar).head?) :
    isBlankChar c = false := by
  have first := List.head?_dropWhile_not isBlankChar chars
  rw [Option.mem_def.mp h] at first
  exact first

theorem isTrimmed_trimChars (chars : List Char) : IsTrimmed (trimChars chars) := by
  rw [trimChars]
  refine ⟨fun c inFirst => ?_, fun c inLast => ?_⟩
  · -- what is dropped from the end leaves the beginning as it is
    obtain ⟨back, isPrefix⟩ : ((chars.dropWhile isBlankChar).reverse.dropWhile
        isBlankChar).reverse <+: chars.dropWhile isBlankChar := by
      rw [← List.reverse_reverse (chars.dropWhile isBlankChar), List.reverse_prefix,
        List.reverse_reverse]
      exact List.dropWhile_suffix _
    apply not_isBlankChar_of_mem_head?_dropWhile
    rw [← isPrefix, List.head?_append, Option.mem_def.mp inFirst]
    rfl
  · rw [List.getLast?_reverse] at inLast
    exact not_isBlankChar_of_mem_head?_dropWhile inLast

theorem not_isBlankChar_of_mem_piece
    (visible : isSeparator c = true ∨ isBlankChar c = false)
    (h : d ∈ piece previous underscored c) : isBlankChar d = false := by
  have underscore : isBlankChar '_' = false := by decide
  rw [piece] at h
  split_ifs at h with separator isBehind upper newWord
  · cases h
  · rwa [List.mem_singleton.mp h]
  · rcases List.mem_append.mp h with isUnderscore | inLower
    · rwa [List.mem_singleton.mp isUnderscore]
    · exact not_isBlankChar_of_mem_toLower upper inLower
  · exact not_isBlankChar_of_mem_toLower upper h
  · rw [List.mem_singleton.mp h]
    exact visible.resolve_left separator

theorem isSeparator_of_piece_eq_nil (h : piece previous underscored c = []) :
    isSeparator c = true ∧ underscored = true := by
  rw [piece] at h
  split_ifs at h with separator isBehind upper newWord
  · exact ⟨separator, isBehind⟩
  · exact absurd h (by simp)
  · exact absurd h (toLower_ne_nil c)

/-- A spelling that does not end in a blank has a name that does not either. Nothing is added only
behind an underscore. -/
theorem getLast?_nameFrom (notNil : chars ≠ [])
    (visible : ∀ c ∈ chars.getLast?, isBlankChar c = false) :
    (nameFrom previous underscored chars = [] → underscored = true) ∧
      ∀ d ∈ (nameFrom previous underscored chars).getLast?, isBlankChar d = false := by
  induction chars generalizing previous underscored with
  | nil => exact absurd rfl notNil
  | cons c rest ih =>
      rw [nameFrom_cons]
      constructor
      · intro empty
        exact (isSeparator_of_piece_eq_nil (List.append_eq_nil_iff.mp empty).1).2
      · intro d inLast
        rw [List.getLast?_append] at inLast
        rcases rest with _ | ⟨e, rest⟩
        · have inPiece : d ∈ (piece previous underscored c).getLast? := by
            simpa [nameFrom] using inLast
          exact not_isBlankChar_of_mem_piece (Or.inr (visible c rfl))
            (List.mem_of_mem_getLast? inPiece)
        · obtain ⟨behind, last⟩ := @ih (some c) (isSeparator c) (List.cons_ne_nil e rest) visible
          cases found : (nameFrom (some c) (isSeparator c) (e :: rest)).getLast? with
          | some f =>
              rw [found, Option.some_or] at inLast
              exact last d (found ▸ inLast)
          | none =>
              rw [found, Option.none_or] at inLast
              have separator := behind (List.getLast?_eq_none_iff.mp found)
              exact not_isBlankChar_of_mem_piece (Or.inl separator)
                (List.mem_of_mem_getLast? inLast)

/-- The name of a spelling without blanks at its ends has none there either. -/
theorem isTrimmed_nameFrom (trimmed : IsTrimmed chars) :
    IsTrimmed (nameFrom none false chars) := by
  cases chars with
  | nil => exact trimmed
  | cons c rest =>
      refine ⟨fun d inFirst => ?_, (getLast?_nameFrom (List.cons_ne_nil c rest) trimmed.2).2⟩
      rw [nameFrom_cons, List.head?_append] at inFirst
      have inPiece : d ∈ (piece none false c).head? := by
        cases found : (piece none false c).head? with
        | some e => rwa [found, Option.some_or] at inFirst
        | none =>
            have empty := List.head?_eq_none_iff.mp found
            exact absurd (isSeparator_of_piece_eq_nil empty).2 Bool.false_ne_true
      exact not_isBlankChar_of_mem_piece (Or.inr (trimmed.1 c rfl)) (List.mem_of_mem_head? inPiece)

/-! ## Settled names -/

/-- Whether no upper-case letter stands directly behind a lower-case letter or a digit, the first
character being behind `previous`. -/
def settledFrom (previous : Option Char) : List Char → Bool
  | [] => true
  | c :: rest => !(endsWord previous && isUpper c) && settledFrom (some c) rest

/-- No upper-case letter stands directly behind a lower-case letter or a digit. -/
def Settled (name : String) : Prop :=
  settledFrom none name.toList = true

instance : DecidablePred Settled :=
  fun name => inferInstanceAs (Decidable (settledFrom none name.toList = true))

theorem nameFrom_eq_self_iff (tidy : Tidy underscored chars)
    (behind : underscored = (previous == some '_')) :
    nameFrom previous underscored chars = chars ↔ settledFrom previous chars = true := by
  induction tidy generalizing previous with
  | nil underscored => exact iff_of_true rfl rfl
  | underscore _ ih =>
      have notUpper : isUpper '_' = false := by decide +kernel
      rw [nameFrom_cons, piece, settledFrom, notUpper, Bool.and_false, Bool.not_false,
        Bool.true_and, ← ih (by rfl)]
      exact List.cons_inj_right _
  | @letter underscored c rest notSeparator unmapped _ ih =>
      have notUnderscore : c ≠ '_' := by
        rintro rfl
        cases notSeparator
      rw [nameFrom_cons, piece, settledFrom, notSeparator, if_neg Bool.false_ne_true]
      rw [Bool.and_eq_true, ← ih (by simpa using notUnderscore)]
      by_cases upper : isUpper c = true
      · rw [if_pos upper, unmapped upper, upper, Bool.and_true]
        cases endsWord previous with
        | false => simp
        | true => simp [notUnderscore.symm]
      · rw [if_neg upper]
        simp [upper]

/-- Names that are settled are the ones that are names of themselves. -/
theorem name_name_iff (spelling : String) :
    name (name spelling) = name spelling ↔ Settled (name spelling) := by
  have trimmed := isTrimmed_nameFrom (isTrimmed_trimChars spelling.toList)
  have tidy : Tidy false (nameFrom none false (trimChars spelling.toList)) := tidy_nameFrom nofun
  rw [Settled, name, name, String.toList_ofList, nameChars, nameChars, String.ofList_inj,
    trimmed.trimChars_eq]
  exact nameFrom_eq_self_iff tidy rfl

/-- An upper-case letter comes into a name only by standing in the spelling and having no lower
case. -/
theorem mem_of_mem_nameFrom (h : d ∈ nameFrom previous underscored chars)
    (upper : isUpper d = true) : d ∈ chars ∧ toLower d = [d] := by
  have notUnderscore : d ≠ '_' := by
    rintro rfl
    revert upper
    decide +kernel
  induction chars generalizing previous underscored with
  | nil => cases h
  | cons c rest ih =>
      rw [nameFrom_cons] at h
      rcases List.mem_append.mp h with inPiece | inRest
      · rw [piece] at inPiece
        split_ifs at inPiece with separator isBehind upper' newWord
        · cases inPiece
        · exact absurd (List.mem_singleton.mp inPiece) notUnderscore
        · have inLower := (List.mem_append.mp inPiece).resolve_left
            fun isUnderscore => notUnderscore (List.mem_singleton.mp isUnderscore)
          obtain ⟨unmapped, rfl⟩ := eq_of_mem_toLower_of_isUpper inLower upper
          exact ⟨List.mem_cons_self, unmapped⟩
        · obtain ⟨unmapped, rfl⟩ := eq_of_mem_toLower_of_isUpper inPiece upper
          exact ⟨List.mem_cons_self, unmapped⟩
        · obtain rfl := List.mem_singleton.mp inPiece
          exact absurd upper upper'
      · exact (ih inRest).imp_left (List.mem_cons_of_mem c)

theorem settledFrom_of_forall (noUpper : ∀ c ∈ chars, isUpper c = false) :
    settledFrom previous chars = true := by
  induction chars generalizing previous with
  | nil => rfl
  | cons c rest ih =>
      rw [List.forall_mem_cons] at noUpper
      rw [settledFrom, noUpper.1, Bool.and_false, ih noUpper.2]
      rfl

theorem mem_of_mem_trimChars (h : c ∈ trimChars chars) : c ∈ chars := by
  rw [trimChars, List.mem_reverse] at h
  exact (List.dropWhile_sublist _).mem (List.mem_reverse.mp ((List.dropWhile_sublist _).mem h))

/-- A name is settled if every upper-case letter of its spelling has a lower case. -/
theorem settled_name {spelling : String}
    (mapped : ∀ c ∈ spelling.toList, isUpper c = true → toLower c ≠ [c]) :
    Settled (name spelling) := by
  rw [Settled, name, String.toList_ofList, nameChars]
  apply settledFrom_of_forall
  intro c inName
  rw [Bool.eq_false_iff]
  intro upper
  obtain ⟨inTrimmed, unmapped⟩ := mem_of_mem_nameFrom inName upper
  exact mapped c (mem_of_mem_trimChars inTrimmed) upper unmapped

end FactoryBundler.PolicyType
