import FactoryBundler.CommandLine.Arguments
import FactoryBundler.Proofs.Except
import Mathlib.Data.List.Nodup

/-!
# Reading the words of a command

The words of a command are accepted exactly if they give options their values and fill all its
places, none of them twice and no path with an empty text. Reading looks at a value only when the
next one is met. What carries the proofs is therefore the list of values that are known after some
words, the one that is held back included: each word adds to it what it gives, and the whole list
has been looked at in the end.
-/

namespace FactoryBundler.CommandLine

open FactoryBundler.Except (bind_eq_ok_iff)

/-! ## What words give -/

/-- A word that is no option: it does not begin with a dash, or it is a dash alone. -/
def IsPlain (text : String) : Prop :=
  text = "-" ∨ text.toList.head? ≠ some '-'

instance : DecidablePred IsPlain :=
  fun text => inferInstanceAs (Decidable (text = "-" ∨ text.toList.head? ≠ some '-'))

/-- Words give options their values and fill places, all of them and in order. Behind two dashes
every word fills a place. -/
inductive Gives (options : List (String × Parameter)) :
    List Parameter → List String → List (Parameter × String) → Prop
  | nil : Gives options [] [] []
  | joined {name value : String} {parameter : Parameter} {places : List Parameter}
      {words : List String} {values : List (Parameter × String)} :
      options.lookup name = some parameter → Gives options places words values →
      Gives options places (("--" ++ name ++ "=" ++ value) :: words) ((parameter, value) :: values)
  | apart {name value : String} {parameter : Parameter} {places : List Parameter}
      {words : List String} {values : List (Parameter × String)} :
      options.lookup name = some parameter → IsPlain value → Gives options places words values →
      Gives options places (("--" ++ name) :: value :: words) ((parameter, value) :: values)
  | operand {text : String} {place : Parameter} {places : List Parameter} {words : List String}
      {values : List (Parameter × String)} :
      IsPlain text → Gives options places words values →
      Gives options (place :: places) (text :: words) ((place, text) :: values)
  | separated {places : List Parameter} {words : List String} :
      words.length = places.length → Gives options places ("--" :: words) (places.zip words)

/-- Values that can be given together: no parameter has two of them, and no path is empty. -/
structure AreProper (values : List (Parameter × String)) : Prop where
  once : (values.map Prod.fst).Nodup
  notEmpty : ∀ parameter, (parameter, "") ∈ values → parameter.isPath = false

/-- Texts that can stand behind two dashes and in front of an equals sign. -/
def AreNames (options : List (String × Parameter)) : Prop :=
  ∀ option ∈ options, option.1 ≠ "" ∧ '=' ∉ option.1.toList

instance : DecidablePred AreNames :=
  fun options =>
    inferInstanceAs (Decidable (∀ option ∈ options, option.1 ≠ "" ∧ '=' ∉ option.1.toList))

variable {grammar : Grammar} {known next : Known} {parameter : Parameter} {value : String}
  {values total : List (Parameter × String)} {words : List String}

theorem AreNames.of_lookup {options : List (String × Parameter)} {name : String}
    (names : AreNames options) (found : options.lookup name = some parameter) :
    name ≠ "" ∧ '=' ∉ name.toList := by
  obtain ⟨before, after, rfl, -⟩ := List.lookup_eq_some_iff.mp found
  exact names (name, parameter) (by simp)

theorem areProper_nil : AreProper [] := ⟨List.nodup_nil, by simp⟩

theorem areProper_concat_iff : AreProper (values ++ [(parameter, value)]) ↔
    AreProper values ∧ parameter ∉ values.map Prod.fst ∧
      ¬ (parameter.isPath = true ∧ value = "") := by
  constructor
  · intro proper
    have once := proper.once
    rw [List.map_append, List.map_singleton, List.nodup_append] at once
    refine ⟨⟨once.1, fun _ empty => proper.notEmpty _ (List.mem_append_left _ empty)⟩, ?_, ?_⟩
    · intro given
      exact once.2.2 _ given _ (List.mem_singleton_self _) rfl
    · rintro ⟨isPath, rfl⟩
      simp [proper.notEmpty parameter (by simp)] at isPath
  · rintro ⟨proper, new, filled⟩
    constructor
    · rw [List.map_append, List.map_singleton, ← List.concat_eq_append, List.nodup_concat]
      exact ⟨new, proper.once⟩
    · intro parameter' empty
      rw [List.mem_append, List.mem_singleton, Prod.mk.injEq] at empty
      rcases empty with empty | ⟨rfl, rfl⟩
      · exact proper.notEmpty _ empty
      · simpa using filled

theorem AreProper.of_append {more : List (Parameter × String)}
    (proper : AreProper (values ++ more)) : AreProper values := by
  constructor
  · have once := proper.once
    rw [List.map_append] at once
    exact once.of_append_left
  · exact fun _ empty => proper.notEmpty _ (List.mem_append_left _ empty)

/-! ## Kinds of words -/

namespace Word

/-- How the words of each kind are written. -/
inductive IsWritten : Word → String → Prop
  | separator : IsWritten .separator "--"
  | long {name : String} :
      name ≠ "" → '=' ∉ name.toList → IsWritten (.long name none) ("--" ++ name)
  | valued {name value : String} :
      '=' ∉ name.toList → IsWritten (.long name (some value)) ("--" ++ name ++ "=" ++ value)
  | short {letter : Char} {more : List Char} :
      letter ≠ '-' → IsWritten (.short letter) (String.ofList ('-' :: letter :: more))
  | plain {text : String} : IsPlain text → IsWritten (.plain text) text

variable {text : String}

/-- A name is cut off at the equals sign behind it. -/
theorem cut_of_not_mem {name : List Char} (free : '=' ∉ name) (more : List Char) :
    (name ++ more).takeWhile (· != '=') = name ++ more.takeWhile (· != '=') ∧
      (name ++ more).dropWhile (· != '=') = more.dropWhile (· != '=') := by
  have kept : ∀ c ∈ name, (c != '=') = true := by
    intro c inName
    exact bne_iff_ne.mpr (ne_of_mem_of_not_mem inName free)
  exact ⟨List.takeWhile_append_of_pos kept, List.dropWhile_append_of_pos kept⟩

theorem ofString_of_dashes {cs : List Char} (notNil : cs ≠ [])
    (dashes : text.toList = '-' :: '-' :: cs) :
    ofString text = match cs.dropWhile (· != '=') with
      | [] => .long (String.ofList (cs.takeWhile (· != '='))) none
      | _ :: value =>
        .long (String.ofList (cs.takeWhile (· != '='))) (some (String.ofList value)) := by
  obtain ⟨c, rest, rfl⟩ := List.exists_cons_of_ne_nil notNil
  rw [ofString, dashes]
  rfl

theorem IsWritten.ofString_eq {word : Word} (written : word.IsWritten text) :
    ofString text = word := by
  cases written with
  | separator => rfl
  | @long name named free =>
      have notNil : name.toList ≠ [] := by rwa [Ne, String.toList_eq_nil_iff]
      obtain ⟨taken, dropped⟩ := cut_of_not_mem free []
      rw [List.append_nil] at taken dropped
      rw [ofString_of_dashes notNil (String.toList_append ..), dropped, taken]
      simp [String.ofList_toList]
  | @valued name value free =>
      obtain ⟨taken, dropped⟩ := cut_of_not_mem free ('=' :: value.toList)
      have notNil : name.toList ++ '=' :: value.toList ≠ [] := by simp
      rw [ofString_of_dashes notNil (by simp [String.toList_append]), dropped, taken]
      simp [String.ofList_toList]
  | @short letter more notDash =>
      rw [ofString, String.toList_ofList]
      split
      · next dashes =>
        cases dashes
        exact absurd rfl notDash
      · next dashes =>
        cases dashes
        exact absurd rfl notDash
      · next same =>
        cases same
        rfl
      · next other => exact absurd rfl (other letter more)
  | plain plain =>
      rcases plain with rfl | begins
      · rfl
      · rw [ofString]
        split
        · next dashes => simp [dashes] at begins
        · next dashes => simp [dashes] at begins
        · next dash => simp [dash] at begins
        · rfl

/-- Every text is written as a word of some kind. -/
theorem exists_isWritten (text : String) : ∃ word : Word, word.IsWritten text := by
  obtain ⟨chars, rfl⟩ : ∃ chars, text = String.ofList chars := ⟨_, String.ofList_toList.symm⟩
  by_cases isPlain : IsPlain (String.ofList chars)
  · exact ⟨_, .plain isPlain⟩
  · rw [IsPlain, not_or, not_not, String.toList_ofList] at isPlain
    obtain ⟨notDash, begins⟩ := isPlain
    obtain ⟨more, rfl⟩ := List.head?_eq_some_iff.mp begins
    cases more with
    | nil => exact absurd rfl notDash
    | cons letter cs =>
      by_cases isDash : letter = '-'
      · subst isDash
        by_cases valued : '=' ∈ cs
        · obtain ⟨name, value, rfl, free⟩ := List.eq_append_cons_of_mem valued
          have whole : String.ofList ('-' :: '-' :: (name ++ '=' :: value)) =
              "--" ++ String.ofList name ++ "=" ++ String.ofList value := by
            simp [← String.toList_inj]
          rw [whole]
          exact ⟨_, .valued (by rwa [String.toList_ofList])⟩
        · have whole : String.ofList ('-' :: '-' :: cs) = "--" ++ String.ofList cs := by
            simp [← String.toList_inj]
          rw [whole]
          by_cases nil : cs = []
          · subst nil
            exact ⟨_, .separator⟩
          · have named : String.ofList cs ≠ "" := by rwa [Ne, String.ofList_eq_empty_iff]
            exact ⟨_, .long named (by rwa [String.toList_ofList])⟩
      · exact ⟨_, .short isDash⟩

theorem isWritten_ofString (text : String) : (ofString text).IsWritten text := by
  obtain ⟨word, written⟩ := exists_isWritten text
  rwa [written.ofString_eq]

end Word

/-! ## What is known -/

namespace Known

/-- The values that are known after some words, with the one that is held back. -/
def given (known : Known) : List (Parameter × String) :=
  match known.pending with
  | some ⟨parameter, some value⟩ => known.values ++ [(parameter, value)]
  | _ => known.values

/-- What was looked at makes sense, and no parameter waits for its value. -/
structure Stands (known : Known) : Prop where
  proper : AreProper known.values
  served : known.awaiting? = none

theorem stands_start (grammar : Grammar) : (start grammar).Stands := ⟨areProper_nil, rfl⟩

theorem stands_of_proper (proper : AreProper values) (places : List Parameter) :
    Stands ⟨values, none, places⟩ := ⟨proper, rfl⟩

theorem stands_hold (proper : AreProper known.values) :
    (known.hold parameter (some value)).Stands := ⟨proper, rfl⟩

@[simp]
theorem given_hold : (known.hold parameter (some value)).given =
    known.values ++ [(parameter, value)] := rfl

@[simp]
theorem places_hold (held : Option String) :
    (known.hold parameter held).places = known.places := rfl

@[simp]
theorem given_of_settled (values : List (Parameter × String)) (places : List Parameter) :
    given ⟨values, none, places⟩ = values := rfl

/-! ### Looking at values -/

theorem assign_eq_ok_iff (proper : AreProper known.values) :
    known.assign parameter value = .ok next ↔
      AreProper (known.values ++ [(parameter, value)]) ∧
        next = { known with values := known.values ++ [(parameter, value)] } := by
  have refused : ((known.values.lookup parameter).isSome ||
      (parameter.isPath && value.isEmpty)) = true ↔
      parameter ∈ known.values.map Prod.fst ∨ parameter.isPath = true ∧ value = "" := by
    simp only [Bool.or_eq_true, Bool.and_eq_true, List.lookup_isSome_iff, beq_iff_eq,
      List.mem_map, String.isEmpty_iff, @eq_comm _ parameter]
  rw [assign, areProper_concat_iff]
  split
  · next refuses =>
    refine iff_of_false (by rintro ⟨⟩) ?_
    rintro ⟨⟨-, new, filled⟩, -⟩
    exact (refused.mp refuses).elim new filled
  · next accepts =>
    rw [refused, not_or] at accepts
    rw [Except.ok.injEq, eq_comm]
    exact ⟨fun isNext => ⟨⟨proper, accepts⟩, isNext⟩, And.right⟩

theorem settle_eq_ok_iff (stands : known.Stands) :
    known.settle = .ok next ↔
      AreProper known.given ∧ next = ⟨known.given, none, known.places⟩ := by
  obtain ⟨values, pending, places⟩ := known
  match pending with
  | none =>
      have settled : settle ⟨values, none, places⟩ = .ok ⟨values, none, places⟩ := rfl
      rw [settled, Except.ok.injEq, eq_comm]
      exact ⟨fun isNext => ⟨stands.proper, isNext⟩, And.right⟩
  | some ⟨parameter, none⟩ => cases stands.served
  | some ⟨parameter, some value⟩ => exact assign_eq_ok_iff stands.proper

/-- Once everything was looked at, nothing had waited and nothing is pending. -/
theorem of_settle (settles : known.settle = .ok next) :
    known.awaiting? = none ∧ next.pending = none ∧ next.places = known.places := by
  rw [settle] at settles
  split at settles
  · next nothing =>
    cases settles
    exact ⟨by rw [awaiting?, nothing], nothing, rfl⟩
  · cases settles
  · next parameter value held =>
    rw [assign] at settles
    split at settles
    · cases settles
    · cases settles
      exact ⟨by rw [awaiting?, held], rfl, rfl⟩

theorem fill_eq_ok_iff (stands : known.Stands) :
    known.fill value = .ok next ↔ ∃ place places, known.places = place :: places ∧
      AreProper known.given ∧ next = hold ⟨known.given, none, places⟩ place (some value) := by
  rw [fill]
  split
  · next none => simp [none]
  · next place places isPlaces =>
    rw [bind_eq_ok_iff]
    simp only [settle_eq_ok_iff stands, pure, Except.pure, Except.ok.injEq]
    constructor
    · rintro ⟨settled, ⟨proper, rfl⟩, rfl⟩
      exact ⟨place, places, isPlaces, proper, rfl⟩
    · rintro ⟨_, _, isPlaces', proper, rfl⟩
      cases isPlaces.symm.trans isPlaces'
      exact ⟨_, ⟨proper, rfl⟩, rfl⟩

end Known

open Known

/-! ## Reading one word -/

theorem stop_ne_ok {reason : Stop} : stop known reason ≠ .ok next := by
  intro stops
  obtain ⟨_, -, ⟨⟩⟩ := bind_eq_ok_iff.mp stops

theorem readShort_ne_ok {letter : Char} : readShort grammar known letter ≠ .ok next := by
  rw [readShort]
  split
  · exact stop_ne_ok
  · split
    · exact stop_ne_ok
    · nofun

theorem readLong_eq_ok_iff {name : String} {attached : Option String} :
    readLong grammar known name attached = .ok next ↔
      ∃ parameter settled, grammar.options.lookup name = some parameter ∧
        known.settle = .ok settled ∧
        match attached with
        | some value => settled.assign parameter value = .ok next
        | none => next = settled.hold parameter none := by
  unfold readLong
  split
  · next parameter value found => simp [bind_eq_ok_iff, found]
  · next parameter found =>
    rw [bind_eq_ok_iff, found]
    constructor
    · rintro ⟨settled, settles, ⟨⟩⟩
      exact ⟨parameter, settled, rfl, settles, rfl⟩
    · rintro ⟨_, settled, ⟨⟩, settles, rfl⟩
      exact ⟨settled, settles, rfl⟩
  · next found => simp [found]
  · next found =>
    refine iff_of_false ?_ (by simp [found])
    split
    · exact stop_ne_ok
    · split
      · exact stop_ne_ok
      · nofun

/-- Reading comes to an end with every place filled and these values known. -/
def Completes (outcome : Except Stop Known) (values : List (Parameter × String)) : Prop :=
  ∃ last, outcome = .ok last ∧ last.settle = .ok ⟨values, none, []⟩

theorem completes_bind_iff {outcome : Except Stop Known} {step : Known → Except Stop Known} :
    Completes (outcome >>= step) values ↔
      ∃ known, outcome = .ok known ∧ Completes (step known) values := by
  cases outcome with
  | error stop => simp [Completes, bind, Except.bind]
  | ok known => simp [Completes, bind, Except.bind]

theorem completes_ok_iff (stands : known.Stands) :
    Completes (.ok known) values ↔
      known.places = [] ∧ AreProper known.given ∧ values = known.given := by
  constructor
  · rintro ⟨last, ⟨⟩, settles⟩
    obtain ⟨proper, isNext⟩ := (settle_eq_ok_iff stands).mp settles
    rw [mk.injEq] at isNext
    exact ⟨isNext.2.2.symm, proper, isNext.1⟩
  · rintro ⟨noPlace, proper, rfl⟩
    exact ⟨known, rfl, (settle_eq_ok_iff stands).mpr ⟨proper, by rw [noPlace]⟩⟩

theorem completes_foldlM_fill_iff (stands : known.Stands) :
    Completes (words.foldlM fill known) total ↔
      words.length = known.places.length ∧ AreProper (known.given ++ known.places.zip words) ∧
        total = known.given ++ known.places.zip words := by
  induction words generalizing known with
  | nil =>
      rw [List.foldlM_nil, List.zip_nil_right, List.append_nil]
      refine (completes_ok_iff stands).trans ?_
      rw [List.length_nil, eq_comm (a := 0), List.length_eq_zero_iff]
  | cons text words ih =>
      rw [List.foldlM_cons, completes_bind_iff]
      constructor
      · rintro ⟨filled, fills, completes⟩
        obtain ⟨place, places, isPlaces, proper, rfl⟩ := (fill_eq_ok_iff stands).mp fills
        simpa [isPlaces] using (ih (stands_hold proper)).mp completes
      · rintro ⟨length, proper, isTotal⟩
        obtain ⟨place, places, isPlaces⟩ := List.exists_cons_of_length_eq_add_one length.symm
        have fills : known.fill text = .ok (hold ⟨known.given, none, places⟩ place (some text)) :=
          (fill_eq_ok_iff stands).mpr ⟨place, places, isPlaces, proper.of_append, rfl⟩
        refine ⟨_, fills, (ih (stands_hold proper.of_append)).mpr ?_⟩
        rw [isPlaces] at length proper isTotal
        simpa using And.intro (Nat.succ.inj length) ⟨proper, isTotal⟩

section Step

variable {text name : String}

theorem completes_separator_iff (stands : known.Stands) :
    Completes (readWords grammar known ("--" :: words)) total ↔
      words.length = known.places.length ∧ AreProper (known.given ++ known.places.zip words) ∧
        total = known.given ++ known.places.zip words := by
  rw [readWords, Word.IsWritten.separator.ofString_eq]
  refine completes_bind_iff.trans ⟨?_, ?_⟩
  · rintro ⟨next, settles, completes⟩
    obtain ⟨proper, rfl⟩ := (settle_eq_ok_iff stands).mp settles
    exact (completes_foldlM_fill_iff (stands_of_proper proper _)).mp completes
  · rintro ⟨length, proper, isTotal⟩
    refine ⟨_, (settle_eq_ok_iff stands).mpr ⟨proper.of_append, rfl⟩, ?_⟩
    exact (completes_foldlM_fill_iff (stands_of_proper proper.of_append _)).mpr
      ⟨length, proper, isTotal⟩

theorem completes_valued_iff (stands : known.Stands)
    (isWord : Word.ofString text = .long name (some value)) :
    Completes (readWords grammar known (text :: words)) total ↔
      ∃ parameter, grammar.options.lookup name = some parameter ∧
        AreProper (known.given ++ [(parameter, value)]) ∧
        Completes (readWords grammar
          ⟨known.given ++ [(parameter, value)], none, known.places⟩ words) total := by
  rw [readWords, isWord]
  refine completes_bind_iff.trans ⟨?_, ?_⟩
  · rintro ⟨next, reads, completes⟩
    obtain ⟨parameter, settled, found, settles, assigned⟩ := readLong_eq_ok_iff.mp reads
    obtain ⟨proper, rfl⟩ := (settle_eq_ok_iff stands).mp settles
    obtain ⟨properNow, rfl⟩ := (assign_eq_ok_iff proper).mp assigned
    exact ⟨parameter, found, properNow, completes⟩
  · rintro ⟨parameter, found, proper, completes⟩
    have settles := (settle_eq_ok_iff stands).mpr ⟨proper.of_append, rfl⟩
    have assigned : assign ⟨known.given, none, known.places⟩ parameter value =
        .ok ⟨known.given ++ [(parameter, value)], none, known.places⟩ :=
      (assign_eq_ok_iff proper.of_append).mpr ⟨proper, rfl⟩
    exact ⟨_, readLong_eq_ok_iff.mpr ⟨parameter, _, found, settles, assigned⟩, completes⟩

/-- A parameter that waits for its value takes the next word, which has to be plain. -/
theorem completes_waiting_iff :
    Completes (readWords grammar (known.hold parameter none) words) total ↔
      ∃ value rest, words = value :: rest ∧ IsPlain value ∧
        Completes (readWords grammar (known.hold parameter (some value)) rest) total := by
  have unsettled : (known.hold parameter none).settle = .error .misuse := rfl
  constructor
  · intro completes
    cases words with
    | nil =>
        obtain ⟨last, ⟨⟩, settles⟩ := completes
        cases unsettled.symm.trans settles
    | cons text rest =>
        have written := Word.isWritten_ofString text
        rw [readWords] at completes
        generalize Word.ofString text = word at written completes
        cases written with
        | separator =>
            obtain ⟨_, settles, -⟩ := completes_bind_iff.mp completes
            cases unsettled.symm.trans settles
        | long | valued =>
            obtain ⟨_, reads, -⟩ := completes_bind_iff.mp completes
            obtain ⟨_, _, -, settles, -⟩ := readLong_eq_ok_iff.mp reads
            cases unsettled.symm.trans settles
        | short =>
            obtain ⟨_, reads, -⟩ := completes_bind_iff.mp completes
            exact absurd reads readShort_ne_ok
        | plain plain => exact ⟨text, rest, rfl, plain, completes⟩
  · rintro ⟨value, rest, rfl, plain, completes⟩
    rw [readWords, (Word.IsWritten.plain plain).ofString_eq]
    exact completes

theorem completes_long_iff (stands : known.Stands)
    (isWord : Word.ofString text = .long name none) :
    Completes (readWords grammar known (text :: words)) total ↔
      ∃ parameter value rest, grammar.options.lookup name = some parameter ∧
        AreProper known.given ∧ words = value :: rest ∧ IsPlain value ∧
        Completes (readWords grammar
          (hold ⟨known.given, none, known.places⟩ parameter (some value)) rest) total := by
  rw [readWords, isWord]
  refine completes_bind_iff.trans ⟨?_, ?_⟩
  · rintro ⟨next, reads, completes⟩
    obtain ⟨parameter, settled, found, settles, rfl⟩ := readLong_eq_ok_iff.mp reads
    obtain ⟨proper, rfl⟩ := (settle_eq_ok_iff stands).mp settles
    obtain ⟨value, rest, isWords, plain, completes⟩ := completes_waiting_iff.mp completes
    exact ⟨parameter, value, rest, found, proper, isWords, plain, completes⟩
  · rintro ⟨parameter, value, rest, found, proper, isWords, plain, completes⟩
    have settles := (settle_eq_ok_iff stands).mpr ⟨proper, rfl⟩
    exact ⟨_, readLong_eq_ok_iff.mpr ⟨parameter, _, found, settles, rfl⟩,
      completes_waiting_iff.mpr ⟨value, rest, isWords, plain, completes⟩⟩

theorem completes_plain_iff (stands : known.Stands) (plain : IsPlain text) :
    Completes (readWords grammar known (text :: words)) total ↔
      ∃ place places, known.places = place :: places ∧ AreProper known.given ∧
        Completes (readWords grammar (hold ⟨known.given, none, places⟩ place (some text)) words)
          total := by
  rw [readWords, (Word.IsWritten.plain plain).ofString_eq]
  dsimp only
  rw [stands.served]
  refine completes_bind_iff.trans ⟨?_, ?_⟩
  · rintro ⟨next, fills, completes⟩
    obtain ⟨place, places, isPlaces, proper, rfl⟩ := (fill_eq_ok_iff stands).mp fills
    exact ⟨place, places, isPlaces, proper, completes⟩
  · rintro ⟨place, places, isPlaces, proper, completes⟩
    exact ⟨_, (fill_eq_ok_iff stands).mpr ⟨place, places, isPlaces, proper, rfl⟩, completes⟩

end Step

/-! ## Reading all words -/

theorem completes_of_gives {places : List Parameter} (names : AreNames grammar.options)
    (gives : Gives grammar.options places words values) :
    ∀ known : Known, known.Stands → known.places = places → AreProper (known.given ++ values) →
      Completes (readWords grammar known words) (known.given ++ values) := by
  induction gives with
  | nil =>
      intro known stands isPlaces proper
      rw [List.append_nil] at proper ⊢
      exact (completes_ok_iff stands).mpr ⟨isPlaces, proper, rfl⟩
  | @joined name value parameter places words values found _ ih =>
      intro known stands isPlaces proper
      have isWord : Word.ofString ("--" ++ name ++ "=" ++ value) = .long name (some value) :=
        (Word.IsWritten.valued (names.of_lookup found).2).ofString_eq
      rw [List.append_cons] at proper ⊢
      refine (completes_valued_iff stands isWord).mpr ⟨parameter, found, proper.of_append, ?_⟩
      exact ih _ (stands_of_proper proper.of_append _) isPlaces proper
  | @apart name value parameter places words values found plain _ ih =>
      intro known stands isPlaces proper
      obtain ⟨named, free⟩ := names.of_lookup found
      refine (completes_long_iff stands (Word.IsWritten.long named free).ofString_eq).mpr
        ⟨parameter, value, words, found, proper.of_append, rfl, plain, ?_⟩
      rw [List.append_cons] at proper ⊢
      exact ih _ (stands_hold proper.of_append.of_append) isPlaces proper
  | @operand text place places words values plain _ ih =>
      intro known stands isPlaces proper
      refine (completes_plain_iff stands plain).mpr
        ⟨place, places, isPlaces, proper.of_append, ?_⟩
      rw [List.append_cons] at proper ⊢
      exact ih _ (stands_hold proper.of_append.of_append) rfl proper
  | @separated places words length =>
      intro known stands isPlaces proper
      subst isPlaces
      exact (completes_separator_iff stands).mpr ⟨length, proper, rfl⟩

-- The induction is on the number of words: an option whose value stands apart takes two at once.
theorem exists_gives_of_completes (stands : known.Stands)
    (completes : Completes (readWords grammar known words) total) :
    ∃ values, Gives grammar.options known.places words values ∧
      AreProper (known.given ++ values) ∧ total = known.given ++ values := by
  induction isLength : words.length using Nat.strongRecOn generalizing known words with
  | ind length ih =>
    subst isLength
    cases words with
    | nil =>
        obtain ⟨noPlace, proper, rfl⟩ := (completes_ok_iff stands).mp completes
        rw [noPlace]
        exact ⟨[], .nil, by rwa [List.append_nil], (List.append_nil _).symm⟩
    | cons text words =>
        have written := Word.isWritten_ofString text
        generalize isWord : Word.ofString text = word at written
        cases written with
        | separator =>
            obtain ⟨length, proper, rfl⟩ := (completes_separator_iff stands).mp completes
            exact ⟨_, .separated length, proper, rfl⟩
        | valued =>
            obtain ⟨parameter, found, proper, completes⟩ :=
              (completes_valued_iff stands isWord).mp completes
            obtain ⟨values, gives, proper, rfl⟩ :=
              ih _ (Nat.lt_succ_self _) (stands_of_proper proper _) completes rfl
            rw [given_of_settled, ← List.append_cons] at proper ⊢
            exact ⟨_, .joined found gives, proper, rfl⟩
        | long =>
            obtain ⟨parameter, value, rest, found, proper, rfl, plain, completes⟩ :=
              (completes_long_iff stands isWord).mp completes
            have shorter (text : String) : rest.length < (text :: value :: rest).length :=
              Nat.lt_add_of_pos_right (Nat.succ_pos 1)
            obtain ⟨values, gives, proper, rfl⟩ :=
              ih _ (shorter _) (stands_hold proper) completes rfl
            rw [given_hold, ← List.append_cons] at proper ⊢
            exact ⟨_, .apart found plain gives, proper, rfl⟩
        | short =>
            rw [readWords, isWord] at completes
            obtain ⟨_, reads, -⟩ := completes_bind_iff.mp completes
            exact absurd reads readShort_ne_ok
        | plain plain =>
            obtain ⟨place, places, isPlaces, proper, completes⟩ :=
              (completes_plain_iff stands plain).mp completes
            obtain ⟨values, gives, proper, rfl⟩ :=
              ih _ (Nat.lt_succ_self _) (stands_hold proper) completes rfl
            rw [given_hold, ← List.append_cons] at proper ⊢
            rw [isPlaces]
            exact ⟨_, .operand plain gives, proper, rfl⟩

theorem completes_start_iff (names : AreNames grammar.options) :
    Completes (readWords grammar (.start grammar) words) values ↔
      Gives grammar.options grammar.places words values ∧ AreProper values := by
  constructor
  · intro completes
    obtain ⟨values, gives, proper, rfl⟩ :=
      exists_gives_of_completes (stands_start grammar) completes
    exact ⟨gives, proper⟩
  · rintro ⟨gives, proper⟩
    exact completes_of_gives names gives _ (stands_start grammar) rfl proper

/-- The words of a command are accepted exactly if they give it proper values and fill all its
places, and these values are what is known of it. -/
theorem readCommand_eq_ok_iff (names : AreNames grammar.options) :
    readCommand grammar words = .ok known ↔ ∃ values,
      Gives grammar.options grammar.places words values ∧ AreProper values ∧
        known = ⟨values, none, []⟩ := by
  rw [readCommand]
  constructor
  · intro reads
    obtain ⟨last, isLast, reads⟩ := bind_eq_ok_iff.mp reads
    obtain ⟨settled, settles, filled⟩ := bind_eq_ok_iff.mp reads
    split at filled
    · next full =>
      cases filled
      obtain ⟨values, pending, places⟩ := known
      obtain rfl : pending = none := (of_settle settles).2.1
      obtain rfl : places = [] := List.isEmpty_iff.mp full
      obtain ⟨gives, proper⟩ := (completes_start_iff names).mp ⟨last, isLast, settles⟩
      exact ⟨values, gives, proper, rfl⟩
    · cases filled
  · rintro ⟨values, gives, proper, rfl⟩
    obtain ⟨last, isLast, settles⟩ := (completes_start_iff names).mpr ⟨gives, proper⟩
    exact bind_eq_ok_iff.mpr ⟨last, isLast, bind_eq_ok_iff.mpr ⟨_, settles, rfl⟩⟩

end FactoryBundler.CommandLine
