import FactoryBundler.CommandLine.Invocation
import FactoryBundler.Proofs.CommandLine.Reading

/-!
# Words that spell an invocation

The words that the program is called with are options of its own, the name of a command and the
command's words. In front of the name they are read like those of a command without places, up to
the first plain word that no option waits for. So the words are accepted exactly if they fall apart
there into words that give the program and the command proper values.
-/

namespace FactoryBundler.CommandLine

open FactoryBundler.Except (bind_eq_ok_iff)
open Known

/-- Words spell an invocation: options of the program, the name of a command, and words that give
the command its values and fill its places. A directory of policy types that is given in both parts
is the one that the command's words give. -/
inductive Spells : List String → Invocation → Prop
  | intro {front behind : List String} {command : String} {grammar : Grammar}
      {own values : List (Parameter × String)} {action : Command} :
      Gives ownOptions [] front own → "--" ∉ front → AreProper own →
      grammars.lookup command = some grammar →
      Gives grammar.options grammar.places behind values → AreProper values →
      Command.ofKnown? command ⟨values, none, []⟩ = some action →
      Spells (front ++ command :: behind)
        ⟨(values.lookup .catalogDirectory).or (own.lookup .catalogDirectory), action⟩

variable {own last known next : Known} {words front behind : List String} {command : String}
  {grammar : Grammar} {invocation : Invocation}

/-! ## The command -/

theorem areNames_ownOptions : AreNames ownOptions := by decide

theorem areNames_of_lookup (found : grammars.lookup command = some grammar) :
    AreNames grammar.options ∧ IsPlain command ∧ command ≠ "help" := by
  have all : ∀ entry ∈ grammars,
      AreNames entry.2.options ∧ IsPlain entry.1 ∧ entry.1 ≠ "help" := by
    decide
  obtain ⟨before, after, split, -⟩ := List.lookup_eq_some_iff.mp found
  exact all (command, grammar) (by simp [split])

theorem ofCommand_eq_ok_iff :
    Invocation.ofCommand own command behind = .ok invocation ↔
      ∃ grammar values settled action, grammars.lookup command = some grammar ∧
        Gives grammar.options grammar.places behind values ∧ AreProper values ∧
        own.settle = .ok settled ∧ Command.ofKnown? command ⟨values, none, []⟩ = some action ∧
        invocation =
          ⟨(values.lookup .catalogDirectory).or (settled.get? .catalogDirectory), action⟩ := by
  rw [Invocation.ofCommand]
  split
  · next grammar found =>
    constructor
    · intro reads
      obtain ⟨known, isKnown, reads⟩ := bind_eq_ok_iff.mp reads
      obtain ⟨settled, settles, reads⟩ := bind_eq_ok_iff.mp reads
      obtain ⟨values, gives, proper, rfl⟩ :=
        (readCommand_eq_ok_iff (areNames_of_lookup found).1).mp isKnown
      split at reads
      · next action isAction =>
        cases reads
        exact ⟨grammar, values, settled, action, found, gives, proper, settles, isAction, rfl⟩
      · cases reads
    · rintro ⟨_, values, settled, action, found', gives, proper, settles, isAction, rfl⟩
      cases found.symm.trans found'
      have isKnown : readCommand grammar behind = .ok ⟨values, none, []⟩ :=
        (readCommand_eq_ok_iff (areNames_of_lookup found).1).mpr ⟨values, gives, proper, rfl⟩
      refine bind_eq_ok_iff.mpr ⟨_, isKnown, bind_eq_ok_iff.mpr ⟨settled, settles, ?_⟩⟩
      rw [isAction]
      rfl
  · next unknown =>
    refine iff_of_false nofun ?_
    rintro ⟨grammar, _, _, _, found, -⟩
    exact unknown grammar found

/-! ## In front of the command -/

theorem places_of_readLong {name : String} {attached : Option String}
    (reads : readLong grammar known name attached = .ok next) : next.places = known.places := by
  obtain ⟨parameter, settled, -, settles, reads⟩ := readLong_eq_ok_iff.mp reads
  rw [← (of_settle settles).2.2]
  cases attached with
  | none =>
      subst reads
      exact places_hold none
  | some value =>
      dsimp only at reads
      rw [assign] at reads
      split at reads
      · cases reads
      · cases reads
        rfl

/-- What is accepted falls apart at the name of the command. What stands in front of it is read like
the words of a command without places. -/
theorem exists_front_of_readOwn (noPlace : own.places = [])
    (reads : readOwn own words = .ok invocation) :
    ∃ front command behind last, words = front ++ command :: behind ∧ "--" ∉ front ∧
      readWords ownGrammar own front = .ok last ∧ last.places = [] ∧
      Invocation.ofCommand last command behind = .ok invocation := by
  induction words generalizing own with
  | nil => cases reads
  | cons text words ih =>
      have written := Word.isWritten_ofString text
      generalize isWord : Word.ofString text = word at written
      have undivided : word ≠ .separator → "--" ≠ text := by
        rintro notSeparator rfl
        exact notSeparator (isWord.symm.trans Word.IsWritten.separator.ofString_eq)
      rw [readOwn, isWord] at reads
      cases written with
      | separator => cases reads
      | long | valued =>
          obtain ⟨next, readsText, reads⟩ := bind_eq_ok_iff.mp reads
          obtain ⟨front, command, behind, last, rfl, free, isLast, named⟩ :=
            ih ((places_of_readLong readsText).trans noPlace) reads
          refine ⟨_ :: front, command, behind, last, rfl, ?_, ?_, named⟩
          · exact List.not_mem_cons_of_ne_of_not_mem (undivided (by rintro ⟨⟩)) free
          · rw [readWords, isWord]
            exact bind_eq_ok_iff.mpr ⟨next, readsText, isLast⟩
      | short =>
          obtain ⟨next, readsText, -⟩ := bind_eq_ok_iff.mp reads
          exact absurd readsText readShort_ne_ok
      | plain =>
          dsimp only at reads
          split at reads
          · next parameter waits =>
            have noPlaceHeld : (own.hold parameter (some text)).places = [] := noPlace
            obtain ⟨front, command, behind, last, rfl, free, isLast, named⟩ := ih noPlaceHeld reads
            refine ⟨text :: front, command, behind, last, rfl, ?_, ?_, named⟩
            · exact List.not_mem_cons_of_ne_of_not_mem (undivided (by rintro ⟨⟩)) free
            · rw [readWords, isWord]
              dsimp only
              rw [waits]
              exact isLast
          · split at reads
            · cases reads
            · exact ⟨[], text, words, own, rfl, List.not_mem_nil, rfl, noPlace, reads⟩

theorem readOwn_append_cons (noPlace : own.places = []) (undivided : "--" ∉ front)
    (isLast : readWords ownGrammar own front = .ok last) (served : last.awaiting? = none)
    (plain : IsPlain command) (notHelp : command ≠ "help") :
    readOwn own (front ++ command :: behind) = Invocation.ofCommand last command behind := by
  induction front generalizing own with
  | nil =>
      cases isLast
      rw [List.nil_append, readOwn, (Word.IsWritten.plain plain).ofString_eq]
      dsimp only
      rw [served]
      simp [notHelp]
  | cons text front ih =>
      have written := Word.isWritten_ofString text
      generalize isWord : Word.ofString text = word at written
      rw [List.mem_cons, not_or] at undivided
      rw [readWords, isWord] at isLast
      rw [List.cons_append, readOwn, isWord]
      cases written with
      | separator => exact absurd rfl undivided.1
      | long | valued =>
          obtain ⟨next, readsText, isLast⟩ := bind_eq_ok_iff.mp isLast
          dsimp only
          rw [readsText]
          exact ih ((places_of_readLong readsText).trans noPlace) undivided.2 isLast
      | short =>
          obtain ⟨next, readsText, -⟩ := bind_eq_ok_iff.mp isLast
          exact absurd readsText readShort_ne_ok
      | plain =>
          dsimp only at isLast ⊢
          cases waits : own.awaiting? with
          | some parameter =>
              have noPlaceHeld : (own.hold parameter (some text)).places = [] := noPlace
              rw [waits] at isLast
              exact ih noPlaceHeld undivided.2 isLast
          | none =>
              rw [waits] at isLast
              obtain ⟨next, fills, -⟩ := bind_eq_ok_iff.mp isLast
              rw [fill, noPlace] at fills
              cases fills

/-- The words that are accepted are those that spell an invocation, and they are read as it. -/
theorem ofWords_eq_ok_iff :
    Invocation.ofWords words = .ok invocation ↔ Spells words invocation := by
  rw [Invocation.ofWords]
  constructor
  · intro reads
    obtain ⟨front, command, behind, last, rfl, undivided, isLast, noPlace, named⟩ :=
      exists_front_of_readOwn rfl reads
    obtain ⟨grammar, values, settled, action, found, gives, proper, settles, isAction, rfl⟩ :=
      ofCommand_eq_ok_iff.mp named
    obtain ⟨-, noPending, samePlaces⟩ := of_settle settles
    have isSettled : last.settle = .ok ⟨settled.values, none, []⟩ := by
      rw [settles, ← noPending, ← noPlace, ← samePlaces]
    obtain ⟨givesOwn, properOwn⟩ :=
      (completes_start_iff areNames_ownOptions).mp ⟨last, isLast, isSettled⟩
    exact .intro givesOwn undivided properOwn found gives proper isAction
  · rintro ⟨givesOwn, undivided, properOwn, found, gives, proper, isAction⟩
    obtain ⟨-, plain, notHelp⟩ := areNames_of_lookup found
    have ownNames : AreNames ownGrammar.options := areNames_ownOptions
    obtain ⟨last, isLast, settles⟩ := (completes_start_iff ownNames).mpr ⟨givesOwn, properOwn⟩
    rw [readOwn_append_cons rfl undivided isLast (of_settle settles).1 plain notHelp]
    exact ofCommand_eq_ok_iff.mpr ⟨_, _, _, _, found, gives, proper, settles, isAction, rfl⟩

/-- An option of the program may stand among the words of a command, and behind two dashes stands no
option. -/
example : Invocation.ofWords ["compile", "--catalog-dir", "types", "--name=user", "--", "-v1"] =
    .ok ⟨some "types", .compile "-v1" (some "user") none none⟩ := by
  rfl

end FactoryBundler.CommandLine
