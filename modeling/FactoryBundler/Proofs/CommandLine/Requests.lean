import FactoryBundler.Proofs.CommandLine.Spelling

/-!
# Words that ask for a text

Words may ask for help or for the version instead of spelling an invocation. Reading stops at the
word that asks if what was looked at in front of it makes sense. All else that stops it is misuse,
so words of which none can ask make sense only if they spell an invocation.
-/

namespace FactoryBundler.CommandLine

open FactoryBundler.Except (bind_eq_error_iff)
open Known

/-- The words are read as a request for help or for the version. -/
def AsksForText (words : List String) : Prop :=
  Invocation.ofWords words = .error .help ∨ Invocation.ofWords words = .error .version

/-- The words make no sense: they neither spell an invocation nor ask for a text. -/
def IsMisspelled (words : List String) : Prop :=
  ¬ AsksForText words ∧ ∀ invocation, ¬ Spells words invocation

/-- A word that can ask for help or for the version. -/
def IsRequest (text : String) : Prop :=
  text ∈ ["help", "--help", "--version"] ∨ ∃ letter ∈ ['h', 'V'], text.toList.take 2 = ['-', letter]

variable {α β : Type} {known own : Known} {words : List String} {grammar : Grammar}
  {command : String}

theorem isMisspelled_iff : IsMisspelled words ↔ Invocation.ofWords words = .error .misuse := by
  simp only [IsMisspelled, AsksForText, ← ofWords_eq_ok_iff]
  cases Invocation.ofWords words with
  | ok invocation => simp
  | error reason => cases reason <;> simp

/-! ## What stops the reading -/

/-- An outcome is no request unless a word of these is one. -/
def StopsFor (words : List String) (outcome : Except Stop α) : Prop :=
  ∀ reason, outcome = .error reason → reason = .misuse ∨ ∃ text ∈ words, IsRequest text

theorem stopsFor_ok (a : α) : StopsFor words (.ok a) := nofun

theorem stopsFor_misuse : StopsFor words (.error .misuse : Except Stop α) := by
  rintro _ ⟨⟩
  exact Or.inl rfl

theorem stopsFor_of_isRequest {text : String} {outcome : Except Stop α} (asks : IsRequest text) :
    StopsFor (text :: words) outcome :=
  fun _ _ => Or.inr ⟨text, List.mem_cons_self, asks⟩

theorem StopsFor.bind {outcome : Except Stop α} {step : α → Except Stop β}
    (first : StopsFor words outcome) (later : ∀ a, StopsFor words (step a)) :
    StopsFor words (outcome >>= step) := by
  intro reason stops
  rcases bind_eq_error_iff.mp stops with stops | ⟨a, -, stops⟩
  · exact first reason stops
  · exact later a reason stops

theorem StopsFor.cons {text : String} {outcome : Except Stop α} (stops : StopsFor words outcome) :
    StopsFor (text :: words) outcome := by
  intro reason isError
  refine (stops reason isError).imp_right ?_
  rintro ⟨text, inWords, asks⟩
  exact ⟨text, List.mem_cons_of_mem _ inWords, asks⟩

/-! ## Reading -/

theorem stopsFor_assign {parameter : Parameter} {value : String} :
    StopsFor words (known.assign parameter value) := by
  rw [assign]
  split
  · exact stopsFor_misuse
  · exact stopsFor_ok _

theorem stopsFor_settle : StopsFor words known.settle := by
  rw [settle]
  split
  · exact stopsFor_ok _
  · exact stopsFor_misuse
  · exact stopsFor_assign

theorem stopsFor_fill {value : String} : StopsFor words (known.fill value) := by
  rw [fill]
  split
  · exact stopsFor_misuse
  · exact stopsFor_settle.bind fun _ => stopsFor_ok _

theorem stopsFor_foldlM_fill {operands : List String} :
    StopsFor words (operands.foldlM fill known) := by
  induction operands generalizing known with
  | nil => exact stopsFor_ok _
  | cons text operands ih =>
      rw [List.foldlM_cons]
      exact stopsFor_fill.bind fun _ => ih

theorem stopsFor_readShort {text : String} {letter : Char}
    (isWord : Word.ofString text = .short letter) :
    StopsFor (text :: words) (readShort grammar known letter) := by
  have asks (named : letter ∈ ['h', 'V']) : IsRequest text := by
    have written := Word.isWritten_ofString text
    rw [isWord] at written
    cases written with
    | short => exact Or.inr ⟨letter, named, by simp⟩
  rw [readShort]
  split
  · next isHelp => exact stopsFor_of_isRequest (asks (by simp [beq_iff_eq.mp isHelp]))
  · split
    · next isVersion =>
      rw [Bool.and_eq_true, beq_iff_eq] at isVersion
      exact stopsFor_of_isRequest (asks (by simp [isVersion.1]))
    · exact stopsFor_misuse

theorem stopsFor_readLong {text name : String} {attached : Option String}
    (isWord : Word.ofString text = .long name attached) :
    StopsFor (text :: words) (readLong grammar known name attached) := by
  have asks (alone : attached = none) (named : name ∈ ["help", "version"]) : IsRequest text := by
    have written := Word.isWritten_ofString text
    rw [isWord, alone] at written
    cases written with
    | long =>
        simp only [List.mem_cons, List.not_mem_nil, or_false] at named
        rcases named with rfl | rfl <;> exact Or.inl (by decide)
  unfold readLong
  split
  · exact stopsFor_settle.bind fun _ => stopsFor_assign
  · exact stopsFor_settle.bind fun _ => stopsFor_ok _
  · exact stopsFor_misuse
  · split
    · next isHelp =>
      exact stopsFor_of_isRequest (asks rfl (by simp [beq_iff_eq.mp isHelp]))
    · split
      · next isVersion =>
        rw [Bool.and_eq_true, beq_iff_eq] at isVersion
        exact stopsFor_of_isRequest (asks rfl (by simp [isVersion.1]))
      · exact stopsFor_misuse

theorem stopsFor_readWords : StopsFor words (readWords grammar known words) := by
  induction words generalizing known with
  | nil => exact stopsFor_ok _
  | cons text words ih =>
      rw [readWords]
      split
      · exact stopsFor_settle.bind fun _ => stopsFor_foldlM_fill
      · next isWord => exact (stopsFor_readLong isWord).bind fun _ => ih.cons
      · next isWord => exact (stopsFor_readShort isWord).bind fun _ => ih.cons
      · split
        · exact ih.cons
        · exact stopsFor_fill.bind fun _ => ih.cons

theorem stopsFor_readCommand : StopsFor words (readCommand grammar words) := by
  refine stopsFor_readWords.bind fun _ => stopsFor_settle.bind fun _ => ?_
  split
  · exact stopsFor_ok _
  · exact stopsFor_misuse

theorem stopsFor_ofCommand : StopsFor words (Invocation.ofCommand own command words) := by
  rw [Invocation.ofCommand]
  split
  · refine stopsFor_readCommand.bind fun _ => stopsFor_settle.bind fun _ => ?_
    split
    · exact stopsFor_ok _
    · exact stopsFor_misuse
  · exact stopsFor_misuse

theorem stopsFor_readOwn : StopsFor words (readOwn own words) := by
  induction words generalizing own with
  | nil => exact stopsFor_misuse
  | cons text words ih =>
      rw [readOwn]
      split
      · exact stopsFor_misuse
      · next isWord => exact (stopsFor_readLong isWord).bind fun _ => ih.cons
      · next isWord => exact (stopsFor_readShort isWord).bind fun _ => ih.cons
      · next plain isWord =>
        split
        · exact ih.cons
        · split
          · next isHelp =>
            have written := Word.isWritten_ofString text
            rw [isWord] at written
            cases written with
            | plain => exact stopsFor_of_isRequest (Or.inl (by simpa using Or.inl isHelp))
          · exact stopsFor_ofCommand.cons

/-- Words that ask for help or for the version hold a word that can ask for it. -/
theorem exists_isRequest_of_asksForText (asks : AsksForText words) :
    ∃ text ∈ words, IsRequest text := by
  rcases asks with help | version
  · exact (stopsFor_readOwn _ help).resolve_left nofun
  · exact (stopsFor_readOwn _ version).resolve_left nofun

end FactoryBundler.CommandLine
