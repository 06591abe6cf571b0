import FactoryBundler.Text.Blank
import FactoryBundler.Text.Lines
import Mathlib.Data.List.DropRight
import Mathlib.Data.String.Basic

/-!
# Laws of lines

A text has rows and lines. Its rows are what stands between its newlines, so joined texts fall apart
into the rows of each of them. Its lines leave the line ends out, together with the carriage return
of those that have one, so they do not tell the two kinds of line ends apart.
-/

namespace FactoryBundler.Text

variable {text front : String} {texts : List String} {chars more noise line : List Char} {c : Char}

/-! ## Rows -/

/-- What stands between the newlines of a text. -/
def rows (text : String) : List (List Char) :=
  text.toList.splitOn '\n'

theorem rows_of_not_mem (free : '\n' ∉ text.toList) : rows text = [text.toList] :=
  List.splitOn_eq_singleton free

theorem rows_append_newline (front back : String) :
    rows (front ++ "\n" ++ back) = rows front ++ rows back := by
  rw [rows, String.toList_append, String.toList_append, List.append_assoc]
  exact List.splitOn_append_cons_self _ _

theorem splitOn_append_of_not_mem {before : List Char} (free : '\n' ∉ before) (chars : List Char) :
    (before ++ chars).splitOn '\n' = (chars.splitOn '\n').modifyHead (before ++ ·) := by
  obtain ⟨row, more, isSplit⟩ := List.exists_cons_of_ne_nil (List.splitOn_ne_nil '\n' chars)
  rw [isSplit, List.modifyHead_cons]
  induction before with
  | nil => exact isSplit
  | cons c before ih =>
      obtain ⟨notHere, notLater⟩ := not_or.mp (List.mem_cons.not.mp free)
      rw [List.cons_append, List.splitOn_cons_eq_if_modifyHead, ih notLater,
        if_neg (by simpa using Ne.symm notHere)]
      rfl

/-- Texts without a newline in front of another text belong to its first row. -/
theorem rows_append (free : '\n' ∉ front.toList) (text : String) :
    rows (front ++ text) = (rows text).modifyHead (front.toList ++ ·) := by
  rw [rows, String.toList_append, splitOn_append_of_not_mem free, rows]

theorem rows_joinLines (nonempty : texts ≠ []) : rows (joinLines texts) = texts.flatMap rows := by
  induction texts with
  | nil => exact absurd rfl nonempty
  | cons text texts ih =>
      by_cases last : texts = []
      · simp [last, joinLines, String.intercalate_singleton]
      · rw [joinLines, String.intercalate_cons_of_ne_nil last, rows_append_newline,
          List.flatMap_cons]
        exact congrArg _ (ih last)

theorem rows_joinLines_of_not_mem (nonempty : texts ≠ [])
    (free : ∀ text ∈ texts, '\n' ∉ text.toList) :
    rows (joinLines texts) = texts.map String.toList := by
  rw [rows_joinLines nonempty, List.map_eq_flatMap]
  exact List.flatMap_congr fun text inTexts => rows_of_not_mem (free text inTexts)

theorem joinLines_append {front back : List String} (nonempty : front ≠ [])
    (nonempty' : back ≠ []) :
    joinLines (front ++ back) = joinLines front ++ "\n" ++ joinLines back :=
  String.intercalate_append_of_ne_nil nonempty nonempty'

/-- Texts without newlines can be told from the text that ends with them. -/
theorem joinLines_append_inj {front texts texts' : List String} (nonemptyFront : front ≠ [])
    (nonempty : texts ≠ []) (nonempty' : texts' ≠ [])
    (free : ∀ text ∈ texts, '\n' ∉ text.toList) (free' : ∀ text ∈ texts', '\n' ∉ text.toList) :
    joinLines (front ++ texts) = joinLines (front ++ texts') ↔ texts = texts' := by
  refine ⟨fun same => ?_, fun equal => equal ▸ rfl⟩
  rw [joinLines_append nonemptyFront nonempty, joinLines_append nonemptyFront nonempty',
    String.append_right_inj] at same
  have sameRows := congrArg rows same
  rw [rows_joinLines_of_not_mem nonempty free, rows_joinLines_of_not_mem nonempty' free']
    at sameRows
  exact List.map_injective_iff.mpr (fun _ _ => String.toList_inj.mp) sameRows

/-! ## Lines -/

theorem linesChars_cons (notNewline : c ≠ '\n') (notReturn : c ≠ '\r') (more : List Char) :
    linesChars (c :: more) =
      match linesChars more with
      | [] => [[c]]
      | line :: rest => (c :: line) :: rest :=
  linesChars.eq_4 c more notNewline fun _ isReturn => absurd isReturn notReturn

/-- A newline ends a line that has no line end inside. -/
theorem linesChars_append_newline (free : '\n' ∉ line) (noReturn : '\r' ∉ line)
    (rest : List Char) : linesChars (line ++ '\n' :: rest) = line :: linesChars rest := by
  induction line with
  | nil => rfl
  | cons c line ih =>
      obtain ⟨notNewline, free⟩ := not_or.mp (List.mem_cons.not.mp free)
      obtain ⟨notReturn, noReturn⟩ := not_or.mp (List.mem_cons.not.mp noReturn)
      rw [List.cons_append, linesChars_cons (Ne.symm notNewline) (Ne.symm notReturn),
        ih free noReturn]

theorem linesChars_eq_nil_iff : linesChars chars = [] ↔ chars = [] := by
  fun_cases linesChars chars <;> simp [*]

theorem not_mem_of_mem_linesChars (inLines : line ∈ linesChars chars) : '\n' ∉ line := by
  fun_induction linesChars chars generalizing line with
  | case1 => cases inLines
  | case2 more ih | case3 more ih =>
      rcases List.mem_cons.mp inLines with rfl | later
      · exact List.not_mem_nil
      · exact ih later
  | case4 c more notNewline =>
      rw [List.mem_singleton.mp inLines, List.mem_singleton]
      exact fun isNewline => notNewline isNewline.symm
  | case5 c more notNewline _ first rest isSplit ih =>
      rw [isSplit] at ih
      rcases List.mem_cons.mp inLines with rfl | later
      · rw [List.mem_cons, not_or]
        exact ⟨fun isNewline => notNewline isNewline.symm, ih List.mem_cons_self⟩
      · exact ih (List.mem_cons_of_mem _ later)

/-- Line ends are blank, so a text is blank exactly if its lines are. -/
theorem all_blank_linesChars (chars : List Char) :
    (linesChars chars).all (·.all isBlankChar) = chars.all isBlankChar := by
  have newline : isBlankChar '\n' = true := by decide
  have carriageReturn : isBlankChar '\r' = true := by decide
  fun_induction linesChars chars with
  | case1 => rfl
  | case2 more ih => simp [ih, newline]
  | case3 more ih => simp [ih, newline, carriageReturn]
  | case4 c more _ _ isEmpty _ => simp [linesChars_eq_nil_iff.mp isEmpty]
  | case5 c more _ _ first rest isSplit ih =>
      rw [isSplit, List.all_cons] at ih
      rw [List.all_cons, List.all_cons, List.all_cons, Bool.and_assoc, ih]

theorem isBlank_append (text text' : String) :
    isBlank (text ++ text') = (isBlank text && isBlank text') := by
  rw [isBlank, String.toList_append, List.all_append, isBlank, isBlank]

theorem all_isBlank_lines (text : String) : (lines text).all isBlank = isBlank text := by
  rw [lines, List.all_map, isBlank, ← all_blank_linesChars]
  simp [Function.comp_def, isBlank]

/-! ## Line ends -/

/-- A character with a carriage return in front of it if it is a newline. -/
def crlfChar (c : Char) : List Char :=
  if c = '\n' then ['\r', '\n'] else [c]

/-- A text with a carriage return in front of every newline. -/
def crlf (text : String) : String :=
  String.ofList (text.toList.flatMap crlfChar)

/-- What can stand behind a line without becoming part of it: nothing, or a line end and more. -/
inductive EndsLine : List Char → Prop
  | nothing : EndsLine []
  | newline (rest : List Char) : EndsLine ('\n' :: rest)
  | crlf (rest : List Char) : EndsLine ('\r' :: '\n' :: rest)

/-- Behind these characters a new line starts: there are none, or the last one is a newline. -/
def StartsLine (chars : List Char) : Prop :=
  ∀ c ∈ chars.getLast?, c = '\n'

/-- Put behind the text, these blanks make lines of their own. -/
structure AddsBlankLines (text noise : String) : Prop where
  isBlank : isBlank noise = true
  ownLines : StartsLine text.toList ∨ EndsLine noise.toList

theorem linesChars_crlf_append (free : '\r' ∉ chars) (rest : List Char) :
    linesChars (chars.flatMap crlfChar ++ rest) = linesChars (chars ++ rest) := by
  induction chars with
  | nil => rfl
  | cons c more ih =>
      obtain ⟨notReturn, notLater⟩ := not_or.mp (List.mem_cons.not.mp free)
      rw [List.flatMap_cons, List.append_assoc, crlfChar]
      by_cases isNewline : c = '\n'
      · subst isNewline
        exact congrArg ([] :: ·) (ih notLater)
      · rw [if_neg isNewline, List.singleton_append, List.cons_append,
          linesChars_cons isNewline (Ne.symm notReturn),
          linesChars_cons isNewline (Ne.symm notReturn), ih notLater]

theorem StartsLine.tail (starts : StartsLine (c :: more)) : StartsLine more := by
  cases more with
  | nil => exact nofun
  | cons d more => rwa [StartsLine, List.getLast?_cons_cons] at starts

theorem startsLine_flatMap_crlfChar :
    StartsLine (chars.flatMap crlfChar) ↔ StartsLine chars := by
  rcases List.eq_nil_or_concat' chars with rfl | ⟨front, c, rfl⟩
  · rfl
  · rw [List.flatMap_append, List.flatMap_singleton, crlfChar, StartsLine, StartsLine]
    by_cases isNewline : c = '\n' <;> simp [isNewline]

/-- What a line end stands behind is a line of its own. -/
theorem linesChars_cons_of_endsLine (notNewline : c ≠ '\n') (notReturn : c ≠ '\r')
    (ends : EndsLine noise) (blank : noise.all isBlankChar = true) :
    ∃ blanks, linesChars (c :: noise) = [c] :: blanks ∧
      blanks.all (·.all isBlankChar) = true := by
  rw [linesChars_cons notNewline notReturn]
  cases ends with
  | nothing => exact ⟨[], rfl, rfl⟩
  | newline rest =>
      rw [List.all_cons, Bool.and_eq_true, ← all_blank_linesChars] at blank
      exact ⟨linesChars rest, rfl, blank.2⟩
  | crlf rest =>
      rw [List.all_cons, List.all_cons, Bool.and_eq_true, Bool.and_eq_true,
        ← all_blank_linesChars] at blank
      exact ⟨linesChars rest, rfl, blank.2.2⟩

theorem exists_linesChars_append (free : '\r' ∉ chars) (blank : noise.all isBlankChar = true)
    (ownLines : StartsLine chars ∨ EndsLine noise) :
    ∃ blanks, linesChars (chars ++ noise) = linesChars chars ++ blanks ∧
      blanks.all (·.all isBlankChar) = true := by
  induction chars with
  | nil => exact ⟨linesChars noise, rfl, (all_blank_linesChars noise).trans blank⟩
  | cons c more ih =>
      obtain ⟨notReturn, notLater⟩ := not_or.mp (List.mem_cons.not.mp free)
      obtain ⟨blanks, lines_eq, areBlank⟩ := ih notLater (ownLines.imp_left StartsLine.tail)
      by_cases isNewline : c = '\n'
      · subst isNewline
        exact ⟨blanks, congrArg ([] :: ·) lines_eq, areBlank⟩
      · rw [List.cons_append, linesChars_cons isNewline (Ne.symm notReturn) more]
        cases isSplit : linesChars more with
        | nil =>
            -- The character is the last one, so the blanks have to end its line.
            obtain rfl := linesChars_eq_nil_iff.mp isSplit
            have ends := ownLines.resolve_left fun starts => isNewline (starts c rfl)
            exact linesChars_cons_of_endsLine isNewline (Ne.symm notReturn) ends blank
        | cons first rest =>
            rw [linesChars_cons isNewline (Ne.symm notReturn), lines_eq, isSplit]
            exact ⟨blanks, rfl, areBlank⟩

/-- Another kind of line ends and blank lines at the end leave the lines of a text as they are. -/
theorem exists_lines_crlf_append {noise : String} (free : '\r' ∉ text.toList)
    (adds : AddsBlankLines (crlf text) noise) :
    ∃ blanks, lines (crlf text ++ noise) = lines text ++ blanks ∧ blanks.all isBlank = true := by
  have ownLines := adds.ownLines
  rw [crlf, String.toList_ofList, startsLine_flatMap_crlfChar] at ownLines
  obtain ⟨blanks, lines_eq, areBlank⟩ := exists_linesChars_append free adds.isBlank ownLines
  refine ⟨blanks.map String.ofList, ?_, ?_⟩
  · rw [lines, String.toList_append, crlf, String.toList_ofList, linesChars_crlf_append free,
      lines_eq, List.map_append]
    rfl
  · rw [List.all_map]
    simpa [Function.comp_def, isBlank] using areBlank

theorem isBlank_crlf_append {noise : String} (free : '\r' ∉ text.toList)
    (adds : AddsBlankLines (crlf text) noise) : isBlank (crlf text ++ noise) = isBlank text := by
  obtain ⟨blanks, lines_eq, areBlank⟩ := exists_lines_crlf_append free adds
  rw [← all_isBlank_lines, lines_eq, List.all_append, areBlank, Bool.and_true, all_isBlank_lines]

end FactoryBundler.Text
