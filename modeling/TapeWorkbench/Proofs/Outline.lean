import Mathlib
import TapeWorkbench.Program.Reader
import TapeWorkbench.Proofs.Lines
import TapeWorkbench.Proofs.Shape

/-!
# Well-formed texts

A text is well-formed if its first line holds cells and every other line holds a
statement.  Reading all of its lines gives what they hold, or else points at a line
that holds nothing of the kind; this is decided before anything is loaded.
-/

namespace TapeWorkbench
namespace Program

/-- A cell of the tape line: digits, with the head marker in front of them or not. -/
def IsCell (word : List Char) : Prop :=
  ∃ digits, IsNumeral digits ∧ (word = digits ∨ word = '!' :: digits)

/-- The line consists of cells, with blanks between them. -/
def WellFormedTape (line : List Char) : Prop :=
  ∀ word ∈ words line, IsCell word

/-- The line is blank, or its first character that is no blank is a number sign, or it
consists of the five fields of a rule. -/
def WellFormedLine (line : List Char) : Prop :=
  words line = [] ∨ (line.dropWhile isBlank).head? = some '#' ∨
    ∃ state read write move nextState,
      words line = [state, read, write, move, nextState] ∧ IsNumeral read ∧ IsNumeral write ∧
        (move = ['L'] ∨ move = ['R'] ∨ move = ['S'])

theorem isCell_iff {word : List Char} :
    IsCell word ↔ ∃ cell : Cell, word = cell.spelling ∧ IsNumeral cell.digits := by
  constructor
  · rintro ⟨digits, numeral, rfl | rfl⟩
    · exact ⟨⟨false, word⟩, rfl, numeral⟩
    · exact ⟨⟨true, digits⟩, rfl, numeral⟩
  · rintro ⟨⟨marked, digits⟩, rfl, numeral⟩
    cases marked with
    | false => exact ⟨digits, numeral, .inl rfl⟩
    | true => exact ⟨digits, numeral, .inr rfl⟩

theorem wellFormedTape_iff {line : List Char} :
    WellFormedTape line ↔ ∃ cells, IsTapeLine line cells := by
  unfold WellFormedTape IsTapeLine
  generalize words line = spelled
  induction spelled with
  | nil => exact ⟨fun _ => ⟨[], by simp⟩, fun _ => by simp⟩
  | cons word spelled ih =>
      rw [List.forall_mem_cons, ih, isCell_iff]
      constructor
      · rintro ⟨⟨cell, rfl, numeral⟩, cells, rfl, numerals⟩
        exact ⟨cell :: cells, rfl, List.forall_mem_cons.mpr ⟨numeral, numerals⟩⟩
      · rintro ⟨cells, spells, numerals⟩
        cases cells with
        | nil => simp at spells
        | cons cell cells =>
            rw [List.map_cons, List.cons.injEq] at spells
            rw [List.forall_mem_cons] at numerals
            exact ⟨⟨cell, spells.1, numerals.1⟩, cells, spells.2, numerals.2⟩

theorem moveOfLetter?_isSome_iff {letter : Char} :
    (∃ move, moveOfLetter? letter = some move) ↔ letter = 'L' ∨ letter = 'R' ∨ letter = 'S' := by
  unfold moveOfLetter?
  split
  · simp_all
  · split
    · simp_all
    · split
      · simp_all
      · simp_all

theorem exists_isStatement_of_marked {line : List Char}
    (marked : (line.dropWhile isBlank).head? = some '#') :
    ∃ statement, IsStatement line statement := by
  by_cases assembly : ∃ text, IsDirective "#asm".toList line text
  · obtain ⟨text, directive⟩ := assembly
    exact ⟨_, .assembly directive⟩
  · by_cases source : ∃ text, IsDirective "#program".toList line text
    · obtain ⟨text, directive⟩ := source
      exact ⟨_, .source directive⟩
    · exact ⟨_, .comment marked (not_exists.mp assembly) (not_exists.mp source)⟩

theorem wellFormedLine_iff {line : List Char} :
    WellFormedLine line ↔ ∃ statement, IsStatement line statement := by
  constructor
  · intro wellFormed
    by_cases marked : (line.dropWhile isBlank).head? = some '#'
    · exact exists_isStatement_of_marked marked
    · rcases wellFormed with
        nothing | marked' | ⟨state, read, write, move, nextState, spelled, isRead, isWrite, known⟩
      · exact ⟨_, .blank nothing⟩
      · exact absurd marked' marked
      · obtain ⟨letter, rfl, choices⟩ :
            ∃ letter, move = [letter] ∧ (letter = 'L' ∨ letter = 'R' ∨ letter = 'S') := by
          rcases known with rfl | rfl | rfl
          · exact ⟨_, rfl, .inl rfl⟩
          · exact ⟨_, rfl, .inr (.inl rfl)⟩
          · exact ⟨_, rfl, .inr (.inr rfl)⟩
        obtain ⟨move, known⟩ := moveOfLetter?_isSome_iff.mpr choices
        let fields : RuleFields := { state, read, write, move, nextState }
        exact ⟨.rule fields, .rule marked ⟨letter, known, spelled⟩ isRead isWrite⟩
  · rintro ⟨statement, holds⟩
    cases holds with
    | blank nothing => exact .inl nothing
    | assembly directive => exact .inr (.inl (head?_of_isDirective directive rfl))
    | source directive => exact .inr (.inl (head?_of_isDirective directive rfl))
    | comment marked _ _ => exact .inr (.inl marked)
    | rule _ spelled read write =>
        obtain ⟨letter, known, spelled⟩ := spelled
        refine .inr (.inr ⟨_, _, _, _, _, spelled, read, write, ?_⟩)
        simpa using moveOfLetter?_isSome_iff.mp ⟨_, known⟩

/-! ## Reading all lines -/

/-- A statement with its line number, as a line holds them. -/
def Line.Holds (line : Line) (numbered : Nat × Statement) : Prop :=
  numbered.1 = line.number ∧ IsStatement line.text numbered.2

/-- The lines hold what the outline says. -/
structure Outline.Of (outline : Outline) (tapeLine : Line) (others : List Line) : Prop where
  tapeLine_eq : outline.tapeLine = tapeLine
  cells : IsTapeLine tapeLine.text outline.cells
  statements : List.Forall₂ Line.Holds others outline.statements

/-- Reading one line after the first, with its number. -/
def readNumbered (text : List Char) (line : Line) : Except Fault (Nat × Statement) :=
  ((readStatement line.text).map fun statement => (line.number, statement)).mapError
    (misreadAt text line)

theorem readNumbered_eq_ok_iff {text : List Char} {line : Line} {numbered : Nat × Statement} :
    readNumbered text line = .ok numbered ↔ line.Holds numbered := by
  obtain ⟨number, statement⟩ := numbered
  have holds (statement : Statement) :=
    @readStatement_eq_ok_iff line.text statement
  simp only [Line.Holds, ← holds, readNumbered]
  cases readStatement line.text with
  | error misreading => simp [Except.map, Except.mapError]
  | ok found => simp [Except.map, Except.mapError, eq_comm]

theorem exists_report_of_readNumbered {text : List Char} {line : Line} {fault : Fault}
    (misread : readNumbered text line = .error fault) :
    (∃ report, fault = .illFormedText report) ∧ ¬ WellFormedLine line.text := by
  constructor
  · cases read : readStatement line.text with
    | error misreading =>
        simp only [readNumbered, read, Except.map, Except.mapError, Except.error.injEq] at misread
        exact ⟨_, misread.symm⟩
    | ok found => simp [readNumbered, read, Except.map, Except.mapError] at misread
  · rw [wellFormedLine_iff]
    rintro ⟨statement, holds⟩
    have read : readNumbered text line = .ok (line.number, statement) :=
      readNumbered_eq_ok_iff.mpr ⟨rfl, holds⟩
    simp [misread] at read

/-- Reading a list of lines gives what each of them holds, or is the misreading of one
of them. -/
theorem mapM_readNumbered (text : List Char) (lines : List Line) :
    (∃ statements, lines.mapM (readNumbered text) = .ok statements ∧
        List.Forall₂ Line.Holds lines statements) ∨
      ∃ report, lines.mapM (readNumbered text) = .error (.illFormedText report) ∧
        ∃ line ∈ lines, ¬ WellFormedLine line.text := by
  induction lines with
  | nil => exact .inl ⟨[], rfl, .nil⟩
  | cons line lines ih =>
      rw [List.mapM_cons]
      cases read : readNumbered text line with
      | error fault =>
          obtain ⟨⟨report, rfl⟩, illFormed⟩ := exists_report_of_readNumbered read
          exact .inr ⟨report, rfl, line, List.mem_cons_self, illFormed⟩
      | ok numbered =>
          rcases ih with ⟨statements, rest, hold⟩ | ⟨report, rest, other, member, illFormed⟩
          · rw [rest]
            exact .inl ⟨numbered :: statements, rfl, .cons (readNumbered_eq_ok_iff.mp read) hold⟩
          · rw [rest]
            exact .inr ⟨report, rfl, other, List.mem_cons_of_mem line member, illFormed⟩

/-- The lines of a well-formed text are read, and what is reported of any other text
is a line that is not well-formed. -/
theorem readLines_cases {text : List Char} {tapeLine : Line} {others : List Line}
    (divided : LinesAfter [] text (tapeLine :: others)) :
    (∃ outline, readLines text = .ok outline ∧ outline.Of tapeLine others) ∨
      ∃ report, readLines text = .error (.illFormedText report) ∧
        ¬ (WellFormedTape tapeLine.text ∧ ∀ line ∈ others, WellFormedLine line.text) := by
  have split : Line.split text = tapeLine :: others := (linesAfter_nil_iff.mp divided).symm
  simp only [readLines, split]
  cases read : readTapeLine tapeLine.text with
  | error misreading =>
      refine .inr ⟨_, rfl, ?_⟩
      rintro ⟨wellFormed, _⟩
      obtain ⟨cells, holds⟩ := wellFormedTape_iff.mp wellFormed
      simp [readTapeLine_eq_ok_iff.mpr holds] at read
  | ok cells =>
      have holds : IsTapeLine tapeLine.text cells := readTapeLine_eq_ok_iff.mp read
      rcases mapM_readNumbered text others with
        ⟨statements, rest, hold⟩ | ⟨report, rest, line, member, illFormed⟩
      · refine .inl ⟨⟨tapeLine, cells, statements⟩, ?_, rfl, holds, hold⟩
        change (others.mapM (readNumbered text)).bind _ = _
        rw [rest]
        rfl
      · refine .inr ⟨report, ?_, fun wellFormed => illFormed (wellFormed.2 line member)⟩
        change (others.mapM (readNumbered text)).bind _ = _
        rw [rest]
        rfl

theorem Outline.Of.wellFormed {outline : Outline} {tapeLine : Line} {others : List Line}
    (describes : outline.Of tapeLine others) :
    WellFormedTape tapeLine.text ∧ ∀ line ∈ others, WellFormedLine line.text := by
  obtain ⟨_, cells, hold⟩ := describes
  refine ⟨wellFormedTape_iff.mpr ⟨_, cells⟩, ?_⟩
  generalize outline.statements = numbered at hold
  induction hold with
  | nil => simp
  | cons holds _ ih =>
      exact List.forall_mem_cons.mpr ⟨wellFormedLine_iff.mpr ⟨_, holds.2⟩, ih⟩

end Program
end TapeWorkbench
