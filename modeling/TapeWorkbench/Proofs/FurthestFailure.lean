import TapeWorkbench.Proofs.MatchingLines
import TapeWorkbench.Proofs.Outline

/-!
# The furthest failure is the first misread line

The grammar is run over a whole text and reports the furthest place at which any alternative
failed.  The reader goes from line to line and stops at the first that is misread.  Both come to
the same: over the lines that are read, nothing fails behind their ends, and from where the run
gets stuck on a misread line it does not go on (`Grammar.failure?_eq`).
-/

namespace TapeWorkbench
namespace Program

open Expression

/-! ## The first misread line -/

/-- A line that is misread, or else what is misread below it. -/
def Line.misreadOr {α : Type} (line : Line) (reading : Except Misreading α)
    (below : Option (Line × Misreading)) : Option (Line × Misreading) :=
  match reading with
  | .ok _ => below
  | .error misreading => some (line, misreading)

/-- The first of the lines after the tape line that is misread, and how. -/
def firstMisread? : List Line → Option (Line × Misreading)
  | [] => none
  | line :: others => line.misreadOr (readStatement line.text) (firstMisread? others)

/-- The first line of a text that is misread, and how. -/
def misread? (text : List Char) : Option (Line × Misreading) :=
  match Line.split text with
  | [] => none
  | tapeLine :: others =>
    tapeLine.misreadOr (readTapeLine tapeLine.text) (firstMisread? others)

theorem mapM_readNumbered_cases (text : List Char) (lines : List Line) :
    (firstMisread? lines = none ∧
        ∃ statements, lines.mapM (readNumbered text) = .ok statements) ∨
      ∃ line misreading, firstMisread? lines = some (line, misreading) ∧
        lines.mapM (readNumbered text) = .error (misreadAt text line misreading) := by
  induction lines with
  | nil => exact .inl ⟨rfl, [], rfl⟩
  | cons line others ih =>
      rw [firstMisread?, List.mapM_cons]
      cases read : readStatement line.text with
      | error misreading =>
          have misread : readNumbered text line = .error (misreadAt text line misreading) := by
            rw [readNumbered, read]
            rfl
          rw [misread]
          exact .inr ⟨line, misreading, rfl, rfl⟩
      | ok statement =>
          have numbered : readNumbered text line = .ok (line.number, statement) := by
            rw [readNumbered, read]
            rfl
          rw [numbered]
          rcases ih with ⟨nowhere, statements, rest⟩ | ⟨other, misreading, first, rest⟩
          · rw [rest]
            exact .inl ⟨nowhere, _, rfl⟩
          · rw [rest]
            exact .inr ⟨other, misreading, first, rfl⟩

/-- Reading fails with the first misreading, if there is one. -/
theorem misread?_cases (text : List Char) :
    (misread? text = none ∧ ∃ outline, readLines text = .ok outline) ∨
      ∃ line misreading, misread? text = some (line, misreading) ∧
        readLines text = .error (misreadAt text line misreading) := by
  obtain ⟨tapeLine, others, divided⟩ := exists_linesAfter_nil text
  have split : Line.split text = tapeLine :: others := (linesAfter_nil_iff.mp divided).symm
  cases read : readTapeLine tapeLine.text with
  | error misreading =>
      refine .inr ⟨tapeLine, misreading, ?_, ?_⟩
      · simp only [misread?, split, read, Line.misreadOr]
      · simp only [readLines, split, read]
        rfl
  | ok cells =>
      have reads : readLines text =
          (others.mapM (readNumbered text)).map fun statements =>
            ⟨tapeLine, cells, statements⟩ := by
        simp only [readLines, split, read]
        rfl
      simp only [misread?, split, read, Line.misreadOr, reads]
      rcases mapM_readNumbered_cases text others with
        ⟨nowhere, statements, rest⟩ | ⟨other, misreading, first, rest⟩
      · rw [rest]
        exact .inl ⟨nowhere, _, rfl⟩
      · rw [rest]
        exact .inr ⟨other, misreading, first, rfl⟩

/-- The rules that the report of a misreading lists. -/
def Expectation.listed : Expectation → List RuleName
  | program => [.program]
  | symbol => [.symbol]
  | direction => [.direction]
  | state => [.state]
  | endOfText => [.endOfText]
  | endOfTextOrCell => [.endOfText, .cell]
  | statement => [.endOfText, .assembly, .source, .instruction]

theorem readLines_of_misread? {text : List Char} {line : Line} {misreading : Misreading}
    (first : misread? text = some (line, misreading)) :
    readLines text = .error (misreadAt text line misreading) := by
  rcases misread?_cases text with ⟨nowhere, -⟩ | ⟨other, misreading', first', misread⟩
  · cases nowhere.symm.trans first
  · obtain ⟨rfl, rfl⟩ := Prod.mk.inj (Option.some.inj (first'.symm.trans first))
    exact misread

/-! ## From line to line -/

namespace Grammar

variable {cursor behind : Cursor} {attempts later : Attempts RuleName}

/-- Nothing goes on where neither the line nor the text ends. -/
theorem run_moreLines_of_stuck {c : Char} {rest : List Char} (starts : cursor.rest = c :: rest)
    (other : isLineEnd c = false) (attempts : Attempts RuleName) :
    (sequence moreLines finish).run .plain cursor attempts =
      (none, attempts.add cursor.offset .endOfText) := by
  have noNewline : newline.run .plain cursor attempts = (none, attempts) := by
    rw [scans_newline, Cursor.newline?_of_not_isLineEnd starts other]
  have noEnd : (Expression.endOfText : Expression RuleName).run .plain cursor attempts =
      (none, attempts) := by
    rw [run, starts]
    rfl
  rw [moreLines, run_sequence_of_some (run_many_of_none (run_sequence_of_none noNewline))]
  exact run_rule_of_fails noEnd

theorem run_moreLines_of_nil (place : Nat) (attempts : Attempts RuleName) :
    (sequence moreLines finish).run .plain ⟨place, []⟩ attempts =
      (some ⟨place, []⟩, attempts) := by
  have noNewline : newline.run .plain ⟨place, []⟩ attempts = (none, attempts) := by
    rw [scans_newline]
    rfl
  rw [moreLines, run_sequence_of_some (run_many_of_none (run_sequence_of_none noNewline))]
  exact run_rule_of_some forward_plain rfl

/-- A line can always be left out. -/
theorem exists_run_line (cursor : Cursor) (attempts : Attempts RuleName) :
    ∃ behind later, line.run .plain cursor attempts = (some behind, later) := by
  cases ran : statement.run .plain cursor.skipBlanks attempts with
  | mk reached later =>
      cases reached with
      | none => exact ⟨_, _, run_line_of_none ran⟩
      | some behind => exact ⟨_, _, run_line_of_some ran⟩

/-- Behind the end of a line comes another line. -/
theorem run_moreLines_of_endsLine {lineEnd rest : List Char} (ends : EndsLine lineEnd rest)
    (place : Nat) (attempts : Attempts RuleName) :
    (sequence moreLines finish).run .plain ⟨place, lineEnd ++ rest⟩ attempts =
      (sequence line (sequence moreLines finish)).run .plain ⟨place + lineEnd.length, rest⟩
        attempts := by
  have passed : newline.run .plain ⟨place, lineEnd ++ rest⟩ attempts =
      (some ⟨place + lineEnd.length, rest⟩, attempts) := by
    rw [scans_newline, Cursor.newline?_of_endsLine ends]
  obtain ⟨behind, later, ran⟩ := exists_run_line ⟨place + lineEnd.length, rest⟩ attempts
  have step := (run_sequence_of_some passed).trans ran
  have shorter : behind.rest.length < (lineEnd ++ rest).length := by
    have forward := (suffix_of_run _ ran).length_le
    have passing := ends.length_pos
    rw [List.length_append]
    exact forward.trans_lt (Nat.lt_add_of_pos_left passing)
  obtain ⟨beyond, last, more⟩ := exists_run_many (sequence newline line) .plain behind later
  rw [run_sequence_of_some ran, moreLines, run_sequence_of_some more,
    run_sequence_of_some ((run_many_of_some step shorter).trans more)]

/-- A run over the rest of a text matches it if no line is misread, and fails where the first
misread line tells. -/
inductive Agrees : Option (Line × Misreading) → Outcome RuleName → Prop
  | matched (behind : Cursor) (later : Attempts RuleName) : Agrees none (some behind, later)
  | failed {line : Line} {misreading : Misreading}
      (first : misreading.expected = .program ↔ line.start + misreading.offset = 0) :
      Agrees (some (line, misreading))
        (none, ⟨line.start + misreading.offset, misreading.expected.attempted, []⟩)

/-- A line that is read is followed by the others, and one that is misread ends the run. -/
theorem agrees_of_runsOver {α : Type} {first : Line} {tail : List Char} {length : Nat}
    {reading : Except Misreading α} {piece : Expression RuleName}
    {below : Option (Line × Misreading)}
    (runs : RunsOver first.start tail length reading (piece.run .plain cursor attempts))
    (goesOn : ∀ later, later.Upto (first.start + length) →
      Agrees below
        ((sequence moreLines finish).run .plain ⟨first.start + length, tail⟩ later)) :
    Agrees (first.misreadOr reading below)
      ((sequence piece (sequence moreLines finish)).run .plain cursor attempts) := by
  generalize ran : piece.run .plain cursor attempts = outcome at runs
  cases runs with
  | matched value upto =>
      rw [run_sequence_of_some ran]
      exact goesOn _ upto
  | stuck starts other told onlyFirst =>
      rw [run_sequence_of_some ran, run_moreLines_of_stuck starts other, told]
      exact .failed onlyFirst

theorem inText_ofLine (base : Nat) (tail text : List Char) :
    Cursor.inText base tail (.ofLine text) = ⟨base, text ++ tail⟩ :=
  rfl

/-- The lines after the first are run as they are read, if nothing has failed further on. -/
theorem agrees_firstMisread? {before text : List Char} {lines : List Line}
    (divided : LinesAfter before text lines) {limit : Nat} (upto : attempts.Upto limit)
    (further : limit < before.length) :
    Agrees (firstMisread? lines)
      ((sequence line (sequence moreLines finish)).run .plain ⟨before.length, text⟩ attempts) := by
  induction divided generalizing attempts limit with
  | @last before text unbroken =>
      have runs := @runsOver_readStatement before.length [] attempts text unbroken rfl limit upto
        further
      rw [inText_ofLine, List.append_nil] at runs
      refine agrees_of_runsOver runs fun later _ => ?_
      rw [run_moreLines_of_nil]
      exact .matched _ _
  | @ended before text lineEnd rest lines unbroken ends others ih =>
      have runs := runsOver_readStatement unbroken ends.atLineEnd upto further
      rw [inText_ofLine, ← List.append_assoc] at runs
      refine agrees_of_runsOver runs fun later upto => ?_
      have beyond := ih upto (by simpa [Line.after] using ends.length_pos)
      rw [run_moreLines_of_endsLine ends]
      simpa [Line.after, Nat.add_assoc] using beyond

/-- The whole text is run as it is read. -/
theorem agrees_misread? (text : List Char) :
    Agrees (misread? text)
      ((sequence tape (sequence moreLines finish)).run .plain ⟨0, text⟩ .none) := by
  obtain ⟨first, later, divided⟩ := exists_linesAfter_nil text
  have split : Line.split text = first :: later := (linesAfter_nil_iff.mp divided).symm
  simp only [misread?, split]
  cases divided with
  | last unbroken =>
      have runs := @runsOver_readTapeLine [] text unbroken rfl
      rw [inText_ofLine, List.append_nil] at runs
      refine agrees_of_runsOver runs fun later _ => ?_
      rw [run_moreLines_of_nil]
      exact .matched _ _
  | @ended _ text lineEnd rest _ unbroken ends others =>
      have runs := runsOver_readTapeLine unbroken ends.atLineEnd
      rw [inText_ofLine, ← List.append_assoc] at runs
      refine agrees_of_runsOver runs fun later upto => ?_
      have shorter : 0 + text.length < ([] ++ text ++ lineEnd).length := by
        simpa using ends.length_pos
      have beyond := agrees_firstMisread? others upto shorter
      rw [run_moreLines_of_endsLine ends]
      simpa [Line.after] using beyond

/-! ## The whole grammar -/

theorem sorted_attempted {expected : Expectation} (notFirst : expected ≠ .program) :
    RuleName.sorted expected.attempted = expected.listed := by
  cases expected with
  | program => exact absurd rfl notFirst
  | _ => rfl

theorem message_listed (place : Nat) (expected : Expectation) :
    message ⟨place, expected.listed, []⟩ = "expected " ++ expected.text := by
  cases expected with
  | _ => rfl

/-- The program as a whole is listed only where nothing has been matched at all. -/
theorem exists_track_program {place : Nat} {expected : Expectation}
    (first : expected = .program ↔ place = 0) :
    ∃ names, Attempts.track .program .plain 0 .none ⟨place, expected.attempted, []⟩ =
        ⟨place, names, []⟩ ∧ RuleName.sorted names = expected.listed := by
  by_cases atStart : place = 0
  · obtain rfl := first.mpr atStart
    obtain rfl := atStart
    exact ⟨[.program], rfl, rfl⟩
  · exact ⟨expected.attempted, Attempts.track_of_further (Nat.pos_of_ne_zero atStart),
      sorted_attempted (mt first.mp atStart)⟩

/-- The grammar fails where the first misread line tells, and lists what was expected there. -/
theorem failure?_eq (text : List Char) :
    failure? text = (misread? text).map fun misread =>
      ⟨misread.1.start + misread.2.offset, misread.2.expected.listed, []⟩ := by
  have agrees := agrees_misread? text
  generalize ran : (sequence tape (sequence moreLines finish)).run .plain ⟨0, text⟩ .none =
    outcome at agrees
  have whole : (sequence .startOfText (sequence tape (sequence moreLines finish))).run .plain
      (Cursor.ofLine text) .none = outcome := ran
  generalize misread? text = found at agrees ⊢
  cases agrees with
  | matched behind later =>
      rw [failure?, program, run_rule_of_some forward_plain whole]
      rfl
  | @failed line misreading first =>
      obtain ⟨names, tracked, sorted⟩ := exists_track_program first
      have start : (Cursor.ofLine text).offset = 0 := rfl
      rw [failure?, program, run_rule_of_none forward_plain whole, start, tracked]
      simp only [sorted, Option.map_some]
      rfl

/-- The run stops at the start of the rule, but what was tried went on to its move. -/
example : failure? "1 0\na 0 1 X b".toList = some ⟨10, [.direction], []⟩ := by cbv

/-- A text is read if the grammar matches it.  Otherwise what is reported is the furthest failure
of the grammar: its place in the text, and the rules that it lists. -/
theorem readLines_eq_error_iff {text : List Char} {fault : Fault} :
    readLines text = .error fault ↔
      ∃ failure expected, failure? text = some failure ∧
        message failure = "expected " ++ expected ∧
        fault = .illFormedText
          (.pointingAt (text.take failure.place) (text.drop failure.place) expected) := by
  rw [failure?_eq]
  rcases misread?_cases text with
    ⟨nowhere, outline, read⟩ | ⟨line, misreading, first, misread⟩
  · simp [nowhere, read]
  · rw [misread, first]
    constructor
    · rintro ⟨⟩
      exact ⟨_, misreading.expected.text, rfl, message_listed _ _, rfl⟩
    · rintro ⟨_, expected, ⟨⟩, told, rfl⟩
      rw [message_listed, String.append_right_inj] at told
      rw [← told]
      rfl

theorem failure?_eq_none_iff_read {text : List Char} :
    failure? text = none ↔ ∃ outline, readLines text = .ok outline := by
  rw [failure?_eq, Option.map_eq_none_iff]
  rcases misread?_cases text with
    ⟨nowhere, outline, read⟩ | ⟨line, misreading, first, misread⟩
  · simp [nowhere, read]
  · simp [first, misread]

/-- The grammar matches the texts whose lines all have the shape they should have. -/
theorem failure?_eq_none_iff {text : List Char} {tapeLine : Line} {others : List Line}
    (divided : LinesAfter [] text (tapeLine :: others)) :
    failure? text = none ↔
      WellFormedTape tapeLine.text ∧ ∀ line ∈ others, WellFormedLine line.text := by
  rw [failure?_eq_none_iff_read]
  rcases readLines_cases divided with ⟨outline, read, describes⟩ | ⟨report, misread, illFormed⟩
  · exact ⟨fun _ => describes.wellFormed, fun _ => ⟨outline, read⟩⟩
  · refine ⟨?_, fun wellFormed => absurd wellFormed illFormed⟩
    rintro ⟨outline, read⟩
    cases misread.symm.trans read

end Grammar
end Program
end TapeWorkbench
