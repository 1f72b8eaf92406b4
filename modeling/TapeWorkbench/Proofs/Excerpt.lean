import TapeWorkbench.Proofs.Contents

/-!
# Texts without their annotations

A line behind the tape line is an annotation if it is blank, or if a number sign is the first of
its characters that is no blank.  What remains of a text without its annotations has the same
tape line and the same rules.  If the text is accepted, so is what remains of it, and the program
that it holds computes alike (`Program.Agrees`): it has the same tape, and all that a rule loses
is the block that it belongs to.
-/

namespace TapeWorkbench
namespace Program

/-! ## Deleting lines -/

/-- What stands on a line, and what ends it. -/
structure Row where
  text : List Char
  lineEnd : List Char
  deriving DecidableEq, Repr

def Row.spelling (row : Row) : List Char :=
  row.text ++ row.lineEnd

/-- The rows of a text.  Nothing ends the last one. -/
def rows : List Char → List Row
  | [] => [⟨[], []⟩]
  | '\n' :: rest => ⟨[], ['\n']⟩ :: rows rest
  | '\r' :: '\n' :: rest => ⟨[], ['\r', '\n']⟩ :: rows rest
  | '\r' :: rest => ⟨[], ['\r']⟩ :: rows rest
  | c :: rest => (rows rest).modifyHead fun row => { row with text := c :: row.text }

/-- Is the line a directive, a comment or blank? -/
def annotates (line : List Char) : Bool :=
  (line.dropWhile isBlank).head?.all (· == '#')

/-- The rows that hold no annotations, as they are spelled. -/
def spellingOfRules (rows : List Row) : List Char :=
  (rows.filter fun row => !annotates row.text).flatMap Row.spelling

/-- The text with all annotations behind the first line deleted, together with their line
ends. -/
def withoutAnnotations (text : String) : String :=
  match rows text.toList with
  | [] => text
  | tapeRow :: others => String.ofList (tapeRow.spelling ++ spellingOfRules others)

theorem rows_append {text : List Char} (unbroken : Unbroken text) (rest : List Char) :
    rows (text ++ rest) =
      (rows rest).modifyHead fun row => { row with text := text ++ row.text } := by
  induction text with
  | nil => exact (congrFun List.modifyHead_id (rows rest)).symm
  | cons c text ih =>
      rw [Unbroken, List.forall_mem_cons] at unbroken
      obtain ⟨noReturn, noFeed⟩ := unbroken.1
      have reads : rows (c :: (text ++ rest)) =
          (rows (text ++ rest)).modifyHead fun row => { row with text := c :: row.text } := by
        rw [rows]
        · simpa using noFeed
        · simp [noReturn]
        · simpa using noReturn
      rw [List.cons_append, reads, ih unbroken.2, List.modifyHead_modifyHead]
      rfl

theorem rows_of_unbroken {text : List Char} (unbroken : Unbroken text) :
    rows text = [⟨text, []⟩] := by
  have read := rows_append unbroken []
  rw [List.append_nil] at read
  simpa [rows] using read

theorem rows_of_endsLine {text lineEnd rest : List Char} (unbroken : Unbroken text)
    (ends : EndsLine lineEnd rest) :
    rows (text ++ lineEnd ++ rest) = ⟨text, lineEnd⟩ :: rows rest := by
  have read : rows (lineEnd ++ rest) = ⟨[], lineEnd⟩ :: rows rest := by
    cases ends with
    | lineFeed => rfl
    | both => rfl
    | carriageReturn lone =>
        cases rest with
        | nil => rfl
        | cons c rest =>
            have other : c ≠ '\n' := by simpa using lone
            rw [List.singleton_append, rows]
            simpa using other
  rw [List.append_assoc, rows_append unbroken, read]
  simp

theorem flatMap_spelling_rows {before text : List Char} {lines : List Line}
    (divided : LinesAfter before text lines) : (rows text).flatMap Row.spelling = text := by
  induction divided with
  | last unbroken => simp [rows_of_unbroken unbroken, Row.spelling]
  | ended unbroken ends _ ih =>
      rw [rows_of_endsLine unbroken ends, List.flatMap_cons, ih]
      rfl

theorem spellingOfRules_sublist (rows : List Row) :
    (spellingOfRules rows).Sublist (rows.flatMap Row.spelling) :=
  List.filter_sublist.flatMap Row.spelling

theorem spellingOfRules_cons_of_annotates {row : Row} (aside : annotates row.text = true)
    (rows : List Row) : spellingOfRules (row :: rows) = spellingOfRules rows := by
  simp [spellingOfRules, aside]

theorem spellingOfRules_cons_of_rule {row : Row} (rule : annotates row.text = false)
    (rows : List Row) :
    spellingOfRules (row :: rows) = row.spelling ++ spellingOfRules rows := by
  simp [spellingOfRules, rule]

theorem EndsLine.of_head? {lineEnd rest other : List Char} (ends : EndsLine lineEnd rest)
    (start : other.head? ≠ some '\n') : EndsLine lineEnd other := by
  cases ends with
  | lineFeed => exact .lineFeed other
  | both => exact .both other
  | carriageReturn _ => exact .carriageReturn start

/-- A line that holds a rule is not empty, so that a carriage return in front of it remains a line
end of its own. -/
theorem head?_spellingOfRules {before text : List Char} {lines : List Line}
    (divided : LinesAfter before text lines) :
    (spellingOfRules (rows text)).head? ≠ some '\n' := by
  have front {text : List Char} (unbroken : Unbroken text) (rule : annotates text = false)
      (lineEnd rest : List Char) : (text ++ lineEnd ++ rest).head? ≠ some '\n' := by
    cases text with
    | nil => cases rule
    | cons c text =>
        have noFeed := (unbroken c List.mem_cons_self).2
        simpa using noFeed
  induction divided with
  | @last before text unbroken =>
      rw [rows_of_unbroken unbroken]
      cases aside : annotates text with
      | true =>
          rw [spellingOfRules_cons_of_annotates aside]
          exact nofun
      | false =>
          rw [spellingOfRules_cons_of_rule aside]
          exact front unbroken aside [] _
  | @ended before text lineEnd rest lines unbroken ends _ ih =>
      rw [rows_of_endsLine unbroken ends]
      cases aside : annotates text with
      | true =>
          rw [spellingOfRules_cons_of_annotates aside]
          exact ih
      | false =>
          rw [spellingOfRules_cons_of_rule aside]
          exact front unbroken aside lineEnd _

/-- The texts of the lines that are no annotations. -/
def ruleTexts (lines : List Line) : List (List Char) :=
  (lines.map Line.text).filter fun text => !annotates text

/-- An annotation may leave an empty line at the end, which is an annotation itself. -/
theorem exists_linesAfter_spellingOfRules {before text : List Char} {lines : List Line}
    (divided : LinesAfter before text lines) (front : List Char) :
    ∃ remaining, LinesAfter front (spellingOfRules (rows text)) remaining ∧
      ruleTexts remaining = ruleTexts lines := by
  induction divided generalizing front with
  | @last before text unbroken =>
      rw [rows_of_unbroken unbroken]
      cases aside : annotates text with
      | true =>
          rw [spellingOfRules_cons_of_annotates aside]
          have nothing : annotates [] = true := rfl
          refine ⟨[.after front []], .last nofun, ?_⟩
          simp [ruleTexts, Line.after, aside, nothing]
      | false =>
          rw [spellingOfRules_cons_of_rule aside]
          refine ⟨[.after front text], ?_, rfl⟩
          simpa [spellingOfRules, Row.spelling] using LinesAfter.last unbroken
  | @ended before text lineEnd rest lines unbroken ends others ih =>
      rw [rows_of_endsLine unbroken ends]
      cases aside : annotates text with
      | true =>
          rw [spellingOfRules_cons_of_annotates aside]
          obtain ⟨remaining, divided, same⟩ := ih front
          refine ⟨remaining, divided, ?_⟩
          simpa [ruleTexts, Line.after, aside] using same
      | false =>
          rw [spellingOfRules_cons_of_rule aside]
          obtain ⟨remaining, divided, same⟩ := ih (front ++ text ++ lineEnd)
          have remains := ends.of_head? (head?_spellingOfRules others)
          refine ⟨.after front text :: remaining, divided.ended unbroken remains, ?_⟩
          simpa [ruleTexts, Line.after, aside] using same

/-- Of a text without its annotations, the tape line and the lines with the rules remain. -/
theorem exists_linesAfter_withoutAnnotations (text : String) :
    ∃ tapeLine others remaining,
      LinesAfter [] text.toList (tapeLine :: others) ∧
        LinesAfter [] (withoutAnnotations text).toList (tapeLine :: remaining) ∧
        ruleTexts remaining = ruleTexts others := by
  obtain ⟨tapeLine, others, divided⟩ := exists_linesAfter_nil text.toList
  refine ⟨tapeLine, others, ?_⟩
  unfold withoutAnnotations
  generalize text.toList = characters at divided ⊢
  cases divided with
  | last unbroken =>
      refine ⟨[], .last unbroken, ?_, rfl⟩
      simpa [rows_of_unbroken unbroken, spellingOfRules, Row.spelling] using
        LinesAfter.last unbroken
  | @ended _ text lineEnd rest _ unbroken ends later =>
      obtain ⟨remaining, kept, same⟩ :=
        exists_linesAfter_spellingOfRules later ([] ++ text ++ lineEnd)
      refine ⟨remaining, .ended unbroken ends later, ?_, same⟩
      rw [rows_of_endsLine unbroken ends]
      simpa [Row.spelling] using
        kept.ended unbroken (ends.of_head? (head?_spellingOfRules later))

example :
    withoutAnnotations "1 !2\r\n#asm  P \r#program\t\tx \n\na 7 1 R b\n #asm\na 07 3 L a" =
      "1 !2\r\na 7 1 R b\na 07 3 L a" := by
  decide +kernel

theorem utf8ByteSize_withoutAnnotations_le (text : String) :
    (withoutAnnotations text).utf8ByteSize ≤ text.utf8ByteSize := by
  obtain ⟨tapeLine, others, divided⟩ := exists_linesAfter_nil text.toList
  have spelled := flatMap_spelling_rows divided
  unfold withoutAnnotations
  split
  · exact le_rfl
  · rename_i tapeRow others cut
    rw [cut, List.flatMap_cons] at spelled
    have shorter := (spellingOfRules_sublist others).append_left tapeRow.spelling
    rw [spelled] at shorter
    rw [String.utf8ByteSize_ofList, ← String.utf8Len_toList text]
    exact String.utf8Len_le_of_sublist shorter

/-! ## Accepting what remains -/

def Statement.rule? : Statement → Option RuleFields
  | .rule fields => some fields
  | _ => none

def rules (statements : List Statement) : List RuleFields :=
  statements.filterMap Statement.rule?

/-- The rule that a line holds, if it holds one. -/
def ruleOn (line : List Char) : Option RuleFields :=
  (readStatement line).toOption.bind Statement.rule?

theorem rule?_eq_ruleOn {line : List Char} {statement : Statement}
    (holds : IsStatement line statement) : statement.rule? = ruleOn line := by
  rw [ruleOn, readStatement_eq_ok_iff.mpr holds]
  rfl

theorem annotates_iff {line : List Char} {statement : Statement}
    (holds : IsStatement line statement) :
    annotates line = true ↔ statement.rule? = none := by
  have marked (head : (line.dropWhile isBlank).head? = some '#') : annotates line = true := by
    simp [annotates, head]
  cases holds with
  | blank nothing => simp [annotates, words_eq_nil_iff.mp nothing, Statement.rule?]
  | assembly directive => simp [marked (head?_of_isDirective directive rfl), Statement.rule?]
  | source directive => simp [marked (head?_of_isDirective directive rfl), Statement.rule?]
  | comment head _ _ => simp [marked head, Statement.rule?]
  | rule unmarked spelled _ _ =>
      simp only [Statement.rule?, reduceCtorEq, iff_false, Bool.not_eq_true]
      cases start : (line.dropWhile isBlank).head? with
      | none =>
          obtain ⟨letter, -, spelled⟩ := spelled
          rw [words_eq_nil_iff.mpr (List.head?_eq_none_iff.mp start)] at spelled
          cases spelled
      | some c =>
          rw [start] at unmarked
          simpa [annotates, start] using unmarked

theorem wellFormedLine_of_annotates {line : List Char} (aside : annotates line = true) :
    WellFormedLine line := by
  cases start : (line.dropWhile isBlank).head? with
  | none => exact .inl (words_eq_nil_iff.mpr (List.head?_eq_none_iff.mp start))
  | some c =>
      obtain rfl : c = '#' := by simpa [annotates, start] using aside
      exact .inr (.inl start)

theorem not_offendsAsRule_of_annotates {line : Line}
    (aside : annotates line.text = true) : ¬ line.OffendsAsRule := by
  rintro ⟨fields, holds, -⟩
  cases (annotates_iff holds).mp aside

/-- A line that remains was there before, or is an annotation. -/
theorem exists_of_mem_of_ruleTexts {lines remaining : List Line}
    (same : ruleTexts remaining = ruleTexts lines) {line : Line} (member : line ∈ remaining) :
    annotates line.text = true ∨ ∃ other ∈ lines, other.text = line.text := by
  cases aside : annotates line.text with
  | true => exact .inl rfl
  | false =>
      have kept : line.text ∈ ruleTexts remaining :=
        List.mem_filter.mpr ⟨List.mem_map_of_mem member, by simp [aside]⟩
      rw [same] at kept
      exact .inr (List.mem_map.mp (List.mem_of_mem_filter kept))

theorem exists_read_withoutAnnotations {text : String} {program : Program}
    (accepted : (read text).value = .ok program) :
    ∃ remainder, (read (withoutAnnotations text)).value = .ok remainder := by
  obtain ⟨tapeLine, others, remaining, divided, kept, same⟩ :=
    exists_linesAfter_withoutAnnotations text
  have short : text.utf8ByteSize ≤ 2 ^ 20 := by
    by_contra long
    have exceeds : sizeLimit < text.utf8ByteSize := not_le.mp long
    simp [read, exceeds] at accepted
  have shorter := (utf8ByteSize_withoutAnnotations_le text).trans short
  obtain ⟨wellFormed, sound⟩ :
      (WellFormedTape tapeLine.text ∧ ∀ line ∈ others, WellFormedLine line.text) ∧
        ¬ tapeLine.OffendsAsTape ∧ ∀ line ∈ others, ¬ line.OffendsAsRule := by
    rcases read_cases short divided with
      ⟨-, report, refused⟩ | ⟨wellFormed, ⟨sound, -⟩ | ⟨line, detail, -, refused⟩⟩
    · cases refused.symm.trans accepted
    · exact ⟨wellFormed, sound⟩
    · cases refused.symm.trans accepted
  have wellFormed' : ∀ line ∈ remaining, WellFormedLine line.text := by
    intro line member
    rcases exists_of_mem_of_ruleTexts same member with aside | ⟨other, among, equal⟩
    · exact wellFormedLine_of_annotates aside
    · rw [← equal]
      exact wellFormed.2 other among
  have sound' : ∀ line ∈ remaining, ¬ line.OffendsAsRule := by
    intro line member
    rcases exists_of_mem_of_ruleTexts same member with aside | ⟨other, among, equal⟩
    · exact not_offendsAsRule_of_annotates aside
    · have fits := sound.2 other among
      rwa [Line.OffendsAsRule, equal] at fits
  rcases read_cases shorter kept with
    ⟨illFormed, -⟩ | ⟨-, ⟨-, accepted⟩ | ⟨line, detail, first, -⟩⟩
  · exact absurd ⟨wellFormed.1, wellFormed'⟩ illFormed
  · exact accepted
  · rcases first.offends with offends | ⟨other, member, offends⟩
    · exact absurd offends sound.1
    · exact absurd offends (sound' other member)

/-! ## What remains of a program -/

/-- The rules that lines hold are those on the lines that are no annotations. -/
theorem rules_eq_of_holds {lines : List Line} {numbered : List (Nat × Statement)}
    (hold : List.Forall₂ Line.Holds lines numbered) :
    rules (numbered.map Prod.snd) = (ruleTexts lines).filterMap ruleOn := by
  induction hold with
  | nil => rfl
  | @cons line first lines numbered holds _ ih =>
      have read := rule?_eq_ruleOn holds.2
      cases aside : annotates line.text with
      | true =>
          have nothing := (annotates_iff holds.2).mp aside
          simpa [rules, ruleTexts, aside, nothing] using ih
      | false =>
          simp only [rules, ruleTexts, List.map_cons, List.filterMap_cons, read] at ih ⊢
          simp [aside, ih, List.filterMap_cons]

end Program

/-- The instruction of a rule above all assembly lines. -/
def Instruction.unplaced (instruction : Instruction) : Instruction :=
  { instruction with block := 0 }

namespace Program

/-- The last of the rules for a key. -/
def lastFor (key : String × Symbol) (rules : List RuleFields) : Option RuleFields :=
  (rules.filter fun fields => fields.key = key).getLast?

/-- But for the blocks, a table is determined by the rules. -/
theorem MadeOf.unplaced_find? {program : Program} {cells : List Cell}
    {statements : List Statement} (made : program.MadeOf cells statements) (state : String)
    (symbol : Symbol) :
    (program.table.find? state symbol).map Instruction.unplaced =
      (lastFor (state, symbol) (rules statements)).map fun fields => fields.instruction 0 := by
  have others {key : String × Symbol} {statements : List Statement}
      (isOther : ∀ statement ∈ statements, statement.isFor key = false) :
      (rules statements).filter (fun fields => fields.key = key) = [] := by
    rw [List.filter_eq_nil_iff]
    intro fields member
    obtain ⟨statement, among, isRule⟩ := List.mem_filterMap.mp member
    cases statement with
    | rule fields' =>
        obtain rfl := Option.some.inj isRule
        simpa [Statement.isFor] using isOther _ among
    | _ => cases isRule
  cases found : program.table.find? state symbol with
  | some instruction =>
      obtain ⟨above, fields, below, rfl, isFor, later, rfl⟩ :=
        (made.table state symbol instruction).mp found
      have last : lastFor (state, symbol) (rules (above ++ .rule fields :: below)) = some fields := by
        have none := others later
        simp only [rules] at none
        simp [lastFor, rules, Statement.rule?, isFor, none]
      rw [last]
      rfl
  | none =>
      have nothing : ∀ statement ∈ statements, statement.isFor (state, symbol) = false := by
        have counts : ¬ ∃ instruction, Counts statements (state, symbol) instruction := by
          rintro ⟨instruction, counts⟩
          rw [(made.table state symbol instruction).mpr counts] at found
          cases found
        rw [exists_counts_iff] at counts
        simpa using counts
      rw [lastFor, others nothing]
      rfl

/-- The programs compute alike: they differ in nothing but their texts and in the blocks that the
rules belong to. -/
structure Agrees (first second : Program) : Prop where
  tape : second.tape = first.tape
  head : second.head = first.head
  table : ∀ state symbol,
    (second.table.find? state symbol).map Instruction.unplaced =
      (first.table.find? state symbol).map Instruction.unplaced

theorem agrees_withoutAnnotations {text : String} {program remainder : Program}
    (accepted : (read text).value = .ok program)
    (remains : (read (withoutAnnotations text)).value = .ok remainder) :
    program.Agrees remainder := by
  obtain ⟨tapeLine, others, remaining, divided, kept, same⟩ :=
    exists_linesAfter_withoutAnnotations text
  obtain ⟨cells, numbered, tapeCells, hold, made⟩ := exists_madeOf_of_linesAfter accepted divided
  obtain ⟨cells', numbered', tapeCells', hold', made'⟩ := exists_madeOf_of_linesAfter remains kept
  obtain rfl : cells = cells' := Except.ok.inj
    ((readTapeLine_eq_ok_iff.mpr tapeCells).symm.trans (readTapeLine_eq_ok_iff.mpr tapeCells'))
  have sameRules : rules (numbered'.map Prod.snd) = rules (numbered.map Prod.snd) := by
    rw [rules_eq_of_holds hold, rules_eq_of_holds hold', same]
  refine ⟨?_, ?_, fun state symbol => ?_⟩
  · exact Array.toList_inj.mp (made'.tape.trans made.tape.symm)
  · exact made'.head.trans made.head.symm
  · rw [made.unplaced_find?, made'.unplaced_find?, sameRules]

end Program
end TapeWorkbench
