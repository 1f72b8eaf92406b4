import TapeWorkbench.Proofs.FurthestFailure

/-!
# Where a misread text is reported

A text is reported at the furthest place where any alternative of the grammar failed, and that is
where the first misread line tells (`Grammar.failure?_eq`).  What is misread on a line is reported
at a place of the line, so the first line that is not well-formed decides about the report.  All
that the report shows of the text is the line of the place, up to the line feed; what comes behind
it makes no difference, whatever it is (`Program.report_of_endsIllFormed`).
-/

namespace TapeWorkbench

/-! ## Places in a text -/

namespace CaretReport

/-- The report gives the line and the column of a place in the text. -/
structure PointsAt (report : CaretReport) (text : List Char) (place : Nat) : Prop where
  within : place ≤ text.length
  line_eq : report.line = (text.take place).count '\n' + 1
  column_eq : report.column = ((text.take place).reverse.takeWhile (· != '\n')).length + 1

theorem pointsAt_pointingAt {text : List Char} {place : Nat} (within : place ≤ text.length)
    (after : List Char) (expected : String) :
    (pointingAt (text.take place) after expected).PointsAt text place where
  within := within
  line_eq := rfl
  column_eq := by simp [pointingAt]

/-- On one line the columns of two places differ as the places do. -/
theorem length_column_append {before between : List Char}
    (sameLine : (before ++ between).count '\n' = before.count '\n') :
    ((before ++ between).reverse.takeWhile (· != '\n')).length =
      (before.reverse.takeWhile (· != '\n')).length + between.length := by
  have noFeed : ∀ c ∈ between.reverse, (c != '\n') = true := by
    rw [List.count_append, Nat.add_eq_left, List.count_eq_zero] at sameLine
    intro c member
    rw [bne_iff_ne]
    rintro rfl
    exact sameLine (List.mem_reverse.mp member)
  rw [List.reverse_append, List.takeWhile_append_of_pos noFeed]
  simp [Nat.add_comm]

theorem PointsAt.le {report : CaretReport} {text : List Char} {place other : Nat}
    (points : report.PointsAt text place) (alsoPoints : report.PointsAt text other) :
    place ≤ other := by
  by_contra behind
  obtain ⟨further, rfl⟩ := Nat.exists_eq_add_of_lt (not_le.mp behind)
  have split : text.take (other + further + 1) =
      text.take other ++ (text.drop other).take (further + 1) := by
    rw [Nat.add_assoc, List.take_add]
  have lines := points.line_eq.symm.trans alsoPoints.line_eq
  have columns := points.column_eq.symm.trans alsoPoints.column_eq
  rw [split] at lines columns
  rw [length_column_append (Nat.succ.inj lines), List.length_take, List.length_drop] at columns
  have within := points.within
  omega

/-- A report points at one place only. -/
theorem PointsAt.iff_eq {report : CaretReport} {text : List Char} {place : Nat}
    (points : report.PointsAt text place) (other : Nat) :
    report.PointsAt text other ↔ other = place := by
  constructor
  · intro alsoPoints
    exact (alsoPoints.le points).antisymm (points.le alsoPoints)
  · rintro rfl
    exact points

theorem throughLineFeed_append (text rest : List Char) :
    throughLineFeed (text ++ '\n' :: rest) = throughLineFeed (text ++ ['\n']) := by
  induction text with
  | nil => simp [throughLineFeed]
  | cons c text ih =>
      by_cases feed : c = '\n'
      · simp [throughLineFeed, feed]
      · simpa [throughLineFeed, feed] using ih

/-- What comes behind the line feed is not shown. -/
theorem pointingAt_append (before after rest : List Char) (expected : String) :
    pointingAt before (after ++ '\n' :: rest) expected =
      pointingAt before (after ++ ['\n']) expected := by
  have head : (after ++ '\n' :: rest).head? = (after ++ ['\n']).head? := by
    cases after with
    | nil => rfl
    | cons c after => rfl
  simp only [pointingAt, throughLineFeed_append, head]

end CaretReport

namespace Program

/-! ## Misreadings stay on their line -/

/-- No misreading comes of the result, or one at an offset of at most the limit. -/
def MisreadsWithin {α : Type} (limit : Nat) (result : Except Misreading α) : Prop :=
  ∀ misreading, result = .error misreading → misreading.offset ≤ limit

theorem MisreadsWithin.of_ok {α : Type} (limit : Nat) (value : α) :
    MisreadsWithin limit (.ok value) :=
  nofun

theorem MisreadsWithin.of_error {α : Type} {limit : Nat} {misreading : Misreading}
    (within : misreading.offset ≤ limit) :
    MisreadsWithin limit (.error misreading : Except Misreading α) := by
  rintro _ ⟨⟩
  exact within

theorem MisreadsWithin.bind {α β : Type} {limit : Nat} {first : Except Misreading α}
    {next : α → Except Misreading β} (within : MisreadsWithin limit first)
    (behind : ∀ value, first = .ok value → MisreadsWithin limit (next value)) :
    MisreadsWithin limit (first >>= next) := by
  cases first with
  | error misreading => exact .of_error (within misreading rfl)
  | ok value => exact behind value rfl

/-- Reading a field stays on a line that ends at the limit. -/
structure StaysWithin {α : Type} (limit : Nat) (result : Except Misreading (α × Cursor)) :
    Prop where
  misreads : MisreadsWithin limit result
  reach_eq : ∀ value behind, result = .ok (value, behind) → behind.reach = limit

namespace Cursor

theorem staysWithin_readCell (cursor : Cursor) : StaysWithin cursor.reach cursor.readCell where
  misreads := by
    simp only [readCell]
    split
    · exact .of_ok _ _
    · rw [← reach_skipMarker]
      exact .of_error cursor.skipMarker.2.offset_le_reach
  reach_eq cell behind read := by
    obtain ⟨split, -, -, moved⟩ := readCell_eq_ok_iff.mp read
    exact reach_of_split _ split moved

/-- Digits and names of states are read as far as they go, if they begin at all. -/
theorem staysWithin_takeWhile (cursor : Cursor) (p : Char → Bool) (begins : Bool)
    (expected : Expectation) :
    StaysWithin cursor.reach
      (if begins = true then .ok (cursor.takeWhile p) else .error ⟨cursor.offset, expected⟩) where
  misreads := by
    split
    · exact .of_ok _ _
    · exact .of_error cursor.offset_le_reach
  reach_eq text behind read := by
    split at read
    · obtain ⟨split, -, -, moved⟩ := takeWhile_eq_iff.mp (Except.ok.inj read)
      exact reach_of_split text split moved
    · cases read

theorem staysWithin_readDigits (cursor : Cursor) : StaysWithin cursor.reach cursor.readDigits :=
  cursor.staysWithin_takeWhile _ _ _

theorem staysWithin_readState (cursor : Cursor) : StaysWithin cursor.reach cursor.readState :=
  cursor.staysWithin_takeWhile _ _ _

theorem staysWithin_readMove (cursor : Cursor) : StaysWithin cursor.reach cursor.readMove where
  misreads := by
    unfold readMove
    split
    · exact .of_error cursor.offset_le_reach
    · split
      · exact .of_ok _ _
      · exact .of_error cursor.offset_le_reach
  reach_eq move behind read := by
    obtain ⟨letter, split, -, moved⟩ := readMove_eq_ok_iff.mp read
    exact reach_of_split [letter] split moved

end Cursor

/-- Crossing blanks does not move the end of the line. -/
theorem MisreadsWithin.cross {α : Type} {limit start : Nat} {cursor : Cursor}
    {next : Cursor → Except Misreading α} (within : start ≤ limit) (same : cursor.reach = limit)
    (behind : ∀ beyond, beyond.reach = limit → MisreadsWithin limit (next beyond)) :
    MisreadsWithin limit (cursor.crossBlanks start >>= next) := by
  refine .bind ?_ fun beyond crossed => behind beyond ?_
  · unfold Cursor.crossBlanks
    split
    · exact .of_ok _ _
    · exact .of_error within
  · obtain ⟨-, rfl⟩ := Cursor.crossBlanks_eq_ok_iff.mp crossed
    exact (Cursor.reach_skipBlanks cursor).trans same

theorem misreadsWithin_readCells (cursor : Cursor) (done : List Cell) :
    MisreadsWithin cursor.reach (readCells cursor done) := by
  fun_induction readCells cursor done with
  | case1 => exact .of_ok _ _
  | case2 cursor done something misreading misread =>
      exact .of_error (cursor.staysWithin_readCell.misreads misreading misread)
  | case3 cursor done something cell behind read ends ih =>
      have same := cursor.staysWithin_readCell.reach_eq cell behind read
      rwa [Cursor.reach_skipBlanks, same] at ih
  | case4 cursor done something cell behind read goesOn =>
      have same := cursor.staysWithin_readCell.reach_eq cell behind read
      exact .of_error (same ▸ behind.offset_le_reach)

theorem reach_start (line : List Char) : (Cursor.ofLine line).skipBlanks.reach = line.length := by
  rw [Cursor.reach_skipBlanks]
  exact Nat.zero_add _

theorem misreadsWithin_readTapeLine (line : List Char) :
    MisreadsWithin line.length (readTapeLine line) := by
  rw [← reach_start]
  exact misreadsWithin_readCells _ _

/-- Wherever a rule breaks off, it is on the line: no field moves the end of the line. -/
theorem misreadsWithin_readRule (start : Cursor) :
    MisreadsWithin start.reach (readRule start) := by
  have first := start.offset_le_reach
  have field := start.staysWithin_readState
  unfold readRule
  -- four times a field and the blanks behind it, from where they are crossed to the next field
  refine field.misreads.bind fun ⟨state, afterState⟩ read => ?_
  refine .cross first (field.reach_eq _ _ read) fun beforeRead same => ?_
  have field : StaysWithin start.reach beforeRead.readDigits :=
    same ▸ beforeRead.staysWithin_readDigits
  refine field.misreads.bind fun ⟨digits, afterRead⟩ read => ?_
  refine .cross first (field.reach_eq _ _ read) fun beforeWrite same => ?_
  have field : StaysWithin start.reach beforeWrite.readDigits :=
    same ▸ beforeWrite.staysWithin_readDigits
  refine field.misreads.bind fun ⟨digits', afterWrite⟩ read => ?_
  refine .cross first (field.reach_eq _ _ read) fun beforeMove same => ?_
  have field : StaysWithin start.reach beforeMove.readMove :=
    same ▸ beforeMove.staysWithin_readMove
  refine field.misreads.bind fun ⟨move, afterMove⟩ read => ?_
  refine .cross first (field.reach_eq _ _ read) fun beforeNext same => ?_
  have field : StaysWithin start.reach beforeNext.readState :=
    same ▸ beforeNext.staysWithin_readState
  refine field.misreads.bind fun ⟨nextState, afterNext⟩ read => ?_
  have finish := (Cursor.reach_skipBlanks afterNext).trans (field.reach_eq _ _ read)
  simp only
  split
  · exact .of_ok _ _
  · exact .of_error (finish ▸ Cursor.offset_le_reach _)

theorem misreadsWithin_readStatement (line : List Char) :
    MisreadsWithin line.length (readStatement line) := by
  by_cases marked : (line.dropWhile isBlank).head? = some '#'
  · obtain ⟨statement, holds⟩ := exists_isStatement_of_marked marked
    rw [readStatement_eq_ok_iff.mpr holds]
    exact .of_ok _ _
  by_cases nothing : words line = []
  · rw [readStatement_of_blank nothing]
    exact .of_ok _ _
  rw [readStatement_of_unmarked nothing marked, ← reach_start]
  have within := misreadsWithin_readRule (Cursor.ofLine line).skipBlanks
  cases read : readRule (Cursor.ofLine line).skipBlanks with
  | error misreading => exact .of_error (within misreading read)
  | ok fields => exact .of_ok _ _

/-! ## Texts that go on -/

theorem EndsLine.append {lineEnd rest : List Char} (ends : EndsLine lineEnd rest)
    (something : rest ≠ []) (more : List Char) : EndsLine lineEnd (rest ++ more) := by
  cases ends with
  | lineFeed => exact .lineFeed _
  | both => exact .both _
  | carriageReturn lone =>
      cases rest with
      | nil => exact absurd rfl something
      | cons c rest => exact .carriageReturn lone

/-- A text that ends in a line which is not empty keeps its lines when more lines come. -/
theorem LinesAfter.exists_append {before text : List Char} {above : List Line} {last : Line}
    (divided : LinesAfter before text (above ++ [last])) (something : last.text ≠ [])
    (rest : List Char) :
    last.start + last.text.length = before.length + text.length ∧
      ∃ below, LinesAfter before (text ++ '\n' :: rest) (above ++ last :: below) := by
  generalize listed : above ++ [last] = lines at divided
  induction divided generalizing above with
  | @last before text unbroken =>
      obtain ⟨rfl, rfl⟩ : above = [] ∧ last = .after before text := by
        cases above with
        | nil => simpa using listed
        | cons first above => simp at listed
      obtain ⟨first, later, others⟩ :=
        exists_linesAfter 0 1 [] [] rest (before ++ text ++ ['\n']) nofun
      refine ⟨rfl, first :: later, ?_⟩
      simpa using others.ended unbroken (.lineFeed rest)
  | @ended before text lineEnd behind lines unbroken ends others ih =>
      cases above with
      | nil =>
          obtain ⟨-, rfl⟩ := List.cons.inj listed
          cases others
      | cons first above =>
          obtain ⟨rfl, rfl⟩ := List.cons.inj listed
          obtain ⟨place, below, divided⟩ := ih rfl
          have more : behind ≠ [] := by
            rintro rfl
            have short := others.length_le.2 last (by simp)
            exact something (List.length_eq_zero_iff.mp (Nat.le_zero.mp short))
          refine ⟨?_, below, ?_⟩
          · simp only [List.length_append] at place ⊢
            omega
          · simpa using divided.ended unbroken (ends.append more _)

/-- The lines are well-formed up to the last one, which is not. -/
inductive EndsIllFormed : List Line → Line → Prop
  | tape {bad : Line} (illFormed : ¬ WellFormedTape bad.text) : EndsIllFormed [bad] bad
  | statement {tapeLine bad : Line} {above : List Line} (tape : WellFormedTape tapeLine.text)
      (others : ∀ line ∈ above, WellFormedLine line.text)
      (illFormed : ¬ WellFormedLine bad.text) : EndsIllFormed (tapeLine :: above ++ [bad]) bad

/-- An empty line is well-formed. -/
theorem EndsIllFormed.text_ne_nil {lines : List Line} {bad : Line}
    (ends : EndsIllFormed lines bad) : bad.text ≠ [] := by
  intro nothing
  cases ends with
  | tape illFormed => exact illFormed (by simp [WellFormedTape, nothing])
  | statement _ _ illFormed => exact illFormed (.inl (by simp [nothing]))

theorem EndsIllFormed.exists_above {lines : List Line} {bad : Line}
    (ends : EndsIllFormed lines bad) : ∃ above, lines = above ++ [bad] := by
  cases ends with
  | tape _ => exact ⟨[], rfl⟩
  | statement _ _ _ => exact ⟨_, rfl⟩

theorem firstMisread?_append {above : List Line} {bad : Line} {misreading : Misreading}
    (wellFormed : ∀ line ∈ above, WellFormedLine line.text)
    (misread : readStatement bad.text = .error misreading) (below : List Line) :
    firstMisread? (above ++ bad :: below) = some (bad, misreading) := by
  induction above with
  | nil => rw [List.nil_append, firstMisread?, misread, Line.misreadOr]
  | cons line above ih =>
      rw [List.forall_mem_cons] at wellFormed
      obtain ⟨statement, holds⟩ := wellFormedLine_iff.mp wellFormed.1
      rw [List.cons_append, firstMisread?, readStatement_eq_ok_iff.mpr holds, Line.misreadOr,
        ih wellFormed.2]

/-- The first line that is not well-formed is misread, whatever lines come behind it. -/
theorem EndsIllFormed.exists_misreading {lines : List Line} {bad : Line}
    (ends : EndsIllFormed lines bad) :
    ∃ misreading : Misreading, misreading.offset ≤ bad.text.length ∧
      ∀ text below, Line.split text = lines ++ below → misread? text = some (bad, misreading) := by
  cases ends with
  | tape illFormed =>
      cases read : readTapeLine bad.text with
      | ok cells =>
          exact absurd (wellFormedTape_iff.mpr ⟨cells, readTapeLine_eq_ok_iff.mp read⟩) illFormed
      | error misreading =>
          refine ⟨misreading, misreadsWithin_readTapeLine _ misreading read, ?_⟩
          intro text below split
          simp only [misread?, split, List.singleton_append, read, Line.misreadOr]
  | @statement tapeLine _ above tape others illFormed =>
      obtain ⟨cells, holds⟩ := wellFormedTape_iff.mp tape
      have readTape := readTapeLine_eq_ok_iff.mpr holds
      cases read : readStatement bad.text with
      | ok statement =>
          exact absurd (wellFormedLine_iff.mpr ⟨statement, readStatement_eq_ok_iff.mp read⟩)
            illFormed
      | error misreading =>
          refine ⟨misreading, misreadsWithin_readStatement _ misreading read, ?_⟩
          intro text below split
          rw [List.append_assoc, List.cons_append, List.singleton_append] at split
          simp only [misread?, split, readTape, Line.misreadOr]
          exact firstMisread?_append others read below

theorem misreadAt_append {text : List Char} {line : Line} {misreading : Misreading}
    (within : line.start + misreading.offset ≤ text.length) (rest : List Char) :
    misreadAt (text ++ '\n' :: rest) line misreading =
      misreadAt (text ++ ['\n']) line misreading := by
  simp only [misreadAt, List.take_append_of_le_length within,
    List.drop_append_of_le_length within, CaretReport.pointingAt_append]

/-- The first line that is not well-formed decides what is reported.  If a text ends in this line,
then all texts that go on behind it with more lines, and are not too long, are ill-formed with one
and the same report: over all alternatives of the grammar, the furthest failure is at one and the
same place, with the same rules expected there.  The place is on the line, not in front of its
first character, and not behind its end, and the report points at it and at no other. -/
theorem report_of_endsIllFormed (text : String) (lines : List Line) (bad : Line)
    (divided : LinesAfter [] text.toList lines) (ends : EndsIllFormed lines bad) :
    ∃ (report : CaretReport) (place : Nat) (expected : List RuleName),
      (bad.start ≤ place ∧ place ≤ bad.start + bad.text.length) ∧
        Grammar.message ⟨place, expected, []⟩ = "expected " ++ report.expected ∧
        ∀ rest : String, (text ++ "\n" ++ rest).utf8ByteSize ≤ 2 ^ 20 →
          Grammar.failure? (text ++ "\n" ++ rest).toList = some ⟨place, expected, []⟩ ∧
            (read (text ++ "\n" ++ rest)).value = .error (.illFormedText report) ∧
            ∀ other, report.PointsAt (text ++ "\n" ++ rest).toList other ↔ other = place := by
  obtain ⟨misreading, onLine, first⟩ := ends.exists_misreading
  obtain ⟨above, rfl⟩ := ends.exists_above
  have placed := (divided.exists_append ends.text_ne_nil []).1
  rw [List.length_nil, Nat.zero_add] at placed
  have within : bad.start + misreading.offset ≤ text.toList.length := by omega
  let place := bad.start + misreading.offset
  refine ⟨.pointingAt (text.toList.take place) (text.toList.drop place ++ ['\n'])
    misreading.expected.text, place, misreading.expected.listed, ⟨by omega, by omega⟩,
    Grammar.message_listed place misreading.expected, fun rest short => ?_⟩
  have whole : (text ++ "\n" ++ rest).toList = text.toList ++ '\n' :: rest.toList := by simp
  obtain ⟨below, further⟩ := (divided.exists_append ends.text_ne_nil rest.toList).2
  have split : Line.split (text.toList ++ '\n' :: rest.toList) = above ++ [bad] ++ below := by
    rw [List.append_assoc]
    exact (linesAfter_nil_iff.mp further).symm
  have misread := first _ below split
  have fits : ¬ sizeLimit < (text ++ "\n" ++ rest).utf8ByteSize := not_lt.mpr short
  refine ⟨?_, ?_, ?_⟩
  · rw [whole, Grammar.failure?_eq, misread]
    rfl
  · simp only [read, if_neg fits, whole, readLines_of_misread? misread, misreadAt_append within]
    simp [misreadAt, place, List.take_append_of_le_length within,
      List.drop_append_of_le_length within]
  · intro other
    refine CaretReport.PointsAt.iff_eq ?_ other
    have front : text.toList.take place = (text.toList ++ '\n' :: rest.toList).take place :=
      (List.take_append_of_le_length within).symm
    rw [whole, front]
    refine CaretReport.pointsAt_pointingAt ?_ _ _
    rw [List.length_append]
    omega

/-- A rule whose move is none of the three letters is reported as it is, with nothing behind it and
with another such rule: at the move, where a direction is expected. -/
theorem report_of_endsIllFormed_rule :
    let text := "1 0\na 0 1 X b"
    let bad : Line := ⟨4, 2, "a 0 1 X b".toList⟩
    let lines : List Line := [⟨0, 1, "1 0".toList⟩, bad]
    LinesAfter [] text.toList lines ∧ EndsIllFormed lines bad ∧
      ∃ (report : CaretReport) (place : Nat) (expected : List RuleName),
        (4 ≤ place ∧ place ≤ 13) ∧
        Grammar.failure? (text ++ "\n" ++ "").toList = some ⟨place, expected, []⟩ ∧
        Grammar.failure? (text ++ "\n" ++ "b 0 1 Y a").toList = some ⟨place, expected, []⟩ ∧
        (read (text ++ "\n" ++ "")).value = .error (.illFormedText report) ∧
        (read (text ++ "\n" ++ "b 0 1 Y a")).value = .error (.illFormedText report) := by
  intro text bad lines
  have divided : LinesAfter [] text.toList lines := linesAfter_nil_iff.mpr (by decide)
  have tape : WellFormedTape "1 0".toList := by
    have read : readTapeLine "1 0".toList = .ok [⟨false, ['1']⟩, ⟨false, ['0']⟩] := by cbv
    exact wellFormedTape_iff.mpr ⟨_, readTapeLine_eq_ok_iff.mp read⟩
  have illFormed : ¬ WellFormedLine bad.text := by
    have misread : readStatement "a 0 1 X b".toList = .error ⟨6, .direction⟩ := by cbv
    rw [wellFormedLine_iff]
    rintro ⟨statement, holds⟩
    cases misread.symm.trans (readStatement_eq_ok_iff.mpr holds)
  have between : ∀ line ∈ ([] : List Line), WellFormedLine line.text := List.forall_mem_nil _
  have ends : EndsIllFormed lines bad := .statement tape between illFormed
  obtain ⟨report, place, expected, within, -, reported⟩ :=
    report_of_endsIllFormed text lines bad divided ends
  obtain ⟨failsAlone, reportedAlone, -⟩ := reported "" (by decide)
  obtain ⟨failsAgain, reportedAgain, -⟩ := reported "b 0 1 Y a" (by decide)
  exact ⟨divided, ends, report, place, expected, within, failsAlone, failsAgain, reportedAlone,
    reportedAgain⟩

end Program
end TapeWorkbench
