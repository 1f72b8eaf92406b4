import TapeWorkbench.Proofs.Matching
import TapeWorkbench.Proofs.Shape

/-!
# The tape line as the grammar matches it

A line that is read is matched up to its end, and nothing has failed behind it.  Where a line is
misread, the run gets stuck: it ends in front of a character that neither ends the line nor the
text, because whatever has failed is left out.  All attempts there were, together with the one to
end the text at this character, are then those that the misreading tells of (`RunsOver`).

The tape line is run cell by cell (`Grammar.runsOver_readTapeLine`).
-/

namespace TapeWorkbench
namespace Program

open Expression

/-- The rules that were tried at the place of a misreading, the end of the text being the last. -/
def Expectation.attempted : Expectation → List RuleName
  | program => [.cell, .endOfText]
  | symbol => [.symbol]
  | direction => [.direction]
  | state => [.state]
  | endOfText => [.endOfText]
  | endOfTextOrCell => [.cell, .endOfText]
  | statement => [.assembly, .source, .instruction, .endOfText]

/-- How a line is run that begins at `base`, is read by itself with the given result, ends at the
offset `finish` and has `tail` behind it. -/
inductive RunsOver (base : Nat) (tail : List Char) (finish : Nat) {α : Type} :
    Except Misreading α → Outcome RuleName → Prop
  | matched (value : α) {attempts : Attempts RuleName} (upto : attempts.Upto (base + finish)) :
      RunsOver base tail finish (.ok value) (some ⟨base + finish, tail⟩, attempts)
  | stuck {misreading : Misreading} {behind : Cursor} {attempts : Attempts RuleName} {c : Char}
      {rest : List Char} (starts : behind.rest = c :: rest) (other : isLineEnd c = false)
      (told : attempts.add behind.offset .endOfText =
        ⟨base + misreading.offset, misreading.expected.attempted, []⟩)
      (first : misreading.expected = .program ↔ base + misreading.offset = 0) :
      RunsOver base tail finish (.error misreading) (some behind, attempts)

namespace Attempts

/-- Nothing has been tried here or further on. -/
structure Fresh {Name : Type} (place : Nat) (attempts : Attempts Name) : Prop where
  upto : attempts.Upto place
  expectedAt_eq : attempts.expectedAt place = []

variable {Name : Type} {attempts : Attempts Name} {place limit : Nat}

theorem Fresh.none (place : Nat) : Fresh place (.none : Attempts Name) where
  upto := ⟨Nat.zero_le place, rfl⟩
  expectedAt_eq := ite_self []

theorem Upto.fresh (upto : attempts.Upto limit) (further : limit < place) :
    attempts.Fresh place where
  upto := upto.mono further.le
  expectedAt_eq := if_neg (Nat.lt_of_le_of_lt upto.place_le further).ne

theorem Fresh.add_eq (fresh : attempts.Fresh place) (name : Name) :
    attempts.add place name = ⟨place, [name], []⟩ := by
  have notFurther : ¬ place < attempts.place := not_lt.mpr fresh.upto.place_le
  simp [add, notFurther, fresh.expectedAt_eq, unexpectedAt, fresh.upto.unexpected_eq]

end Attempts

/-! ## Cells -/

namespace Cursor

theorem skipBlanks_of_bare {cursor : Cursor} (bare : cursor.Bare) :
    cursor.skipBlanks = cursor := by
  have nothing : cursor.rest.takeWhile isBlank = [] := by
    have split := List.takeWhile_append_dropWhile (p := isBlank) (l := cursor.rest)
    rw [bare] at split
    exact List.append_left_eq_self.mp split
  simp only [skipBlanks, takeWhile, nothing]
  rw [bare]
  rfl

/-- Where the line goes on, a character stands that does not end it. -/
theorem exists_inText_cons {cursor : Cursor} (unbroken : Unbroken cursor.rest)
    (something : cursor.rest ≠ []) (base : Nat) (tail : List Char) :
    ∃ c rest, (cursor.inText base tail).rest = c :: rest ∧ isLineEnd c = false := by
  obtain ⟨c, rest, starts⟩ := List.exists_cons_of_ne_nil something
  refine ⟨c, rest ++ tail, ?_, unbroken.isLineEnd_eq (starts ▸ List.mem_cons_self)⟩
  rw [inText, starts, List.cons_append]

theorem offset_lt_skipBlanks {cursor : Cursor} (blank : cursor.rest.head?.any isBlank = true) :
    cursor.offset < cursor.skipBlanks.offset := by
  obtain ⟨offset, rest⟩ := cursor
  cases rest with
  | nil => cases blank
  | cons c rest =>
      have first : isBlank c = true := by simpa using blank
      simp [skipBlanks, takeWhile, first]

theorem readCell_of_readDigits {cursor start behind : Cursor} {marked : Bool}
    {digits : List Char} (skipped : cursor.skipMarker = (marked, start))
    (read : start.readDigits = .ok (digits, behind)) :
    cursor.readCell = .ok (⟨marked, digits⟩, behind) := by
  unfold readDigits at read
  split at read
  · rename_i starts
    have taken := Except.ok.inj read
    simp [readCell, skipped, starts, taken]
  · cases read

theorem readCell_of_noDigits {cursor start : Cursor} {marked : Bool} {misreading : Misreading}
    (skipped : cursor.skipMarker = (marked, start))
    (misread : start.readDigits = .error misreading) :
    cursor.readCell = .error ⟨start.offset, missingCell marked start.offset⟩ := by
  unfold readDigits at misread
  split at misread
  · cases misread
  · rename_i noDigit
    simp [readCell, skipped, noDigit]

theorem offset_of_readCell {cursor behind : Cursor} {cell : Cell}
    (read : cursor.readCell = .ok (cell, behind)) :
    cursor.offset < behind.offset ∧ behind.reach = cursor.reach := by
  obtain ⟨split, numeral, -, moved⟩ := readCell_eq_ok_iff.mp read
  have nonempty := List.length_pos_iff.mpr (Cell.isWord_spelling numeral).1
  exact ⟨by omega, reach_of_split _ split moved⟩

end Cursor

namespace Grammar

variable {base : Nat} {tail : List Char} {cursor behind : Cursor}
  {attempts later : Attempts RuleName}

theorem run_cells_of_some
    (matched : cell.run .plain cursor attempts = (some behind, later)) :
    cells.run .plain cursor attempts =
      (sequence moreCells (optional blanks)).run .plain behind later := by
  obtain ⟨beyond, last, more⟩ := exists_run_many (sequence blanks cell) .plain behind later
  have first := (run_sequence_of_some matched).trans more
  rw [cells, moreCells, run_sequence_of_some (run_optional_of_some first),
    run_sequence_of_some more]

theorem run_cells_of_none (failed : cell.run .plain cursor attempts = (none, later)) :
    cells.run .plain cursor attempts = (some cursor.skipBlanks, later) := by
  rw [cells, run_sequence_of_some (run_optional_of_none (run_sequence_of_none failed)),
    run_optional_blanks]

/-- Where blanks come behind a cell, more cells can come behind these. -/
theorem run_moreCells_of_blank (blank : cursor.rest.head?.any isBlank = true)
    (attempts : Attempts RuleName) :
    (sequence moreCells (optional blanks)).run .plain cursor attempts =
      cells.run .plain cursor.skipBlanks attempts := by
  have crossed := run_blanks_of_blank blank .plain attempts
  have shorter : cursor.skipBlanks.rest.length < cursor.rest.length :=
    Cursor.length_dropWhile_lt blank
  cases next : cell.run .plain cursor.skipBlanks attempts with
  | mk reached later =>
      have step := (run_sequence_of_some crossed).trans next
      cases reached with
      | none =>
          rw [moreCells, run_sequence_of_some (run_many_of_none step), run_optional_blanks,
            run_cells_of_none next, Cursor.skipBlanks_of_bare cursor.bare_skipBlanks]
      | some behind =>
          have further := (suffix_of_run _ next).length_le.trans_lt shorter
          obtain ⟨beyond, last, more⟩ := exists_run_many (sequence blanks cell) .plain behind later
          rw [run_cells_of_some next, moreCells, run_sequence_of_some more,
            run_sequence_of_some ((run_many_of_some step further).trans more)]

theorem run_moreCells_of_noBlank (noBlank : cursor.rest.head?.any isBlank = false)
    (attempts : Attempts RuleName) :
    (sequence moreCells (optional blanks)).run .plain cursor attempts =
      (some cursor, attempts) := by
  have failed := run_blanks_of_noBlank noBlank .plain attempts
  rw [moreCells, run_sequence_of_some (run_many_of_none (run_sequence_of_none failed)),
    run_optional_of_none failed]

theorem run_head_of_marked (base : Nat) (tail rest : List Char) (offset : Nat)
    (attempts : Attempts RuleName) :
    (optional head).run .plain (Cursor.inText base tail ⟨offset, '!' :: rest⟩) attempts =
      (some (Cursor.inText base tail ⟨offset + 1, rest⟩), attempts) := by
  refine run_optional_of_some (run_rule_of_some forward_plain ?_)
  rw [Scans.letter]
  rfl

theorem run_head_of_unmarked (unmarked : (cursor.inText base tail).rest.head? ≠ some '!')
    (attempts : Attempts RuleName) :
    (optional head).run .plain (cursor.inText base tail) attempts =
      (some (cursor.inText base tail), attempts.add (base + cursor.offset) .head) := by
  refine run_optional_of_none (run_rule_of_fails ?_)
  rw [Scans.letter]
  refine congrArg (·, attempts) ?_
  unfold Cursor.one?
  split
  · rfl
  · rename_i c rest starts
    have other : c ≠ '!' := by simpa [starts] using unmarked
    simp [other]

/-- The ways in which a cell can turn out: as it is read, with the head marker but no digit behind
it, or with neither. -/
theorem run_cell_cases (ends : AtLineEnd tail) (unbroken : Unbroken cursor.rest)
    (attempts : Attempts RuleName) :
    (∃ found behind later, cursor.readCell = .ok (found, behind) ∧ Unbroken behind.rest ∧
        (attempts.Upto (base + cursor.offset) → later.Upto (base + cursor.offset)) ∧
        cell.run .plain (cursor.inText base tail) attempts =
          (some (behind.inText base tail), later)) ∨
      (cursor.rest ≠ [] ∧
        cursor.readCell = .error ⟨cursor.offset + 1, .symbol⟩ ∧
        cell.run .plain (cursor.inText base tail) attempts =
          (none, attempts.add (base + (cursor.offset + 1)) .symbol)) ∨
      cursor.readCell = .error ⟨cursor.offset, Cursor.missingCell false cursor.offset⟩ ∧
        cell.run .plain (cursor.inText base tail) attempts =
          (none, attempts.add (base + cursor.offset) .cell) := by
  by_cases marker : cursor.rest.head? = some '!'
  · obtain ⟨offset, rest⟩ := cursor
    obtain ⟨rest, rfl⟩ : ∃ more, rest = '!' :: more := List.head?_eq_some_iff.mp marker
    have skipped := Cursor.skipMarker_of_marked offset rest
    have headMatched := run_head_of_marked base tail rest offset attempts
    have behindMarker : Unbroken rest :=
      fun c member => unbroken c (List.mem_cons_of_mem '!' member)
    rcases matches_symbol base tail ⟨offset + 1, rest⟩ attempts ends behindMarker with
      ⟨digits, behind, read, unbroken, -, -, symbolMatched⟩ | ⟨misread, symbolFailed⟩
    · refine .inl ⟨_, behind, attempts, Cursor.readCell_of_readDigits skipped read, unbroken, id,
        ?_⟩
      exact run_rule_of_some forward_plain ((run_sequence_of_some headMatched).trans symbolMatched)
    · refine .inr (.inl ⟨List.cons_ne_nil _ _, Cursor.readCell_of_noDigits skipped misread, ?_⟩)
      have bodyFailed := (run_sequence_of_some headMatched).trans symbolFailed
      rw [cell, run_rule_of_none forward_plain bodyFailed, Attempts.track_of_further]
      rw [Attempts.place_add]
      exact (Nat.lt_succ_self _).trans_le (le_max_right _ _)
  · have unmarked : (cursor.inText base tail).rest.head? ≠ some '!' :=
      Cursor.head?_inText_ne rfl ends marker
    have skipped := Cursor.skipMarker_of_unmarked marker
    have headFailed := run_head_of_unmarked unmarked attempts
    rcases matches_symbol base tail cursor (attempts.add (base + cursor.offset) .head) ends
        unbroken with
      ⟨digits, behind, read, unbroken, -, -, symbolMatched⟩ | ⟨misread, symbolFailed⟩
    · refine .inl ⟨_, behind, _, Cursor.readCell_of_readDigits skipped read, unbroken,
        fun upto => upto.add le_rfl .head, ?_⟩
      exact run_rule_of_some forward_plain ((run_sequence_of_some headFailed).trans symbolMatched)
    · refine .inr (.inr ⟨Cursor.readCell_of_noDigits skipped misread, ?_⟩)
      have bodyFailed := (run_sequence_of_some headFailed).trans symbolFailed
      rw [cell, run_rule_of_none forward_plain bodyFailed]
      exact congrArg (none, ·) (Attempts.track_add_add rfl forward_plain _ _ _ _ _)

theorem exists_run_cell {found : Cell} (ends : AtLineEnd tail) (unbroken : Unbroken cursor.rest)
    (read : cursor.readCell = .ok (found, behind)) (attempts : Attempts RuleName) :
    Unbroken behind.rest ∧ ∃ later,
      (attempts.Upto (base + cursor.offset) → later.Upto (base + cursor.offset)) ∧
        cell.run .plain (cursor.inText base tail) attempts =
          (some (behind.inText base tail), later) := by
  rcases run_cell_cases ends unbroken attempts with
    ⟨found', behind', later, read', unbroken', upto, matched⟩ | ⟨-, misread, -⟩ | ⟨misread, -⟩
  · obtain ⟨rfl, rfl⟩ := Prod.mk.inj (Except.ok.inj (read.symm.trans read'))
    exact ⟨unbroken', later, upto, matched⟩
  · cases misread.symm.trans read
  · cases misread.symm.trans read

/-- Cells are run as they are read, from where one may come. -/
theorem runsOver_readCells (cursor : Cursor) (done : List Cell) (bare : cursor.Bare)
    (unbroken : Unbroken cursor.rest) (ends : AtLineEnd tail) (start : base = 0)
    (fresh : attempts.Fresh (base + cursor.offset)) :
    RunsOver base tail cursor.reach (readCells cursor done)
      (cells.run .plain (cursor.inText base tail) attempts) := by
  fun_induction readCells cursor done generalizing attempts with
  | case1 cursor done nothing =>
      rw [List.isEmpty_iff] at nothing
      rcases run_cell_cases ends unbroken attempts with
        ⟨found, behind, later, read, -⟩ | ⟨something, -⟩ | ⟨-, failed⟩
      · have shorter := Cursor.length_of_readCell read
        simp [nothing] at shorter
      · exact absurd nothing something
      · rw [run_cells_of_none failed, Cursor.skipBlanks_inText unbroken ends,
          Cursor.skipBlanks_of_bare bare, Cursor.inText_of_nil nothing]
        refine .matched _ ((fresh.upto.add le_rfl .cell).mono ?_)
        exact Nat.add_le_add_left cursor.offset_le_reach base
  | case2 cursor done something misreading misread =>
      rw [List.isEmpty_iff] at something
      obtain ⟨c, rest, starts, other⟩ := Cursor.exists_inText_cons unbroken something base tail
      rcases run_cell_cases ends unbroken attempts with
        ⟨found, behind, later, read, -⟩ | ⟨-, misread', failed⟩ | ⟨misread', failed⟩
      · cases misread.symm.trans read
      · obtain rfl := Except.error.inj (misread.symm.trans misread')
        rw [run_cells_of_none failed, Cursor.skipBlanks_inText unbroken ends,
          Cursor.skipBlanks_of_bare bare]
        refine .stuck starts other ?_ (by simp)
        have next := fresh.upto.fresh (Nat.lt_succ_self (base + cursor.offset))
        rw [← Nat.add_assoc, next.add_eq, Attempts.add_of_further (Nat.lt_succ_self _)]
        rfl
      · obtain rfl := Except.error.inj (misread.symm.trans misread')
        rw [run_cells_of_none failed, Cursor.skipBlanks_inText unbroken ends,
          Cursor.skipBlanks_of_bare bare]
        refine .stuck starts other ?_ (by simp [Cursor.missingCell, start])
        rw [fresh.add_eq]
        refine (Attempts.add_at _ _ _ _).trans ?_
        by_cases first : cursor.offset = 0
        · simp [Cursor.missingCell, first, Expectation.attempted]
        · simp [Cursor.missingCell, first, Expectation.attempted]
  | case3 cursor done something found behind read atEnd ih =>
      obtain ⟨further, same⟩ := Cursor.offset_of_readCell read
      obtain ⟨unbroken, later, upto, matched⟩ := exists_run_cell ends unbroken read attempts
      rw [run_cells_of_some matched, ← same]
      cases blank : behind.rest.head?.any isBlank with
      | true =>
          rw [run_moreCells_of_blank ((Cursor.anyBlank_inText unbroken ends).trans blank),
            Cursor.skipBlanks_inText unbroken ends, ← Cursor.reach_skipBlanks]
          refine ih behind.bare_skipBlanks (unbroken.dropWhile isBlank) ?_
          refine (upto fresh.upto).fresh (Nat.add_lt_add_left (further.trans_le ?_) base)
          exact Nat.le_add_right _ _
      | false =>
          have nothing : behind.rest = [] := by
            cases left : behind.rest with
            | nil => rfl
            | cons c rest =>
                rw [left] at atEnd blank
                cases blank.symm.trans (by simpa using atEnd)
          have last :
              readCells behind.skipBlanks (found :: done) = .ok (found :: done).reverse := by
            rw [readCells]
            exact if_pos (by simp [Cursor.skipBlanks, Cursor.takeWhile, nothing])
          rw [run_moreCells_of_noBlank ((Cursor.anyBlank_inText unbroken ends).trans blank),
            Cursor.inText_of_nil nothing, last]
          refine .matched _ ((upto fresh.upto).mono (Nat.add_le_add_left ?_ base))
          exact further.le.trans behind.offset_le_reach
  | case4 cursor done something found behind read goesOn =>
      obtain ⟨further, same⟩ := Cursor.offset_of_readCell read
      obtain ⟨unbroken, later, upto, matched⟩ := exists_run_cell ends unbroken read attempts
      obtain ⟨something, noBlank⟩ :
          behind.rest ≠ [] ∧ behind.rest.head?.any isBlank = false := by
        cases left : behind.rest with
        | nil => simp [left] at goesOn
        | cons c rest => exact ⟨List.cons_ne_nil c rest, by simpa [left] using goesOn⟩
      obtain ⟨c, rest, starts, other⟩ := Cursor.exists_inText_cons unbroken something base tail
      have next := (upto fresh.upto).fresh (Nat.add_lt_add_left further base)
      rw [run_cells_of_some matched,
        run_moreCells_of_noBlank ((Cursor.anyBlank_inText unbroken ends).trans noBlank)]
      refine .stuck starts other (next.add_eq .endOfText) ?_
      simp
      omega

/-- A rule whose body is run over a line is not accounted for. -/
theorem runsOver_rule {α : Type} {reading : Except Misreading α}
    {finish : Nat} {body : Expression RuleName}
    (runs : RunsOver base tail finish reading (body.run .plain cursor attempts))
    (name : RuleName) :
    RunsOver base tail finish reading ((Expression.rule name body).run .plain cursor attempts) := by
  generalize ran : body.run .plain cursor attempts = outcome at runs
  cases runs with
  | matched value upto =>
      rw [run_rule_of_some forward_plain ran]
      exact .matched value upto
  | stuck starts other told first =>
      rw [run_rule_of_some forward_plain ran]
      exact .stuck starts other told first

/-- The tape line is run as it is read. -/
theorem runsOver_readTapeLine {line : List Char} (unbroken : Unbroken line)
    (ends : AtLineEnd tail) :
    RunsOver 0 tail line.length (readTapeLine line)
      (tape.run .plain (Cursor.inText 0 tail (.ofLine line)) .none) := by
  let start := (Cursor.ofLine line).skipBlanks
  have runs := runsOver_readCells start [] (Cursor.ofLine line).bare_skipBlanks
    (unbroken.dropWhile isBlank) ends rfl (.none _)
  have reach : start.reach = line.length := by
    rw [Cursor.reach_skipBlanks]
    exact Nat.zero_add _
  have body : (sequence (optional blanks) cells).run .plain
      (Cursor.inText 0 tail (.ofLine line)) .none =
        cells.run .plain (start.inText 0 tail) .none := by
    have line' : Unbroken (Cursor.ofLine line).rest := unbroken
    rw [run_sequence_of_some (run_optional_blanks _ _ _), Cursor.skipBlanks_inText line' ends]
  rw [reach, ← body] at runs
  exact runsOver_rule runs .tape

end Grammar
end Program
end TapeWorkbench
