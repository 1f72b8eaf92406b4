import TapeWorkbench.Proofs.MatchingTape

/-!
# The other lines as the grammar matches them

Lines after the tape line hold one of several alternatives, which are tried in turn, or nothing.  A
line that begins with a number sign is matched up to its end, as a directive or else as a comment,
and no other line is tried as these any further than at its first character.  What is left are
rules, whose fields are run as they are read: the first that is missing is the last that was tried
(`Grammar.runsOver_readStatement`).
-/

namespace TapeWorkbench
namespace Program

open Expression

namespace Grammar

variable {base : Nat} {tail : List Char} {cursor behind : Cursor}
  {attempts later : Attempts RuleName}

/-! ## Directives and comments -/

/-- What is left of a line is matched up to its end. -/
theorem run_remainder (unbroken : Unbroken cursor.rest) (ends : AtLineEnd tail) (mode : Mode)
    (attempts : Attempts RuleName) :
    remainder.run mode (cursor.inText base tail) attempts =
      (some ⟨base + cursor.reach, tail⟩, attempts) := by
  have holds : ∀ c ∈ cursor.rest, (!isLineEnd c) = true := fun c member => by
    rw [unbroken.isLineEnd_eq member, Bool.not_false]
  have stops : (tail.head?.all fun c => !!isLineEnd c) = true := by simpa [AtLineEnd] using ends
  obtain ⟨taken, dropped⟩ := takeWhile_append_of_stops holds stops
  rw [scans_remainder]
  simp only [Cursor.takeWhile, Cursor.inText, taken, dropped, Cursor.reach, Nat.add_assoc]

theorem run_directiveEnd (cursor : Cursor) (attempts : Attempts RuleName) :
    directiveEnd.run .plain cursor attempts =
      if (cursor.rest.head?.all fun c => isBlank c || isLineEnd c) = true then
        (some cursor, attempts)
      else
        (none, attempts.add cursor.offset .endOfText) := by
  have positive : ∀ place, Attempts.track RuleName.endOfText ⟨.positive, false⟩ place attempts
      attempts = attempts.add place .endOfText :=
    fun place => Attempts.track_self rfl Lookahead.noConfusion _ _ _
  obtain ⟨offset, rest⟩ := cursor
  simp only [directiveEnd, space, tab, finish, run, Mode.plain, Lookahead.ahead,
    scans_newline ⟨.positive, false⟩]
  cases rest with
  | nil => simp [Cursor.word?, Cursor.newline?]
  | cons c rest =>
      by_cases blank : isBlank c = true
      · rcases (by simpa [isBlank] using blank : c = ' ' ∨ c = '\t') with rfl | rfl
        · simp [Cursor.word?, blank]
        · simp [Cursor.word?, blank]
      have letters : c ≠ ' ' ∧ c ≠ '\t' := by simpa [isBlank] using blank
      cases lineEnd : isLineEnd c with
      | true =>
          obtain ⟨behind, passed⟩ : ∃ behind, Cursor.newline? ⟨offset, c :: rest⟩ = some behind :=
            Option.isSome_iff_exists.mp (by simpa [Cursor.isSome_newline?] using lineEnd)
          simp [Cursor.word?, letters.1.symm, letters.2.symm, passed, lineEnd]
      | false =>
          have stops : Cursor.newline? ⟨offset, c :: rest⟩ = none :=
            Cursor.newline?_of_not_isLineEnd rfl lineEnd
          simp [Cursor.word?, letters.1.symm, letters.2.symm, stops, blank, lineEnd, positive]

/-- On a line a word without line ends cannot reach behind the end of the line. -/
theorem prefix_of_prefix_append {word rest : List Char} (unbroken : Unbroken word)
    (ends : AtLineEnd tail) (starts : word <+: rest ++ tail) : word <+: rest := by
  induction word generalizing rest with
  | nil => exact List.nil_prefix
  | cons c word ih =>
      cases rest with
      | nil =>
          obtain ⟨more, rfl⟩ := starts
          have lineEnd : isLineEnd c = true := by simpa [AtLineEnd] using ends
          rw [unbroken.isLineEnd_eq List.mem_cons_self] at lineEnd
          cases lineEnd
      | cons first rest =>
          rw [List.cons_append, List.cons_prefix_cons] at starts
          have behind := ih (fun other member => unbroken other (List.mem_cons_of_mem c member))
            starts.2
          exact List.cons_prefix_cons.mpr ⟨starts.1, behind⟩

/-- A word that stands on the line is matched, and the line goes on behind it. -/
theorem run_word_of_split {word rest : List Char} (split : cursor.rest = word ++ rest) (mode : Mode)
    (attempts : Attempts RuleName) :
    (Expression.word word).run mode (cursor.inText base tail) attempts =
      (some (Cursor.inText base tail ⟨cursor.offset + word.length, rest⟩), attempts) := by
  have starts : word.isPrefixOf (word ++ rest ++ tail) = true := by
    rw [List.isPrefixOf_iff_prefix, List.append_assoc]
    exact List.prefix_append _ _
  simp only [run_word, Cursor.word?, Cursor.inText, split, starts, if_true]
  simp [Nat.add_assoc]

theorem word?_of_absent {word : List Char} (unbroken : Unbroken word) (ends : AtLineEnd tail)
    (differs : ¬ word <+: cursor.rest) : (cursor.inText base tail).word? word = none := by
  refine if_neg fun starts => differs ?_
  exact prefix_of_prefix_append unbroken ends (List.isPrefixOf_iff_prefix.mp starts)

/-- The end of a word is a blank, or else the end of the line. -/
theorem atWordEnd_inText (unbroken : Unbroken cursor.rest) (ends : AtLineEnd tail) :
    ((cursor.inText base tail).rest.head?.all fun c => isBlank c || isLineEnd c) = true ↔
      AtWordEnd cursor.rest := by
  obtain ⟨offset, rest⟩ := cursor
  cases rest with
  | nil =>
      refine ⟨fun _ => rfl, fun _ => ?_⟩
      cases tail with
      | nil => rfl
      | cons c tail =>
          have lineEnd : isLineEnd c = true := by simpa [AtLineEnd] using ends
          simp [Cursor.inText, lineEnd]
  | cons c rest =>
      have other := unbroken.isLineEnd_eq (List.mem_cons_self (a := c) (l := rest))
      simp [Cursor.inText, AtWordEnd, other]

variable {name : RuleName} {word : String}

theorem run_directive_of_some {text : List Char} (unbroken : Unbroken cursor.rest)
    (ends : AtLineEnd tail) (found : afterWord? word.toList cursor.rest = some text)
    (attempts : Attempts RuleName) :
    (directive name word).run .plain (cursor.inText base tail) attempts =
      (some ⟨base + cursor.reach, tail⟩, attempts) := by
  obtain ⟨split, atEnd⟩ := afterWord?_eq_some_iff.mp found
  let behind : Cursor := ⟨cursor.offset + word.toList.length, text⟩
  have matched := @run_word_of_split base tail cursor _ _ split .plain attempts
  have unbroken' : Unbroken behind.rest := unbroken.of_split split
  have ended : directiveEnd.run .plain (behind.inText base tail) attempts =
      (some (behind.inText base tail), attempts) := by
    rw [run_directiveEnd, if_pos ((atWordEnd_inText unbroken' ends).mpr atEnd)]
  have reach : behind.reach = cursor.reach := Cursor.reach_of_split _ split rfl
  have toEnd : Grammar.text.run .plain (behind.inText base tail) attempts =
      (some ⟨base + cursor.reach, tail⟩, attempts) := by
    rw [← reach]
    exact run_rule_of_some forward_plain (run_remainder unbroken' ends _ _)
  refine run_rule_of_some forward_plain ?_
  rw [run_sequence_of_some matched, run_sequence_of_some ended, toEnd]

theorem run_directive_of_noWord (missing : cursor.word? word.toList = none)
    (attempts : Attempts RuleName) :
    (directive name word).run .plain cursor attempts =
      (none, attempts.add cursor.offset name) := by
  refine run_rule_of_fails (run_sequence_of_none ?_)
  rw [run_word, missing]

theorem run_directive_of_none (unbroken : Unbroken cursor.rest) (ends : AtLineEnd tail)
    (missing : afterWord? word.toList cursor.rest = none) (oneLine : Unbroken word.toList)
    (nonempty : word.toList ≠ []) (upto : attempts.Upto (base + cursor.reach)) :
    ∃ later, later.Upto (base + cursor.reach) ∧
      (directive name word).run .plain (cursor.inText base tail) attempts = (none, later) := by
  by_cases starts : word.toList <+: cursor.rest
  · obtain ⟨text, split⟩ := starts
    have goesOn : ¬ AtWordEnd text := by
      intro atEnd
      cases missing.symm.trans (afterWord?_eq_some_iff.mpr ⟨split.symm, atEnd⟩)
    let behind : Cursor := ⟨cursor.offset + word.toList.length, text⟩
    have matched := @run_word_of_split base tail cursor _ _ split.symm .plain attempts
    have unbroken' : Unbroken behind.rest := unbroken.of_split split.symm
    have failed : directiveEnd.run .plain (behind.inText base tail) attempts =
        (none, attempts.add (base + behind.offset) .endOfText) := by
      rw [run_directiveEnd, if_neg (mt (atWordEnd_inText unbroken' ends).mp goesOn)]
      rfl
    have reach : behind.reach = cursor.reach := Cursor.reach_of_split _ split.symm rfl
    have within : behind.offset ≤ cursor.reach := reach ▸ behind.offset_le_reach
    refine ⟨_, upto.add (Nat.add_le_add_left within base) .endOfText, ?_⟩
    have bodyFailed : (sequence (.word word.toList) (sequence directiveEnd Grammar.text)).run .plain
        (cursor.inText base tail) attempts =
          (none, attempts.add (base + behind.offset) .endOfText) :=
      (run_sequence_of_some matched).trans (run_sequence_of_none failed)
    rw [directive, run_rule_of_none forward_plain bodyFailed, Attempts.track_of_further]
    rw [Attempts.place_add]
    refine lt_of_lt_of_le ?_ (le_max_right _ _)
    have longer := List.length_pos_iff.mpr nonempty
    simp only [Cursor.inText, behind]
    omega
  · have absent := @word?_of_absent base tail cursor _ oneLine ends starts
    refine ⟨_, upto.add ?_ name, run_directive_of_noWord absent attempts⟩
    exact Nat.add_le_add_left cursor.offset_le_reach base

theorem run_comment_of_marked (unbroken : Unbroken cursor.rest) (ends : AtLineEnd tail)
    (marked : cursor.rest.head? = some '#') (attempts : Attempts RuleName) :
    comment.run .plain (cursor.inText base tail) attempts =
      (some ⟨base + cursor.reach, tail⟩, attempts) := by
  obtain ⟨rest, split⟩ : ∃ rest, cursor.rest = ['#'] ++ rest := List.head?_eq_some_iff.mp marked
  let behind : Cursor := ⟨cursor.offset + 1, rest⟩
  have matched := @run_word_of_split base tail cursor _ _ split .plain attempts
  have unbroken' : Unbroken behind.rest := unbroken.of_split split
  have reach : behind.reach = cursor.reach := Cursor.reach_of_split _ split rfl
  rw [comment, run_sequence_of_some matched, ← reach]
  exact run_remainder unbroken' ends _ _

/-- A line that begins with a number sign is matched up to its end, one way or another. -/
theorem run_statement_of_marked (unbroken : Unbroken cursor.rest) (ends : AtLineEnd tail)
    (marked : cursor.rest.head? = some '#') (upto : attempts.Upto (base + cursor.reach)) :
    ∃ later, later.Upto (base + cursor.reach) ∧
      statement.run .plain (cursor.inText base tail) attempts =
        (some ⟨base + cursor.reach, tail⟩, later) := by
  cases asAssembly : afterWord? "#asm".toList cursor.rest with
  | some text =>
      exact ⟨attempts, upto,
        run_choice_of_some (run_directive_of_some unbroken ends asAssembly attempts)⟩
  | none =>
      have oneLine : Unbroken "#asm".toList := by simp [Unbroken]
      obtain ⟨later, upto, failed⟩ : ∃ later, later.Upto (base + cursor.reach) ∧
          assembly.run .plain (cursor.inText base tail) attempts = (none, later) :=
        run_directive_of_none unbroken ends asAssembly oneLine (by simp) upto
      rw [statement, run_choice_of_none failed]
      cases asSource : afterWord? "#program".toList cursor.rest with
      | some text =>
          exact ⟨later, upto,
            run_choice_of_some (run_directive_of_some unbroken ends asSource later)⟩
      | none =>
          have oneLine : Unbroken "#program".toList := by simp [Unbroken]
          obtain ⟨later, upto, failed⟩ : ∃ last, last.Upto (base + cursor.reach) ∧
              source.run .plain (cursor.inText base tail) later = (none, last) :=
            run_directive_of_none unbroken ends asSource oneLine (by simp) upto
          refine ⟨later, upto, ?_⟩
          rw [run_choice_of_none failed,
            run_choice_of_some (run_comment_of_marked unbroken ends marked later)]

/-! ## Rules -/

/-- How the fields of a rule are run that begins at an offset, compared with how they are read.
They are matched, and the end of the line is still to be looked for; or blanks are missing, and
nothing has been tried; or a field is missing further on. -/
inductive RunsRule (base : Nat) (tail : List Char) (start finish : Nat)
    (attempts : Attempts RuleName) : Except Misreading RuleFields → Outcome RuleName → Prop
  | matched (fields : RuleFields) {behind : Cursor} (further : start < behind.offset)
      (unbroken : Unbroken behind.rest) (reach : behind.reach = finish) :
      RunsRule base tail start finish attempts
        (if behind.skipBlanks.rest.isEmpty then .ok fields
          else .error ⟨behind.skipBlanks.offset, .endOfText⟩)
        (some (behind.inText base tail), attempts)
  | unseparated :
      RunsRule base tail start finish attempts (.error ⟨start, .statement⟩) (none, attempts)
  | missing {place : Nat} {expected : Expectation} {name : RuleName} (further : start < place)
      (told : expected.attempted = [name]) :
      RunsRule base tail start finish attempts (.error ⟨place, expected⟩)
        (none, attempts.add (base + place) name)

section Rules

variable {start finish : Nat} {next : Expression RuleName}

/-- Where a field may come, it is read and matched, or it is missing. -/
theorem runsRule_field {α : Type} {field : Expression RuleName}
    {read : Cursor → Except Misreading (α × Cursor)} {expected : Expectation}
    {readNext : α × Cursor → Except Misreading RuleFields}
    (fits : field.Matches read name expected) (told : expected.attempted = [name])
    (ends : AtLineEnd tail) (unbroken : Unbroken cursor.rest) (further : start < cursor.offset)
    (reach : cursor.reach = finish)
    (goesOn : ∀ value behind, Unbroken behind.rest → start < behind.offset →
      behind.reach = finish →
        RunsRule base tail start finish attempts (readNext (value, behind))
          (next.run .plain (behind.inText base tail) attempts)) :
    RunsRule base tail start finish attempts (read cursor >>= readNext)
      ((sequence field next).run .plain (cursor.inText base tail) attempts) := by
  rcases fits base tail cursor attempts ends unbroken with
    ⟨value, behind, done, unbroken, forward, same, matched⟩ | ⟨misread, failed⟩
  · rw [run_sequence_of_some matched, done]
    exact goesOn value behind unbroken (further.trans_le forward) (same.trans reach)
  · rw [run_sequence_of_none failed, misread]
    exact .missing further told

/-- Behind a field come blanks, or they are missing. -/
theorem runsRule_blanks {readNext : Cursor → Except Misreading RuleFields}
    (ends : AtLineEnd tail) (unbroken : Unbroken cursor.rest) (forward : start ≤ cursor.offset)
    (reach : cursor.reach = finish)
    (goesOn : ∀ beyond, Unbroken beyond.rest → start < beyond.offset → beyond.reach = finish →
      RunsRule base tail start finish attempts (readNext beyond)
        (next.run .plain (beyond.inText base tail) attempts)) :
    RunsRule base tail start finish attempts (cursor.crossBlanks start >>= readNext)
      ((sequence blanks next).run .plain (cursor.inText base tail) attempts) := by
  have same := @Cursor.anyBlank_inText base tail cursor unbroken ends
  cases blank : cursor.rest.head?.any isBlank with
  | true =>
      rw [run_sequence_of_some (run_blanks_of_blank (same.trans blank) .plain attempts),
        Cursor.skipBlanks_inText unbroken ends, Cursor.crossBlanks, if_pos blank]
      exact goesOn cursor.skipBlanks (unbroken.dropWhile isBlank)
        (forward.trans_lt (Cursor.offset_lt_skipBlanks blank))
        ((Cursor.reach_skipBlanks cursor).trans reach)
  | false =>
      rw [run_sequence_of_none (run_blanks_of_noBlank (same.trans blank) .plain attempts),
        Cursor.crossBlanks, blank]
      exact .unseparated

/-- The fields of a rule are run as they are read, from where a word begins. -/
theorem runsRule_readRule {start : Cursor} (atWord : AtWord start.rest)
    (unbroken : Unbroken start.rest) (ends : AtLineEnd tail) (base : Nat)
    (attempts : Attempts RuleName) :
    RunsRule base tail start.offset start.reach attempts (readRule start)
      (fields.run .plain (start.inText base tail) attempts) := by
  rcases matches_state base tail start attempts ends unbroken with
    ⟨state, afterState, read, unbroken, forward, reach, matched⟩ | ⟨misread, -⟩
  · rw [fields, run_sequence_of_some matched, readRule, read]
    -- three times blanks and a field in front of blanks
    refine runsRule_blanks ends unbroken forward reach fun beforeRead unbroken further reach => ?_
    refine runsRule_field matches_symbol rfl ends unbroken further reach
      fun readDigits afterRead unbroken further reach => ?_
    refine runsRule_blanks ends unbroken further.le reach
      fun beforeWrite unbroken further reach => ?_
    refine runsRule_field matches_symbol rfl ends unbroken further reach
      fun writeDigits afterWrite unbroken further reach => ?_
    refine runsRule_blanks ends unbroken further.le reach
      fun beforeMove unbroken further reach => ?_
    refine runsRule_field matches_direction rfl ends unbroken further reach
      fun move afterMove unbroken further reach => ?_
    refine runsRule_blanks ends unbroken further.le reach
      fun beforeNext unbroken further reach => ?_
    rcases matches_state base tail beforeNext attempts ends unbroken with
      ⟨nextState, afterNext, read, unbroken, forward, same, matched⟩ | ⟨misread, failed⟩
    · rw [matched, read]
      exact .matched _ (further.trans_le forward) unbroken (same.trans reach)
    · rw [failed, misread]
      exact .missing further rfl
  · have begins : (start.rest.head?.any fun c => !isBlank c) = true := atWord
    rw [Cursor.readState, if_pos begins] at misread
    cases misread

end Rules

/-! ## Lines -/

theorem skipBlanks_atLineEnd (place : Nat) (ends : AtLineEnd tail) :
    Cursor.skipBlanks ⟨place, tail⟩ = ⟨place, tail⟩ := by
  have nothing : Unbroken [] := List.forall_mem_nil _
  exact @Cursor.skipBlanks_inText place tail ⟨0, []⟩ nothing ends

theorem run_line_of_some
    (matched : statement.run .plain cursor.skipBlanks attempts = (some behind, later)) :
    line.run .plain cursor attempts = (some behind.skipBlanks, later) := by
  rw [line, run_sequence_of_some (run_optional_blanks _ _ _),
    run_sequence_of_some (run_optional_of_some matched), run_optional_blanks]

theorem run_line_of_none
    (failed : statement.run .plain cursor.skipBlanks attempts = (none, later)) :
    line.run .plain cursor attempts = (some cursor.skipBlanks, later) := by
  rw [line, run_sequence_of_some (run_optional_blanks _ _ _),
    run_sequence_of_some (run_optional_of_none failed), run_optional_blanks,
    Cursor.skipBlanks_of_bare cursor.bare_skipBlanks]

theorem not_prefix_of_unmarked {word rest : List Char} (unmarked : rest.head? ≠ some '#') :
    ¬ '#' :: word <+: rest := by
  rintro ⟨more, rfl⟩
  exact unmarked rfl

/-- Where no number sign stands, only a rule can match. -/
theorem run_statement_of_unmarked (unmarked : cursor.rest.head? ≠ some '#')
    (ends : AtLineEnd tail) (attempts : Attempts RuleName) :
    statement.run .plain (cursor.inText base tail) attempts =
      instruction.run .plain (cursor.inText base tail)
        ((attempts.add (base + cursor.offset) .assembly).add (base + cursor.offset) .source) := by
  have noAssembly := @word?_of_absent base tail cursor "#asm".toList (by simp [Unbroken]) ends
    (not_prefix_of_unmarked unmarked)
  have noSource := @word?_of_absent base tail cursor "#program".toList (by simp [Unbroken])
    ends (not_prefix_of_unmarked unmarked)
  have noComment := @word?_of_absent base tail cursor ['#'] (by simp [Unbroken]) ends
    (not_prefix_of_unmarked unmarked)
  have commentFails (later : Attempts RuleName) :
      comment.run .plain (cursor.inText base tail) later = (none, later) :=
    run_sequence_of_none (congrArg (·, later) noComment)
  rw [statement, assembly, source, run_choice_of_none (run_directive_of_noWord noAssembly _),
    run_choice_of_none (run_directive_of_noWord noSource _), run_choice_of_none (commentFails _)]
  rfl

/-- Where nothing is left of the line, no alternative matches, and nothing is tried further on. -/
theorem run_statement_of_nil (nothing : cursor.rest = []) (ends : AtLineEnd tail)
    (upto : attempts.Upto (base + cursor.reach)) :
    ∃ later, later.Upto (base + cursor.reach) ∧
      statement.run .plain (cursor.inText base tail) attempts = (none, later) := by
  have unmarked : cursor.rest.head? ≠ some '#' := by simp [nothing]
  have unbroken : Unbroken cursor.rest := nothing ▸ List.forall_mem_nil _
  have within : base + cursor.offset ≤ base + cursor.reach :=
    Nat.add_le_add_left cursor.offset_le_reach base
  rw [run_statement_of_unmarked unmarked ends]
  rcases matches_state base tail cursor _ ends unbroken with ⟨_, _, read, -⟩ | ⟨-, failed⟩
  · simp [Cursor.readState, nothing] at read
  · refine ⟨_, ((upto.add within .assembly).add within .source).add within .state, ?_⟩
    rw [instruction, fields, run_rule_of_none forward_plain (run_sequence_of_none failed)]
    exact congrArg (none, ·) (Attempts.track_add _ _ _ _ _)

/-- A line with a word, and no number sign in front, is run as a rule. -/
theorem runsOver_readRule {start : Cursor} (atWord : AtWord start.rest)
    (unmarked : start.rest.head? ≠ some '#') (unbroken : Unbroken start.rest)
    (ends : AtLineEnd tail) {limit : Nat} (upto : attempts.Upto limit) (further : limit < base)
    (starts : cursor.skipBlanks = start.inText base tail) :
    RunsOver base tail start.reach ((readRule start).map Statement.rule)
      (line.run .plain cursor attempts) := by
  let place := base + start.offset
  let tried : Attempts RuleName := ⟨place, [.assembly, .source], []⟩
  have atRule : statement.run .plain cursor.skipBlanks attempts =
      instruction.run .plain (start.inText base tail) tried := by
    have fresh : attempts.Fresh place := upto.fresh (further.trans_le (Nat.le_add_right _ _))
    rw [starts, run_statement_of_unmarked unmarked ends, fresh.add_eq, Attempts.add_at]
    rfl
  have something : start.rest ≠ [] := by
    intro nothing
    rw [nothing] at atWord
    cases atWord
  obtain ⟨c, rest, begins, other⟩ := Cursor.exists_inText_cons unbroken something base tail
  have runs := runsRule_readRule atWord unbroken ends base tried
  generalize readRule start = reading at runs ⊢
  generalize ran : fields.run .plain (start.inText base tail) tried = outcome at runs
  cases runs with
  | @matched fields behind further' unbroken' reach =>
      have matched := atRule.trans (run_rule_of_some forward_plain ran)
      have forward : start.offset < behind.skipBlanks.offset :=
        further'.trans_le (Nat.le_add_right _ _)
      rw [run_line_of_some matched, Cursor.skipBlanks_inText unbroken' ends, ← reach,
        ← Cursor.reach_skipBlanks]
      by_cases finished : behind.skipBlanks.rest = []
      · rw [finished, Cursor.inText_of_nil finished]
        refine .matched _ ⟨Nat.add_le_add_left ?_ base, rfl⟩
        exact forward.le.trans (Cursor.offset_le_reach _)
      · obtain ⟨c, rest, starts, other⟩ :=
          Cursor.exists_inText_cons (unbroken'.dropWhile isBlank) finished base tail
        rw [if_neg (mt List.isEmpty_iff.mp finished)]
        refine .stuck starts other (Attempts.add_of_lt (Nat.add_lt_add_left forward base)) ?_
        simp
        omega
  | unseparated =>
      have failed := atRule.trans (run_rule_of_fails ran)
      rw [run_line_of_none failed, starts]
      refine .stuck begins other ?_ ?_
      · simp only [tried, place, Cursor.inText, Attempts.add_at]
        rfl
      · simp
        omega
  | @missing place' expected name further' told =>
      have beyond : place < base + place' := Nat.add_lt_add_left further' base
      have failed := atRule.trans (run_rule_of_none forward_plain ran)
      rw [Attempts.add_of_lt beyond, Attempts.track_of_further beyond] at failed
      rw [run_line_of_none failed, starts]
      refine .stuck begins other ?_ ?_
      · rw [told]
        exact Attempts.add_of_further beyond
      · have notFirst : expected ≠ .program := by
          rintro rfl
          cases told
        simp only [notFirst, false_iff]
        omega

/-- A line after the first is run as it is read. -/
theorem runsOver_readStatement {text : List Char} (unbroken : Unbroken text)
    (ends : AtLineEnd tail) {limit : Nat} (upto : attempts.Upto limit) (further : limit < base) :
    RunsOver base tail text.length (readStatement text)
      (line.run .plain (Cursor.inText base tail (.ofLine text)) attempts) := by
  let start := (Cursor.ofLine text).skipBlanks
  have starts : (Cursor.inText base tail (.ofLine text)).skipBlanks = start.inText base tail :=
    Cursor.skipBlanks_inText unbroken ends
  have reach : start.reach = text.length := by
    rw [Cursor.reach_skipBlanks]
    exact Nat.zero_add _
  have unbroken' : Unbroken start.rest := unbroken.dropWhile isBlank
  have uptoEnd : attempts.Upto (base + start.reach) :=
    upto.mono (further.le.trans (Nat.le_add_right _ _))
  rw [← reach]
  by_cases marked : (text.dropWhile isBlank).head? = some '#'
  · obtain ⟨later, upto, matched⟩ := run_statement_of_marked unbroken' ends marked uptoEnd
    obtain ⟨statement, read⟩ : ∃ statement, readStatement text = .ok statement := by
      rw [readStatement_of_marked marked]
      split
      · exact ⟨_, rfl⟩
      · split
        · exact ⟨_, rfl⟩
        · exact ⟨_, rfl⟩
    rw [← starts] at matched
    rw [run_line_of_some matched, skipBlanks_atLineEnd _ ends, read]
    exact .matched statement upto
  by_cases nothing : text.dropWhile isBlank = []
  · obtain ⟨later, upto, failed⟩ := run_statement_of_nil nothing ends uptoEnd
    have blank : words text = [] := words_eq_nil_iff.mpr nothing
    rw [← starts] at failed
    rw [run_line_of_none failed, readStatement_of_blank blank, starts,
      Cursor.inText_of_nil nothing]
    exact .matched Statement.blank upto
  · rw [readStatement_of_unmarked (mt words_eq_nil_iff.mp nothing) marked]
    exact runsOver_readRule (atWord_dropWhile nothing) marked unbroken' ends upto further starts

end Grammar
end Program
end TapeWorkbench
