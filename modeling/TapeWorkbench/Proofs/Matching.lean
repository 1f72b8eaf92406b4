import TapeWorkbench.Program.Grammar
import TapeWorkbench.Proofs.Lines
import TapeWorkbench.Proofs.Scanning

/-!
# Fields as the grammar matches them

The readers of fields look at one line and stop at the first misreading.  The grammar is run on
the whole text, where the line begins at some base and the end of the line, or nothing, comes
behind it.  Each reader is compared with its expression at the same place: where the reader
succeeds, the expression matches just as much and accounts for nothing, and where the reader fails,
the rule of the field is added to the attempts.
-/

namespace TapeWorkbench
namespace Program

open Expression

/-! ## Places in a line and in the text -/

def isLineEnd (c : Char) : Bool :=
  c == '\n' || c == '\r'

/-- Nothing comes, or the end of a line. -/
def AtLineEnd (rest : List Char) : Prop :=
  (rest.head?.all isLineEnd) = true

theorem EndsLine.atLineEnd {lineEnd rest : List Char} (ends : EndsLine lineEnd rest) :
    AtLineEnd (lineEnd ++ rest) := by
  cases ends <;> rfl

/-- The condition does not hold of the characters that end lines. -/
def StopsAtLineEnd (p : Char → Bool) : Prop :=
  ∀ c, isLineEnd c = true → p c = false

theorem Unbroken.isLineEnd_eq {text : List Char} (unbroken : Unbroken text) {c : Char}
    (member : c ∈ text) : isLineEnd c = false := by
  obtain ⟨noReturn, noFeed⟩ := unbroken c member
  simp [isLineEnd, noReturn, noFeed]

theorem Unbroken.dropWhile {text : List Char} (unbroken : Unbroken text) (p : Char → Bool) :
    Unbroken (text.dropWhile p) :=
  fun c member => unbroken c ((List.dropWhile_sublist p).mem member)

theorem Unbroken.of_split {front behind text : List Char} (unbroken : Unbroken text)
    (split : text = front ++ behind) : Unbroken behind :=
  fun c member => unbroken c (split ▸ List.mem_append_right front member)

theorem StopsAtLineEnd.head? {p : Char → Bool} (stops : StopsAtLineEnd p) {tail : List Char}
    (ends : AtLineEnd tail) : (tail.head?.all fun c => !p c) = true := by
  cases tail with
  | nil => rfl
  | cons c tail => simpa using stops c (by simpa [AtLineEnd] using ends)

theorem stopsAtLineEnd_isBlank : StopsAtLineEnd isBlank := by
  intro c ends
  rcases (by simpa [isLineEnd] using ends : c = '\n' ∨ c = '\r') with rfl | rfl
  · rfl
  · rfl

theorem stopsAtLineEnd_isDigit : StopsAtLineEnd Decimal.isDigit := by
  intro c ends
  rcases (by simpa [isLineEnd] using ends : c = '\n' ∨ c = '\r') with rfl | rfl
  · rfl
  · rfl

/-- On a line it makes no difference whether a condition that stops at its end knows so. -/
theorem takeWhile_append_of_atLineEnd {p q : Char → Bool} {text tail : List Char}
    (stops : StopsAtLineEnd p) (agrees : ∀ c, isLineEnd c = false → p c = q c)
    (unbroken : Unbroken text) (ends : AtLineEnd tail) :
    (text ++ tail).takeWhile p = text.takeWhile q ∧
      (text ++ tail).dropWhile p = text.dropWhile q ++ tail := by
  induction text with
  | nil =>
      have behind := stops.head? ends
      exact takeWhile_append_of_stops (List.forall_mem_nil _) behind
  | cons c text ih =>
      have same := agrees c (unbroken.isLineEnd_eq List.mem_cons_self)
      obtain ⟨taken, dropped⟩ :=
        ih fun other member => unbroken other (List.mem_cons_of_mem c member)
      cases holds : q c <;> simp [same, holds, taken, dropped]

namespace Cursor

/-- A place of a line as a place of the text, if the line begins at `base` and `tail` is what
comes behind it. -/
def inText (base : Nat) (tail : List Char) (cursor : Cursor) : Cursor :=
  ⟨base + cursor.offset, cursor.rest ++ tail⟩

variable {base : Nat} {tail : List Char} {cursor : Cursor} {p q : Char → Bool}

theorem takeWhile_inText (stops : StopsAtLineEnd p)
    (agrees : ∀ c, isLineEnd c = false → p c = q c) (unbroken : Unbroken cursor.rest)
    (ends : AtLineEnd tail) :
    ((cursor.inText base tail).takeWhile p).2 = (cursor.takeWhile q).2.inText base tail := by
  obtain ⟨taken, dropped⟩ := takeWhile_append_of_atLineEnd stops agrees unbroken ends
  simp only [takeWhile, inText, taken, dropped, Nat.add_assoc]

theorem any_inText (stops : StopsAtLineEnd p) (agrees : ∀ c, isLineEnd c = false → p c = q c)
    (unbroken : Unbroken cursor.rest) (ends : AtLineEnd tail) :
    (cursor.inText base tail).rest.head?.any p = cursor.rest.head?.any q := by
  obtain ⟨offset, rest⟩ := cursor
  cases rest with
  | nil =>
      have behind := stops.head? ends
      cases tail with
      | nil => rfl
      | cons c tail => simpa [inText] using behind
  | cons c rest => exact agrees c (unbroken.isLineEnd_eq List.mem_cons_self)

theorem skipBlanks_inText (unbroken : Unbroken cursor.rest) (ends : AtLineEnd tail) :
    (cursor.inText base tail).skipBlanks = cursor.skipBlanks.inText base tail :=
  takeWhile_inText stopsAtLineEnd_isBlank (fun _ _ => rfl) unbroken ends

theorem anyBlank_inText (unbroken : Unbroken cursor.rest) (ends : AtLineEnd tail) :
    (cursor.inText base tail).rest.head?.any isBlank = cursor.rest.head?.any isBlank :=
  any_inText stopsAtLineEnd_isBlank (fun _ _ => rfl) unbroken ends

/-- Behind the end of a line nothing but its end can be found. -/
theorem head?_inText_ne {c : Char} (other : isLineEnd c = false) (ends : AtLineEnd tail)
    (differs : cursor.rest.head? ≠ some c) : (cursor.inText base tail).rest.head? ≠ some c := by
  obtain ⟨offset, rest⟩ := cursor
  cases rest with
  | nil =>
      intro found
      have lineEnd : isLineEnd c = true := by
        simpa [AtLineEnd, show tail.head? = some c from found] using ends
      exact Bool.false_ne_true (other.symm.trans lineEnd)
  | cons first rest => exact differs

/-- At the end of the line. -/
theorem inText_of_nil (nothing : cursor.rest = []) :
    cursor.inText base tail = ⟨base + cursor.reach, tail⟩ := by
  simp [inText, reach, nothing]

/-- Go past the end of a line. -/
def newline? (cursor : Cursor) : Option Cursor :=
  match cursor.rest with
  | '\n' :: rest => some ⟨cursor.offset + 1, rest⟩
  | '\r' :: '\n' :: rest => some ⟨cursor.offset + 2, rest⟩
  | '\r' :: rest => some ⟨cursor.offset + 1, rest⟩
  | _ => none

theorem newline?_of_not_isLineEnd {cursor : Cursor} {c : Char} {rest : List Char}
    (starts : cursor.rest = c :: rest) (other : isLineEnd c = false) :
    cursor.newline? = none := by
  have letters : c ≠ '\n' ∧ c ≠ '\r' := by simpa [isLineEnd] using other
  simp [newline?, starts, letters]

theorem isSome_newline? (cursor : Cursor) :
    cursor.newline?.isSome = cursor.rest.head?.any isLineEnd := by
  obtain ⟨offset, rest⟩ := cursor
  cases rest with
  | nil => rfl
  | cons c rest =>
      by_cases feed : c = '\n'
      · simp [newline?, feed, isLineEnd]
      by_cases carriage : c = '\r'
      · subst carriage
        cases rest with
        | nil => rfl
        | cons other rest => by_cases both : other = '\n' <;> simp [newline?, both, isLineEnd]
      · simp [newline?, feed, carriage, isLineEnd]

/-- Each of the line ends is passed as a whole. -/
theorem newline?_of_endsLine {lineEnd rest : List Char} (ends : EndsLine lineEnd rest)
    (offset : Nat) :
    newline? ⟨offset, lineEnd ++ rest⟩ = some ⟨offset + lineEnd.length, rest⟩ := by
  cases ends with
  | lineFeed => rfl
  | both => rfl
  | carriageReturn lone =>
      cases rest with
      | nil => rfl
      | cons c rest =>
          have other : c ≠ '\n' := by simpa using lone
          simp [newline?, other]

end Cursor

/-! ## Parts of lines without rules -/

namespace Grammar

theorem scans_blanks : blanks.Scans (Cursor.oneOrMore? isBlank) :=
  ((Scans.letter ' ').either (.letter '\t')).oneOrMore

theorem scans_newline : newline.Scans Cursor.newline? := by
  rintro mode ⟨offset, rest⟩ attempts
  cases rest with
  | nil => simp [newline, run, Cursor.word?, Cursor.newline?]
  | cons c rest =>
      by_cases feed : c = '\n'
      · simp [newline, run, Cursor.word?, Cursor.newline?, feed]
      by_cases carriage : c = '\r'
      · subst carriage
        cases rest with
        | nil => simp [newline, run, Cursor.word?, Cursor.newline?]
        | cons other rest =>
            by_cases both : other = '\n'
            · simp [newline, run, Cursor.word?, Cursor.newline?, both]
            · simp [newline, run, Cursor.word?, Cursor.newline?, both, Ne.symm both]
      · simp [newline, run, Cursor.word?, Cursor.newline?, feed, carriage, Ne.symm feed,
          Ne.symm carriage]

/-- The rest of a line is everything up to its end. -/
theorem scans_remainder :
    remainder.Scans fun cursor => some (cursor.takeWhile fun c => !isLineEnd c).2 :=
  (scans_newline.butFor Cursor.isSome_newline?).many

theorem run_blanks_of_blank {cursor : Cursor} (blank : cursor.rest.head?.any isBlank = true)
    (mode : Mode) (attempts : Attempts RuleName) :
    blanks.run mode cursor attempts = (some cursor.skipBlanks, attempts) := by
  rw [scans_blanks, Cursor.oneOrMore?, if_pos blank]
  rfl

theorem run_blanks_of_noBlank {cursor : Cursor} (noBlank : cursor.rest.head?.any isBlank = false)
    (mode : Mode) (attempts : Attempts RuleName) :
    blanks.run mode cursor attempts = (none, attempts) := by
  rw [scans_blanks, Cursor.oneOrMore?, noBlank]
  rfl

/-- Skipping blanks always succeeds, with or without blanks. -/
theorem run_optional_blanks (mode : Mode) (cursor : Cursor) (attempts : Attempts RuleName) :
    (optional blanks).run mode cursor attempts = (some cursor.skipBlanks, attempts) := by
  cases blank : cursor.rest.head?.any isBlank with
  | true => exact run_optional_of_some (run_blanks_of_blank blank mode attempts)
  | false =>
      rw [run_optional_of_none (run_blanks_of_noBlank blank mode attempts)]
      obtain ⟨offset, rest⟩ := cursor
      cases rest with
      | nil => rfl
      | cons c rest =>
          have letter : isBlank c = false := by simpa using blank
          simp [Cursor.skipBlanks, Cursor.takeWhile, letter]

end Grammar

/-! ## Fields -/

/-- The expression matches what the reader reads, and where the reader reads nothing, the rule is
accounted for. -/
def Expression.Matches {α : Type} (field : Expression RuleName)
    (read : Cursor → Except Misreading (α × Cursor)) (name : RuleName) (expected : Expectation) :
    Prop :=
  ∀ (base : Nat) (tail : List Char) (cursor : Cursor) (attempts : Attempts RuleName),
    AtLineEnd tail → Unbroken cursor.rest →
      (∃ value behind, read cursor = .ok (value, behind) ∧ Unbroken behind.rest ∧
          cursor.offset ≤ behind.offset ∧ behind.reach = cursor.reach ∧
          field.run .plain (cursor.inText base tail) attempts =
            (some (behind.inText base tail), attempts)) ∨
        read cursor = .error ⟨cursor.offset, expected⟩ ∧
          field.run .plain (cursor.inText base tail) attempts =
            (none, attempts.add (base + cursor.offset) name)

namespace Grammar

theorem forward_plain : Mode.plain.lookahead ≠ .negative :=
  nofun

/-- A rule without rules in it fails with its own attempt only. -/
theorem run_rule_of_fails {name : RuleName} {body : Expression RuleName} {cursor : Cursor}
    {attempts : Attempts RuleName} (failed : body.run .plain cursor attempts = (none, attempts)) :
    (rule name body).run .plain cursor attempts = (none, attempts.add cursor.offset name) := by
  rw [run_rule_of_none forward_plain failed, Attempts.track_self rfl forward_plain]

/-- Digits and the names of states are as many characters as are accepted, at least one. -/
theorem matches_oneOrMore {body : Expression RuleName} {p q : Char → Bool}
    {read : Cursor → Except Misreading (List Char × Cursor)} {expected : Expectation}
    (scans : body.Scans (Cursor.one? p)) (stops : StopsAtLineEnd p)
    (agrees : ∀ c, isLineEnd c = false → p c = q c)
    (reads : ∀ cursor : Cursor, read cursor =
      if cursor.rest.head?.any q then .ok (cursor.takeWhile q)
      else .error ⟨cursor.offset, expected⟩) (name : RuleName) :
    (Expression.rule name (.atomic (oneOrMore body))).Matches read name expected := by
  intro base tail cursor attempts ends unbroken
  have scanned := scans.oneOrMore.atomic .plain (cursor.inText base tail) attempts
  rw [Cursor.oneOrMore?, Cursor.any_inText stops agrees unbroken ends,
    Cursor.takeWhile_inText stops agrees unbroken ends] at scanned
  rw [reads]
  cases starts : cursor.rest.head?.any q with
  | true =>
      rw [if_pos starts] at scanned
      exact .inl ⟨(cursor.takeWhile q).1, (cursor.takeWhile q).2, rfl, unbroken.dropWhile q,
        Nat.le_add_right _ _, Cursor.reach_of_split _ List.takeWhile_append_dropWhile.symm rfl,
        run_rule_of_some forward_plain scanned⟩
  | false =>
      rw [starts] at scanned
      exact .inr ⟨rfl, run_rule_of_fails scanned⟩

theorem matches_symbol : symbol.Matches Cursor.readDigits .symbol .symbol :=
  matches_oneOrMore (.one _) stopsAtLineEnd_isDigit (fun _ _ => rfl) (fun _ => rfl) _

theorem matches_state : state.Matches Cursor.readState .state .state := by
  have stop : (choice space (choice tab newline)).Scans _ :=
    (Scans.letter ' ').choice ((Scans.letter '\t').choice scans_newline)
  have told (cursor : Cursor) :
      ((cursor.one? (· == ' ')).or ((cursor.one? (· == '\t')).or cursor.newline?)).isSome =
        cursor.rest.head?.any fun c => isBlank c || isLineEnd c := by
    rw [Option.isSome_or, Option.isSome_or, Cursor.isSome_newline?]
    obtain ⟨offset, rest⟩ := cursor
    cases rest with
    | nil => rfl
    | cons c rest =>
        by_cases space : c = ' ' <;> by_cases tab : c = '\t' <;>
          simp [Cursor.one?, isBlank, space, tab]
  refine matches_oneOrMore (stop.butFor told) ?_ ?_ (fun _ => rfl) _
  · intro c ends
    simp [ends]
  · intro c other
    simp [other]

theorem isSome_moveOfLetter? (letter : Char) :
    (moveOfLetter? letter).isSome = (letter == 'L' || (letter == 'R' || letter == 'S')) := by
  by_cases left : letter = 'L' <;> by_cases right : letter = 'R' <;>
    by_cases stay : letter = 'S' <;> simp [moveOfLetter?, left, right, stay]

theorem matches_direction : direction.Matches Cursor.readMove .direction .direction := by
  rintro base tail ⟨offset, rest⟩ attempts ends unbroken
  let letters : Expression RuleName := choice (word ['L']) (choice (word ['R']) (word ['S']))
  let accepts : Char → Bool := fun c => c == 'L' || (c == 'R' || c == 'S')
  have scans : letters.Scans (Cursor.one? accepts) :=
    (Scans.letter 'L').either ((Scans.letter 'R').either (.letter 'S'))
  have scanned := scans .plain (Cursor.inText base tail ⟨offset, rest⟩) attempts
  cases rest with
  | nil =>
      have missing : Cursor.one? accepts (Cursor.inText base tail ⟨offset, []⟩) = none := by
        cases tail with
        | nil => rfl
        | cons c tail =>
            rcases (by simpa [AtLineEnd, isLineEnd] using ends : c = '\n' ∨ c = '\r') with rfl | rfl
            · rfl
            · rfl
      rw [missing] at scanned
      exact .inr ⟨rfl, run_rule_of_fails scanned⟩
  | cons letter rest =>
      have known := isSome_moveOfLetter? letter
      cases read : moveOfLetter? letter with
      | none =>
          rw [read] at known
          have missing : accepts letter = false := known.symm
          have failed : Cursor.one? accepts (Cursor.inText base tail ⟨offset, letter :: rest⟩) =
              none := by
            simp [Cursor.one?, Cursor.inText, missing]
          rw [failed] at scanned
          exact .inr ⟨by simp [Cursor.readMove, read], run_rule_of_fails scanned⟩
      | some move =>
          rw [read] at known
          have accepted : accepts letter = true := known.symm
          have matched : Cursor.one? accepts (Cursor.inText base tail ⟨offset, letter :: rest⟩) =
              some (Cursor.inText base tail ⟨offset + 1, rest⟩) := by
            simp [Cursor.one?, Cursor.inText, accepted, Nat.add_assoc]
          rw [matched] at scanned
          refine .inl ⟨move, ⟨offset + 1, rest⟩, by simp [Cursor.readMove, read], ?_,
            Nat.le_succ offset, Cursor.reach_of_split [letter] rfl rfl,
            run_rule_of_some forward_plain scanned⟩
          exact fun c member => unbroken c (List.mem_cons_of_mem letter member)

end Grammar
end Program
end TapeWorkbench
