import TapeWorkbench.Proofs.Fields
import TapeWorkbench.Program.Expression

/-!
# Running expressions

One lemma for each operator and each way in which its parts can turn out, so that the runs of
a grammar are put together from the runs of its parts.  Expressions without rules are scanned:
where they lead depends on the text only, and nothing is accounted for.  Where a rule fails that
is not made of rules, it is added to the attempts of its place, unless there was a further one.
-/

namespace TapeWorkbench
namespace Program

/-! ## The operators -/

namespace Expression

section Operators

variable {Name : Type} {first second body : Expression Name} {mode : Mode}
  {cursor behind : Cursor} {attempts later : Attempts Name}

theorem run_sequence_of_some
    (matched : first.run mode cursor attempts = (some behind, later)) :
    (sequence first second).run mode cursor attempts = second.run mode behind later := by
  simp only [run, matched]

theorem run_sequence_of_none (failed : first.run mode cursor attempts = (none, later)) :
    (sequence first second).run mode cursor attempts = (none, later) := by
  simp only [run, failed]

theorem run_choice_of_some
    (matched : first.run mode cursor attempts = (some behind, later)) :
    (choice first second).run mode cursor attempts = (some behind, later) := by
  simp only [run, matched]

theorem run_choice_of_none (failed : first.run mode cursor attempts = (none, later)) :
    (choice first second).run mode cursor attempts = second.run mode cursor later := by
  simp only [run, failed]

theorem run_optional_of_some
    (matched : body.run mode cursor attempts = (some behind, later)) :
    (optional body).run mode cursor attempts = (some behind, later) := by
  simp only [run, matched]

theorem run_optional_of_none (failed : body.run mode cursor attempts = (none, later)) :
    (optional body).run mode cursor attempts = (some cursor, later) := by
  simp only [run, failed]

theorem run_many_of_none (failed : body.run mode cursor attempts = (none, later)) :
    (many body).run mode cursor attempts = (some cursor, later) := by
  rw [run, runMany, failed]

theorem run_many_of_some (matched : body.run mode cursor attempts = (some behind, later))
    (shorter : behind.rest.length < cursor.rest.length) :
    (many body).run mode cursor attempts = (many body).run mode behind later := by
  rw [run, runMany, matched, run]
  exact if_pos shorter

/-- A rule that matches is not accounted for, unless it must not be there. -/
theorem run_rule_of_some {name : Name} (forward : mode.lookahead ≠ .negative)
    (matched : body.run mode cursor attempts = (some behind, later)) :
    (rule name body).run mode cursor attempts = (some behind, later) := by
  simp only [run, matched, if_neg forward]

theorem run_rule_of_none {name : Name} (forward : mode.lookahead ≠ .negative)
    (failed : body.run mode cursor attempts = (none, later)) :
    (rule name body).run mode cursor attempts =
      (none, .track name mode cursor.offset attempts later) := by
  simp only [run, failed, if_neg forward]

/-- Where something is matched as often as it can be, that is never too seldom. -/
theorem exists_run_many (body : Expression Name) (mode : Mode) (cursor : Cursor)
    (attempts : Attempts Name) :
    ∃ behind later, (many body).run mode cursor attempts = (some behind, later) := by
  simp only [run]
  fun_induction runMany (body.run mode) cursor attempts with
  | case1 cursor attempts later failed => exact ⟨cursor, later, rfl⟩
  | case2 cursor attempts behind later matched shorter ih => exact ih
  | case3 cursor attempts behind later matched still => exact ⟨behind, later, rfl⟩

theorem suffix_of_runMany {run : Cursor → Attempts Name → Outcome Name}
    (forward : ∀ {cursor attempts behind later}, run cursor attempts = (some behind, later) →
      behind.rest <:+ cursor.rest) (cursor : Cursor) (attempts : Attempts Name) :
    ∀ {behind later}, runMany run cursor attempts = (some behind, later) →
      behind.rest <:+ cursor.rest := by
  intro beyond last ran
  fun_induction runMany run cursor attempts with
  | case1 cursor attempts later failed =>
      cases ran
      exact List.suffix_refl _
  | case2 cursor attempts behind later matched shorter ih =>
      exact (ih ran).trans (forward matched)
  | case3 cursor attempts behind later matched still =>
      cases ran
      exact forward matched

theorem suffix_of_one? {accepts : Char → Bool} (moved : cursor.one? accepts = some behind) :
    behind.rest <:+ cursor.rest := by
  obtain ⟨offset, rest⟩ := cursor
  cases rest with
  | nil => cases moved
  | cons c rest =>
      cases accepted : accepts c with
      | false => simp [Cursor.one?, accepted] at moved
      | true =>
          simp only [Cursor.one?, accepted, if_true, Option.some.injEq] at moved
          exact moved ▸ List.suffix_cons c rest

theorem suffix_of_word? {text : List Char} (moved : cursor.word? text = some behind) :
    behind.rest <:+ cursor.rest := by
  unfold Cursor.word? at moved
  split at moved
  · cases moved
    exact List.drop_suffix _ _
  · cases moved

/-- Runs go forward in the text. -/
theorem suffix_of_run (expression : Expression Name) :
    ∀ {mode cursor attempts behind later},
      expression.run mode cursor attempts = (some behind, later) →
        behind.rest <:+ cursor.rest := by
  induction expression with
  | startOfText =>
      intro mode cursor attempts behind later ran
      obtain ⟨-, ⟨⟩⟩ := Option.ite_none_right_eq_some.mp (congrArg Prod.fst ran)
      exact List.suffix_refl _
  | endOfText =>
      intro mode cursor attempts behind later ran
      obtain ⟨-, ⟨⟩⟩ := Option.ite_none_right_eq_some.mp (congrArg Prod.fst ran)
      exact List.suffix_refl _
  | word text =>
      intro mode cursor attempts behind later ran
      exact suffix_of_word? (congrArg Prod.fst ran)
  | one accepts =>
      intro mode cursor attempts behind later ran
      exact suffix_of_one? (congrArg Prod.fst ran)
  | sequence first second ihFirst ihSecond =>
      intro mode cursor attempts behind later ran
      simp only [run] at ran
      split at ran
      · rename_i between _ matched
        exact (ihSecond ran).trans (ihFirst matched)
      · cases ran
  | choice first second ihFirst ihSecond =>
      intro mode cursor attempts behind later ran
      simp only [run] at ran
      split at ran
      · rename_i matched
        cases ran
        exact ihFirst matched
      · exact ihSecond ran
  | optional body ih =>
      intro mode cursor attempts behind later ran
      simp only [run] at ran
      split at ran
      · rename_i matched
        cases ran
        exact ih matched
      · cases ran
        exact List.suffix_refl _
  | many body ih =>
      intro mode cursor attempts behind later ran
      exact suffix_of_runMany ih cursor attempts ran
  | ahead body ih =>
      intro mode cursor attempts behind later ran
      simp only [run] at ran
      split at ran
      · cases ran
        exact List.suffix_refl _
      · cases ran
  | notAhead body ih =>
      intro mode cursor attempts behind later ran
      simp only [run] at ran
      split at ran
      · cases ran
      · cases ran
        exact List.suffix_refl _
  | atomic body ih =>
      intro mode cursor attempts behind later ran
      exact ih ran
  | rule name body ih =>
      intro mode cursor attempts behind later ran
      simp only [run] at ran
      split at ran
      · rename_i matched
        cases ran
        exact ih matched
      · cases ran

end Operators

/-! ## Expressions without rules -/

/-- Wherever the expression is run, it goes where the text alone leads, and no attempts are
accounted for. -/
def Scans {Name : Type} (expression : Expression Name) (move : Cursor → Option Cursor) : Prop :=
  ∀ mode cursor attempts, expression.run mode cursor attempts = (move cursor, attempts)

end Expression

namespace Cursor

/-- Go past as many characters as are accepted, and fail if there are none. -/
def oneOrMore? (accepts : Char → Bool) (cursor : Cursor) : Option Cursor :=
  if cursor.rest.head?.any accepts then some (cursor.takeWhile accepts).2 else none

end Cursor

namespace Expression.Scans

variable {Name : Type} {first second body : Expression Name} {p q : Char → Bool}
  {move next : Cursor → Option Cursor}

theorem one (accepts : Char → Bool) : (one accepts : Expression Name).Scans (Cursor.one? accepts) :=
  fun mode cursor attempts => run_one mode cursor attempts accepts

/-- A word of one letter is matched like the letter. -/
theorem letter (c : Char) : (word [c] : Expression Name).Scans (Cursor.one? (· == c)) := by
  rintro mode ⟨offset, rest⟩ attempts
  cases rest with
  | nil => rfl
  | cons other rest =>
      have same : (other = c) = (c = other) := propext eq_comm
      simp [Cursor.word?, Cursor.one?, same]

theorem sequence (scansFirst : first.Scans move) (scansSecond : second.Scans next) :
    (sequence first second).Scans fun cursor => (move cursor).bind next := by
  intro mode cursor attempts
  simp only [run, scansFirst mode]
  cases move cursor with
  | none => rfl
  | some behind => exact scansSecond mode behind attempts

theorem choice (scansFirst : first.Scans move) (scansSecond : second.Scans next) :
    (choice first second).Scans fun cursor => (move cursor).or (next cursor) := by
  intro mode cursor attempts
  simp only [run, scansFirst mode]
  cases move cursor with
  | none => exact scansSecond mode cursor attempts
  | some behind => rfl

/-- One of two letters is one letter. -/
theorem either (scansFirst : first.Scans (Cursor.one? p))
    (scansSecond : second.Scans (Cursor.one? q)) :
    (Expression.choice first second).Scans (Cursor.one? fun c => p c || q c) := by
  rintro mode ⟨offset, rest⟩ attempts
  rw [choice scansFirst scansSecond]
  cases rest with
  | nil => rfl
  | cons c rest => cases left : p c <;> simp [Cursor.one?, left]

theorem atomic (scans : body.Scans move) : (atomic body).Scans move := by
  intro mode cursor attempts
  rw [run_atomic]
  exact scans _ cursor attempts

/-- A character in front of which something must not stand, if that can be told by the
character. -/
theorem butFor (scans : body.Scans move)
    (told : ∀ cursor, (move cursor).isSome = cursor.rest.head?.any p) :
    (Expression.sequence (.notAhead body) (.one fun _ => true)).Scans
      (Cursor.one? fun c => !p c) := by
  rintro mode ⟨offset, rest⟩ attempts
  have start := told ⟨offset, rest⟩
  simp only [run, scans { mode with lookahead := mode.lookahead.notAhead }]
  cases moved : move ⟨offset, rest⟩ with
  | none =>
      cases rest with
      | nil => rfl
      | cons c rest =>
          have fails : p c = false := by simpa [moved] using start.symm
          simp [Cursor.one?, fails]
  | some behind =>
      cases rest with
      | nil => rfl
      | cons c rest =>
          have holds : p c = true := by simpa [moved] using start.symm
          simp [Cursor.one?, holds]

/-- Characters are taken as far as they are accepted. -/
theorem many (scans : body.Scans (Cursor.one? p)) :
    (many body).Scans fun cursor => some (cursor.takeWhile p).2 := by
  rintro mode ⟨offset, rest⟩ attempts
  induction rest generalizing offset with
  | nil => exact run_many_of_none (scans mode _ attempts)
  | cons c rest ih =>
      have step := scans mode ⟨offset, c :: rest⟩ attempts
      cases accepted : p c with
      | false =>
          simp only [Cursor.one?, accepted] at step
          rw [run_many_of_none step]
          simp [Cursor.takeWhile, accepted]
      | true =>
          simp only [Cursor.one?, accepted, if_true] at step
          rw [run_many_of_some step (Nat.lt_succ_self _), ih]
          simp [Cursor.takeWhile, accepted, Nat.add_assoc, Nat.add_comm 1]

theorem oneOrMore (scans : body.Scans (Cursor.one? p)) :
    (oneOrMore body).Scans (Cursor.oneOrMore? p) := by
  rintro mode ⟨offset, rest⟩ attempts
  rw [Expression.oneOrMore, scans.sequence scans.many]
  cases rest with
  | nil => rfl
  | cons c rest =>
      cases accepted : p c <;>
        simp [Cursor.one?, Cursor.oneOrMore?, Cursor.takeWhile, accepted, Nat.add_assoc,
          Nat.add_comm 1]

end Expression.Scans

/-! ## Attempts -/

namespace Attempts

variable {Name : Type}

/-- Account for a failed rule that is not made of rules. -/
def add (attempts : Attempts Name) (place : Nat) (name : Name) : Attempts Name :=
  if place < attempts.place then
    attempts
  else
    ⟨place, attempts.expectedAt place ++ [name], attempts.unexpectedAt place⟩

/-- Nothing has failed behind the limit, and nothing was found where it must not be. -/
structure Upto (limit : Nat) (attempts : Attempts Name) : Prop where
  place_le : attempts.place ≤ limit
  unexpected_eq : attempts.unexpected = []

variable {attempts before after : Attempts Name} {place limit : Nat} {name : Name}
  {mode : Mode}

theorem add_of_further (further : place < attempts.place) :
    attempts.add place name = attempts :=
  if_pos further

theorem add_at (place : Nat) (expected unexpected : List Name) (name : Name) :
    add ⟨place, expected, unexpected⟩ place name = ⟨place, expected ++ [name], unexpected⟩ := by
  simp [add, expectedAt, unexpectedAt]

theorem add_of_lt (further : attempts.place < place) :
    attempts.add place name = ⟨place, [name], []⟩ := by
  have other : attempts.place ≠ place := further.ne
  have noFurther : ¬ place < attempts.place := further.asymm
  simp [add, expectedAt, unexpectedAt, other, noFurther]

theorem place_add (attempts : Attempts Name) (place : Nat) (name : Name) :
    (attempts.add place name).place = max attempts.place place := by
  unfold add
  split
  · rename_i further
    exact (max_eq_left further.le).symm
  · rename_i behind
    exact (max_eq_right (not_lt.mp behind)).symm

theorem Upto.add (upto : attempts.Upto limit) (within : place ≤ limit) (name : Name) :
    (attempts.add place name).Upto limit where
  place_le := by
    rw [place_add]
    exact max_le upto.place_le within
  unexpected_eq := by
    unfold Attempts.add
    split
    · exact upto.unexpected_eq
    · simp [unexpectedAt, upto.unexpected_eq]

theorem Upto.mono (upto : attempts.Upto place) (within : place ≤ limit) :
    attempts.Upto limit where
  place_le := upto.place_le.trans within
  unexpected_eq := upto.unexpected_eq

/-- Attempts of a rule's body further on count instead of the rule. -/
theorem track_of_further (further : place < after.place) :
    track name mode place before after = after := by
  simp [track, further]

/-- A rule stands for what its body has tried where it begins, unless that is one rule. -/
theorem track_of_several (plain : mode.atomic = false) (forward : mode.lookahead ≠ .negative)
    (name : Name) (place : Nat) (before : Attempts Name) {tried : List Name}
    (several : tried.length ≠ 1) :
    track name mode place before
        ⟨place, before.expectedAt place ++ tried, before.unexpectedAt place⟩ =
      ⟨place, before.expectedAt place ++ [name], before.unexpectedAt place⟩ := by
  have here (expected unexpected : List Name) :
      expectedAt ⟨place, expected, unexpected⟩ place = expected ∧
        unexpectedAt ⟨place, expected, unexpected⟩ place = unexpected :=
    ⟨if_pos rfl, if_pos rfl⟩
  have others : ¬ (before.expectedAt place ++ tried).length + (before.unexpectedAt place).length =
      (before.expectedAt place).length + (before.unexpectedAt place).length + 1 := by
    rw [List.length_append]
    omega
  simp only [track, plain, countAt, here, others, forward, lt_irrefl, if_false, Bool.false_eq_true]
  simp

/-- A rule whose body has tried nothing is added. -/
theorem track_self (plain : mode.atomic = false) (forward : mode.lookahead ≠ .negative)
    (name : Name) (place : Nat) (attempts : Attempts Name) :
    track name mode place attempts attempts = attempts.add place name := by
  simp [track, add, plain, forward]

/-- The only attempt of a rule's body stands for the rule. -/
theorem track_add (mode : Mode) (name other : Name) (place : Nat) (attempts : Attempts Name) :
    track name mode place attempts (attempts.add place other) = attempts.add place other := by
  by_cases further : place < attempts.place
  · rw [add_of_further further, track_of_further further]
  · have one : (attempts.add place other).countAt place = attempts.countAt place + 1 := by
      simp [add, further, countAt, expectedAt, unexpectedAt]
      omega
    simp [track, one]

/-- A rule stands for two attempts of its body. -/
theorem track_add_add (plain : mode.atomic = false) (forward : mode.lookahead ≠ .negative)
    (name first second : Name) (place : Nat) (attempts : Attempts Name) :
    track name mode place attempts ((attempts.add place first).add place second) =
      attempts.add place name := by
  by_cases further : place < attempts.place
  · simp only [add_of_further further, track_of_further further]
  · have several : [first, second].length ≠ 1 := by simp
    have stands := track_of_several plain forward name place attempts several
    simpa [add, further, expectedAt, unexpectedAt] using stands

end Attempts
end Program
end TapeWorkbench
