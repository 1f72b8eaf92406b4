import TapeWorkbench.Program.Statement

/-!
# Expressions of a grammar, and how far they were tried

An expression is run at a place of a text.  It is matched there, and the run goes on
behind the match, or it fails.  Choices are ordered: an alternative is tried only if those
before it have failed, and what has matched is not tried again in another way.

Runs keep account of the rules that failed at the furthest place where any rule has failed
so far, over all alternatives and whether or not the run went on without them.  This is
what can be reported if the whole text fails to match.  Of a rule and the rules that it is
made of, only one is reported at a place: if exactly one part was tried in vain where the
rule begins, this part stands for the rule, and otherwise the rule stands for its parts.
-/

namespace TapeWorkbench
namespace Program

/-- An expression whose rules have names.  The body of a rule stands where it is called. -/
inductive Expression (Name : Type) where
  | startOfText
  | endOfText
  | word (text : List Char)
  | one (accepts : Char → Bool)
  | sequence (first second : Expression Name)
  | choice (first second : Expression Name)
  | optional (body : Expression Name)
  /-- As often as the body is matched, or not at all. -/
  | many (body : Expression Name)
  /-- The body has to follow, but is left to be read. -/
  | ahead (body : Expression Name)
  /-- The body must not follow. -/
  | notAhead (body : Expression Name)
  /-- No rules are told apart within the body. -/
  | atomic (body : Expression Name)
  | rule (name : Name) (body : Expression Name)

/-- Whether an expression is run only to look ahead, and for what. -/
inductive Lookahead where
  | none
  | positive
  | negative
  deriving DecidableEq, Repr

namespace Lookahead

def ahead : Lookahead → Lookahead
  | none | positive => positive
  | negative => negative

def notAhead : Lookahead → Lookahead
  | none | positive => negative
  | negative => positive

end Lookahead

/-- The surroundings that an expression is run in. -/
structure Mode where
  lookahead : Lookahead
  atomic : Bool
  deriving DecidableEq, Repr

namespace Mode

/-- Neither in a lookahead nor in an atomic expression. -/
def plain : Mode := ⟨.none, false⟩

end Mode

/-- The furthest place at which rules have failed, with the rules that were expected there,
and those that were found where they must not be, in the order in which they were tried. -/
structure Attempts (Name : Type) where
  place : Nat
  expected : List Name
  unexpected : List Name
  deriving DecidableEq, Repr

namespace Attempts

variable {Name : Type}

/-- Before anything has been tried. -/
def none : Attempts Name := ⟨0, [], []⟩

def expectedAt (attempts : Attempts Name) (place : Nat) : List Name :=
  if attempts.place = place then attempts.expected else []

def unexpectedAt (attempts : Attempts Name) (place : Nat) : List Name :=
  if attempts.place = place then attempts.unexpected else []

def countAt (attempts : Attempts Name) (place : Nat) : Nat :=
  (attempts.expectedAt place).length + (attempts.unexpectedAt place).length

/-- Take account of a rule that was tried at a place.  The attempts are those `before` the
rule and those `after` its body.  A single attempt of the body at the place is kept instead of
the rule, several give way to it, and none counts if there was a further one. -/
def track (name : Name) (mode : Mode) (place : Nat) (before after : Attempts Name) :
    Attempts Name :=
  if mode.atomic then
    after
  else if after.countAt place = before.countAt place + 1 then
    after
  else if place < after.place then
    after
  else
    let expected := (after.expectedAt place).take (before.expectedAt place).length
    let unexpected := (after.unexpectedAt place).take (before.unexpectedAt place).length
    if mode.lookahead = .negative then
      ⟨place, expected, unexpected ++ [name]⟩
    else
      ⟨place, expected ++ [name], unexpected⟩

end Attempts

namespace Cursor

/-- Go past one character, if it is accepted. -/
def one? (accepts : Char → Bool) (cursor : Cursor) : Option Cursor :=
  match cursor.rest with
  | [] => none
  | c :: rest => if accepts c then some ⟨cursor.offset + 1, rest⟩ else none

/-- Go past a word, if it stands here. -/
def word? (text : List Char) (cursor : Cursor) : Option Cursor :=
  if text.isPrefixOf cursor.rest then
    some ⟨cursor.offset + text.length, cursor.rest.drop text.length⟩
  else
    none

end Cursor

namespace Expression

variable {Name : Type}

/-- How a run ends: behind the match if there is one, and with what has been tried. -/
abbrev Outcome (Name : Type) := Option Cursor × Attempts Name

/-- Run a body again and again, until it fails or does not get any further. -/
def runMany (body : Cursor → Attempts Name → Outcome Name) (cursor : Cursor)
    (attempts : Attempts Name) : Outcome Name :=
  match body cursor attempts with
  | (none, later) => (some cursor, later)
  | (some behind, later) =>
    if behind.rest.length < cursor.rest.length then
      runMany body behind later
    else
      (some behind, later)
termination_by cursor.rest.length

def run : Expression Name → Mode → Cursor → Attempts Name → Outcome Name
  | .startOfText, _, cursor, attempts =>
    (if cursor.offset = 0 then some cursor else none, attempts)
  | .endOfText, _, cursor, attempts =>
    (if cursor.rest.isEmpty then some cursor else none, attempts)
  | .word text, _, cursor, attempts => (cursor.word? text, attempts)
  | .one accepts, _, cursor, attempts => (cursor.one? accepts, attempts)
  | .sequence first second, mode, cursor, attempts =>
    match first.run mode cursor attempts with
    | (some behind, later) => second.run mode behind later
    | (none, later) => (none, later)
  | .choice first second, mode, cursor, attempts =>
    match first.run mode cursor attempts with
    | (some behind, later) => (some behind, later)
    | (none, later) => second.run mode cursor later
  | .optional body, mode, cursor, attempts =>
    match body.run mode cursor attempts with
    | (some behind, later) => (some behind, later)
    | (none, later) => (some cursor, later)
  | .many body, mode, cursor, attempts => runMany (body.run mode) cursor attempts
  | .ahead body, mode, cursor, attempts =>
    match body.run { mode with lookahead := mode.lookahead.ahead } cursor attempts with
    | (some _, later) => (some cursor, later)
    | (none, later) => (none, later)
  | .notAhead body, mode, cursor, attempts =>
    match body.run { mode with lookahead := mode.lookahead.notAhead } cursor attempts with
    | (some _, later) => (none, later)
    | (none, later) => (some cursor, later)
  | .atomic body, mode, cursor, attempts => body.run { mode with atomic := true } cursor attempts
  | .rule name body, mode, cursor, attempts =>
    match body.run mode cursor attempts with
    | (some behind, later) =>
      (some behind,
        if mode.lookahead = .negative then .track name mode cursor.offset attempts later else later)
    | (none, later) =>
      (none,
        if mode.lookahead = .negative then later else .track name mode cursor.offset attempts later)

/-- Once or more often. -/
def oneOrMore (body : Expression Name) : Expression Name :=
  .sequence body (.many body)

section Run

variable (mode : Mode) (cursor : Cursor) (attempts : Attempts Name)

@[simp]
theorem run_word (text : List Char) :
    (word text).run mode cursor attempts = (cursor.word? text, attempts) := by
  rw [run]

@[simp]
theorem run_one (accepts : Char → Bool) :
    (one accepts).run mode cursor attempts = (cursor.one? accepts, attempts) := by
  rw [run]

@[simp]
theorem run_atomic (body : Expression Name) :
    (atomic body).run mode cursor attempts =
      body.run { mode with atomic := true } cursor attempts := by
  rw [run]

end Run

end Expression
end Program
end TapeWorkbench
