import TapeWorkbench.Decimal
import TapeWorkbench.Tape

/-!
# Reading single lines

The first line of a program holds the cells of the tape, every other line one
statement: nothing, a comment, a directive with its text, or a rule of five
fields.  Fields are separated by blanks, which are spaces and tabs.  A line that
fits none of these is misread at some place of it, where something else was
expected: the furthest place to which the grammar of whole texts gets in any way,
and what it tries there (`Grammar.failure?_eq`).

Symbols are left as the digits that were written: whether they are too large is
not a matter of shape.
-/

namespace TapeWorkbench
namespace Program

/-- What would have been accepted at the place where a line was misread. -/
inductive Expectation where
  | program
  | symbol
  | direction
  | state
  | endOfText
  | endOfTextOrCell
  | statement
  deriving DecidableEq, Repr

namespace Expectation

def text : Expectation → String
  | program => "program"
  | symbol => "symbol"
  | direction => "direction"
  | state => "state"
  | endOfText => "EOI"
  | endOfTextOrCell => "EOI or cell"
  | statement => "EOI, asm, source, or instruction"

end Expectation

/-- Where a line was misread, counted in characters from its start. -/
structure Misreading where
  offset : Nat
  expected : Expectation
  deriving DecidableEq, Repr

/-- A cell as it was written: the digits of its symbol, and whether the head
marker stands before them. -/
structure Cell where
  marked : Bool
  digits : List Char
  deriving DecidableEq, Repr

/-- The five fields of a rule as they were written. -/
structure RuleFields where
  state : List Char
  read : List Char
  write : List Char
  move : Move
  nextState : List Char
  deriving DecidableEq, Repr

/-- What a line after the first one says. -/
inductive Statement where
  | blank
  | comment
  /-- An assembly line, with all that follows the directive's name. -/
  | assembly (text : List Char)
  /-- A line of the high-level source, with all that follows the directive's name. -/
  | source (text : List Char)
  | rule (fields : RuleFields)
  deriving DecidableEq, Repr

/-- Spaces and tabs separate fields. -/
def isBlank (c : Char) : Bool :=
  c == ' ' || c == '\t'

/-- The letters of the three moves. -/
def moveOfLetter? (c : Char) : Option Move :=
  if c = 'L' then some .left
  else if c = 'R' then some .right
  else if c = 'S' then some .stay
  else none

/-- A place in a line with the characters from there on. -/
structure Cursor where
  offset : Nat
  rest : List Char
  deriving DecidableEq, Repr

namespace Cursor

def ofLine (line : List Char) : Cursor := ⟨0, line⟩

/-- Read as far as a condition holds, and go there. -/
def takeWhile (cursor : Cursor) (p : Char → Bool) : List Char × Cursor :=
  (cursor.rest.takeWhile p,
    { offset := cursor.offset + (cursor.rest.takeWhile p).length
      rest := cursor.rest.dropWhile p })

/-- Go past the blanks, if there are any. -/
def skipBlanks (cursor : Cursor) : Cursor :=
  (cursor.takeWhile isBlank).2

/-- Step over the head marker, if there is one. -/
def skipMarker (cursor : Cursor) : Bool × Cursor :=
  match cursor.rest with
  | '!' :: rest => (true, ⟨cursor.offset + 1, rest⟩)
  | _ => (false, cursor)

/-- What is missing where no digit of a cell's symbol comes. -/
def missingCell (marked : Bool) (offset : Nat) : Expectation :=
  if marked then .symbol else if offset = 0 then .program else .endOfTextOrCell

def readCell (cursor : Cursor) : Except Misreading (Cell × Cursor) :=
  let marked := cursor.skipMarker.1
  let start := cursor.skipMarker.2
  if start.rest.head?.any Decimal.isDigit then
    .ok (⟨marked, (start.takeWhile Decimal.isDigit).1⟩, (start.takeWhile Decimal.isDigit).2)
  else
    .error ⟨start.offset, missingCell marked start.offset⟩

theorem length_dropWhile_lt {p : Char → Bool} {text : List Char}
    (starts : text.head?.any p = true) : (text.dropWhile p).length < text.length := by
  cases text with
  | nil => simp at starts
  | cons c text =>
    simp only [List.head?_cons, Option.any_some] at starts
    rw [List.dropWhile_cons, if_pos starts]
    exact Nat.lt_succ_of_le (List.dropWhile_sublist p).length_le

theorem length_skipMarker_le (cursor : Cursor) :
    cursor.skipMarker.2.rest.length ≤ cursor.rest.length := by
  unfold skipMarker
  split
  · rename_i rest equal
    rw [equal]
    exact Nat.le_succ rest.length
  · exact Nat.le_refl _

theorem length_of_readCell {cursor behind : Cursor} {cell : Cell}
    (read : cursor.readCell = .ok (cell, behind)) :
    behind.rest.length < cursor.rest.length := by
  simp only [readCell] at read
  split at read
  · rename_i starts
    simp only [takeWhile, Except.ok.injEq, Prod.mk.injEq] at read
    rw [← read.2]
    exact Nat.lt_of_lt_of_le (length_dropWhile_lt starts) (length_skipMarker_le cursor)
  · simp at read

/-- Cross the blanks between two fields.  Where there are none, the line is no
statement at all, which is reported at `start`. -/
def crossBlanks (cursor : Cursor) (start : Nat) : Except Misreading Cursor :=
  if cursor.rest.head?.any isBlank then
    .ok cursor.skipBlanks
  else
    .error ⟨start, .statement⟩

def readDigits (cursor : Cursor) : Except Misreading (List Char × Cursor) :=
  if cursor.rest.head?.any Decimal.isDigit then
    .ok (cursor.takeWhile Decimal.isDigit)
  else
    .error ⟨cursor.offset, .symbol⟩

def readMove (cursor : Cursor) : Except Misreading (Move × Cursor) :=
  match cursor.rest with
  | [] => .error ⟨cursor.offset, .direction⟩
  | letter :: rest =>
    match moveOfLetter? letter with
    | some move => .ok (move, ⟨cursor.offset + 1, rest⟩)
    | none => .error ⟨cursor.offset, .direction⟩

/-- Read the name of a state, which is anything up to the next blank. -/
def readState (cursor : Cursor) : Except Misreading (List Char × Cursor) :=
  if cursor.rest.head?.any fun c => !isBlank c then
    .ok (cursor.takeWhile fun c => !isBlank c)
  else
    .error ⟨cursor.offset, .state⟩

end Cursor

/-- Reads cells from a place where a cell or the end of the line may come.  The
cells before it are given newest first. -/
def readCells (cursor : Cursor) (done : List Cell) : Except Misreading (List Cell) :=
  if cursor.rest.isEmpty then
    .ok done.reverse
  else
    match _read : cursor.readCell with
    | .error misreading => .error misreading
    | .ok (cell, behind) =>
      if behind.rest.head?.all isBlank then
        readCells behind.skipBlanks (cell :: done)
      else
        .error ⟨behind.offset, .endOfText⟩
termination_by cursor.rest.length
decreasing_by
  exact Nat.lt_of_le_of_lt (List.dropWhile_sublist isBlank).length_le
    (Cursor.length_of_readCell _read)

def readTapeLine (line : List Char) : Except Misreading (List Cell) :=
  readCells (Cursor.ofLine line).skipBlanks []

/-- What follows a directive's name, if the line begins with the name as a whole
word. -/
def afterWord? (word line : List Char) : Option (List Char) :=
  if word.isPrefixOf line && (line.drop word.length).head?.all isBlank then
    some (line.drop word.length)
  else
    none

/-- Reads a rule that begins at the given place. -/
def readRule (start : Cursor) : Except Misreading RuleFields := do
  let (state, afterState) ← start.readState
  let beforeRead ← afterState.crossBlanks start.offset
  let (read, afterRead) ← beforeRead.readDigits
  let beforeWrite ← afterRead.crossBlanks start.offset
  let (write, afterWrite) ← beforeWrite.readDigits
  let beforeMove ← afterWrite.crossBlanks start.offset
  let (move, afterMove) ← beforeMove.readMove
  let beforeNext ← afterMove.crossBlanks start.offset
  let (nextState, afterNext) ← beforeNext.readState
  let finish := afterNext.skipBlanks
  if finish.rest.isEmpty then
    .ok { state, read, write, move, nextState }
  else
    .error ⟨finish.offset, .endOfText⟩

/-- Reads a line after the first one. -/
def readStatement (line : List Char) : Except Misreading Statement :=
  let start := (Cursor.ofLine line).skipBlanks
  match start.rest with
  | [] => .ok .blank
  | '#' :: _ =>
    match afterWord? "#asm".toList start.rest with
    | some text => .ok (.assembly text)
    | none =>
      match afterWord? "#program".toList start.rest with
      | some text => .ok (.source text)
      | none => .ok .comment
  | _ => (readRule start).map .rule

end Program
end TapeWorkbench
