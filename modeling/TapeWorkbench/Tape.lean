/-!
# The tape and the head's moves

A tape is a finite array of symbols.  A few small symbols have a fixed role on
tapes that hold registers: the two binary digits, the marks that open a
register or a storage cell, and the separator.
-/

namespace TapeWorkbench

/-- What one cell of the tape holds. -/
abbrev Symbol := Nat

/-- The cells, from left to right. -/
abbrev Tape := Array Symbol

namespace Symbol

/-- Symbols are 32-bit numbers: this is the first number that is none. -/
def bound : Nat := 4294967296

def zero : Symbol := 0

def one : Symbol := 1

/-- Opens register `A`. -/
def markA : Symbol := 2

/-- Opens register `B`. -/
def markB : Symbol := 3

/-- Opens register `C`. -/
def markC : Symbol := 4

/-- Stands between sections and belongs to none. -/
def separator : Symbol := 5

/-- Opens a storage cell. -/
def storageMark : Symbol := 6

end Symbol

/-- Where the head goes after writing. -/
inductive Move where
  | left
  | right
  | stay
  deriving DecidableEq, Repr

namespace Move

/-- The signed displacement of a move. -/
def offset : Move → Int
  | left => -1
  | right => 1
  | stay => 0

/-- The head's place after the move on a tape of the given length, if it stays
on the tape. -/
def apply (move : Move) (head length : Nat) : Option Nat :=
  let target : Option Nat :=
    match move with
    | left => if head = 0 then none else some (head - 1)
    | right => some (head + 1)
    | stay => some head
  target.filter (· < length)

end Move
end TapeWorkbench
