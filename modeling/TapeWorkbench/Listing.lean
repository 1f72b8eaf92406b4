import TapeWorkbench.Logged
import TapeWorkbench.TapeSection

/-!
# The assembly listing

A program that was compiled from assembly lists the assembly lines it came
from.  Each line is the head of a block of instructions.  The listing knows
which block is being executed, and when a block is completed it keeps a copy of
the tape's sections as they were at that moment.
-/

namespace TapeWorkbench

/-- How far the execution of a block has come. -/
inductive BlockStatus where
  | pending
  | current
  | completed
  deriving DecidableEq, Repr

/-- One line of the listing. -/
structure ListingLine where
  text : String
  status : BlockStatus
  /-- Execution stops while the line is current and carries the flag. -/
  breakpoint : Bool
  /-- The sections as they were when the block was completed; none before. -/
  sections : List TapeSection
  deriving DecidableEq, Repr

/-- The lines with the ordinal of the block of the instruction executed last.
Ordinals count from one; zero stands for no block. -/
structure Listing where
  lines : List ListingLine
  current : Nat
  deriving DecidableEq, Repr

namespace ListingLine

/-- A line that is current becomes completed and keeps the sections. -/
def complete (sections : List TapeSection) (line : ListingLine) : ListingLine :=
  if line.status = .current then { line with status := .completed, sections } else line

end ListingLine

namespace Listing

def empty : Listing := ⟨[], 0⟩

/-- A listing none of whose blocks has been executed. -/
def ofLines (lines : List ListingLine) : Listing := ⟨lines, 0⟩

/-- The line of a block, by its ordinal. -/
def line? (listing : Listing) : (ordinal : Nat) → Option ListingLine
  | 0 => none
  | index + 1 => listing.lines[index]?

/-- The first line that is current. -/
def currentLine? (listing : Listing) : Option ListingLine :=
  listing.lines.find? fun line => line.status = .current

/-- Does the current line carry a breakpoint? -/
def atBreakpoint (listing : Listing) : Bool :=
  listing.currentLine?.any fun line => line.breakpoint

/-- Flip the breakpoint of the line at an index, counted from zero.  The new flag
is returned with the listing; there is nothing to flip past the last line. -/
def toggleBreakpoint? (listing : Listing) (index : Nat) : Option (Bool × Listing) :=
  listing.lines[index]?.map fun line =>
    let flipped := { line with breakpoint := !line.breakpoint }
    (flipped.breakpoint, { listing with lines := listing.lines.set index flipped })

/-- Make the line of a block current, if there is such a line. -/
def markCurrent (lines : List ListingLine) : (ordinal : Nat) → List ListingLine
  | 0 => lines
  | index + 1 => lines.modify index fun line => { line with status := .current }

/-- Go to the block with the given ordinal.  Unless its line is current already,
all current lines are completed with a copy of the sections, and the line of the
block becomes current.  Ordinal zero completes the open block and opens none. -/
def advance (listing : Listing) (target : Nat) (sections : List TapeSection) : Logged Listing :=
  if (listing.line? target).any fun line => line.status = .current then
    .quiet { listing with current := target }
  else
    let completed := listing.lines.map (ListingLine.complete sections)
    .saying { lines := markCurrent completed target, current := target }
      (.blockChanged listing.current target)

end Listing
end TapeWorkbench
