import TapeWorkbench.Configuration
import TapeWorkbench.Listing

/-!
# Moments

A moment is all that a step of the machine changes by itself: the configuration,
the number of steps, what was executed last, and the progress of the listing.
Undoing a step returns to the moment before it.
-/

namespace TapeWorkbench

/-- What a step changes and an undo gives back. -/
structure Moment where
  configuration : Configuration
  stepCount : Nat
  /-- State and symbol of the instruction that comes next, as of the last step;
  empty before the first. -/
  currentInstruction : String
  listing : Listing
  deriving DecidableEq, Repr

end TapeWorkbench
