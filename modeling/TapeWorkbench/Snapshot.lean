import TapeWorkbench.Listing
import TapeWorkbench.RunControl

/-!
# Snapshots

A snapshot holds everything that a machine makes public, as one value.
-/

namespace TapeWorkbench

/-- All that can be seen of a machine from outside. -/
structure Snapshot where
  tape : Tape
  head : Nat
  state : String
  stepCount : Nat
  ready : Bool
  status : RunStatus
  speed : Nat
  error : Option String
  source : String
  currentInstruction : String
  output : String
  sections : List TapeSection
  assembly : List ListingLine
  currentBlock : Nat
  deriving DecidableEq, Repr

end TapeWorkbench
