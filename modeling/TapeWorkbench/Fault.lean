import TapeWorkbench.Program.CaretReport
import TapeWorkbench.Settings
import TapeWorkbench.Tape

/-!
# Faults

Everything that can go wrong between a program text and its last step, with the
message that a person is shown.
-/

namespace TapeWorkbench

/-- Why an operation failed. -/
inductive Fault where
  /-- The text does not have the shape of a program. -/
  | illFormedText (report : CaretReport)
  /-- A line has the right shape but cannot be loaded. -/
  | malformedLine (line : Nat) (detail : String)
  | missingTransition (state : String) (symbol : Symbol)
  | headOutOfBounds (head : Int) (length : Nat)
  | noListingLine (index : Nat)
  | invalidSpeed (speed : Nat)
  | nothingLoaded
  | fileUnreadable (detail : String)
  | invalidSettings (defect : SettingsDefect)
  deriving DecidableEq, Repr

namespace Fault

def message : Fault → String
  | illFormedText report => "Program parsing error: " ++ report.render
  | malformedLine line detail =>
    "Malformed program line " ++ Decimal.numeral line ++ ": " ++ detail
  | missingTransition state symbol =>
    "No instruction for state " ++ state ++ " and read " ++ Decimal.numeral symbol
  | headOutOfBounds head length =>
    "Head out of bounds: position " ++ Decimal.signedNumeral head ++
      " on a tape of length " ++ Decimal.numeral length
  | noListingLine index => "No assembly line at index " ++ Decimal.numeral index
  | invalidSpeed speed => "Invalid speed: " ++ Decimal.numeral speed
  | nothingLoaded => "No program loaded"
  | fileUnreadable detail => "File error: " ++ detail
  | invalidSettings defect => "Configuration error: " ++ defect.message

end Fault
end TapeWorkbench
