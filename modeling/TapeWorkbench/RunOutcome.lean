/-!
# Outcomes of runs

A run without a timer goes on until there is a reason to end it.
-/

namespace TapeWorkbench

/-- How an unthrottled run ended. -/
inductive RunOutcome where
  /-- The halt state was reached. -/
  | halted
  /-- The current line of the listing carries a breakpoint. -/
  | breakpoint
  /-- There was no step to take. -/
  | error
  /-- The budget was used up. -/
  | stepLimit
  deriving DecidableEq, Repr

namespace RunOutcome

def name : RunOutcome → String
  | halted => "Halted"
  | breakpoint => "Breakpoint"
  | error => "Error"
  | stepLimit => "StepLimit"

end RunOutcome

end TapeWorkbench
