import TapeWorkbench.Fault
import TapeWorkbench.Instruction
import TapeWorkbench.RunOutcome

/-!
# Notices

A notice is something that the person in front of the machine may want to know
about an operation: what happened, with the values that tell it.  The words for
it are found where it is shown, so that a notice that nobody reads costs little.
-/

namespace TapeWorkbench

/-- How much a notice matters, from the most talkative level upward. -/
inductive NoticeLevel where
  | trace
  | debug
  | info
  | warn
  deriving DecidableEq, Repr

/-- What there is to tell about an operation. -/
inductive Notice where
  /-- A step was taken, by the instruction for a state and symbol, to another state
  and symbol. -/
  | stepTaken (count : Nat) (state : String) (symbol : Symbol)
      (nextState : String) (nextSymbol : Symbol)
  /-- Execution went from one block of the listing to another. -/
  | blockChanged (before after : Nat)
  | breakpointHit (stepCount : Nat)
  /-- No step could be taken. -/
  | stuck (fault : Fault)
  | halted (stepCount : Nat) (output : String)
  | steppedBack (stepCount : Nat)
  | runStarted (speed : Nat)
  | runPaused
  | speedSet (speed : Nat)
  | stepLimitReached (maxSteps : Nat) (state : String)
  /-- A run without a timer has ended. -/
  | runEnded (steps : Nat) (outcome : RunOutcome)
  /-- A line of a program has a rule for a state and symbol that already had one. -/
  | ruleRedefined (lineNumber : Nat) (state : String) (symbol : Symbol)
  | programLoaded (cells instructions lines : Nat)
  | loadFailed (fault : Fault)
  | settingsLoaded (path : String)
  deriving DecidableEq, Repr

namespace Notice

def level : Notice → NoticeLevel
  | stepTaken _ _ _ _ _ => .trace
  | blockChanged _ _ => .debug
  | breakpointHit _ => .debug
  | stuck _ => .warn
  | halted _ _ => .info
  | steppedBack _ => .debug
  | runStarted _ => .debug
  | runPaused => .debug
  | speedSet _ => .debug
  | stepLimitReached _ _ => .warn
  | runEnded _ _ => .debug
  | ruleRedefined _ _ _ => .warn
  | programLoaded _ _ _ => .info
  | loadFailed _ => .warn
  | settingsLoaded _ => .info

def text : Notice → String
  | stepTaken count state symbol nextState nextSymbol =>
    "step " ++ Decimal.numeral count ++ ": " ++ instructionName state symbol ++ " -> " ++
      instructionName nextState nextSymbol
  | blockChanged before after =>
    "assembly block " ++ Decimal.numeral before ++ " -> " ++ Decimal.numeral after
  | breakpointHit stepCount => "breakpoint hit at step " ++ Decimal.numeral stepCount
  | stuck fault => fault.message
  | halted stepCount output =>
    "halted after " ++ Decimal.numeral stepCount ++ " steps with output " ++ output
  | steppedBack stepCount => "stepped back to step " ++ Decimal.numeral stepCount
  | runStarted speed => "run started at speed " ++ Decimal.numeral speed
  | runPaused => "run paused"
  | speedSet speed => "speed set to " ++ Decimal.numeral speed
  | stepLimitReached maxSteps state =>
    "step limit of " ++ Decimal.numeral maxSteps ++ " reached in state " ++ state
  | runEnded steps outcome =>
    "unthrottled run took " ++ Decimal.numeral steps ++ " steps: " ++ outcome.name
  | ruleRedefined lineNumber state symbol =>
    "line " ++ Decimal.numeral lineNumber ++ ": redefinition of state " ++ state ++
      " read " ++ Decimal.numeral symbol
  | programLoaded cells instructions lines =>
    "loaded program: " ++ Decimal.numeral cells ++ " tape cells, " ++
      Decimal.numeral instructions ++ " instructions, " ++
      Decimal.numeral lines ++ " assembly lines"
  | loadFailed fault => "failed to load program: " ++ fault.message
  | settingsLoaded path => "Loaded config from " ++ path

end Notice
end TapeWorkbench
