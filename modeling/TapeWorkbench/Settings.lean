import TapeWorkbench.Decimal

/-!
# Settings

The numbers and names by which a machine is tuned.  Every setting has a default.
Settings read from a file are checked; the first rule that is broken is reported.
-/

namespace TapeWorkbench

/-- The tuning of a machine. -/
structure Settings where
  /-- Ticks per second after a program is loaded or cleared. -/
  defaultSpeed : Nat
  /-- The highest speed.  At this speed a tick takes a burst of steps. -/
  maxSpeed : Nat
  /-- Steps in a burst. -/
  burstSteps : Nat
  startState : String
  /-- The state that ends a run. -/
  haltState : String
  /-- How many steps can be undone at most, if there is a limit. -/
  historyLimit : Option Nat
  /-- The budget of an unthrottled run. -/
  maxSteps : Nat
  deriving DecidableEq, Repr

/-- What can be wrong with settings. -/
inductive SettingsDefect where
  /-- The text cannot be read, or a value has the wrong type or range. -/
  | unreadable (detail : String)
  | maxSpeedZero
  | defaultSpeedOutside (maxSpeed : Nat)
  | maxStepsZero
  | burstStepsZero
  deriving DecidableEq, Repr

namespace SettingsDefect

def message : SettingsDefect → String
  | unreadable detail => detail
  | maxSpeedZero => "max_speed must be positive"
  | defaultSpeedOutside maxSpeed =>
    "default_speed must be between 1 and " ++ Decimal.numeral maxSpeed
  | maxStepsZero => "max_steps must be positive"
  | burstStepsZero => "burst_steps must be positive"

end SettingsDefect

namespace Settings

/-- The settings of a machine that nobody has tuned. -/
def default : Settings :=
  { defaultSpeed := 10
    maxSpeed := 1000
    burstSteps := 100
    startState := "START"
    haltState := "END"
    historyLimit := none
    maxSteps := 10000000 }

/-- The first rule that the settings break, if they break one. -/
def defect? (settings : Settings) : Option SettingsDefect :=
  if settings.maxSpeed = 0 then
    some .maxSpeedZero
  else if settings.defaultSpeed = 0 || settings.maxSpeed < settings.defaultSpeed then
    some (.defaultSpeedOutside settings.maxSpeed)
  else if settings.maxSteps = 0 then
    some .maxStepsZero
  else if settings.burstSteps = 0 then
    some .burstStepsZero
  else
    none

end Settings
end TapeWorkbench
