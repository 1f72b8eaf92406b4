import TapeWorkbench.Logged

/-!
# Run control

A timed run is driven from outside: whoever starts it receives a handle and
presents it once in every period.  Each cancellation begins a new generation,
so a handle from before it is recognized as dead and stays dead.
-/

namespace TapeWorkbench

/-- Is a timed run going on? -/
inductive RunStatus where
  | running
  | paused
  deriving DecidableEq, Repr

/-- The right to drive one timed run. -/
structure RunHandle where
  generation : Nat
  /-- The time between two ticks, in nanoseconds. -/
  period : Nat
  deriving DecidableEq, Repr

/-- The state of the run, its speed, and the generation of its handle. -/
structure RunControl where
  status : RunStatus
  speed : Nat
  maxSpeed : Nat
  burstSteps : Nat
  generation : Nat
  deriving DecidableEq, Repr

namespace RunControl

/-- A paused control at a given speed. -/
def atSpeed (speed maxSpeed burstSteps : Nat) : RunControl :=
  { status := .paused, speed, maxSpeed, burstSteps, generation := 0 }

def isRunning (control : RunControl) : Bool :=
  control.status = .running

/-- One second divided by the speed, in nanoseconds. -/
def period (control : RunControl) : Nat :=
  1000000000 / max control.speed 1

/-- The steps of one tick: a burst at the highest speed, else one. -/
def stepsPerTick (control : RunControl) : Nat :=
  if control.speed = control.maxSpeed then control.burstSteps else 1

/-- The handle of the present generation. -/
def handle (control : RunControl) : RunHandle :=
  { generation := control.generation, period := control.period }

/-- The handle of the run that is going on, if one is. -/
def liveHandle? (control : RunControl) : Option RunHandle :=
  if control.isRunning then some control.handle else none

/-- Does the handle drive the run that is going on? -/
def isLive (control : RunControl) (handle : RunHandle) : Bool :=
  control.isRunning && handle.generation == control.generation

/-- Start a run, unless one is going on. -/
def start (control : RunControl) : Logged RunControl :=
  if control.isRunning then
    .quiet control
  else
    .saying { control with generation := control.generation + 1, status := .running }
      (.runStarted control.speed)

/-- Pause, and let all handles die. -/
def cancel (control : RunControl) : Logged RunControl :=
  let cancelled := { control with generation := control.generation + 1, status := .paused }
  if control.isRunning then .saying cancelled .runPaused else .quiet cancelled

@[simp] theorem value_cancel (control : RunControl) :
    control.cancel.value =
      { control with generation := control.generation + 1, status := .paused } := by
  unfold cancel
  split
  · rfl
  · rfl

theorem value_start_of_running {control : RunControl} (running : control.isRunning = true) :
    control.start.value = control := by
  simp [start, running]

theorem value_start_of_paused {control : RunControl} (paused : control.isRunning = false) :
    control.start.value =
      { control with generation := control.generation + 1, status := .running } := by
  simp [start, paused]

/-- Change the speed.  A run that is going on is started anew, with a new handle. -/
def setSpeed (control : RunControl) (speed : Nat) : Except Fault (Logged RunControl) :=
  if speed = 0 || control.maxSpeed < speed then
    .error (.invalidSpeed speed)
  else
    let changed : Logged RunControl := .saying { control with speed } (.speedSet speed)
    if control.isRunning then
      .ok ((changed.andThen cancel).andThen start)
    else
      .ok changed

/-- Pause at a given speed. -/
def reset (control : RunControl) (speed : Nat) : Logged RunControl :=
  control.cancel.map fun cancelled => { cancelled with speed }

@[simp] theorem value_reset (control : RunControl) (speed : Nat) :
    (control.reset speed).value =
      { control with generation := control.generation + 1, status := .paused, speed } := by
  simp [reset]

end RunControl
end TapeWorkbench
