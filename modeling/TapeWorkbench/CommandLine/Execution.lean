import TapeWorkbench.CommandLine.Options
import TapeWorkbench.CommandLine.Summary
import TapeWorkbench.Session.Command
import TapeWorkbench.Settings.Document

/-!
# Executing a program from the command line

First everything is prepared: the settings, the program, the speed and the
breakpoints, in this order; the first failure ends the matter.  Then the program
is run, and whatever came of the run is shown.  Where it is shown, how to wait
between ticks and how to tell the time is left to the surroundings, which can be
those of a process or a transcript of all that is written.
-/

namespace TapeWorkbench
namespace CommandLine

/-- What came of reading the files that the options name. -/
structure Sources where
  /-- The settings file; not looked at where none is named. -/
  settings : Except ReadFailure ByteArray
  /-- What is said of a settings text that cannot be read. -/
  report : String → String
  /-- The program file, or the standard input where none is named. -/
  program : Except ReadFailure ByteArray

/-- Why a program was not run. -/
inductive StartFailure where
  | fault (cause : Fault)
  /-- The standard input could not be read. -/
  | input (failure : ReadFailure)
  /-- There is neither a program file nor an input. -/
  | noProgram

namespace StartFailure

def message : StartFailure → String
  | .fault cause => cause.message
  | .input failure => failure.message
  | .noProgram => "no program file given and nothing piped to stdin"

def errorLine (failure : StartFailure) : String :=
  "Error: " ++ failure.message ++ "\n"

end StartFailure

/-- The settings that the options name, or the default ones. -/
def settingsOf (options : Options) (sources : Sources) : Except Fault Settings :=
  match options.settingsFile with
  | none => .ok .default
  | some path => (Settings.ofFile sources.report path sources.settings).value

/-- The text of the program. -/
def programTextOf (options : Options) (sources : Sources) : Except StartFailure String :=
  match options.program with
  | some path => (FileText.ofReading path sources.program).mapError .fault
  | none => (sources.program.bind FileText.decode).mapError .input

/-- Carry out a command that may fail, and go on with its session. -/
def require {α : Type} (reply : Reply (Except Fault α)) : Except StartFailure Session :=
  match reply.answer with
  | .ok _ => .ok reply.session
  | .error fault => .error (.fault fault)

/-- A session that is ready to run, with a listener if the run is to be watched. -/
def prepare (options : Options) (sources : Sources) : Except StartFailure Session := do
  let settings ← (settingsOf options sources).mapError .fault
  let text ← programTextOf options sources
  let loaded ← require ((Session.new settings).load text)
  let atSpeed ← match options.speed with
    | none => .ok loaded
    | some speed => require (loaded.setSpeed speed)
  let withBreakpoints ← options.breakpoints.foldlM
    (fun session index => require (session.setBreakpoint index)) atSpeed
  return if options.debug then withBreakpoints.subscribe.session else withBreakpoints

/-- The lines that listeners print when a command's reply is delivered to them. -/
def watchedLines {α : Type} (reply : Reply α) : String :=
  String.join (reply.deliveries.map fun delivery => progressLine delivery.snapshot)

/-- The line that tells how long a run took. -/
def durationLine (elapsed : String) (session : Session) : String :=
  "Program took " ++ elapsed ++ " (" ++ Decimal.numeral session.moment.stepCount ++ " steps)\n"

/-- What is said about the way in which an unthrottled run ended. -/
def outcomeLine (maxSteps : Nat) : RunOutcome → String
  | .stepLimit => "Step limit of " ++ Decimal.numeral maxSteps ++ " reached before halting\n"
  | .breakpoint => "Stopped at a breakpoint\n"
  | .halted => ""
  | .error => ""

/-- The budget of an unthrottled run. -/
def stepBudget (options : Options) (session : Session) : Nat :=
  options.maxSteps.getD session.settings.maxSteps

/-- The exit code of a run that ended in the given way: only a fault fails it. -/
def exitCode (session : Session) : Nat :=
  if session.snapshot.error.isNone then 0 else 1

/-- What surrounds a run: the two output streams, and how to wait. -/
structure Surroundings (m : Type → Type) where
  out : String → m Unit
  err : String → m Unit
  /-- Wait for a number of nanoseconds. -/
  wait : Nat → m Unit

/-- A clock that carries out a computation and tells how long that took. -/
structure Stopwatch (m : Type → Type) where
  time : {α : Type} → (Unit → α) → m (α × String)

namespace Surroundings

variable {m : Type → Type} [Monad m] (surroundings : Surroundings m)

/-- Write what the listeners print, and go on with the session. -/
@[specialize]
def follow {α : Type} (reply : Reply α) : m Session := do
  surroundings.out (watchedLines reply)
  return reply.session

/-- Drive a timed run for the ticks that are left, with a pause of one period before each, and
pause it when there is none. -/
@[specialize]
def driveTimed (remaining : Nat) (session : Session) : m Session :=
  match session.control.liveHandle? with
  | none => return session
  | some handle =>
    match remaining with
    | 0 => surroundings.follow session.pause
    | remaining + 1 => do
      surroundings.wait handle.period
      let next ← surroundings.follow (session.tick handle)
      driveTimed remaining next

/-- Run by a timer, for a limited number of ticks. -/
@[specialize]
def runTimed (tickLimit : Nat) (session : Session) : m Session := do
  let started ← surroundings.follow session.run
  surroundings.driveTimed tickLimit started

/-- Run without a timer, and tell how long that took and how it ended.  The time goes to the
standard error output where the standard output is for JSON. -/
@[specialize]
def runUnthrottled (stopwatch : Stopwatch m) (options : Options) (session : Session) :
    ExceptT StartFailure m Session := do
  let maxSteps := stepBudget options session
  let (reply, elapsed) ← stopwatch.time fun _ => session.runToCompletion maxSteps
  match reply.answer with
  | .error fault => throw (.fault fault)
  | .ok outcome =>
    let last ← surroundings.follow reply
    let line := durationLine elapsed last
    if options.json then surroundings.err line else surroundings.out line
    surroundings.err (outcomeLine maxSteps outcome)
    return last

/-- Run a prepared session, and show what came of it. -/
@[specialize]
def runAndShow (stopwatch : Stopwatch m) (options : Options) (session : Session) :
    ExceptT StartFailure m Nat := do
  let last ←
    if options.unthrottled then surroundings.runUnthrottled stopwatch options session
    else surroundings.runTimed options.tickLimit session
  surroundings.out (finalText options.json last.snapshot)
  return exitCode last

end Surroundings

/-- What was written to the two output streams. -/
structure Transcript where
  stdout : String
  stderr : String
  deriving DecidableEq, Repr

namespace Transcript

def empty : Transcript := ⟨"", ""⟩

def out (transcript : Transcript) (text : String) : Transcript :=
  { transcript with stdout := transcript.stdout ++ text }

def err (transcript : Transcript) (text : String) : Transcript :=
  { transcript with stderr := transcript.stderr ++ text }

/-- The surroundings that keep all that is written, and do not wait. -/
def surroundings : Surroundings (StateM Transcript) where
  out text := modify fun transcript => transcript.out text
  err text := modify fun transcript => transcript.err text
  wait _ := pure ()

/-- A clock that says that everything takes the same time. -/
def stopwatch (elapsed : String) : Stopwatch (StateM Transcript) where
  time compute := pure (compute (), elapsed)

end Transcript

/-- The exit code with all that was written. -/
structure Outcome where
  exit : Nat
  transcript : Transcript
  deriving DecidableEq, Repr

/-- Run a prepared session, and keep what is shown of it. -/
def runPrepared (options : Options) (elapsed : String) (session : Session) :
    Except StartFailure Outcome :=
  let shown := Transcript.surroundings.runAndShow (Transcript.stopwatch elapsed) options session
  match shown.run Transcript.empty with
  | (.ok exit, transcript) => .ok { exit, transcript }
  | (.error failure, _) => .error failure

/-- Execute a program under the given options.  `elapsed` is the time that an
unthrottled run is said to have taken. -/
def execute (options : Options) (sources : Sources) (elapsed : String) :
    Except StartFailure Outcome :=
  (prepare options sources).bind (runPrepared options elapsed)

/-- What is seen of an execution from outside. -/
def Outcome.ofResult : Except StartFailure Outcome → Outcome
  | .ok outcome => outcome
  | .error failure => { exit := 1, transcript := Transcript.empty.err failure.errorLine }

end CommandLine
end TapeWorkbench
