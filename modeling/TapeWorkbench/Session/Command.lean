import TapeWorkbench.Session.Attempt

/-!
# Commands

All that can be done with a session from outside.  Each command is a function
from a session to a reply; `perform` collects them.
-/

namespace TapeWorkbench
namespace Session

/-- Empty everything but the text, the readiness and the listeners, and pause at
the default speed. -/
def cleared (session : Session) : Logged Session :=
  (session.control.reset session.settings.defaultSpeed).map fun control =>
    { session with
      control
      table := .empty
      moment := blankMoment session.settings
      sections := []
      output := noOutput
      fault := none
      source := ""
      history := session.history.clear }

/-- Put a program in place. -/
def install (session : Session) (program : Program) : Logged Session :=
  .saying
    { session with
      table := program.table
      moment :=
        { session.moment with
          configuration :=
            { session.configuration with tape := program.tape, head := program.head }
          listing := .ofLines program.listing }
      source := program.source
      sections := TapeSection.updateAll (TapeSection.layout program.tape) program.tape
      ready := true }
    (.programLoaded program.tape.size program.table.size program.listing.length)

/-- Load a program from its text.  A text that is no program leaves the session
empty and not ready, with the fault on display. -/
def load (session : Session) (text : String) : Reply (Except Fault Unit) :=
  let emptied := session.cleared.map fun cleared => { cleared with programText := some text }
  let read := Program.read text
  match read.value with
  | .ok program =>
    let work := emptied.andThen fun session =>
      (Logged.mk () read.log).andThen fun _ => session.install program
    .published work (.ok ())
  | .error fault =>
    let work := emptied.andThen fun session =>
      (Logged.mk () read.log).andThen fun _ =>
        .saying { session with ready := false, fault := some fault }
          (.loadFailed fault)
    .published work (.error fault)

/-- Load a program from the text of a file.  Nothing happens if the file could not
be read. -/
def loadFile (session : Session) (file : Except Fault String) : Reply (Except Fault Unit) :=
  match file with
  | .ok text => session.load text
  | .error fault => .silent session (.error fault)

/-- Empty the session.  It stays ready if it was, and the text is kept. -/
def clear (session : Session) : Reply Unit :=
  .published session.cleared ()

/-- Load the program again from the text it was last loaded from. -/
def reset (session : Session) : Reply (Except Fault Unit) :=
  match session.programText with
  | some text => session.load text
  | none => session.clear.map fun _ => .error .nothingLoaded

/-- Empty the session and forget the text. -/
def delete (session : Session) : Reply Unit :=
  .published
    (session.cleared.map fun cleared => { cleared with ready := false, programText := none }) ()

def step (session : Session) : Reply Unit :=
  if session.ready then
    .published (session.attempt.map Attempt.session) ()
  else
    .silent session ()

/-- Undo the last step, if there is one to undo. -/
def stepBack (session : Session) : Reply Unit :=
  match session.history.pop? with
  | none => .published (.quiet session) ()
  | some (moment, history) =>
    .published
      (.saying
        { session with
          moment
          history
          fault := none
          sections := TapeSection.updateAll session.sections moment.configuration.tape }
        (.steppedBack moment.stepCount)) ()

/-- Start a timed run, or go on with the one that is going on. -/
def run (session : Session) : Reply (Option RunHandle) :=
  if session.ready then
    let work := session.control.start.map fun control => { session with control }
    .published work (some work.value.control.handle)
  else
    .silent session none

/-- Drive a timed run by one tick.  The answer tells whether to go on.  A dead
handle does nothing. -/
def tick (session : Session) (handle : RunHandle) : Reply Bool :=
  if session.control.isLive handle then
    let work := (burst session.control.stepsPerTick session #[]).andThen fun session =>
      if session.control.isRunning && session.isHalted then session.finish else .quiet session
    .published work work.value.control.isRunning
  else
    .silent session false

/-- End an unthrottled run: carry out the halt procedure if the machine has halted,
and find the outcome. -/
def concludeRun (maxSteps : Nat) (last : Attempt) : Logged (Session × RunOutcome) :=
  match last.refusal with
  | some refusal => .quiet (last.session, refusal.outcome)
  | none =>
    if last.session.isHalted then
      last.session.finish.map fun finished => (finished, .halted)
    else
      .saying (last.session, .stepLimit)
        (.stepLimitReached maxSteps last.session.configuration.state)

/-- Run without a timer, for at most the given number of steps.  The listeners are
told once, at the end. -/
def runToCompletion (session : Session) (maxSteps : Nat) : Reply (Except Fault RunOutcome) :=
  if session.ready then
    let paused := session.cancelRun
    let work := (attemptUpTo maxSteps paused.value paused.log).andThen (concludeRun maxSteps)
    let (finished, outcome) := work.value
    let steps := finished.moment.stepCount - session.moment.stepCount
    let reported := (Logged.mk finished work.log).say (.runEnded steps outcome)
    .published reported (.ok outcome)
  else
    .silent session (.error .nothingLoaded)

def pause (session : Session) : Reply Unit :=
  .published session.cancelRun ()

/-- Change the speed.  The answer is the new handle, if a run is going on. -/
def setSpeed (session : Session) (speed : Nat) : Reply (Except Fault (Option RunHandle)) :=
  match session.control.setSpeed speed with
  | .error fault => .silent session (.error fault)
  | .ok changed =>
    .published (changed.map fun control => { session with control })
      (.ok changed.value.liveHandle?)

/-- Flip the breakpoint of a line of the listing.  The answer is the new flag. -/
def setBreakpoint (session : Session) (index : Nat) : Reply (Except Fault Bool) :=
  match session.listing.toggleBreakpoint? index with
  | none => .silent session (.error (.noListingLine index))
  | some (flag, listing) =>
    .published (.quiet { session with moment := { session.moment with listing } }) (.ok flag)

/-- Let one more listener in.  The answer is its number. -/
def subscribe (session : Session) : Reply Nat :=
  .silent
    { session with
      listeners := session.listeners ++ [session.nextListener]
      nextListener := session.nextListener + 1 }
    session.nextListener

/-- Let a listener go.  The answer tells whether it was there. -/
def unsubscribe (session : Session) (listener : Nat) : Reply Bool :=
  let staying := session.listeners.filter (· != listener)
  .silent { session with listeners := staying } (staying.length != session.listeners.length)

end Session

inductive Command where
  | load (text : String)
  /-- Load a file, whose text was read already or could not be read. -/
  | loadFile (file : Except Fault String)
  | clear
  | reset
  | delete
  | step
  | stepBack
  | run
  | tick (handle : RunHandle)
  | runToCompletion (maxSteps : Nat)
  | pause
  | setSpeed (speed : Nat)
  | setBreakpoint (index : Nat)
  | subscribe
  | unsubscribe (listener : Nat)

inductive Answer where
  | nothing
  | loaded (result : Except Fault Unit)
  | handle (live : Option RunHandle)
  | goOn (wanted : Bool)
  | outcome (result : Except Fault RunOutcome)
  | speed (result : Except Fault (Option RunHandle))
  | breakpoint (result : Except Fault Bool)
  | listener (number : Nat)
  | found (was : Bool)

namespace Session

def perform (session : Session) : Command → Reply Answer
  | .load text => (session.load text).map .loaded
  | .loadFile file => (session.loadFile file).map .loaded
  | .clear => session.clear.map fun _ => .nothing
  | .reset => session.reset.map .loaded
  | .delete => session.delete.map fun _ => .nothing
  | .step => session.step.map fun _ => .nothing
  | .stepBack => session.stepBack.map fun _ => .nothing
  | .run => session.run.map .handle
  | .tick handle => (session.tick handle).map .goOn
  | .runToCompletion maxSteps => (session.runToCompletion maxSteps).map .outcome
  | .pause => session.pause.map fun _ => .nothing
  | .setSpeed speed => (session.setSpeed speed).map .speed
  | .setBreakpoint index => (session.setBreakpoint index).map .breakpoint
  | .subscribe => session.subscribe.map .listener
  | .unsubscribe listener => (session.unsubscribe listener).map .found

end Session
end TapeWorkbench
