import TapeWorkbench.Session.Basic

/-!
# Attempting steps

Every way to execute the program attempts one step after the other.  An attempt
takes the transition of the present configuration, or it is refused: because
there is no transition, or because the current line of the listing carries a
breakpoint.  A refused attempt leaves the moment as it is and pauses the run.

A missing cell or instruction is found before the breakpoint, a move off the
tape after it.
-/

namespace TapeWorkbench

/-- Why an attempt was refused. -/
inductive Refusal where
  | breakpoint
  | fault
  deriving DecidableEq, Repr

namespace Refusal

/-- The outcome of a run that ends with the refusal. -/
def outcome : Refusal → RunOutcome
  | breakpoint => .breakpoint
  | fault => .error

end Refusal

/-- A session after attempted steps, with the refusal that ended them, if one
did. -/
structure Attempt where
  session : Session
  refusal : Option Refusal

namespace Session

/-- Pause the run, and let all handles die. -/
def cancelRun (session : Session) : Logged Session :=
  session.control.cancel.map fun control => { session with control }

def fail (session : Session) (fault : Fault) : Logged Attempt :=
  ((Logged.saying { session with fault := some fault } (.stuck fault)).andThen cancelRun).map
    fun failed => { session := failed, refusal := some .fault }

/-- Pause at a breakpoint. -/
def hold (session : Session) : Logged Attempt :=
  ((Logged.saying session (.breakpointHit session.moment.stepCount)).andThen cancelRun).map
    fun held => { session := held, refusal := some .breakpoint }

/-- Take a step to the given configuration by an instruction that was found under
the given symbol. -/
def takeStep (session : Session) (symbol : Symbol) (instruction : Instruction)
    (target : Configuration) : Logged Session :=
  let before := session.moment
  let stepCount := before.stepCount + 1
  let nextSymbol := target.read?.getD 0
  let sections := TapeSection.updateAll session.sections target.tape
  let listing : Logged Listing :=
    if instruction.block = before.listing.current then
      .quiet before.listing
    else
      before.listing.advance instruction.block sections
  let taken : Notice :=
    .stepTaken stepCount before.configuration.state symbol target.state nextSymbol
  (Logged.saying () taken).andThen fun _ =>
    listing.map fun listing =>
      { session with
        history := session.history.push before
        moment :=
          { configuration := target
            stepCount
            currentInstruction := instructionName target.state nextSymbol
            listing }
        sections }

def attempt (session : Session) : Logged Attempt :=
  let configuration := session.configuration
  let length := configuration.tape.size
  match configuration.read? with
  | none => session.fail (.headOutOfBounds configuration.head length)
  | some symbol =>
    match session.table.find? configuration.state symbol with
    | none => session.fail (.missingTransition configuration.state symbol)
    | some instruction =>
      if session.listing.atBreakpoint then
        session.hold
      else
        match configuration.follow? instruction with
        | none =>
          session.fail
            (.headOutOfBounds (configuration.head + instruction.move.offset) length)
        | some target =>
          (session.takeStep symbol instruction target).map fun stepped =>
            { session := stepped, refusal := none }

/-- The output of a tape with the given sections: the value of register `A`. -/
def outputOf (sections : List TapeSection) : String :=
  match sections.find? fun tapeSection => tapeSection.name = "A" with
  | some register => register.value
  | none => noOutput

/-- The halt procedure: pause, complete the open block of the listing, and read the
output off the tape. -/
def finish (session : Session) : Logged Session :=
  session.cancelRun.andThen fun paused =>
    (paused.listing.advance 0 paused.sections).andThen fun listing =>
      let sections := TapeSection.updateAll paused.sections paused.configuration.tape
      let output := outputOf sections
      .saying { paused with moment := { paused.moment with listing }, sections, output }
        (.halted paused.moment.stepCount output)

/-- Attempt steps until the machine halts, an attempt is refused, or the budget is
used up.  The notices given so far are passed on in `log`. -/
def attemptUpTo (budget : Nat) (session : Session) (log : Array Notice) : Logged Attempt :=
  match budget with
  | 0 => ⟨{ session, refusal := none }, log⟩
  | budget + 1 =>
    if session.isHalted then
      ⟨{ session, refusal := none }, log⟩
    else
      let next := session.attempt
      match next.value.refusal with
      | some refusal =>
        ⟨{ session := next.value.session, refusal := some refusal }, log ++ next.log⟩
      | none => attemptUpTo budget next.value.session (log ++ next.log)

/-- The steps of one tick: as many attempts as the speed asks for, ended early by a
refusal or by the halt procedure. -/
def burst (steps : Nat) (session : Session) (log : Array Notice) : Logged Session :=
  match steps with
  | 0 => ⟨session, log⟩
  | steps + 1 =>
    if session.isHalted then
      let finished := session.finish
      ⟨finished.value, log ++ finished.log⟩
    else
      let next := session.attempt
      match next.value.refusal with
      | some _ => ⟨next.value.session, log ++ next.log⟩
      | none => burst steps next.value.session (log ++ next.log)

end Session
end TapeWorkbench
