import TapeWorkbench.Proofs.Checked
import TapeWorkbench.Proofs.Handles
import TapeWorkbench.Proofs.Placement

/-!
# Attempts in fixed widths

Attempts at a step once more, and what is made of them, with every operation that a machine can
fail at carried out as one that gives nothing there: cells are read and written by their index,
counts grow within the width of a size, the place that a fault reports is computed as a signed
number, and the period of a run is a quotient.

What the operations of an attempt need is that the head is placed (`Configuration.Confined`);
what they need of the counts is read off those at the end, since no count is taken back on the
way (`Session.NotAhead`).
-/

namespace TapeWorkbench

open JsonForm (sizeBound)

/-- Continue with the value by something that can fail, keeping the notices of both parts in
order. -/
def Logged.andThenChecked {α β : Type} (first : Logged α) (next : α → Option (Logged β)) :
    Option (Logged β) :=
  (next first.value).map fun second => ⟨second.value, first.log ++ second.log⟩

theorem Logged.andThenChecked_eq {α β : Type} {first : Logged α} {next : α → Logged β}
    {nextChecked : α → Option (Logged β)}
    (succeeds : nextChecked first.value = some (next first.value)) :
    first.andThenChecked nextChecked = some (first.andThen next) := by
  rw [andThenChecked, succeeds]
  rfl

/-! ## Moves -/

/-- The head's place after the move.  Only a move to the right adds to it. -/
def Move.applyChecked (move : Move) (head length : Nat) : Option (Option Nat) :=
  match move with
  | .right => (Checked.plus sizeBound head 1).map fun next => (some next).filter (· < length)
  | _ => some (move.apply head length)

theorem Move.applyChecked_eq (move : Move) {head : Nat} (small : head + 1 < sizeBound)
    (length : Nat) : move.applyChecked head length = some (move.apply head length) := by
  cases move with
  | right =>
      rw [applyChecked, Checked.plus_eq small]
      rfl
  | left | stay => rfl

theorem Checked.signedPlus_offset (move : Move) {head : Nat} (small : head ≤ 1048576) :
    Checked.signedPlus head move.offset = some (head + move.offset) := by
  apply if_pos
  cases move <;> simp only [Move.offset, Checked.signedBound] <;> omega

/-! ## Run control -/

namespace RunControl

def cancelChecked (control : RunControl) : Option (Logged RunControl) := do
  let generation ← Checked.plus sizeBound control.generation 1
  let cancelled := { control with generation, status := .paused }
  return if control.isRunning then .saying cancelled .runPaused else .quiet cancelled

def startChecked (control : RunControl) : Option (Logged RunControl) :=
  if control.isRunning then
    some (.quiet control)
  else do
    let generation ← Checked.plus sizeBound control.generation 1
    return .saying { control with generation, status := .running } (.runStarted control.speed)

def handleChecked (control : RunControl) : Option RunHandle := do
  let period ← Checked.quotient 1000000000 (max control.speed 1)
  return { generation := control.generation, period }

def liveHandleChecked (control : RunControl) : Option (Option RunHandle) :=
  if control.isRunning then control.handleChecked.map some else some none

def setSpeedChecked (control : RunControl) (speed : Nat) :
    Option (Except Fault (Logged RunControl)) :=
  if speed = 0 || control.maxSpeed < speed then
    some (.error (.invalidSpeed speed))
  else
    let changed : Logged RunControl := .saying { control with speed } (.speedSet speed)
    if control.isRunning then do
      let cancelled ← changed.andThenChecked cancelChecked
      let started ← cancelled.andThenChecked startChecked
      return .ok started
    else
      some (.ok changed)

theorem cancelChecked_eq {control : RunControl}
    (small : control.cancel.value.generation < sizeBound) :
    control.cancelChecked = some control.cancel := by
  rw [value_cancel] at small
  rw [cancelChecked, Checked.plus_eq small]
  rfl

theorem startChecked_eq {control : RunControl}
    (small : control.start.value.generation < sizeBound) :
    control.startChecked = some control.start := by
  unfold startChecked start
  split
  · rfl
  · rename_i paused
    rw [value_start_of_paused (Bool.eq_false_iff.mpr paused)] at small
    rw [Checked.plus_eq small]
    rfl

/-- The period is the quotient of a second by a speed of at least one. -/
theorem handleChecked_eq (control : RunControl) : control.handleChecked = some control.handle := by
  rw [handleChecked, Checked.quotient_eq (by omega)]
  rfl

theorem liveHandleChecked_eq (control : RunControl) :
    control.liveHandleChecked = some control.liveHandle? := by
  unfold liveHandleChecked liveHandle?
  rw [handleChecked_eq]
  split <;> rfl

theorem generation_le_start (control : RunControl) :
    control.generation ≤ control.start.value.generation := by
  cases running : control.isRunning with
  | true => rw [value_start_of_running running]
  | false => simp [value_start_of_paused running]

theorem setSpeedChecked_eq {control : RunControl} {speed : Nat}
    (small : ∀ changed, control.setSpeed speed = .ok changed →
      changed.value.generation < sizeBound) :
    control.setSpeedChecked speed = some (control.setSpeed speed) := by
  unfold setSpeedChecked
  unfold setSpeed at small ⊢
  by_cases invalid : (speed = 0 || control.maxSpeed < speed) = true
  · simp only [if_pos invalid]
  · simp only [if_neg invalid] at small ⊢
    cases running : control.isRunning with
    | false => rfl
    | true =>
        simp only [running, if_true] at small ⊢
        have ended := small _ rfl
        let changed : Logged RunControl := .saying { control with speed } (.speedSet speed)
        let cancelled := changed.andThen cancel
        have before := (generation_le_start cancelled.value).trans_lt ended
        have first : changed.andThenChecked cancelChecked = some cancelled :=
          Logged.andThenChecked_eq (cancelChecked_eq before)
        have second : cancelled.andThenChecked startChecked = some (cancelled.andThen start) :=
          Logged.andThenChecked_eq (startChecked_eq ended)
        simp only [changed, first, Option.bind_eq_bind, Option.bind_some, second]
        rfl

end RunControl

namespace Session

/-! ## Attempts -/

def cancelRunChecked (session : Session) : Option (Logged Session) := do
  let control ← session.control.cancelChecked
  return control.map fun control => { session with control }

def failChecked (session : Session) (fault : Fault) : Option (Logged Attempt) := do
  let failed : Logged Session := .saying { session with fault := some fault } (.stuck fault)
  let paused ← failed.andThenChecked cancelRunChecked
  return paused.map fun failed => { session := failed, refusal := some .fault }

def holdChecked (session : Session) : Option (Logged Attempt) := do
  let stopped : Logged Session := .saying session (.breakpointHit session.moment.stepCount)
  let paused ← stopped.andThenChecked cancelRunChecked
  return paused.map fun held => { session := held, refusal := some .breakpoint }

/-- Take a step by an instruction, given the tape that it has written on and the place that the
head moves to. -/
def takeStepChecked (session : Session) (symbol : Symbol) (instruction : Instruction)
    (tape : Tape) (head : Nat) : Option (Logged Session) := do
  let before := session.moment
  let stepCount ← Checked.plus sizeBound before.stepCount 1
  let nextSymbol ← tape[head]?
  let sections ← TapeSection.updateAllChecked session.sections tape
  let listing : Logged Listing :=
    if instruction.block = before.listing.current then
      .quiet before.listing
    else
      before.listing.advance instruction.block sections
  let taken : Notice :=
    .stepTaken stepCount before.configuration.state symbol instruction.nextState nextSymbol
  return (Logged.saying () taken).andThen fun _ =>
    listing.map fun listing =>
      { session with
        history := session.history.push before
        moment :=
          { configuration := { tape, head, state := instruction.nextState }
            stepCount
            currentInstruction := instructionName instruction.nextState nextSymbol
            listing }
        sections }

def attemptChecked (session : Session) : Option (Logged Attempt) :=
  let configuration := session.configuration
  let length := configuration.tape.size
  match configuration.tape[configuration.head]? with
  | none => do
    let place ← Checked.signed configuration.head
    session.failChecked (.headOutOfBounds place length)
  | some symbol =>
    match session.table.find? configuration.state symbol with
    | none => session.failChecked (.missingTransition configuration.state symbol)
    | some instruction =>
      if session.listing.atBreakpoint then
        session.holdChecked
      else do
        match ← instruction.move.applyChecked configuration.head length with
        | none =>
          let place ← Checked.signed configuration.head
          let beyond ← Checked.signedPlus place instruction.move.offset
          session.failChecked (.headOutOfBounds beyond length)
        | some head =>
          let tape ← Checked.write configuration.tape configuration.head instruction.write
          let stepped ← session.takeStepChecked symbol instruction tape head
          return stepped.map fun stepped => { session := stepped, refusal := none }

def finishChecked (session : Session) : Option (Logged Session) := do
  let paused ← session.cancelRunChecked
  paused.andThenChecked fun paused =>
    (paused.listing.advance 0 paused.sections).andThenChecked fun listing => do
      let sections ← TapeSection.updateAllChecked paused.sections paused.configuration.tape
      let output := outputOf sections
      return .saying { paused with moment := { paused.moment with listing }, sections, output }
        (.halted paused.moment.stepCount output)

def attemptUpToChecked (budget : Nat) (session : Session) (log : Array Notice) :
    Option (Logged Attempt) :=
  match budget with
  | 0 => some ⟨{ session, refusal := none }, log⟩
  | budget + 1 =>
    if session.isHalted then
      some ⟨{ session, refusal := none }, log⟩
    else do
      let next ← session.attemptChecked
      match next.value.refusal with
      | some refusal =>
        return ⟨{ session := next.value.session, refusal := some refusal }, log ++ next.log⟩
      | none => attemptUpToChecked budget next.value.session (log ++ next.log)

def burstChecked (steps : Nat) (session : Session) (log : Array Notice) :
    Option (Logged Session) :=
  match steps with
  | 0 => some ⟨session, log⟩
  | steps + 1 =>
    if session.isHalted then do
      let finished ← session.finishChecked
      return ⟨finished.value, log ++ finished.log⟩
    else do
      let next ← session.attemptChecked
      match next.value.refusal with
      | some _ => return ⟨next.value.session, log ++ next.log⟩
      | none => burstChecked steps next.value.session (log ++ next.log)

/-- The counts that grow with use are within the width of a size. -/
structure InWidth (session : Session) : Prop where
  stepCount : session.moment.stepCount < sizeBound
  generation : session.control.generation < sizeBound
  nextListener : session.nextListener < sizeBound

/-- No count of the first session is ahead of that of the second. -/
structure NotAhead (first second : Session) : Prop where
  stepCount : first.moment.stepCount ≤ second.moment.stepCount
  generation : first.control.generation ≤ second.control.generation
  nextListener : first.nextListener ≤ second.nextListener

namespace NotAhead

variable {first second third : Session}

theorem refl (session : Session) : NotAhead session session :=
  ⟨le_rfl, le_rfl, le_rfl⟩

theorem trans (left : NotAhead first second) (right : NotAhead second third) :
    NotAhead first third :=
  ⟨left.stepCount.trans right.stepCount, left.generation.trans right.generation,
    left.nextListener.trans right.nextListener⟩

theorem inWidth (behind : NotAhead first second) (inWidth : second.InWidth) : first.InWidth :=
  ⟨behind.stepCount.trans_lt inWidth.stepCount, behind.generation.trans_lt inWidth.generation,
    behind.nextListener.trans_lt inWidth.nextListener⟩

end NotAhead

theorem notAhead_cancelRun (session : Session) : NotAhead session session.cancelRun.value := by
  refine ⟨le_rfl, ?_, le_rfl⟩
  simp [cancelRun]

theorem notAhead_attempt (session : Session) : NotAhead session session.attempt.value.session := by
  generalize came : session.attempt.value = attempt
  have reasons : Attempted session attempt := came ▸ attempted session
  cases reasons with
  | stuck _ _ | held _ _ => exact ⟨le_rfl, by simp, le_rfl⟩
  | stepped _ _ _ _ => exact ⟨Nat.le_succ _, le_rfl, le_rfl⟩

theorem notAhead_finish (session : Session) : NotAhead session session.finish.value :=
  (notAhead_cancelRun session).trans ⟨le_rfl, le_rfl, le_rfl⟩

theorem notAhead_attemptUpTo (budget : Nat) (session : Session) (log : Array Notice) :
    NotAhead session (attemptUpTo budget session log).value.session := by
  induction budget generalizing session log with
  | zero => exact .refl session
  | succ budget ih =>
      simp only [attemptUpTo]
      split
      · exact .refl session
      · split
        · exact notAhead_attempt session
        · exact (notAhead_attempt session).trans (ih _ _)

theorem notAhead_burst (steps : Nat) (session : Session) (log : Array Notice) :
    NotAhead session (burst steps session log).value := by
  induction steps generalizing session log with
  | zero => exact .refl session
  | succ steps ih =>
      simp only [burst]
      split
      · exact notAhead_finish session
      · split
        · exact notAhead_attempt session
        · exact (notAhead_attempt session).trans (ih _ _)

theorem cancelRunChecked_eq {session : Session} (inWidth : session.cancelRun.value.InWidth) :
    session.cancelRunChecked = some session.cancelRun := by
  rw [cancelRunChecked, RunControl.cancelChecked_eq inWidth.generation]
  rfl

theorem failChecked_eq {session : Session} {fault : Fault}
    (inWidth : (session.fail fault).value.session.InWidth) :
    session.failChecked fault = some (session.fail fault) := by
  have pauses : cancelRunChecked { session with fault := some fault } =
      some (cancelRun { session with fault := some fault }) :=
    cancelRunChecked_eq inWidth
  rw [failChecked, Logged.andThenChecked_eq pauses]
  rfl

theorem holdChecked_eq {session : Session} (inWidth : session.hold.value.session.InWidth) :
    session.holdChecked = some session.hold := by
  have pauses : session.cancelRunChecked = some session.cancelRun := cancelRunChecked_eq inWidth
  rw [holdChecked, Logged.andThenChecked_eq pauses]
  rfl

theorem takeStepChecked_eq {session : Session} (symbol : Symbol) {instruction : Instruction}
    {target : Configuration} (follows : session.configuration.follow? instruction = some target)
    (inWidth : (session.takeStep symbol instruction target).value.InWidth) :
    session.takeStepChecked symbol instruction target.tape target.head =
      some (session.takeStep symbol instruction target) := by
  have within := (Configuration.within_of_follow? follows).2
  obtain ⟨head, -, rfl⟩ := Option.map_eq_some_iff.mp follows
  have read := Array.getElem?_eq_getElem within
  rw [takeStepChecked, Checked.plus_eq inWidth.stepCount, read, TapeSection.updateAllChecked_eq]
  simp only [Option.bind_eq_bind, Option.bind_some, takeStep, Configuration.read?, read,
    Option.getD_some]
  rfl

/-- An attempt reads and writes cells of the tape only. -/
theorem attemptChecked_eq {session : Session} (confined : session.configuration.Confined)
    (inWidth : session.attempt.value.session.InWidth) :
    session.attemptChecked = some session.attempt := by
  have head_le : session.configuration.head ≤ 1048576 := confined.head_le
  have place : Checked.signed session.configuration.head =
      some (session.configuration.head : Int) :=
    if_pos (by simp only [Checked.signedBound]; omega)
  unfold attemptChecked
  unfold attempt at inWidth ⊢
  simp only [Configuration.read?] at inWidth ⊢
  cases read : session.configuration.tape[session.configuration.head]? with
  | none =>
      simp only [read] at inWidth ⊢
      rw [place]
      exact failChecked_eq inWidth
  | some symbol =>
      simp only [read] at inWidth ⊢
      cases found : session.table.find? session.configuration.state symbol with
      | none =>
          simp only [found] at inWidth ⊢
          exact failChecked_eq inWidth
      | some instruction =>
          simp only [found] at inWidth ⊢
          cases stops : session.listing.atBreakpoint with
          | true =>
              simp only [stops, if_true] at inWidth ⊢
              exact holdChecked_eq inWidth
          | false =>
              have moves := instruction.move.applyChecked_eq (by simp only [sizeBound]; omega :
                session.configuration.head + 1 < sizeBound) session.configuration.tape.size
              simp only [stops, Bool.false_eq_true, if_false, moves, Option.bind_eq_bind,
                Option.bind_some] at inWidth ⊢
              cases moved : instruction.move.apply session.configuration.head
                  session.configuration.tape.size with
              | none =>
                  have refused : session.configuration.follow? instruction = none := by
                    simp [Configuration.follow?, moved]
                  simp only [refused] at inWidth ⊢
                  have beyond := Checked.signedPlus_offset instruction.move head_le
                  simp only [place, Option.bind_some, beyond]
                  exact failChecked_eq inWidth
              | some head =>
                  have follows : session.configuration.follow? instruction =
                      some ⟨session.configuration.tape.setIfInBounds session.configuration.head
                        instruction.write, head, instruction.nextState⟩ := by
                    simp [Configuration.follow?, moved]
                  simp only [follows] at inWidth ⊢
                  have cell := (Array.getElem?_eq_some_iff.mp read).1
                  have stepped := takeStepChecked_eq symbol follows inWidth
                  simp only [Checked.write, if_pos cell, Option.bind_some, stepped]
                  rfl

theorem confined_attempt {session : Session}
    (confined : session.configuration.Confined) :
    session.attempt.value.session.configuration.Confined := by
  generalize came : session.attempt.value = attempt
  have reasons : Attempted session attempt := came ▸ attempted session
  cases reasons with
  | stuck _ _ | held _ _ => exact confined
  | stepped _ _ follows _ => exact confined.of_follow? follows

theorem attemptUpToChecked_eq (budget : Nat) {session : Session} (log : Array Notice)
    (confined : session.configuration.Confined)
    (inWidth : (attemptUpTo budget session log).value.session.InWidth) :
    attemptUpToChecked budget session log = some (attemptUpTo budget session log) := by
  induction budget generalizing session log with
  | zero => rfl
  | succ budget ih =>
      unfold attemptUpToChecked
      unfold attemptUpTo at inWidth ⊢
      cases halted : session.isHalted with
      | true => rfl
      | false =>
          simp only [halted, Bool.false_eq_true, if_false] at inWidth ⊢
          cases refused : session.attempt.value.refusal with
          | some refusal =>
              simp only [refused] at inWidth ⊢
              rw [attemptChecked_eq confined inWidth]
              simp only [Option.bind_eq_bind, Option.bind_some, refused]
              rfl
          | none =>
              simp only [refused] at inWidth ⊢
              have first := (notAhead_attemptUpTo budget _ _).inWidth inWidth
              rw [attemptChecked_eq confined first]
              simp only [Option.bind_eq_bind, Option.bind_some, refused]
              exact ih _ (confined_attempt confined) inWidth

theorem finishChecked_eq {session : Session} (inWidth : session.finish.value.InWidth) :
    session.finishChecked = some session.finish := by
  have paused : session.cancelRun.value.InWidth :=
    ⟨inWidth.stepCount, inWidth.generation, inWidth.nextListener⟩
  rw [finishChecked, cancelRunChecked_eq paused]
  simp only [TapeSection.updateAllChecked_eq]
  rfl

theorem burstChecked_eq (steps : Nat) {session : Session} (log : Array Notice)
    (confined : session.configuration.Confined)
    (inWidth : (burst steps session log).value.InWidth) :
    burstChecked steps session log = some (burst steps session log) := by
  induction steps generalizing session log with
  | zero => rfl
  | succ steps ih =>
      unfold burstChecked
      unfold burst at inWidth ⊢
      cases halted : session.isHalted with
      | true =>
          simp only [halted, if_true] at inWidth ⊢
          rw [finishChecked_eq inWidth]
          rfl
      | false =>
          simp only [halted, Bool.false_eq_true, if_false] at inWidth ⊢
          cases refused : session.attempt.value.refusal with
          | some refusal =>
              simp only [refused] at inWidth ⊢
              rw [attemptChecked_eq confined inWidth]
              simp only [Option.bind_eq_bind, Option.bind_some, refused]
              rfl
          | none =>
              simp only [refused] at inWidth ⊢
              have first := (notAhead_burst steps _ _).inWidth inWidth
              rw [attemptChecked_eq confined first]
              simp only [Option.bind_eq_bind, Option.bind_some, refused]
              exact ih _ (confined_attempt confined) inWidth

end Session
end TapeWorkbench
