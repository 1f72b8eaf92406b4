import Mathlib
import TapeWorkbench.Proofs.Attempt

/-!
# Sequences of commands

Commands come one after the other, in any order.  Those that leave the program in
place do one of four things: they make progress with its execution, undo a step,
flip a breakpoint, or let listeners come and go.  A property that each of these
keeps is kept by every sequence of such commands (`Maintained.performAll`).

What a loaded program starts from depends on its text and on the settings, and on
nothing that was there before (`session_load`).
-/

namespace TapeWorkbench

open Relation

namespace Command

/-- Does the command execute the program, or pace its execution? -/
def isExecution : Command → Bool
  | step | run | tick _ | runToCompletion _ | pause | setSpeed _ => true
  | _ => false

/-- Does the command leave the program in place? -/
def keepsProgram : Command → Bool
  | load _ | loadFile _ | clear | reset | delete => false
  | _ => true

end Command

namespace Session

/-- The session after the commands, carried out one after the other. -/
def performAll (session : Session) (commands : List Command) : Session :=
  commands.foldl (fun session command => (session.perform command).session) session

@[simp]
theorem performAll_nil (session : Session) : session.performAll [] = session :=
  rfl

@[simp]
theorem performAll_cons (session : Session) (command : Command) (commands : List Command) :
    session.performAll (command :: commands) =
      (session.perform command).session.performAll commands :=
  rfl

theorem performAll_append (session : Session) (first second : List Command) :
    session.performAll (first ++ second) = (session.performAll first).performAll second :=
  List.foldl_append

/-- The commands that execute the program make progress and nothing else. -/
theorem progresses_perform (session : Session) {command : Command}
    (executes : command.isExecution = true) :
    Progresses session (session.perform command).session := by
  cases command with
  | step => exact progresses_step session
  | run => exact progresses_run session
  | tick handle => exact progresses_tick session handle
  | runToCompletion maxSteps => exact progresses_runToCompletion session maxSteps
  | pause => exact .single (.paced session session.control.cancel.value)
  | setSpeed speed => exact progresses_setSpeed session speed
  | _ => simp [Command.isExecution] at executes

theorem session_step {session : Session} (ready : session.ready = true) :
    session.step.session = session.attempt.value.session := by
  simp [step, ready, Reply.published]

theorem session_run {session : Session} (ready : session.ready = true) :
    session.run.session = { session with control := session.control.start.value } := by
  simp [run, ready, Reply.published]

/-- The answer is the handle of the run that has been started. -/
theorem answer_run {session : Session} (ready : session.ready = true) :
    session.run.answer = some session.run.session.control.handle := by
  simp [run, ready, Reply.published]

theorem session_stepBack {session : Session} {moment : Moment} {history : History Moment}
    (popped : session.history.pop? = some (moment, history)) :
    session.stepBack.session =
      { session with
        moment
        history
        fault := none
        sections := TapeSection.updateAll session.sections moment.configuration.tape } := by
  simp [stepBack, popped, Reply.published]

theorem session_stepBack_of_none {session : Session} (popped : session.history.pop? = none) :
    session.stepBack.session = session := by
  simp [stepBack, popped, Reply.published]

theorem session_setBreakpoint {session : Session} {index : Nat} {flag : Bool}
    {listing : Listing} (toggled : session.listing.toggleBreakpoint? index = some (flag, listing)) :
    (session.setBreakpoint index).session =
      { session with moment := { session.moment with listing } } := by
  simp [setBreakpoint, toggled, Reply.published]

theorem session_setBreakpoint_of_none {session : Session} {index : Nat}
    (toggled : session.listing.toggleBreakpoint? index = none) :
    (session.setBreakpoint index).session = session := by
  simp [setBreakpoint, toggled, Reply.silent]

/-- A property that is kept by all that happens to a session while its program
stays in place. -/
structure Maintained (property : Session → Prop) : Prop where
  progress {before after : Session} : property before → Progress before after → property after
  undone {session : Session} {moment : Moment} {history : History Moment} : property session →
    session.history.pop? = some (moment, history) →
      property
        { session with
          moment
          history
          fault := none
          sections := TapeSection.updateAll session.sections moment.configuration.tape }
  toggled {session : Session} {index : Nat} {flag : Bool} {listing : Listing} :
    property session → session.listing.toggleBreakpoint? index = some (flag, listing) →
      property { session with moment := { session.moment with listing } }
  listening {session : Session} (listeners : List Nat) (nextListener : Nat) :
    property session → property { session with listeners, nextListener }

namespace Maintained

variable {property : Session → Prop}

theorem progresses (maintained : Maintained property) {before after : Session}
    (holds : property before) (made : Progresses before after) : property after :=
  Progresses.keeps maintained.progress holds made

theorem perform (maintained : Maintained property) {session : Session} {command : Command}
    (keeps : command.keepsProgram = true) (holds : property session) :
    property (session.perform command).session := by
  cases command with
  | stepBack =>
      change property session.stepBack.session
      cases popped : session.history.pop? with
      | none => rwa [session_stepBack_of_none popped]
      | some newest =>
          rw [session_stepBack popped]
          exact maintained.undone holds popped
  | setBreakpoint index =>
      change property (session.setBreakpoint index).session
      cases toggled : session.listing.toggleBreakpoint? index with
      | none => rwa [session_setBreakpoint_of_none toggled]
      | some flipped =>
          rw [session_setBreakpoint toggled]
          exact maintained.toggled holds toggled
  | subscribe => exact maintained.listening _ _ holds
  | unsubscribe listener => exact maintained.listening _ session.nextListener holds
  | load | loadFile | clear | reset | delete => simp [Command.keepsProgram] at keeps
  | step | run | tick | runToCompletion | pause | setSpeed =>
      exact maintained.progresses holds (progresses_perform session rfl)

theorem performAll (maintained : Maintained property) {session : Session}
    {commands : List Command} (keep : ∀ command ∈ commands, command.keepsProgram = true)
    (holds : property session) : property (session.performAll commands) := by
  induction commands generalizing session with
  | nil => exact holds
  | cons command commands ih =>
      rw [List.forall_mem_cons] at keep
      exact ih keep.2 (maintained.perform keep.1 holds)

theorem of_each {ι : Type} {family : ι → Session → Prop}
    (each : ∀ index, Maintained (family index)) :
    Maintained fun session => ∃ index, family index session where
  progress := by
    rintro before after ⟨index, holds⟩ made
    exact ⟨index, (each index).progress holds made⟩
  undone := by
    rintro session moment history ⟨index, holds⟩ popped
    exact ⟨index, (each index).undone holds popped⟩
  toggled := by
    rintro session line flag listing ⟨index, holds⟩ flipped
    exact ⟨index, (each index).toggled holds flipped⟩
  listening := by
    rintro session listeners nextListener ⟨index, holds⟩
    exact ⟨index, (each index).listening listeners nextListener holds⟩

end Maintained

/-- While the program stays in place, the session stays as ready as it is and keeps the
text that it has. -/
theorem maintained_program (property : Bool → Option String → Prop) :
    Maintained fun session => property session.ready session.programText where
  progress holds made := by
    cases made with
    | paced _ | stuck _ | stepped _ _ _ _ | finished _ => exact holds
  undone holds _ := holds
  toggled holds _ := holds
  listening _ _ holds := holds

/-! ## Loading -/

/-- The text that a command loads, if it loads one. -/
def textLoadedBy? (session : Session) : Command → Option String
  | .load text => some text
  | .loadFile (.ok text) => some text
  | .reset => session.programText
  | _ => none

theorem perform_eq_load {session : Session} {opening : Command} {text : String}
    (loads : session.textLoadedBy? opening = some text) :
    session.perform opening = (session.load text).map .loaded := by
  cases opening with
  | load other =>
      obtain rfl : other = text := by simpa [textLoadedBy?] using loads
      rfl
  | loadFile file =>
      cases file with
      | error fault => simp [textLoadedBy?] at loads
      | ok other =>
          obtain rfl : other = text := by simpa [textLoadedBy?] using loads
          rfl
  | reset =>
      have kept : session.programText = some text := loads
      simp [perform, reset, kept]
  | _ => simp [textLoadedBy?] at loads

/-- The moment at which the execution of a program begins. -/
def firstMoment (settings : Settings) (program : Program) : Moment :=
  { configuration :=
      { tape := program.tape, head := program.head, state := settings.startState }
    stepCount := 0
    currentInstruction := ""
    listing := .ofLines program.listing }

theorem answer_load {session : Session} {text : String} {program : Program}
    (accepted : (Program.read text).value = .ok program) :
    (session.load text).answer = .ok () := by
  simp [load, accepted, Reply.published]

theorem session_load {session : Session} {text : String} {program : Program}
    (accepted : (Program.read text).value = .ok program) :
    (session.load text).session =
      { session with
        control := (session.control.reset session.settings.defaultSpeed).value
        table := program.table
        moment := firstMoment session.settings program
        sections := TapeSection.updateAll (TapeSection.layout program.tape) program.tape
        output := noOutput
        fault := none
        source := program.source
        ready := true
        programText := some text
        history := session.history.clear } := by
  simp only [load, accepted]
  rfl

/-- A program for examples: the head goes to the right and back, and is stuck. -/
def shuttle : Program :=
  { tape := #[1, 0]
    head := 0
    table :=
      (InstructionTable.empty.insert "START" 1 ⟨0, .right, "BACK", 1⟩).insert
        "BACK" 0 ⟨1, .left, "START", 1⟩
    listing := [⟨"GO", .current, false, []⟩]
    source := "" }

def shuttleText : String :=
  "!1 0\n#asm GO\nSTART 1 0 R BACK\nBACK 0 1 L START"

theorem read_shuttleText : (Program.read shuttleText).value = .ok shuttle := by
  cbv

theorem session_load_shuttleText (settings : Settings) :
    ((new settings).load shuttleText).session =
      { new settings with
        table := shuttle.table
        moment := firstMoment settings shuttle
        ready := true
        programText := some shuttleText
        control := { (new settings).control with generation := 1 } } := by
  have sections : TapeSection.updateAll (TapeSection.layout shuttle.tape) shuttle.tape = [] := by
    cbv
  refine (session_load read_shuttleText).trans ?_
  rw [sections]
  rfl

def shuttleSession : Session :=
  ((new Settings.default).perform (.load shuttleText)).session

end Session
end TapeWorkbench
