import TapeWorkbench.Proofs.Reachable
import TapeWorkbench.Proofs.Trace

/-!
# Stuck machines

A configuration is stuck if there is no cell under the head, no instruction for what is
there, or no cell to move to (`Configuration.Blocked`).  A loaded session that displays a
fault is stuck, and the fault says why.  It stays where it is and goes on displaying the
fault, until a step is undone or the program is replaced (`Session.Stays.performAll`): the
attempts that are still made are refused for the same reason or held at a breakpoint, and the
halt procedure changes neither the configuration nor the display.
-/

namespace TapeWorkbench

open Relation

theorem Move.apply_eq_none_iff {move : Move} {head length : Nat} :
    move.apply head length = none ↔
      (head : Int) + move.offset < 0 ∨ (length : Int) ≤ head + move.offset := by
  constructor
  · intro leaves
    by_contra inside
    have onTape : move.apply head length = some ((head : Int) + move.offset).toNat := by
      rw [Move.apply_eq_some_iff]
      omega
    rw [leaves] at onTape
    cases onTape
  · intro outside
    cases reached : move.apply head length with
    | none => rfl
    | some target =>
        have onTape := Move.apply_eq_some_iff.mp reached
        omega

namespace Configuration

/-- What keeps a configuration from a transition, breakpoints aside. -/
inductive Blocked (table : InstructionTable) (configuration : Configuration) : Fault → Prop
  | noCell (off : configuration.tape.size ≤ configuration.head) :
      Blocked table configuration (.headOutOfBounds configuration.head configuration.tape.size)
  | noInstruction (cell : configuration.head < configuration.tape.size)
      (missing : table.find? configuration.state configuration.tape[configuration.head] = none) :
      Blocked table configuration
        (.missingTransition configuration.state configuration.tape[configuration.head])
  | offTape (cell : configuration.head < configuration.tape.size) {instruction : Instruction}
      (found : table.find? configuration.state configuration.tape[configuration.head] =
        some instruction)
      (leaves : (configuration.head : Int) + instruction.move.offset < 0 ∨
        (configuration.tape.size : Int) ≤ configuration.head + instruction.move.offset) :
      Blocked table configuration
        (.headOutOfBounds (configuration.head + instruction.move.offset) configuration.tape.size)

theorem follow?_eq_none_iff {configuration : Configuration} {instruction : Instruction} :
    configuration.follow? instruction = none ↔
      (configuration.head : Int) + instruction.move.offset < 0 ∨
        (configuration.tape.size : Int) ≤ configuration.head + instruction.move.offset := by
  rw [follow?, Option.map_eq_none_iff, Move.apply_eq_none_iff]

theorem read?_of_cell {configuration : Configuration}
    (cell : configuration.head < configuration.tape.size) :
    configuration.read? = some configuration.tape[configuration.head] := by
  simp [read?, cell]

theorem Blocked.fault?_eq_some {table : InstructionTable} {configuration : Configuration}
    {fault : Fault} (blocked : configuration.Blocked table fault) :
    configuration.fault? table = some fault := by
  cases blocked with
  | noCell off =>
      have read : configuration.read? = none := by simpa [read?] using off
      simp [fault?, read]
  | noInstruction cell missing =>
      have read := read?_of_cell cell
      simp [fault?, read, missing]
  | offTape cell found leaves =>
      have read := read?_of_cell cell
      have follows := follow?_eq_none_iff.mpr leaves
      simp [fault?, read, found, follows]

/-- A configuration is blocked by a fault, or its transition is defined. -/
theorem blocked_or_fault?_eq_none (table : InstructionTable) (configuration : Configuration) :
    (∃ fault, configuration.Blocked table fault) ∨ configuration.fault? table = none := by
  by_cases cell : configuration.head < configuration.tape.size
  · have read := read?_of_cell cell
    cases found : table.find? configuration.state configuration.tape[configuration.head] with
    | none => exact .inl ⟨_, .noInstruction cell found⟩
    | some instruction =>
        cases follows : configuration.follow? instruction with
        | none => exact .inl ⟨_, .offTape cell found (follow?_eq_none_iff.mp follows)⟩
        | some target => exact .inr (fault?_eq_none read found follows)
  · exact .inl ⟨_, .noCell (not_lt.mp cell)⟩

theorem fault?_eq_some_iff {table : InstructionTable} {configuration : Configuration}
    {fault : Fault} :
    configuration.fault? table = some fault ↔ configuration.Blocked table fault := by
  constructor
  · intro found
    rcases blocked_or_fault?_eq_none table configuration with ⟨other, blocked⟩ | moves
    · obtain rfl := Option.some.inj (blocked.fault?_eq_some.symm.trans found)
      exact blocked
    · cases moves.symm.trans found
  · exact Blocked.fault?_eq_some

end Configuration

namespace Session

/-- The session is where `start` was, and displays the same fault. -/
structure Stays (start session : Session) : Prop where
  table_eq : session.table = start.table
  configuration_eq : session.configuration = start.configuration
  stepCount_eq : session.moment.stepCount = start.moment.stepCount
  history_eq : session.history = start.history
  fault_eq : session.fault = start.fault

namespace Stays

variable {start session : Session} {fault : Fault}

theorem refl (session : Session) : Stays session session :=
  ⟨rfl, rfl, rfl, rfl, rfl⟩

theorem progress (stuck : start.configuration.fault? start.table = some fault)
    (shown : start.fault = some fault) {after : Session} (stays : Stays start session)
    (made : Progress session after) : Stays start after := by
  have still : session.configuration.fault? session.table = some fault := by
    rw [stays.configuration_eq, stays.table_eq]
    exact stuck
  cases made with
  | paced control => exact { stays with }
  | @stuck other found =>
      obtain rfl := Option.some.inj (still.symm.trans found)
      exact { stays with fault_eq := shown.symm }
  | stepped read found follows _ =>
      -- the fault rules out the transition that the step would take
      have moves := Configuration.fault?_eq_none read found follows
      cases still.symm.trans moves
  | finished _ => exact { stays with }

theorem perform (stuck : start.configuration.fault? start.table = some fault)
    (shown : start.fault = some fault) (stays : Stays start session) {command : Command}
    (allowed : command.isExecution = true ∨ (∃ index, command = .setBreakpoint index) ∨
      command = .stepBack ∧ start.history.toList = []) :
    Stays start (session.perform command).session := by
  rcases allowed with executes | ⟨index, rfl⟩ | ⟨rfl, nothing⟩
  · exact Progresses.keeps (progress stuck shown) stays (progresses_perform session executes)
  · change Stays start (session.setBreakpoint index).session
    cases toggled : session.listing.toggleBreakpoint? index with
    | none =>
        rw [session_setBreakpoint_of_none toggled]
        exact stays
    | some flipped =>
        rw [session_setBreakpoint toggled]
        exact { stays with }
  · have popped : session.history.pop? = none := by
      rw [History.pop?_eq_none_iff, stays.history_eq]
      exact nothing
    change Stays start session.stepBack.session
    rw [session_stepBack_of_none popped]
    exact stays

theorem performAll (stuck : start.configuration.fault? start.table = some fault)
    (shown : start.fault = some fault) (stays : Stays start session) {commands : List Command}
    (allowed : ∀ command ∈ commands, command.isExecution = true ∨
      (∃ index, command = .setBreakpoint index) ∨
        command = .stepBack ∧ start.history.toList = []) :
    Stays start (session.performAll commands) := by
  induction commands generalizing session with
  | nil => exact stays
  | cons command commands ih =>
      rw [List.forall_mem_cons] at allowed
      exact ih (stays.perform stuck shown allowed.1) allowed.2

end Stays

theorem fault_attempt_of_accepted {session : Session}
    (accepted : session.attempt.value.refusal = none) :
    session.attempt.value.session.fault = session.fault := by
  obtain ⟨symbol, instruction, target, stepped, -⟩ := session_attempt_of_accepted accepted
  rw [stepped]
  rfl

theorem error_snapshot (session : Session) :
    session.snapshot.error = session.fault.map Fault.message :=
  rfl

/-- While a program is loaded, an error on display is the message of the one fault that keeps
the present configuration from a transition.  No sequence of commands changes the
configuration, the number of steps or the message, unless it undoes a step or replaces the
program.  And wherever a step is taken on the way of a command, no fault is on display. -/
theorem error_of_reachable (settings : Settings) (session : Session)
    (reachable : Reachable settings session) (ready : session.ready = true) :
    (∀ message, session.snapshot.error = some message →
      (∃ fault, (∀ other, session.configuration.Blocked session.table other ↔ other = fault) ∧
        message = fault.message) ∧
      ∀ commands : List Command,
        (∀ command ∈ commands, command.isExecution = true ∨
          (∃ index, command = .setBreakpoint index) ∨
            command = .stepBack ∧ session.history.toList = []) →
          let reached := session.performAll commands
          reached.configuration = session.configuration ∧
            reached.moment.stepCount = session.moment.stepCount ∧
            reached.snapshot.error = some message) ∧
      ∀ middle, Progresses session middle → middle.attempt.value.refusal = none →
        middle.fault = none ∧ middle.attempt.value.session.fault = none := by
  have sound := reachable.sound
  constructor
  · intro message displayed
    obtain ⟨fault, shown, rfl⟩ := Option.map_eq_some_iff.mp displayed
    have stuck := sound.explained ready fault shown
    refine ⟨⟨fault, ?_, rfl⟩, ?_⟩
    · intro other
      rw [← Configuration.fault?_eq_some_iff, stuck, Option.some.injEq, eq_comm]
    · intro commands allowed reached
      have stays := (Stays.refl session).performAll stuck shown allowed
      refine ⟨stays.configuration_eq, stays.stepCount_eq, ?_⟩
      rw [error_snapshot, stays.fault_eq, shown, Option.map_some]
  · intro middle made accepted
    obtain ⟨soundThere, readyThere⟩ : Sound settings middle ∧ middle.ready = true := by
      refine ⟨(lasting_sound settings).progresses sound made, ?_⟩
      exact (maintained_program fun loaded _ => loaded = true).progresses ready made
    obtain ⟨-, -, -, -, moves⟩ := session_attempt_of_accepted accepted
    have clean := soundThere.fault_eq_none readyThere moves
    exact ⟨clean, (fault_attempt_of_accepted accepted).trans clean⟩

/-- The program for examples, in a machine that remembers no steps. -/
def forgetfulSession : Session :=
  (new { Settings.default with historyLimit := some 0 }).performAll [.load shuttleText]

/-- The machine ran into a missing instruction.  A breakpoint, a step, an undo, a tick and
another run leave it there; before, it took its first step with nothing on display. -/
theorem error_of_reachable_shuttle :
    let session := forgetfulSession.performAll [.runToCompletion 7]
    let commands : List Command :=
      [.setBreakpoint 0, .step, .stepBack, .run, .tick ⟨4, 100000000⟩, .setBreakpoint 0,
        .runToCompletion 7]
    let reached := session.performAll commands
    Reachable { Settings.default with historyLimit := some 0 } session ∧
      session.ready = true ∧ session.history.toList = [] ∧
      session.snapshot.error = some (Fault.missingTransition "START" 0).message ∧
      session.configuration.Blocked session.table (.missingTransition "START" 0) ∧
      reached.configuration = session.configuration ∧
      reached.moment.stepCount = session.moment.stepCount ∧
      reached.snapshot.error = some (Fault.missingTransition "START" 0).message ∧
      forgetfulSession.attempt.value.refusal = none ∧ forgetfulSession.fault = none := by
  intro session commands reached
  have loaded : forgetfulSession = _ :=
    session_load_shuttleText { Settings.default with historyLimit := some 0 }
  have opened : Reachable { Settings.default with historyLimit := some 0 } forgetfulSession :=
    Reachable.new.performAll [.load shuttleText]
  have reachable : Reachable { Settings.default with historyLimit := some 0 } session :=
    opened.performAll [.runToCompletion 7]
  have openedReady : forgetfulSession.ready = true := by
    rw [loaded]
  have accepted : forgetfulSession.attempt.value.refusal = none := by
    rw [loaded]
    cbv
  have ready : (forgetfulSession.performAll [.runToCompletion 7]).ready = true := by
    rw [loaded]
    cbv
  have nothing : session.history.toList = [] := by
    change (forgetfulSession.performAll [.runToCompletion 7]).history.toList = []
    rw [loaded]
    cbv
  have fault : (forgetfulSession.performAll [.runToCompletion 7]).fault =
      some (.missingTransition "START" 0) := by
    rw [loaded]
    cbv
  have displayed : (forgetfulSession.performAll [.runToCompletion 7]).snapshot.error =
      some (Fault.missingTransition "START" 0).message := by
    rw [error_snapshot, fault, Option.map_some]
  obtain ⟨⟨found, blocked, told⟩, stays⟩ :=
    (error_of_reachable _ session reachable ready).1 _ displayed
  have allowed : ∀ command ∈ commands, command.isExecution = true ∨
      (∃ index, command = .setBreakpoint index) ∨
        command = .stepBack ∧ session.history.toList = [] := by
    simpa [commands, Command.isExecution] using nothing
  obtain ⟨still, count, same⟩ := stays commands allowed
  have clean := (error_of_reachable _ forgetfulSession opened openedReady).2 _ .refl accepted
  have missing : session.configuration.Blocked session.table (.missingTransition "START" 0) :=
    Configuration.fault?_eq_some_iff.mp (reachable.sound.explained ready _ fault)
  exact ⟨reachable, ready, nothing, displayed, missing, still, count, same, accepted, clean.1⟩

end Session
end TapeWorkbench
