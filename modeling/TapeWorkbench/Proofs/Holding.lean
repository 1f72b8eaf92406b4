import TapeWorkbench.Proofs.Breakpoints
import TapeWorkbench.Proofs.Splitting

/-!
# Held at a breakpoint

While the line that is current carries a breakpoint, no step is taken.  An attempt is refused
there, or before for want of a cell or an instruction, and a refusal changes nothing that a step
would change.  So the machine stays where it is, whatever is done to make it go on, until this
breakpoint is lifted (`Session.Held.performAll`).  Those of other lines do not matter: no other
line is current, and flipping a breakpoint does not make it so.
-/

namespace TapeWorkbench

/-- There is no instruction to follow where there is no cell to read, or no entry in the table for
what is read. -/
theorem Configuration.instruction?_eq_none_iff {table : InstructionTable}
    {configuration : Configuration} :
    configuration.instruction? table = none ↔
      configuration.tape.size ≤ configuration.head ∨
        ∃ symbol, configuration.tape[configuration.head]? = some symbol ∧
          table.find? configuration.state symbol = none := by
  rw [instruction?, read?]
  cases read : configuration.tape[configuration.head]? with
  | none =>
      have off : configuration.tape.size ≤ configuration.head := by simpa using read
      simp [off]
  | some symbol =>
      have cell : configuration.head < configuration.tape.size :=
        (Array.getElem?_eq_some_iff.mp read).1
      simp [cell]

namespace Listing

/-- The line at the index is the only one that is current, and carries a breakpoint. -/
structure Marked (listing : Listing) (index : Nat) : Prop where
  line : ∃ line, listing.lines[index]? = some line ∧ line.status = .current ∧
    line.breakpoint = true
  single : ∀ other, listing.statusAt? other = some .current → other = index

namespace Marked

variable {index : Nat} {listing : Listing}

theorem currentLine? (marked : listing.Marked index) :
    ∃ line, listing.currentLine? = some line ∧ line.breakpoint = true := by
  obtain ⟨line, found, current, flagged⟩ := marked.line
  refine ⟨line, ?_, flagged⟩
  cases shown : listing.currentLine? with
  | none =>
      have never := List.find?_eq_none.mp shown line (List.mem_of_getElem? found)
      simp [current] at never
  | some other =>
      obtain ⟨place, there⟩ := List.mem_iff_getElem?.mp (List.mem_of_find?_eq_some shown)
      have status : other.status = .current := by simpa using List.find?_some shown
      obtain rfl := marked.single place (statusAt?_eq_some_iff.mpr ⟨other, there, status⟩)
      exact congrArg some (Option.some.inj (there.symm.trans found))

/-- Flipping another breakpoint does not make another line current. -/
theorem toggled {other : Nat} {toggled : Listing} {flag : Bool} (marked : listing.Marked index)
    (elsewhere : other ≠ index)
    (flipped : listing.toggleBreakpoint? other = some (flag, toggled)) :
    toggled.Marked index where
  line := by
    obtain ⟨line, found, held⟩ := marked.line
    refine ⟨line, ?_, held⟩
    rw [getElem?_lines_of_toggled flipped, found, Option.map_some, if_neg elsewhere.symm]
  single place current := by
    rw [statusAt?_of_toggled flipped] at current
    exact marked.single place current

end Marked
end Listing

namespace Session

/-- The session is where `start` was, held at the breakpoint of a line. -/
structure Held (start : Session) (index : Nat) (session : Session) : Prop where
  settings_eq : session.settings = start.settings
  table_eq : session.table = start.table
  ready_eq : session.ready = start.ready
  configuration_eq : session.configuration = start.configuration
  stepCount_eq : session.moment.stepCount = start.moment.stepCount
  history_eq : session.history = start.history
  output_eq : session.output = start.output
  sections_eq : session.sections = start.sections
  unflagged_eq : session.listing.unflagged = start.listing.unflagged
  marked : session.listing.Marked index

namespace Held

variable {start session : Session} {index : Nat}

theorem refl (marked : session.listing.Marked index) : Held session index session :=
  ⟨rfl, rfl, rfl, rfl, rfl, rfl, rfl, rfl, rfl, marked⟩

theorem isHalted_eq (held : Held start index session) : session.isHalted = start.isHalted := by
  rw [isHalted, isHalted, held.configuration_eq, held.settings_eq]

theorem progress {after : Session} (moves : start.isHalted = false)
    (held : Held start index session) (made : Progress session after) :
    Held start index after := by
  cases made with
  | paced control => exact { held with }
  | stuck _ => exact { held with }
  | stepped _ _ _ passes =>
      cases passes.symm.trans (atBreakpoint_eq_true_iff.mpr held.marked.currentLine?)
  | finished halted =>
      have still := held.isHalted_eq.trans moves
      cases still.symm.trans halted

theorem setBreakpoint {other : Nat} (held : Held start index session) (elsewhere : other ≠ index) :
    Held start index (session.setBreakpoint other).session := by
  cases toggled : session.listing.toggleBreakpoint? other with
  | none =>
      rw [session_setBreakpoint_of_none toggled]
      exact held
  | some flipped =>
      rw [session_setBreakpoint toggled]
      exact { held with
        unflagged_eq := (Listing.unflagged_of_toggled toggled).trans held.unflagged_eq
        marked := held.marked.toggled elsewhere toggled }

theorem performAll (moves : start.isHalted = false) (held : Held start index session)
    {commands : List Command}
    (allowed : ∀ command ∈ commands, command.isExecution = true ∨
      ∃ other, other ≠ index ∧ command = .setBreakpoint other) :
    Held start index (session.performAll commands) := by
  induction commands generalizing session with
  | nil => exact held
  | cons command commands ih =>
      rw [List.forall_mem_cons] at allowed
      refine ih ?_ allowed.2
      rcases allowed.1 with executes | ⟨other, elsewhere, rfl⟩
      · exact Progresses.keeps (progress moves) held (progresses_perform session executes)
      · exact held.setBreakpoint elsewhere

/-- The refusal that the next attempt meets: for want of an instruction, or at the breakpoint. -/
theorem refusal_attempt (held : Held start index session) :
    session.attempt.value.refusal =
      if session.configuration.instruction? session.table = none then some .fault
      else some .breakpoint := by
  obtain ⟨line, current, flagged⟩ := held.marked.currentLine?
  cases called : session.configuration.instruction? session.table with
  | none =>
      rw [if_pos rfl]
      exact refusal_attempt_eq_some_iff.mpr (.uninstructed called)
  | some instruction =>
      rw [if_neg (Option.some_ne_none instruction)]
      exact refusal_attempt_eq_some_iff.mpr (.held called current flagged)

theorem exists_refusal (held : Held start index session) :
    ∃ refusal, session.attempt.value.refusal = some refusal := by
  rw [held.refusal_attempt]
  split
  · exact ⟨_, rfl⟩
  · exact ⟨_, rfl⟩

theorem idle_step (held : Held start index session) (ready : start.ready = true) :
    session.step.session.control.Idle := by
  obtain ⟨refusal, refused⟩ := held.exists_refusal
  rw [session_step (held.ready_eq.trans ready)]
  exact RunControl.idle_of_paused (isRunning_of_refused refused)

theorem idle_tick (held : Held start index session) (moves : start.isHalted = false)
    {handle : RunHandle} (live : session.control.isLive handle = true)
    (attempts : 0 < session.control.stepsPerTick) :
    (session.tick handle).session.control.Idle := by
  obtain ⟨refusal, refused⟩ := held.exists_refusal
  obtain ⟨further, count⟩ := Nat.exists_eq_succ_of_ne_zero attempts.ne'
  rw [session_tick live, count, driven_succ_of_refused (held.isHalted_eq.trans moves) refused]
  exact RunControl.idle_of_paused (isRunning_of_refused refused)

theorem answer_runToCompletion (held : Held start index session) (ready : start.ready = true)
    (moves : start.isHalted = false) {budget : Nat} (positive : 0 < budget) :
    (session.runToCompletion budget).answer =
      .ok (if session.configuration.instruction? session.table = none then .error
        else .breakpoint) := by
  obtain ⟨refusal, refused⟩ := held.exists_refusal
  obtain ⟨further, rfl⟩ := Nat.exists_eq_succ_of_ne_zero positive.ne'
  have reason := held.refusal_attempt
  rw [answer_eq_ending (held.ready_eq.trans ready),
    ending_succ_of_refused (held.isHalted_eq.trans moves) refused]
  rw [refused] at reason
  split at reason
  · rename_i missing
    obtain rfl := Option.some.inj reason
    rw [if_pos missing]
    rfl
  · rename_i called
    obtain rfl := Option.some.inj reason
    rw [if_neg called]
    rfl

end Held

/-- A breakpoint holds until it is lifted.  Let a loaded machine that has not halted have come to
a line with a breakpoint.  Whatever steps, runs, ticks, pauses and speeds are tried on it then,
and whatever other breakpoints are flipped, it stays where it is: nothing changes but the pace,
the fault on display and the other breakpoints.  A step and a tick that attempts one pause the
machine and leave no handle live, and a run reports the breakpoint, unless it finds no cell or no
instruction before. -/
theorem held_of_breakpoint (settings : Settings) (session : Session) (index : Nat)
    (line : ListingLine) (commands : List Command) (reachable : Reachable settings session)
    (ready : session.ready = true) (moves : session.isHalted = false)
    (found : session.listing.lines[index]? = some line) (current : line.status = .current)
    (flagged : line.breakpoint = true)
    (allowed : ∀ command ∈ commands, command.isExecution = true ∨
      ∃ other, other ≠ index ∧ command = .setBreakpoint other) :
    let reached := session.performAll commands
    (reached.configuration = session.configuration ∧
      reached.moment.stepCount = session.moment.stepCount ∧
      reached.history = session.history ∧ reached.output = session.output ∧
      reached.sections = session.sections ∧
      reached.listing.unflagged = session.listing.unflagged) ∧
    reached.step.session.control.Idle ∧
    (∀ handle, reached.control.isLive handle = true → 0 < reached.control.stepsPerTick →
      (reached.tick handle).answer = false ∧ (reached.tick handle).session.control.Idle) ∧
    ∀ budget, 1 ≤ budget →
      let answer := (reached.runToCompletion budget).answer
      let configuration := reached.configuration
      (answer = .ok .error ∨ answer = .ok .breakpoint) ∧
        (answer = .ok .error ↔
          configuration.tape.size ≤ configuration.head ∨
            ∃ symbol, configuration.tape[configuration.head]? = some symbol ∧
              reached.table.find? configuration.state symbol = none) := by
  intro reached
  obtain ⟨count, charted⟩ := (lasting_charted settings).of_reachable reachable
  have here := Listing.statusAt?_eq_some_iff.mpr ⟨line, found, current⟩
  have marked : session.listing.Marked index :=
    ⟨⟨line, found, current, flagged⟩, fun other there =>
      charted.present.single other index there here⟩
  have held : Held session index reached := (Held.refl marked).performAll moves allowed
  refine ⟨⟨held.configuration_eq, held.stepCount_eq, held.history_eq, held.output_eq,
    held.sections_eq, held.unflagged_eq⟩, held.idle_step ready, ?_, ?_⟩
  · intro handle live attempts
    have idle := held.idle_tick moves live attempts
    refine ⟨?_, idle⟩
    rw [answer_tick live]
    simp [RunControl.isRunning, idle.status_eq]
  · intro budget positive answer configuration
    have answered : answer = _ := held.answer_runToCompletion ready moves positive
    rw [answered, ← Configuration.instruction?_eq_none_iff]
    split
    · rename_i missing
      exact ⟨.inl rfl, iff_of_true rfl missing⟩
    · rename_i called
      exact ⟨.inr rfl, iff_of_false (by simp) called⟩

/-- Between its two blocks the machine is held at the first one.  Setting the other breakpoint and
trying to go on leaves it there, and a run of any length reports the breakpoint. -/
theorem held_of_breakpoint_relay :
    let session := relaySession.performAll [.step, .setBreakpoint 0]
    let commands : List Command :=
      [.run, .setBreakpoint 1, .tick ⟨2, 100000000⟩, .step, .runToCompletion 7]
    let reached := session.performAll commands
    Reachable { Settings.default with historyLimit := some 2 } session ∧
      session.ready = true ∧ session.isHalted = false ∧
      session.listing.lines[0]? = some ⟨"CLEAR", .current, true, []⟩ ∧
      (∀ command ∈ commands, command.isExecution = true ∨
        ∃ other, other ≠ 0 ∧ command = .setBreakpoint other) ∧
      reached.listing.flags = [true, true] ∧
      reached.configuration = session.configuration ∧ reached.history = session.history ∧
      reached.listing.unflagged = session.listing.unflagged ∧
      reached.step.session.control.Idle ∧
      (reached.runToCompletion 100).answer = .ok .breakpoint := by
  intro session commands reached
  have reachable : Reachable { Settings.default with historyLimit := some 2 } session :=
    Reachable.new.performAll [.load relayText, .step, .setBreakpoint 0]
  have loaded : relaySession = _ :=
    session_load_relayText { Settings.default with historyLimit := some 2 }
  have ready : (relaySession.performAll [.step, .setBreakpoint 0]).ready = true := by
    rw [loaded]
    cbv
  have moves : (relaySession.performAll [.step, .setBreakpoint 0]).isHalted = false := by
    rw [loaded]
    cbv
  have line : (relaySession.performAll [.step, .setBreakpoint 0]).listing.lines[0]? =
      some ⟨"CLEAR", .current, true, []⟩ := by
    rw [loaded]
    cbv
  have flags : ((relaySession.performAll [.step, .setBreakpoint 0]).performAll
      [.run, .setBreakpoint 1, .tick ⟨2, 100000000⟩, .step, .runToCompletion 7]).listing.flags =
        [true, true] := by
    rw [loaded]
    cbv
  have called : (((relaySession.performAll [.step, .setBreakpoint 0]).performAll
      [.run, .setBreakpoint 1, .tick ⟨2, 100000000⟩, .step,
        .runToCompletion 7]).configuration.instruction? relay.table).isSome = true := by
    rw [loaded]
    cbv
  have table : reached.table = relay.table := by
    change ((relaySession.performAll [.step, .setBreakpoint 0]).performAll
      [.run, .setBreakpoint 1, .tick ⟨2, 100000000⟩, .step, .runToCompletion 7]).table = _
    rw [loaded]
    rfl
  have allowed : ∀ command ∈ commands, command.isExecution = true ∨
      ∃ other, other ≠ 0 ∧ command = .setBreakpoint other := by
    simp [commands, Command.isExecution]
  obtain ⟨⟨configuration, -, history, -, -, unflagged⟩, idle, -, ends⟩ :=
    held_of_breakpoint _ session 0 _ commands reachable ready moves line rfl rfl allowed
  refine ⟨reachable, ready, moves, line, allowed, flags, configuration, history, unflagged, idle, ?_⟩
  obtain ⟨either, error⟩ := ends 100 (by omega)
  rw [← Configuration.instruction?_eq_none_iff, table] at error
  refine either.resolve_left fun reported => ?_
  have missing := error.mp reported
  change ((relaySession.performAll [.step, .setBreakpoint 0]).performAll _).configuration.instruction?
    relay.table = none at missing
  rw [missing] at called
  cases called

end Session
end TapeWorkbench
