import TapeWorkbench.Proofs.Undo

/-!
# What the output shows

The halt procedure reads the output off the tape, and nothing that happens to a program
afterwards takes it back: neither a step out of the halt state nor an undo.  So the output
shows the register as it was when a run was completed last, that is, when a tick or an
unthrottled run last ended in the halt state (`Session.output_performAll`).  A program that is
replaced leaves no output behind.
-/

namespace TapeWorkbench
namespace Session

theorem output_attempt (session : Session) :
    session.attempt.value.session.output = session.output := by
  cases refused : session.attempt.value.refusal with
  | some refusal =>
      obtain ⟨fault, paused⟩ := session_attempt_of_refused refused
      rw [paused]
  | none =>
      obtain ⟨symbol, instruction, target, stepped, -⟩ := session_attempt_of_accepted refused
      rw [stepped]
      rfl

theorem output_driven_of_halted {session : Session} (halted : session.isHalted = true)
    (budget : Nat) :
    (session.driven budget).isHalted = true ∧
      (session.driven budget).output = outputOf (session.driven budget).sections := by
  rw [driven_of_halted halted]
  exact ⟨halted, rfl⟩

/-- A run shows an output of its own exactly if it ends in the halt state. -/
theorem output_driven (session : Session) (budget : Nat) :
    (session.driven budget).output =
      if (session.driven budget).isHalted then outputOf (session.driven budget).sections
      else session.output := by
  induction budget generalizing session with
  | zero =>
      cases halted : session.isHalted with
      | true =>
          obtain ⟨still, shown⟩ := output_driven_of_halted halted 0
          rw [if_pos still, shown]
      | false => simp [driven_zero halted, halted]
  | succ budget ih =>
      cases halted : session.isHalted with
      | true =>
          obtain ⟨still, shown⟩ := output_driven_of_halted halted (budget + 1)
          rw [if_pos still, shown]
      | false =>
          cases refused : session.attempt.value.refusal with
          | some refusal =>
              have still := (isHalted_of_refused refused).trans halted
              simp [driven_succ_of_refused halted refused, still, output_attempt]
          | none =>
              rw [driven_succ halted refused, ih, output_attempt]

/-- Does the command complete a run, by ending in the halt state? -/
def completes (session : Session) : Command → Bool
  | .tick handle => session.control.isLive handle && (session.tick handle).session.isHalted
  | .runToCompletion maxSteps =>
    session.ready && (session.runToCompletion maxSteps).session.isHalted
  | _ => false

/-- The session in which the commands completed a run last, if they completed one. -/
def lastCompleted? (session : Session) : List Command → Option Session
  | [] => none
  | command :: rest =>
    let after := (session.perform command).session
    (after.lastCompleted? rest).or (if session.completes command then some after else none)

theorem output_perform {session : Session} {command : Command}
    (keeps : command.keepsProgram = true) :
    (session.perform command).session.output =
      if session.completes command then outputOf (session.perform command).session.sections
      else session.output := by
  cases command with
  | step =>
      change session.step.session.output = session.output
      unfold step
      split
      · exact output_attempt session
      · rfl
  | stepBack =>
      change session.stepBack.session.output = session.output
      cases popped : session.history.pop? with
      | none => rw [session_stepBack_of_none popped]
      | some newest => rw [session_stepBack popped]
  | run =>
      change session.run.session.output = session.output
      unfold run
      split
      · rfl
      · rfl
  | tick handle =>
      change (session.tick handle).session.output =
        if session.completes (.tick handle) then outputOf (session.tick handle).session.sections
        else session.output
      cases live : session.control.isLive handle with
      | true =>
          simp only [completes, live, Bool.true_and]
          rw [session_tick live]
          exact output_driven session session.control.stepsPerTick
      | false =>
          rw [session_tick_of_dead live]
          simp [completes, live]
  | runToCompletion maxSteps =>
      change (session.runToCompletion maxSteps).session.output =
        if session.completes (.runToCompletion maxSteps) then
          outputOf (session.runToCompletion maxSteps).session.sections
        else session.output
      cases ready : session.ready with
      | true =>
          simp only [completes, ready, Bool.true_and]
          rw [session_runToCompletion ready]
          exact output_driven session.cancelRun.value maxSteps
      | false =>
          rw [session_runToCompletion_of_unready ready]
          simp [completes, ready]
  | pause => rfl
  | setSpeed speed =>
      change (session.setSpeed speed).session.output = session.output
      unfold setSpeed
      split
      · rfl
      · rfl
  | setBreakpoint index =>
      change (session.setBreakpoint index).session.output = session.output
      cases toggled : session.listing.toggleBreakpoint? index with
      | none => rw [session_setBreakpoint_of_none toggled]
      | some flipped => rw [session_setBreakpoint toggled]
  | subscribe => rfl
  | unsubscribe _ => rfl
  | load | loadFile | clear | reset | delete => cases keeps

/-- While a program is in place, the output is that of the run completed last. -/
theorem output_performAll {session : Session} {commands : List Command}
    (keep : ∀ command ∈ commands, command.keepsProgram = true) :
    (session.performAll commands).output =
      (session.lastCompleted? commands).elim session.output
        fun ended => outputOf ended.sections := by
  induction commands generalizing session with
  | nil => rfl
  | cons command commands ih =>
      rw [List.forall_mem_cons] at keep
      rw [performAll_cons, ih keep.2, lastCompleted?]
      cases later : (session.perform command).session.lastCompleted? commands with
      | some ended => simp
      | none =>
          rw [Option.none_or, Option.elim_none, output_perform keep.1]
          cases completed : session.completes command with
          | true => simp
          | false => simp

/-- The run completed last was completed on the way. -/
theorem exists_performAll_of_lastCompleted {session ended : Session} {commands : List Command}
    (last : session.lastCompleted? commands = some ended) :
    ∃ before command, before ++ [command] <+: commands ∧
      (session.performAll before).completes command = true ∧
      ended = session.performAll (before ++ [command]) := by
  induction commands generalizing session with
  | nil => cases last
  | cons command commands ih =>
      rw [lastCompleted?, Option.or_eq_some_iff] at last
      rcases last with later | ⟨-, here⟩
      · obtain ⟨before, closing, front, completed, rfl⟩ := ih later
        exact ⟨command :: before, closing, List.prefix_cons_inj command |>.mpr front, completed, rfl⟩
      · split at here
        · rename_i completed
          obtain rfl := Option.some.inj here
          exact ⟨[], command, ⟨commands, rfl⟩, completed, rfl⟩
        · cases here

theorem isHalted_of_completes {session : Session} {command : Command}
    (completed : session.completes command = true) :
    (session.perform command).session.isHalted = true := by
  cases command with
  | tick handle => exact (Bool.and_eq_true_iff.mp completed).2
  | runToCompletion maxSteps => exact (Bool.and_eq_true_iff.mp completed).2
  | _ => cases completed

/-- A command that replaces the program leaves no output, unless it fails to read a file. -/
theorem output_perform_of_replaces {session : Session} {command : Command}
    (replaces : command.keepsProgram = false) :
    (session.perform command).session = session ∨
      (session.perform command).session.output = noOutput := by
  have loaded (text : String) : (session.load text).session.output = noOutput := by
    cases verdict : (Program.read text).value with
    | error fault => rw [session_load_of_rejected verdict]; rfl
    | ok program => rw [session_load verdict]
  exact perform_of_replaces (fun after => after.output = noOutput) loaded rfl rfl replaces

/-- A new session, or one whose program has just been replaced, and commands that leave the
program in place from there on. -/
structure Opened (settings : Settings) (start : Session) (commands : List Command) : Prop where
  opening : start = new settings ∨ ∃ before command, Reachable settings before ∧
    command.keepsProgram = false ∧ start = (before.perform command).session
  blank : start.output = noOutput
  keep : ∀ command ∈ commands, command.keepsProgram = true

theorem Reachable.exists_opened {settings : Settings} {session : Session}
    (reachable : Reachable settings session) :
    ∃ start commands, Opened settings start commands ∧ start.performAll commands = session := by
  induction reachable with
  | new => exact ⟨_, [], ⟨.inl rfl, rfl, by simp⟩, rfl⟩
  | @perform session command reachable ih =>
      obtain ⟨start, commands, opened, rfl⟩ := ih
      cases keeps : command.keepsProgram with
      | true =>
          refine ⟨start, commands ++ [command], ⟨opened.opening, opened.blank, ?_⟩, ?_⟩
          · intro other member
            rcases List.mem_append.mp member with old | same
            · exact opened.keep other old
            · rwa [List.mem_singleton.mp same]
          · exact List.foldl_append
      | false =>
          rcases output_perform_of_replaces keeps with same | blank
          · -- a file that could not be read opens nothing
            rw [same]
            exact ⟨start, commands, opened, rfl⟩
          · exact ⟨_, [], ⟨.inr ⟨_, command, reachable, keeps, rfl⟩, blank, by simp⟩, rfl⟩

/-- What the output shows of a session that can be reached.  It goes back to a session without
output, and its output is that of the run completed last since then, if there is one.  From there
on it stays through all commands that leave the program in place, until one of them completes a
run by ending in the halt state.  A program that is replaced leaves no output. -/
theorem output_of_reachable (settings : Settings) (session : Session)
    (reachable : Reachable settings session) :
    (∃ start commands, Opened settings start commands ∧ start.performAll commands = session ∧
      session.snapshot.output =
        (start.lastCompleted? commands).elim noOutput fun ended => outputOf ended.sections) ∧
    (∀ commands : List Command, (∀ command ∈ commands, command.keepsProgram = true) →
      (session.performAll commands).snapshot.output =
        (session.lastCompleted? commands).elim session.snapshot.output
          fun ended => outputOf ended.sections) ∧
    (∀ (commands : List Command) (ended : Session),
      session.lastCompleted? commands = some ended →
        ended.isHalted = true ∧ ∃ before command, before ++ [command] <+: commands ∧
          (session.performAll before).completes command = true ∧
          ended = session.performAll (before ++ [command])) ∧
    ∀ command : Command, command.keepsProgram = false →
      (session.perform command).session = session ∨
        (session.perform command).session.snapshot.output = noOutput := by
  refine ⟨?_, fun _ => output_performAll, ?_, fun _ => output_perform_of_replaces⟩
  · obtain ⟨start, commands, opened, rfl⟩ := reachable.exists_opened
    have shown : (start.performAll commands).output = _ := output_performAll opened.keep
    rw [opened.blank] at shown
    exact ⟨start, commands, opened, rfl, shown⟩
  · intro commands ended last
    obtain ⟨before, command, front, completed, rfl⟩ := exists_performAll_of_lastCompleted last
    refine ⟨?_, before, command, front, completed, rfl⟩
    rw [performAll, List.foldl_append]
    exact isHalted_of_completes completed

/-- The output is left on display when the step into the halt state is undone. -/
theorem output_stepBack_relay :
    let session :=
      (new Settings.default).performAll [.load relayText, .runToCompletion 7, .stepBack]
    Reachable Settings.default session ∧ session.isHalted = false ∧
      session.snapshot.output = "1" ∧ session.snapshot.output ≠ noOutput := by
  intro session
  have loaded : ((new Settings.default).load relayText).session = _ :=
    session_load_relayText Settings.default
  have moves : (((new Settings.default).load relayText).session.performAll
      [.runToCompletion 7, .stepBack]).isHalted = false := by
    rw [loaded]
    cbv
  have shown : (((new Settings.default).load relayText).session.performAll
      [.runToCompletion 7, .stepBack]).snapshot.output = "1" := by
    rw [loaded]
    cbv
  refine ⟨Reachable.new.performAll _, moves, shown, ?_⟩
  change (((new Settings.default).load relayText).session.performAll
      [.runToCompletion 7, .stepBack]).snapshot.output ≠ noOutput
  rw [shown]
  decide

/-- The output stays while the machine is taken back and on again by single steps, and shows
what the next run comes to that is completed. -/
theorem output_of_reachable_relay :
    let session := relaySession.performAll [.runToCompletion 7, .stepBack]
    let commands : List Command := [.stepBack, .step, .step]
    Reachable { Settings.default with historyLimit := some 2 } session ∧
      session.snapshot.output = "1" ∧
      session.lastCompleted? commands = none ∧
      (session.performAll commands).snapshot.output = "1" ∧
      ∃ ended, session.lastCompleted? [.runToCompletion 7] = some ended ∧
        ended.isHalted = true ∧
        (session.performAll [.runToCompletion 7]).snapshot.output = outputOf ended.sections := by
  intro session commands
  have loaded : relaySession = _ :=
    session_load_relayText { Settings.default with historyLimit := some 2 }
  have reachable : Reachable { Settings.default with historyLimit := some 2 } session :=
    Reachable.new.performAll [.load relayText, .runToCompletion 7, .stepBack]
  have shown : (relaySession.performAll [.runToCompletion 7, .stepBack]).snapshot.output = "1" := by
    rw [loaded]
    cbv
  have never : session.lastCompleted? commands = none := by
    change (relaySession.performAll [.runToCompletion 7, .stepBack]).lastCompleted?
      [.stepBack, .step, .step] = none
    rw [loaded]
    cbv
  have completes : (session.lastCompleted? [.runToCompletion 7]).isSome = true := by
    change ((relaySession.performAll [.runToCompletion 7, .stepBack]).lastCompleted?
      [.runToCompletion 7]).isSome = true
    rw [loaded]
    cbv
  obtain ⟨ended, last⟩ := Option.isSome_iff_exists.mp completes
  obtain ⟨-, shows, completed, -⟩ := output_of_reachable _ session reachable
  have kept := shows commands (by decide)
  rw [never, Option.elim_none] at kept
  have again := shows [.runToCompletion 7] (by decide)
  rw [last, Option.elim_some] at again
  exact ⟨reachable, shown, never, kept.trans shown, ended, last, (completed _ _ last).1, again⟩

end Session
end TapeWorkbench
