import TapeWorkbench.Proofs.Freshness
import TapeWorkbench.Proofs.Splitting
import TapeWorkbench.Proofs.Stuck

/-!
# Emptied sessions

A session that is emptied shows what a new one shows, except that it stays ready if it was
(`Session.cleared_of_reachable`).  If it was not, then nothing can be executed until a text is
loaded.  If it was, the commands work on an empty tape as if a program were there: a run is
started, and a step finds the head out of bounds.
-/

namespace TapeWorkbench
namespace Session

/-- There is nothing to execute: the commands that would execute it have no effect, and no
listener is told of them. -/
structure Unloaded (session : Session) : Prop where
  run_eq : session.run = .silent session none
  step_eq : session.step = .silent session ()
  runToCompletion_eq (budget : Nat) :
    session.runToCompletion budget = .silent session (.error .nothingLoaded)

/-- That is so in the sessions that are not ready and in no others. -/
theorem unloaded_iff {session : Session} : Unloaded session ↔ session.ready = false := by
  constructor
  · intro unloaded
    by_contra loaded
    have ready : session.ready = true := by simpa using loaded
    have none : session.run.answer = none := by
      rw [unloaded.run_eq]
      rfl
    rw [answer_run ready] at none
    cases none
  · intro unready
    exact ⟨by simp [run, unready], by simp [step, unready],
      fun budget => by simp [runToCompletion, unready]⟩

theorem ready_perform_of_unready {session : Session} {command : Command}
    (unready : session.ready = false) (opens : command.opensProgram = false) :
    (session.perform command).session.ready = false := by
  cases command with
  | load | reset => cases opens
  | loadFile file =>
      cases file with
      | ok text => cases opens
      | error fault => exact unready
  | clear => exact unready
  | delete => rfl
  | _ => exact (maintained_program fun ready _ => ready = false).perform rfl unready

theorem ready_performAll_of_unready {session : Session} {commands : List Command}
    (unready : session.ready = false)
    (opens : ∀ command ∈ commands, command.opensProgram = false) :
    (session.performAll commands).ready = false := by
  induction commands generalizing session with
  | nil => exact unready
  | cons command commands ih =>
      rw [List.forall_mem_cons] at opens
      rw [performAll_cons]
      exact ih (ready_perform_of_unready unready opens.1) opens.2

/-- A paused session with the head at the first cell of an empty tape. -/
structure Blank (session : Session) : Prop where
  tape_eq : session.configuration.tape = #[]
  head_eq : session.configuration.head = 0
  paused : session.control.status = .paused

namespace Blank

variable {session : Session}

theorem cancelRun (blank : Blank session) : Blank session.cancelRun.value where
  tape_eq := blank.tape_eq
  head_eq := blank.head_eq
  paused := by simp [Session.cancelRun]

theorem snapshot_cancelRun (blank : Blank session) :
    session.cancelRun.value.snapshot = session.snapshot := by
  simp [Session.cancelRun, snapshot, blank.paused, configuration, listing]

/-- There is no cell under the head. -/
theorem attempt (blank : Blank session) :
    session.attempt.value.refusal = some .fault ∧
      session.attempt.value.session.snapshot =
        { session.snapshot with error := some (Fault.headOutOfBounds 0 0).message } := by
  have blocked : session.configuration.Blocked session.table (.headOutOfBounds 0 0) := by
    have off : session.configuration.tape.size ≤ session.configuration.head := by
      simp [blank.tape_eq]
    have noCell : session.configuration.Blocked session.table _ := .noCell off
    rwa [blank.head_eq, blank.tape_eq] at noCell
  have missing : session.configuration.instruction? session.table = none := by
    simp [Configuration.instruction?, Configuration.read?, blank.tape_eq]
  rw [Attempted.value_attempt (.stuck blocked.fault?_eq_some fun _ => missing)]
  refine ⟨rfl, ?_⟩
  simp [snapshot, blank.paused, configuration, listing]

theorem snapshot_step (blank : Blank session) (ready : session.ready = true) :
    session.step.session.snapshot =
      { session.snapshot with error := some (Fault.headOutOfBounds 0 0).message } := by
  rw [session_step ready]
  exact blank.attempt.2

theorem runToCompletion (blank : Blank session) (ready : session.ready = true)
    (moves : session.isHalted = false) (budget : Nat) :
    (session.runToCompletion (budget + 1)).answer = .ok .error ∧
      (session.runToCompletion (budget + 1)).session.snapshot =
        { session.snapshot with error := some (Fault.headOutOfBounds 0 0).message } := by
  constructor
  · rw [answer_eq_ending ready, ending_succ_of_refused moves blank.attempt.1]
    rfl
  · obtain ⟨refused, shown⟩ := blank.cancelRun.attempt
    have still : session.cancelRun.value.isHalted = false := moves
    rw [session_runToCompletion ready, driven_succ_of_refused still refused, shown,
      blank.snapshot_cancelRun]

end Blank

/-- What an emptied session shows: nothing but whether it is ready. -/
theorem snapshot_cleared {settings : Settings} {session : Session}
    (reachable : Reachable settings session) :
    session.cleared.value.snapshot = { (new settings).snapshot with ready := session.ready } := by
  rw [value_cleared_of_reachable reachable]
  rfl

theorem blank_cleared (session : Session) : Blank session.cleared.value := by
  rw [value_cleared, RunControl.value_reset]
  exact ⟨rfl, rfl, rfl⟩

/-- Emptying a session.  All that can be seen is then as in a new session with the same settings,
but for the readiness, which stays; the table and the history are empty, and no handle is live.
If the session was not ready, nothing can be executed any more until a text is loaded or there is
a reset.  If it was, then a run can be started on the empty tape, and a step or an unthrottled
run displays the fault that the head is out of bounds. -/
theorem cleared_of_reachable (settings : Settings) (session : Session)
    (reachable : Reachable settings session) :
    let emptied := session.clear.session
    emptied.snapshot = { (new settings).snapshot with ready := session.ready } ∧
      (emptied.snapshot = (new settings).snapshot ↔ session.ready = false) ∧
      emptied.table = .empty ∧ emptied.history.toList = [] ∧ emptied.control.Idle ∧
      (session.ready = false → ∀ commands : List Command,
        (∀ command ∈ commands, command.opensProgram = false) →
          Unloaded (emptied.performAll commands)) ∧
      (session.ready = true →
        (∃ handle, emptied.run.answer = some handle ∧
          emptied.run.session.control.liveHandle? = some handle) ∧
        emptied.step.session.snapshot =
          { emptied.snapshot with error := some (Fault.headOutOfBounds 0 0).message } ∧
        (settings.startState ≠ settings.haltState → ∀ budget,
          (emptied.runToCompletion (budget + 1)).answer = .ok .error ∧
            (emptied.runToCompletion (budget + 1)).session.snapshot =
              { emptied.snapshot with error := some (Fault.headOutOfBounds 0 0).message })) := by
  intro emptied
  have shown : emptied.snapshot = _ := snapshot_cleared reachable
  have blank : Blank emptied := blank_cleared session
  have idle : emptied.control.Idle := by
    apply RunControl.idle_of_paused
    simp [RunControl.isRunning, blank.paused]
  refine ⟨shown, ?_, rfl, rfl, idle, fun unready commands opens => ?_, fun ready => ?_⟩
  · rw [shown]
    constructor
    · intro same
      exact congrArg Snapshot.ready same
    · intro unready
      rw [unready]
      rfl
  · have still : emptied.ready = false := unready
    exact unloaded_iff.mpr (ready_performAll_of_unready still opens)
  · have still : emptied.ready = true := ready
    refine ⟨⟨_, answer_run still, ?_⟩, blank.snapshot_step still, fun moves budget => ?_⟩
    · have started : emptied.control.start.value = _ :=
        RunControl.value_start_of_paused (by simp [RunControl.isRunning, blank.paused])
      rw [session_run still, RunControl.liveHandle?_eq_some_iff, started]
      exact ⟨rfl, rfl⟩
    · have moving : emptied.isHalted = false := by
        have settings_eq : emptied.settings = settings := reachable.sound.settings_eq
        have state : emptied.configuration.state = emptied.settings.startState := rfl
        simp [isHalted, state, settings_eq, moves]
      exact blank.runToCompletion still moving budget

/-- A machine that was loaded is emptied.  A run can be started, and a step finds no cell.  A new
machine that is emptied, on the other hand, stays without a program. -/
theorem cleared_of_reachable_shuttle :
    let emptied := shuttleSession.clear.session
    Reachable Settings.default shuttleSession ∧ shuttleSession.ready = true ∧
      emptied.snapshot = { (new Settings.default).snapshot with ready := true } ∧
      (∃ handle, emptied.run.answer = some handle ∧
        emptied.run.session.control.liveHandle? = some handle) ∧
      emptied.step.session.snapshot.error = some (Fault.headOutOfBounds 0 0).message ∧
      (emptied.runToCompletion 1).answer = .ok .error ∧
      Unloaded
        ((new Settings.default).clear.session.performAll [.setSpeed 3, .run, .stepBack]) := by
  intro emptied
  have reachable : Reachable Settings.default shuttleSession :=
    Reachable.new.performAll [.load shuttleText]
  have loaded : shuttleSession = _ := session_load_shuttleText Settings.default
  have ready : shuttleSession.ready = true := by rw [loaded]
  obtain ⟨shown, -, -, -, -, -, acts⟩ := cleared_of_reachable Settings.default _ reachable
  obtain ⟨runs, stumbles, fails⟩ := acts ready
  obtain ⟨-, -, -, -, -, unloaded, -⟩ := cleared_of_reachable Settings.default _ .new
  refine ⟨reachable, ready, ?_, runs, ?_, (fails (by decide) 0).1,
    unloaded rfl [.setSpeed 3, .run, .stepBack] (by decide)⟩
  · rw [shown, ready]
  · rw [stumbles]

/-- Emptying a machine does not always take it back to a new one. -/
theorem snapshot_clear_ne_snapshot_new :
    ¬ ∀ (settings : Settings) (session : Session), Reachable settings session →
      session.clear.session.snapshot = (new settings).snapshot := by
  intro claimed
  have same := claimed Settings.default shuttleSession
    (Reachable.new.performAll [.load shuttleText])
  have ready : shuttleSession.clear.session.snapshot.ready = true := by
    have loaded : shuttleSession = _ := session_load_shuttleText Settings.default
    change shuttleSession.ready = true
    rw [loaded]
  rw [same] at ready
  cases ready

end Session
end TapeWorkbench
