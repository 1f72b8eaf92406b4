import TapeWorkbench.Proofs.Forgetting

/-!
# What failures leave behind

A command can fail in one of two ways.  Changes of speed, flips of a breakpoint, unthrottled runs
and files that cannot be read fail in place: nothing has happened, and no listener is told.  A text
that is no program, on the other hand, takes the place of what was loaded before.  The machine is
left empty, with the fault on display, and a reset meets the same fault for as long as no other
text comes (`Session.failures_of_reachable`).
-/

namespace TapeWorkbench

/-- The fault that an answer reports, if it reports one. -/
def Answer.fault? : Answer → Option Fault
  | .loaded (.error fault) => some fault
  | .outcome (.error fault) => some fault
  | .speed (.error fault) => some fault
  | .breakpoint (.error fault) => some fault
  | _ => none

namespace Command

/-- Does a failure of the command leave everything as it was? -/
def failsInPlace : Command → Bool
  | .setSpeed _ | .setBreakpoint _ | .runToCompletion _ | .loadFile (.error _) => true
  | _ => false

/-- Does the command leave the text alone that a reset loads? -/
def keepsText : Command → Bool
  | .load _ | .loadFile (.ok _) | .delete => false
  | _ => true

theorem textAfter_of_keepsText {command : Command} (keeps : command.keepsText = true)
    (kept : Option String) : command.textAfter kept = kept := by
  cases command with
  | load | delete => cases keeps
  | loadFile file =>
      cases file with
      | ok text => cases keeps
      | error fault => rfl
  | _ => rfl

theorem foldl_textAfter_of_keepsText {commands : List Command}
    (keep : ∀ command ∈ commands, command.keepsText = true) (kept : Option String) :
    commands.foldl textAfter kept = kept := by
  induction commands with
  | nil => rfl
  | cons command commands ih =>
      rw [List.forall_mem_cons] at keep
      rw [List.foldl_cons, textAfter_of_keepsText keep.1, ih keep.2]

end Command

namespace Session

/-- A command that fails in place does nothing at all. -/
theorem perform_of_failsInPlace {session : Session} {command : Command} {fault : Fault}
    (inPlace : command.failsInPlace = true)
    (failed : (session.perform command).answer.fault? = some fault) :
    session.perform command = .silent session (session.perform command).answer := by
  cases command with
  | setSpeed speed =>
      simp only [perform, setSpeed] at failed ⊢
      cases changed : session.control.setSpeed speed with
      | error fault => rfl
      | ok control => simp [changed, Reply.map, Reply.published, Answer.fault?] at failed
  | setBreakpoint index =>
      simp only [perform, setBreakpoint] at failed ⊢
      cases toggled : session.listing.toggleBreakpoint? index with
      | none => rfl
      | some flipped => simp [toggled, Reply.map, Reply.published, Answer.fault?] at failed
  | runToCompletion maxSteps =>
      simp only [perform, runToCompletion] at failed ⊢
      cases ready : session.ready with
      | false => rfl
      | true => simp [ready, Reply.map, Reply.published, Answer.fault?] at failed
  | loadFile file =>
      cases file with
      | error fault => rfl
      | ok text => cases inPlace
  | _ => cases inPlace

/-- A session into which a text was loaded that is no program. -/
structure Rejected (settings : Settings) (fault : Fault) (session : Session) : Prop where
  snapshot_eq : session.snapshot =
    { tape := #[]
      head := 0
      state := settings.startState
      stepCount := 0
      ready := false
      status := .paused
      speed := settings.defaultSpeed
      error := some fault.message
      source := ""
      currentInstruction := ""
      output := "?"
      sections := []
      assembly := []
      currentBlock := 0 }
  table_eq : session.table = .empty
  history_eq : session.history.toList = []
  idle : session.control.Idle

theorem rejected_load {session : Session} {text : String} {fault : Fault}
    (rejected : (Program.read text).value = .error fault) :
    Rejected session.settings fault (session.load text).session := by
  rw [session_load_of_rejected rejected, value_cleared, RunControl.value_reset]
  exact ⟨rfl, rfl, rfl, RunControl.idle_of_paused rfl⟩

theorem read_of_failed_load {session : Session} {text : String} {fault : Fault}
    (failed : (Answer.loaded (session.load text).answer).fault? = some fault) :
    (Program.read text).value = .error fault := by
  cases verdict : (Program.read text).value with
  | ok program =>
      rw [answer_load verdict] at failed
      cases failed
  | error other =>
      rw [answer_load_of_rejected verdict] at failed
      exact congrArg _ (Option.some.inj failed)

/-- What failures leave behind.  A change of speed, a flip of a breakpoint or an unthrottled run
that fails, and a file that cannot be read, leave the session as it is, tell no listener and give
no notice, even in the middle of a run.  A text that is loaded and is no program leaves the machine
empty, not ready, and paused at the default speed, with the fault on display; and from then on each
reset does the same, whatever else is done, until another text is loaded or the text is deleted. -/
theorem failures_of_reachable (settings : Settings) (session : Session)
    (reachable : Reachable settings session) :
    (∀ command fault, command.failsInPlace = true →
        (session.perform command).answer.fault? = some fault →
        session.perform command = .silent session (session.perform command).answer) ∧
      ∀ command text fault, session.textLoadedBy? command = some text →
        (session.perform command).answer.fault? = some fault →
        Rejected settings fault (session.perform command).session ∧
          ∀ commands : List Command, (∀ later ∈ commands, later.keepsText = true) →
            let later := (session.perform command).session.performAll commands
            later.reset.answer = .error fault ∧ Rejected settings fault later.reset.session := by
  refine ⟨fun command fault => perform_of_failsInPlace, fun command text fault loads failed => ?_⟩
  have opened : session.perform command = (session.load text).map .loaded := perform_eq_load loads
  rw [opened] at failed
  have rejected := read_of_failed_load failed
  -- every session that can be reached keeps its settings, so the default speed is always the same
  have left {after : Session} (reached : Reachable settings after) :
      Rejected settings fault (after.load text).session := by
    rw [← reached.sound.settings_eq]
    exact rejected_load rejected
  refine ⟨?_, fun commands keep => ?_⟩
  · rw [opened]
    exact left reachable
  · intro later
    have kept : later.programText = some text := by
      unfold later
      rw [programText_performAll, Command.foldl_textAfter_of_keepsText keep, opened]
      exact programText_load session text
    have again : later.reset = later.load text := by simp [reset, kept]
    rw [again]
    exact ⟨answer_load_of_rejected rejected,
      left ((reachable.perform command).performAll commands)⟩

/-- In the middle of a run, a speed of zero changes nothing, and a tape with a letter on it takes
the place of the program.  Neither a new start nor emptying the machine helps a reset then. -/
theorem failures_of_reachable_shuttle :
    let session := shuttleSession.performAll [.run]
    let fault := Fault.illFormedText ⟨1, 3, "1 x", "  ", "EOI or cell"⟩
    let later := (session.perform (.load "1 x")).session.performAll [.run, .clear]
    Reachable Settings.default session ∧ session.control.isRunning = true ∧
      session.perform (.setSpeed 0) = .silent session (.speed (.error (.invalidSpeed 0))) ∧
      Rejected Settings.default fault (session.perform (.load "1 x")).session ∧
      later.reset.answer = .error fault := by
  intro session fault later
  have reachable : Reachable Settings.default session :=
    Reachable.new.performAll [.load shuttleText, .run]
  have running : session.control.isRunning = true := by
    have loaded : shuttleSession = _ := session_load_shuttleText Settings.default
    unfold session
    rw [loaded]
    cbv
  have failed : (session.perform (.load "1 x")).answer.fault? = some fault := by
    have rejected : (Program.read "1 x").value = .error fault := by cbv
    change (Answer.loaded (session.load "1 x").answer).fault? = some fault
    rw [answer_load_of_rejected rejected]
    rfl
  obtain ⟨inPlace, loads⟩ := failures_of_reachable Settings.default session reachable
  obtain ⟨left, resets⟩ := loads (.load "1 x") "1 x" fault rfl failed
  have refused := inPlace (.setSpeed 0) (.invalidSpeed 0) rfl rfl
  exact ⟨reachable, running, refused, left, (resets [.run, .clear] (by decide)).1⟩

end Session
end TapeWorkbench
