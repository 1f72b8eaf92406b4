import TapeWorkbench.Proofs.Handles

/-!
# Loading forgets the past

What a session was before a text is loaded shows in two places only afterwards: in
the count of generations, and in those who listen.  A session that is older by some
generations and has other listeners behaves as if it were young: it gives the same
answers, but for handles that are older by as many generations, and the same
snapshots (`perform_aged`).  So nobody who presents the handles that were handed out
can tell the two apart.

The same holds for loading again the text that a ready session was loaded from, and
for forgetting the text.
-/

namespace TapeWorkbench

def RunControl.aged (lead : Nat) (control : RunControl) : RunControl :=
  { control with generation := control.generation + lead }

def RunHandle.aged (lead : Nat) (handle : RunHandle) : RunHandle :=
  { handle with generation := handle.generation + lead }

/-- The same command for a session that is older. -/
def Command.aged (lead : Nat) : Command → Command
  | .tick handle => .tick (handle.aged lead)
  | command => command

/-- The same answer from a session that is older. -/
def Answer.aged (lead : Nat) : Answer → Answer
  | .handle live => .handle (live.map (RunHandle.aged lead))
  | .speed result => .speed (result.map (Option.map (RunHandle.aged lead)))
  | answer => answer

/-- Does the command let listeners come or go? -/
def Command.concernsListeners : Command → Bool
  | .subscribe | .unsubscribe _ => true
  | _ => false

namespace RunControl

variable (lead : Nat) (control : RunControl)

@[simp] theorem isRunning_aged : (control.aged lead).isRunning = control.isRunning := rfl

@[simp] theorem handle_aged : (control.aged lead).handle = control.handle.aged lead := rfl

@[simp] theorem isLive_aged (handle : RunHandle) :
    (control.aged lead).isLive (handle.aged lead) = control.isLive handle := by
  have same : (handle.generation + lead == control.generation + lead) =
      (handle.generation == control.generation) := by
    rw [Bool.eq_iff_iff]
    simp
  simp only [isLive, isRunning_aged]
  exact congrArg (control.isRunning && ·) same

theorem liveHandle?_aged :
    (control.aged lead).liveHandle? = control.liveHandle?.map (RunHandle.aged lead) := by
  cases running : control.isRunning with
  | true => simp [liveHandle?, running]
  | false => simp [liveHandle?, running]

theorem value_cancel_aged : (control.aged lead).cancel.value = control.cancel.value.aged lead := by
  simp [aged, Nat.add_right_comm]

theorem value_reset_aged (speed : Nat) :
    ((control.aged lead).reset speed).value = (control.reset speed).value.aged lead := by
  simp [aged, Nat.add_right_comm]

theorem value_start_aged : (control.aged lead).start.value = control.start.value.aged lead := by
  have same := control.isRunning_aged lead
  cases running : control.isRunning with
  | true => rw [value_start_of_running running, value_start_of_running (same.trans running)]
  | false =>
      rw [value_start_of_paused running, value_start_of_paused (same.trans running)]
      simp [aged, Nat.add_right_comm]

end RunControl

namespace Session

/-- A session that is older by some generations and has other listeners. -/
def aged (lead : Nat) (listeners : List Nat) (nextListener : Nat) (session : Session) : Session :=
  { session with control := session.control.aged lead, listeners, nextListener }

section Aged

variable (lead : Nat) (listeners : List Nat) (nextListener : Nat) (session : Session)

theorem cancelRun_aged :
    (session.aged lead listeners nextListener).cancelRun.value =
      session.cancelRun.value.aged lead listeners nextListener := by
  simp [cancelRun, aged, RunControl.aged, Nat.add_right_comm]

theorem attempt_aged :
    (session.aged lead listeners nextListener).attempt.value =
      ⟨session.attempt.value.session.aged lead listeners nextListener,
        session.attempt.value.refusal⟩ := by
  have older := RunControl.value_cancel_aged lead session.control
  -- the reasons for what comes of an attempt are the same for the older session
  generalize came : session.attempt.value = attempt
  have reasons : Attempted session attempt := came ▸ attempted session
  cases reasons with
  | @stuck fault found before =>
      have twin : Attempted (session.aged lead listeners nextListener) _ := .stuck found before
      rw [twin.value_attempt]
      exact congrArg (fun control => (⟨{ session with
        fault := some fault, control, listeners, nextListener }, some .fault⟩ : Attempt)) older
  | held called stops =>
      have twin : Attempted (session.aged lead listeners nextListener) _ := .held called stops
      rw [twin.value_attempt]
      exact congrArg (fun control => (⟨{ session with
        control, listeners, nextListener }, some .breakpoint⟩ : Attempt)) older
  | stepped read found follows passes =>
      have twin : Attempted (session.aged lead listeners nextListener) _ :=
        .stepped read found follows passes
      rw [twin.value_attempt]
      rfl

theorem finish_aged :
    (session.aged lead listeners nextListener).finish.value =
      session.finish.value.aged lead listeners nextListener := by
  have older := RunControl.value_cancel_aged lead session.control
  simp only [finish, cancelRun, Logged.value_andThen, Logged.value_map, Logged.value_saying]
  simp only [aged, older]
  rfl

theorem attemptUpTo_aged (budget : Nat) :
    (attemptUpTo budget (session.aged lead listeners nextListener) #[]).value =
      ⟨(attemptUpTo budget session #[]).value.session.aged lead listeners nextListener,
        (attemptUpTo budget session #[]).value.refusal⟩ := by
  induction budget generalizing session with
  | zero => rfl
  | succ budget ih =>
      have same : (session.aged lead listeners nextListener).isHalted = session.isHalted := rfl
      cases halted : session.isHalted with
      | true => simp [attemptUpTo, same, halted]
      | false =>
          cases refused : session.attempt.value.refusal with
          | some refusal => simp [attemptUpTo, same, halted, attempt_aged, refused]
          | none =>
              simp only [attemptUpTo, same, halted, attempt_aged, refused, Bool.false_eq_true,
                if_false]
              -- the notices so far are not the same, but count for nothing
              rw [value_attemptUpTo, ih, value_attemptUpTo budget _ (#[] ++ _)]

theorem concludeRun_aged (maxSteps : Nat) (last : Attempt) :
    (concludeRun maxSteps ⟨last.session.aged lead listeners nextListener, last.refusal⟩).value =
      ((concludeRun maxSteps last).value.1.aged lead listeners nextListener,
        (concludeRun maxSteps last).value.2) := by
  obtain ⟨session, refusal⟩ := last
  have same : (session.aged lead listeners nextListener).isHalted = session.isHalted := rfl
  cases refusal with
  | some refusal => rfl
  | none =>
      cases halted : session.isHalted with
      | true => simp [concludeRun, same, halted, finish_aged]
      | false => simp [concludeRun, same, halted]

theorem driven_aged (budget : Nat) :
    (session.aged lead listeners nextListener).driven budget =
      (session.driven budget).aged lead listeners nextListener := by
  rw [driven, attemptUpTo_aged, concludeRun_aged]
  rfl

theorem cleared_aged :
    (session.aged lead listeners nextListener).cleared.value =
      session.cleared.value.aged lead listeners nextListener := by
  rw [value_cleared, value_cleared]
  simp [aged, RunControl.aged, Nat.add_right_comm, blankMoment]

end Aged

theorem answer_load_of_rejected {session : Session} {text : String} {fault : Fault}
    (rejected : (Program.read text).value = .error fault) :
    (session.load text).answer = .error fault := by
  simp [load, rejected, Reply.published]

/-- The result of loading depends on the text alone. -/
theorem answer_load_eq (first second : Session) (text : String) :
    (first.load text).answer = (second.load text).answer := by
  cases verdict : (Program.read text).value with
  | error fault => rw [answer_load_of_rejected verdict, answer_load_of_rejected verdict]
  | ok program => rw [answer_load verdict, answer_load verdict]

theorem answer_tick {session : Session} {handle : RunHandle}
    (live : session.control.isLive handle = true) :
    (session.tick handle).answer = (session.tick handle).session.control.isRunning := by
  simp [tick, live, Reply.published]

theorem answer_runToCompletion {session : Session} (ready : session.ready = true)
    (maxSteps : Nat) :
    (session.runToCompletion maxSteps).answer =
      .ok (concludeRun maxSteps
        (attemptUpTo maxSteps session.cancelRun.value #[]).value).value.2 := by
  simp only [runToCompletion, ready, if_true, Reply.published, Logged.value_andThen]
  rw [value_attemptUpTo]

section Aged

variable (lead : Nat) (listeners : List Nat) (nextListener : Nat) (session : Session)

/-- The reply of an older session, beside that of a young one: the session is as much
older as it was before, and so are the handles in the answer. -/
def Matches (older young : Reply Answer) : Prop :=
  older.session = young.session.aged lead listeners nextListener ∧
    older.answer = young.answer.aged lead

theorem matches_load (text : String) :
    Matches lead listeners nextListener
      (((session.aged lead listeners nextListener).load text).map .loaded)
      ((session.load text).map .loaded) := by
  refine ⟨?_, congrArg Answer.loaded (answer_load_eq _ session text)⟩
  change ((session.aged lead listeners nextListener).load text).session =
    (session.load text).session.aged lead listeners nextListener
  cases verdict : (Program.read text).value with
  | error fault =>
      rw [session_load_of_rejected verdict, session_load_of_rejected verdict, cleared_aged]
      rfl
  | ok program =>
      have older := RunControl.value_reset_aged lead session.control session.settings.defaultSpeed
      rw [session_load verdict, session_load verdict]
      simp only [aged] at older ⊢
      simp only [older]

theorem matches_reset :
    Matches lead listeners nextListener
      ((session.aged lead listeners nextListener).perform .reset) (session.perform .reset) := by
  have same : (session.aged lead listeners nextListener).programText = session.programText := rfl
  simp only [perform, reset, same]
  cases session.programText with
  | some text => exact matches_load lead listeners nextListener session text
  | none => exact ⟨cleared_aged lead listeners nextListener session, rfl⟩

theorem matches_step :
    Matches lead listeners nextListener
      ((session.aged lead listeners nextListener).perform .step) (session.perform .step) := by
  have same : (session.aged lead listeners nextListener).ready = session.ready := rfl
  simp only [perform, step, same]
  split
  · have attempted := attempt_aged lead listeners nextListener session
    exact ⟨congrArg Attempt.session attempted, rfl⟩
  · exact ⟨rfl, rfl⟩

theorem matches_stepBack :
    Matches lead listeners nextListener
      ((session.aged lead listeners nextListener).perform .stepBack)
      (session.perform .stepBack) := by
  refine ⟨?_, rfl⟩
  change (session.aged lead listeners nextListener).stepBack.session =
    session.stepBack.session.aged lead listeners nextListener
  have same : (session.aged lead listeners nextListener).history = session.history := rfl
  cases popped : session.history.pop? with
  | none => rw [session_stepBack_of_none popped, session_stepBack_of_none (same ▸ popped)]
  | some newest =>
      rw [session_stepBack popped, session_stepBack (same ▸ popped)]
      rfl

theorem matches_run :
    Matches lead listeners nextListener
      ((session.aged lead listeners nextListener).perform .run) (session.perform .run) := by
  have same : (session.aged lead listeners nextListener).ready = session.ready := rfl
  have older := RunControl.value_start_aged lead session.control
  simp only [perform, run, same]
  split
  · refine ⟨?_, ?_⟩
    · simp only [Reply.map, Reply.published, Logged.value_map]
      simp only [aged, older]
    · simp only [Reply.map, Reply.published, Logged.value_map]
      simp only [aged, older]
      rfl
  · exact ⟨rfl, rfl⟩

theorem matches_tick (handle : RunHandle) :
    Matches lead listeners nextListener
      ((session.aged lead listeners nextListener).perform (.tick (handle.aged lead)))
      (session.perform (.tick handle)) := by
  have same := session.control.isLive_aged lead handle
  have driven := driven_aged lead listeners nextListener session session.control.stepsPerTick
  cases live : session.control.isLive handle with
  | true =>
      have live' : (session.aged lead listeners nextListener).control.isLive
          (handle.aged lead) = true := same.trans live
      have moved :
          ((session.aged lead listeners nextListener).tick (handle.aged lead)).session =
            (session.tick handle).session.aged lead listeners nextListener := by
        rw [session_tick live, session_tick live']
        exact driven
      refine ⟨moved, ?_⟩
      change Answer.goOn _ = Answer.goOn _
      rw [answer_tick live, answer_tick live', moved]
      rfl
  | false =>
      have dead : (session.aged lead listeners nextListener).control.isLive
          (handle.aged lead) = false := same.trans live
      simp only [perform, tick, live, dead]
      exact ⟨rfl, rfl⟩

theorem matches_runToCompletion (maxSteps : Nat) :
    Matches lead listeners nextListener
      ((session.aged lead listeners nextListener).perform (.runToCompletion maxSteps))
      (session.perform (.runToCompletion maxSteps)) := by
  cases ready : session.ready with
  | true =>
      have ready' : (session.aged lead listeners nextListener).ready = true := ready
      refine ⟨?_, ?_⟩
      · change ((session.aged lead listeners nextListener).runToCompletion maxSteps).session =
          (session.runToCompletion maxSteps).session.aged lead listeners nextListener
        rw [session_runToCompletion ready, session_runToCompletion ready', cancelRun_aged,
          driven_aged]
      · change Answer.outcome _ = Answer.outcome _
        rw [answer_runToCompletion ready, answer_runToCompletion ready', cancelRun_aged,
          attemptUpTo_aged, concludeRun_aged]
  | false =>
      have unready : (session.aged lead listeners nextListener).ready = false := ready
      simp only [perform, runToCompletion, ready, unready]
      exact ⟨rfl, rfl⟩

theorem matches_setSpeed (speed : Nat) :
    Matches lead listeners nextListener
      ((session.aged lead listeners nextListener).perform (.setSpeed speed))
      (session.perform (.setSpeed speed)) := by
  by_cases valid : 0 < speed ∧ speed ≤ session.control.maxSpeed
  · obtain ⟨changed, accepted, value⟩ := RunControl.setSpeed_of_valid valid.1 valid.2
    obtain ⟨changed', accepted', value'⟩ :=
      (session.control.aged lead).setSpeed_of_valid valid.1 valid.2
    have older : changed'.value = changed.value.aged lead := by
      rw [value, value', RunControl.isRunning_aged]
      split
      · simp [RunControl.aged, Nat.add_right_comm]
      · rfl
    have accepted'' : (session.aged lead listeners nextListener).control.setSpeed speed =
      .ok changed' := accepted'
    simp only [perform, setSpeed, accepted, accepted'']
    refine ⟨?_, ?_⟩
    · simp only [Reply.map, Reply.published, Logged.value_map, older]
      rfl
    · simp only [Reply.map, Reply.published, older, RunControl.liveHandle?_aged]
      rfl
  · have refused := RunControl.setSpeed_of_invalid valid
    have refused' : (session.aged lead listeners nextListener).control.setSpeed speed =
      .error (.invalidSpeed speed) := RunControl.setSpeed_of_invalid valid
    simp only [perform, setSpeed, refused, refused']
    exact ⟨rfl, rfl⟩

theorem matches_setBreakpoint (index : Nat) :
    Matches lead listeners nextListener
      ((session.aged lead listeners nextListener).perform (.setBreakpoint index))
      (session.perform (.setBreakpoint index)) := by
  have same : (session.aged lead listeners nextListener).listing = session.listing := rfl
  simp only [perform, setBreakpoint, same]
  split
  · exact ⟨rfl, rfl⟩
  · exact ⟨rfl, rfl⟩

/-- An older session does what a young one does. -/
theorem perform_aged {command : Command} (silent : command.concernsListeners = false) :
    Matches lead listeners nextListener
      ((session.aged lead listeners nextListener).perform (command.aged lead))
      (session.perform command) := by
  cases command with
  | load text => exact matches_load lead listeners nextListener session text
  | loadFile file =>
      cases file with
      | ok text => exact matches_load lead listeners nextListener session text
      | error fault => exact ⟨rfl, rfl⟩
  | clear => exact ⟨cleared_aged lead listeners nextListener session, rfl⟩
  | reset => exact matches_reset lead listeners nextListener session
  | delete =>
      refine ⟨?_, rfl⟩
      change (session.aged lead listeners nextListener).delete.session =
        session.delete.session.aged lead listeners nextListener
      rw [session_delete, session_delete, cleared_aged]
      rfl
  | step => exact matches_step lead listeners nextListener session
  | stepBack => exact matches_stepBack lead listeners nextListener session
  | run => exact matches_run lead listeners nextListener session
  | tick handle => exact matches_tick lead listeners nextListener session handle
  | runToCompletion maxSteps =>
      exact matches_runToCompletion lead listeners nextListener session maxSteps
  | pause => exact ⟨cancelRun_aged lead listeners nextListener session, rfl⟩
  | setSpeed speed => exact matches_setSpeed lead listeners nextListener session speed
  | setBreakpoint index => exact matches_setBreakpoint lead listeners nextListener session index
  | subscribe | unsubscribe listener => simp [Command.concernsListeners] at silent

end Aged

/-! ## What can be told apart -/

/-- What can be seen of a session while commands are carried out: the answer to each,
and the snapshot after it. -/
def transcript (session : Session) : List Command → List (Answer × Snapshot)
  | [] => []
  | command :: rest =>
    let reply := session.perform command
    (reply.answer, reply.session.snapshot) :: reply.session.transcript rest

/-- The first session cannot be told apart from the second, by those who present to it
the handles that it hands out: they are those of the second one, but older. -/
structure Indistinguishable (lead : Nat) (older young : Session) : Prop where
  snapshot_eq : older.snapshot = young.snapshot
  table_eq : older.table = young.table
  history_eq : older.history = young.history
  transcript_eq (commands : List Command)
    (silent : ∀ command ∈ commands, command.concernsListeners = false) :
    older.transcript (commands.map (Command.aged lead)) =
      (young.transcript commands).map fun (answer, snapshot) => (answer.aged lead, snapshot)

theorem transcript_aged (lead : Nat) (listeners : List Nat) (nextListener : Nat)
    (session : Session) {commands : List Command}
    (silent : ∀ command ∈ commands, command.concernsListeners = false) :
    (session.aged lead listeners nextListener).transcript (commands.map (Command.aged lead)) =
      (session.transcript commands).map fun (answer, snapshot) =>
        (answer.aged lead, snapshot) := by
  induction commands generalizing session with
  | nil => rfl
  | cons command commands ih =>
      rw [List.forall_mem_cons] at silent
      obtain ⟨moved, answered⟩ := perform_aged lead listeners nextListener session silent.1
      simp only [List.map_cons, transcript, moved, answered]
      rw [ih _ silent.2]
      rfl

theorem indistinguishable_aged (lead : Nat) (listeners : List Nat) (nextListener : Nat)
    (session : Session) :
    Indistinguishable lead (session.aged lead listeners nextListener) session where
  snapshot_eq := rfl
  table_eq := rfl
  history_eq := rfl
  transcript_eq _ silent := transcript_aged lead listeners nextListener session silent

/-! ## What was there before -/

theorem Reachable.tuned {settings : Settings} {session : Session}
    (reachable : Reachable settings session) :
    session.control.maxSpeed = settings.maxSpeed ∧
      session.control.burstSteps = settings.burstSteps := by
  induction reachable with
  | new => exact ⟨rfl, rfl⟩
  | @perform session command _ ih =>
      obtain ⟨fastest, burst⟩ := (turns_perform session command).tuned
      exact ⟨fastest.trans ih.1, burst.trans ih.2⟩

/-- An emptied session is a new one that is older, but for what it keeps. -/
theorem value_cleared_of_reachable {settings : Settings} {session : Session}
    (reachable : Reachable settings session) :
    session.cleared.value =
      { (new settings).aged (session.control.generation + 1) session.listeners
          session.nextListener with
        ready := session.ready
        programText := session.programText } := by
  have sound := reachable.sound
  obtain ⟨fastest, burst⟩ := reachable.tuned
  rw [value_cleared, RunControl.value_reset, sound.settings_eq, fastest, burst, History.clear,
    sound.limit_eq]
  simp [aged, RunControl.aged, new, RunControl.atSpeed]

theorem delete_of_reachable {settings : Settings} {session : Session}
    (reachable : Reachable settings session) :
    session.delete.session =
      (new settings).aged (session.control.generation + 1) session.listeners
        session.nextListener := by
  rw [session_delete, value_cleared_of_reachable reachable]
  rfl

theorem load_of_reachable {settings : Settings} {session : Session}
    (reachable : Reachable settings session) (text : String) :
    (session.load text).session =
      ((new settings).load text).session.aged session.control.generation session.listeners
        session.nextListener := by
  cases verdict : (Program.read text).value with
  | error fault =>
      have emptied := value_cleared_of_reachable reachable
      have fresh := value_cleared_of_reachable (Reachable.new : Reachable settings _)
      rw [session_load_of_rejected verdict, session_load_of_rejected verdict, emptied, fresh]
      simp [aged, RunControl.aged, new, RunControl.atSpeed, Nat.add_comm]
  | ok program =>
      have sound := reachable.sound
      obtain ⟨fastest, burst⟩ := reachable.tuned
      rw [session_load verdict, session_load verdict, RunControl.value_reset,
        RunControl.value_reset, sound.settings_eq, fastest, burst, History.clear, sound.limit_eq]
      simp [aged, RunControl.aged, new, RunControl.atSpeed, Nat.add_comm, History.clear,
        History.empty]

/-- A session that is ready has kept a text that is a program. -/
def KeepsProgram (session : Session) : Prop :=
  session.ready = true → ∃ text program, session.programText = some text ∧
    (Program.read text).value = .ok program

theorem lasting_keepsProgram (settings : Settings) : Lasting settings KeepsProgram where
  toMaintained := maintained_program fun ready kept =>
    ready = true → ∃ text program, kept = some text ∧ (Program.read text).value = .ok program
  initial ready := by cases ready
  loaded text _ := by
    cases verdict : (Program.read text).value with
    | error fault =>
        rw [session_load_of_rejected verdict]
        intro ready
        cases ready
    | ok program =>
        rw [session_load verdict]
        exact fun _ => ⟨text, program, rfl, verdict⟩
  emptied keeps := keeps
  deleted _ ready := by cases ready

end Session

/-- The text that is kept after a command, if `kept` was kept before. -/
def Command.textAfter (kept : Option String) : Command → Option String
  | .load text => some text
  | .loadFile (.ok text) => some text
  | .delete => none
  | _ => kept

/-- The text that commands loaded last, unless it was forgotten again. -/
def Command.lastText (commands : List Command) : Option String :=
  commands.foldl Command.textAfter none

namespace Session

theorem programText_load (session : Session) (text : String) :
    (session.load text).session.programText = some text := by
  cases verdict : (Program.read text).value with
  | error fault => rw [session_load_of_rejected verdict]
  | ok program => rw [session_load verdict]

theorem programText_perform (session : Session) (command : Command) :
    (session.perform command).session.programText = command.textAfter session.programText := by
  cases command with
  | load text => exact programText_load session text
  | loadFile file =>
      cases file with
      | ok text => exact programText_load session text
      | error fault => rfl
  | clear => rfl
  | reset =>
      change session.reset.session.programText = session.programText
      unfold reset
      split
      · rename_i text kept
        rw [kept]
        exact programText_load session text
      · rfl
  | delete => rfl
  | _ => exact (maintained_program fun _ kept => kept = session.programText).perform rfl rfl

theorem programText_performAll (session : Session) (commands : List Command) :
    (session.performAll commands).programText =
      commands.foldl Command.textAfter session.programText := by
  induction commands generalizing session with
  | nil => rfl
  | cons command commands ih =>
      rw [performAll_cons, ih, programText_perform]
      rfl

/-- Loading forgets the past.  Whatever was done with a machine before, a text that is
loaded gives the result that it gives on a new machine, and leaves a machine that cannot
be told apart from that one, with an empty history.  A machine that is ready can be
reset, and cannot be told apart then from a new one into which the text of its last load
was loaded; and one that is told to forget its text cannot be told apart from a new one
into which nothing was loaded. -/
theorem indistinguishable_of_load (settings : Settings) (past : List Command) :
    let session := (new settings).performAll past
    (∀ text,
        (session.load text).answer = ((new settings).load text).answer ∧
        (session.load text).session.history.toList = [] ∧
        ∃ lead, Indistinguishable lead (session.load text).session
          ((new settings).load text).session) ∧
      (session.ready = true → ∃ text, Command.lastText past = some text ∧
        session.reset.answer = .ok () ∧
        ∃ lead, Indistinguishable lead session.reset.session
          ((new settings).load text).session) ∧
      (∃ lead, Indistinguishable lead session.delete.session (new settings)) ∧
      session.delete.session.reset.answer = .error .nothingLoaded := by
  intro session
  have reachable : Reachable settings session := Reachable.new.performAll past
  have loaded (text : String) : ∃ lead, Indistinguishable lead (session.load text).session
      ((new settings).load text).session := by
    rw [load_of_reachable reachable text]
    exact ⟨_, indistinguishable_aged _ _ _ _⟩
  refine ⟨fun text => ⟨answer_load_eq _ _ text, ?_, loaded text⟩, fun ready => ?_, ?_, rfl⟩
  · rw [load_of_reachable reachable text]
    cases verdict : (Program.read text).value with
    | error fault =>
        rw [session_load_of_rejected verdict]
        rfl
    | ok program =>
        rw [session_load verdict]
        rfl
  · obtain ⟨text, program, kept, verdict⟩ :=
      (lasting_keepsProgram settings).of_reachable reachable ready
    have last : Command.lastText past = some text := by
      rw [← kept]
      exact (programText_performAll (new settings) past).symm
    have again : session.reset = session.load text := by simp [reset, kept]
    rw [again]
    exact ⟨text, last, answer_load verdict, loaded text⟩
  · rw [delete_of_reachable reachable]
    exact ⟨_, indistinguishable_aged _ _ _ _⟩

end Session
end TapeWorkbench
