import TapeWorkbench.Proofs.Delivery
import TapeWorkbench.Proofs.ExitCode
import TapeWorkbench.Proofs.Fitting

/-!
# Standard output with JSON

Where JSON is asked for, the indented form of the final snapshot ends the standard output.  All
that can stand in front of it are the lines of a run that is watched.  Without them the whole
output is the snapshot, and can be read back as it; with them nothing can be read from it
(`CommandLine.stdout_of_json`).
-/

namespace TapeWorkbench

/-- A line of a run that is watched begins with no JSON value. -/
theorem Json.read?_of_step {text : String} {rest : List Char}
    (begins : text.toList = 'S' :: rest) : Json.read? text = none := by
  simp [read?, begins, readValue, skipSpace, isSpace, readNumber, readWhole, readDigits,
    Decimal.isDigit]

theorem Command.concernsListeners_of_isExecution {command : Command}
    (executes : command.isExecution = true) : command.concernsListeners = false := by
  cases command with
  | step | run | tick _ | runToCompletion _ | pause | setSpeed _ => rfl
  | _ => cases executes

namespace CommandLine

open Session
open JsonForm (toJson)

/-! ## What is written on the way -/

/-- What every command that executes the program keeps, of the session and of what is written on
standard output. -/
def Carried (property : Session → String → Prop) : Prop :=
  ∀ (session : Session) (written : String) (command : Command), command.isExecution = true →
    property session written →
      property (session.perform command).session
        (written ++ watchedLines (session.perform command))

section Carried

variable {property : Session → String → Prop}

theorem Carried.driveTimed (carried : Carried property) (remaining : Nat) {progress : Progress}
    (holds : property progress.session progress.transcript.stdout) :
    property (progress.driveTimed remaining).session
      (progress.driveTimed remaining).transcript.stdout := by
  induction remaining generalizing progress with
  | zero =>
      cases running : progress.session.control.isRunning with
      | false => rwa [driveTimed_of_paused running]
      | true =>
          rw [driveTimed_zero running]
          exact carried _ _ .pause rfl holds
  | succ remaining ih =>
      cases running : progress.session.control.isRunning with
      | false => rwa [driveTimed_of_paused running]
      | true =>
          rw [driveTimed_succ running]
          exact ih (carried _ _ (.tick progress.session.control.handle) rfl holds)

/-- With JSON, the run itself writes nothing on standard output but what the listeners do. -/
theorem Carried.finished (carried : Carried property) {options : Options}
    (json : options.json = true) (elapsed : String) {session : Session}
    (run : property session.run.session (watchedLines session.run))
    (complete : ∀ maxSteps, property (session.runToCompletion maxSteps).session
      (watchedLines (session.runToCompletion maxSteps))) :
    property (finished options elapsed session).session
      (finished options elapsed session).transcript.stdout := by
  have nothing (text : String) : (Transcript.empty.out text).stdout = text := String.empty_append
  cases unthrottled : options.unthrottled with
  | true =>
      have last := complete (stepBudget options session)
      rw [← nothing (watchedLines _)] at last
      simp only [CommandLine.finished, unthrottled, json, if_true]
      exact last
  | false =>
      rw [← nothing (watchedLines _)] at run
      simp only [CommandLine.finished, unthrottled, Bool.false_eq_true, if_false]
      exact carried.driveTimed options.tickLimit run

end Carried

/-- Nobody listens, and nothing is written. -/
def Unwatched (session : Session) (written : String) : Prop :=
  session.listeners = [] ∧ written = ""

/-- Somebody listens, and a line has been written for each snapshot that was seen. -/
def Watched (session : Session) (written : String) : Prop :=
  ∃ listener earlier, session.listeners = [listener] ∧
    written = String.join ((earlier ++ [session.snapshot]).map progressLine)

theorem listeners_perform_of_isExecution (session : Session) {command : Command}
    (executes : command.isExecution = true) :
    (session.perform command).session.listeners = session.listeners :=
  (listeners_perform session (Command.concernsListeners_of_isExecution executes)).1

theorem watchedLines_of_deliveries {α : Type} {reply : Reply α}
    (told : reply.deliveries = reply.session.deliveries) :
    watchedLines reply =
      String.join (reply.session.listeners.map fun _ => progressLine reply.session.snapshot) := by
  rw [watchedLines, told, Session.deliveries, List.map_map]
  rfl

theorem carried_unwatched : Carried Unwatched := by
  rintro session written command executes ⟨nobody, rfl⟩
  have stays := (listeners_perform_of_isExecution session executes).trans nobody
  refine ⟨stays, ?_⟩
  rcases announced_perform session (Command.concernsListeners_of_isExecution executes) with
    told | ⟨untold, -⟩
  · rw [watchedLines_of_deliveries told, stays]
    rfl
  · rw [watchedLines, untold]
    rfl

theorem carried_watched : Carried Watched := by
  rintro session written command executes ⟨listener, earlier, alone, rfl⟩
  have stays := (listeners_perform_of_isExecution session executes).trans alone
  rcases announced_perform session (Command.concernsListeners_of_isExecution executes) with
    told | ⟨untold, same⟩
  · refine ⟨listener, earlier ++ [session.snapshot], stays, ?_⟩
    rw [watchedLines_of_deliveries told, stays]
    simp [String.append_assoc]
  · refine ⟨listener, earlier, stays, ?_⟩
    rw [watchedLines, untold, same]
    exact String.append_empty

theorem watched_of_deliveries {α : Type} {reply : Reply α} {listener : Nat}
    (alone : reply.session.listeners = [listener])
    (told : reply.deliveries = reply.session.deliveries) :
    Watched reply.session (watchedLines reply) := by
  refine ⟨listener, [], alone, ?_⟩
  rw [watchedLines_of_deliveries told, alone]
  rfl

theorem deliveries_run {session : Session} (ready : session.ready = true) :
    session.run.deliveries = session.run.session.deliveries := by
  simp [run, ready, Reply.published]

theorem deliveries_runToCompletion {session : Session} (ready : session.ready = true)
    (maxSteps : Nat) :
    (session.runToCompletion maxSteps).deliveries =
      (session.runToCompletion maxSteps).session.deliveries := by
  simp [runToCompletion, ready, Reply.published]

theorem carried_reachable (settings : Settings) :
    Carried fun session _ => Reachable settings session :=
  fun _ _ command _ reachable => reachable.perform command

section Finished

variable {options : Options} {settings : Settings} {program : Program} {session : Session}
  (json : options.json = true) (elapsed : String)
include json

theorem reachable_finished (reachable : Reachable settings session) :
    Reachable settings (finished options elapsed session).session :=
  (carried_reachable settings).finished json elapsed (reachable.perform .run)
    fun maxSteps => reachable.perform (.runToCompletion maxSteps)

theorem unwatched_finished (opened : Opened options settings program session)
    (unasked : options.debug = false) :
    (finished options elapsed session).transcript.stdout = "" := by
  have begun : Unwatched session "" := ⟨by rw [opened.listeners_eq, unasked]; rfl, rfl⟩
  have run := carried_unwatched _ _ .run rfl begun
  have complete := fun maxSteps => carried_unwatched _ _ (.runToCompletion maxSteps) rfl begun
  simp only [String.empty_append] at run complete
  exact (carried_unwatched.finished json elapsed run complete).2

theorem watched_finished (opened : Opened options settings program session)
    (asked : options.debug = true) :
    Watched (finished options elapsed session).session
      (finished options elapsed session).transcript.stdout := by
  have alone : session.listeners = [0] := by rw [opened.listeners_eq, asked]; rfl
  -- the session is ready, so the first command is published and puts the first line out
  have stays (command : Command) (executes : command.isExecution = true) :
      (session.perform command).session.listeners = [0] :=
    (listeners_perform_of_isExecution session executes).trans alone
  have run : session.run.session.listeners = [0] := stays .run rfl
  refine carried_watched.finished json elapsed
    (watched_of_deliveries run (deliveries_run opened.ready)) fun maxSteps => ?_
  have complete : (session.runToCompletion maxSteps).session.listeners = [0] :=
    stays (.runToCompletion maxSteps) rfl
  exact watched_of_deliveries complete (deliveries_runToCompletion opened.ready maxSteps)

end Finished

/-! ## What can be read from it -/

theorem exists_toList_progressLine (snapshot : Snapshot) :
    ∃ rest, (progressLine snapshot).toList = 'S' :: rest := by
  have step : "Step: ".toList = 'S' :: "tep: ".toList := by decide
  simp only [progressLine, String.toList_append, step, List.cons_append]
  exact ⟨_, rfl⟩

theorem exists_toList_join_progressLine (earlier : List Snapshot) (last : Snapshot) :
    ∃ rest, (String.join ((earlier ++ [last]).map progressLine)).toList = 'S' :: rest := by
  cases earlier with
  | nil =>
      obtain ⟨rest, begins⟩ := exists_toList_progressLine last
      exact ⟨rest, begins⟩
  | cons first earlier =>
      obtain ⟨rest, begins⟩ := exists_toList_progressLine first
      rw [List.cons_append, List.map_cons, String.join_cons, String.toList_append, begins]
      exact ⟨_, rfl⟩

/-- Settings that are there to be used are sound, and their numbers fit. -/
theorem Configured.sound {options : Options} {sources : Sources} {settings : Settings}
    (configured : Configured options sources settings) :
    settings.defect? = none ∧ settings.Fits := by
  cases configured with
  | default _ => exact ⟨rfl, Settings.fits_default⟩
  | read _ _ accepted => exact ⟨Settings.defect?_of_read accepted, Settings.fits_of_read accepted⟩

section Shown

variable {options : Options} {sources : Sources} {settings : Settings} {text : String}
  {program : Program} (json : options.json = true)
  (admitted : Admitted options sources settings text program) (elapsed : String)
include json admitted

theorem stdout_of_unwatched (unasked : options.debug = false) :
    (Outcome.ofResult (execute options sources elapsed)).transcript.stdout =
      Json.indented
        (toJson (finished options elapsed (opened options settings text)).session.snapshot) ++
        "\n" := by
  have silent := unwatched_finished json elapsed (opened_of_admitted admitted) unasked
  rw [execute_of_admitted admitted elapsed]
  simp only [Outcome.ofResult, Transcript.out, silent, String.empty_append, finalText, json,
    if_true]

theorem stdout_of_watched (asked : options.debug = true) :
    ∃ earlier, (Outcome.ofResult (execute options sources elapsed)).transcript.stdout =
      String.join ((earlier ++
          [(finished options elapsed (opened options settings text)).session.snapshot]).map
        progressLine) ++
        (Json.indented
          (toJson (finished options elapsed (opened options settings text)).session.snapshot) ++
          "\n") := by
  obtain ⟨listener, earlier, -, seen⟩ :=
    watched_finished json elapsed (opened_of_admitted admitted) asked
  refine ⟨earlier, ?_⟩
  rw [execute_of_admitted admitted elapsed]
  simp only [Outcome.ofResult, Transcript.out, seen, finalText, json, if_true]

/-- What is written for a listener keeps the whole from being JSON. -/
theorem read?_stdout_of_watched (asked : options.debug = true) :
    Json.read? (Outcome.ofResult (execute options sources elapsed)).transcript.stdout = none := by
  obtain ⟨earlier, written⟩ := stdout_of_watched json admitted elapsed asked
  obtain ⟨rest, begins⟩ := exists_toList_join_progressLine earlier
    (finished options elapsed (opened options settings text)).session.snapshot
  rw [written]
  apply Json.read?_of_step
  rw [String.toList_append, begins]
  rfl

end Shown

/-- Whatever the options say besides, with JSON the last thing on standard output is the snapshot
of the session that the run leaves behind, and a line feed.  If the run is not watched there is
nothing else: the output is one JSON value, and the snapshot is read back from it as long as its
steps, of which there are no more than the run may take, can be counted.  If the run is watched,
the lines of the snapshots that were seen stand in front, the last of which shows the final
snapshot too, and nothing can be read. -/
theorem stdout_of_json {options : Options} {sources : Sources} {settings : Settings} {text : String}
    {program : Program} (json : options.json = true)
    (admitted : Admitted options sources settings text program) (elapsed : String) :
    let outcome := Outcome.ofResult (execute options sources elapsed)
    let stdout := outcome.transcript.stdout
    let last := (finished options elapsed (opened options settings text)).session
    Reachable settings last ∧ last.moment.stepCount ≤ allowance options settings ∧
      outcome.exit = exitCode last ∧
      (options.debug = false →
        stdout = Json.indented (toJson last.snapshot) ++ "\n" ∧
        Json.read? stdout = some (toJson last.snapshot) ∧
        (last.moment.stepCount < JsonForm.sizeBound →
          JsonForm.read? Snapshot stdout = some last.snapshot)) ∧
      (options.debug = true →
        (∃ earlier, stdout = String.join ((earlier ++ [last.snapshot]).map progressLine) ++
          (Json.indented (toJson last.snapshot) ++ "\n")) ∧
        Json.read? stdout = none) := by
  intro outcome stdout last
  have reachable : Reachable settings last :=
    reachable_finished json elapsed (reachable_opened options settings text)
  have exits : outcome.exit = exitCode last := by
    unfold outcome
    rw [execute_of_admitted admitted elapsed]
    rfl
  have counted := stepCount_finished_le (opened_of_admitted admitted) elapsed
  refine ⟨reachable, counted, exits, fun unasked => ?_, fun asked => ?_⟩
  · have written : stdout = _ := stdout_of_unwatched json admitted elapsed unasked
    have value : Json.read? stdout = some (toJson last.snapshot) := by
      rw [written]
      exact Json.read?_indented_append (JsonForm.plain_snapshot _)
        (by simp [Json.Blank, Json.isSpace])
    refine ⟨written, value, fun few => ?_⟩
    obtain ⟨sound, fits⟩ := admitted.configured.sound
    have faithful := JsonForm.faithful_snapshot (reachable.fits_snapshot sound fits few)
    rw [JsonForm.read?, value, Option.bind_some, faithful.recognized]
  · exact ⟨stdout_of_watched json admitted elapsed asked,
      read?_stdout_of_watched json admitted elapsed asked⟩

/-- The options of a run without a timer that is shown as JSON. -/
def jsonOptions (debug : Bool) : Options :=
  { Options.none with json := true, unthrottled := true, debug }

theorem admitted_jsonOptions (debug : Bool) :
    Admitted (jsonOptions debug) shuttleSources .default shuttleText shuttle :=
  admitted_shuttle rfl rfl rfl

/-- The snapshot of the shuttle after its two steps is read back. -/
theorem stdout_of_json_shuttle :
    (jsonOptions false).json = true ∧
      Admitted (jsonOptions false) shuttleSources .default shuttleText shuttle ∧
      ∃ snapshot, snapshot.stepCount = 2 ∧
        JsonForm.read? Snapshot
          (Outcome.ofResult (execute (jsonOptions false) shuttleSources "1s")).transcript.stdout =
            some snapshot := by
  have admitted := admitted_jsonOptions false
  have stopsAfter := stopsAfter_shuttle.1
  have ends := endsAt_finished (opened_of_admitted admitted) "1s" stopsAfter (by decide)
  have start : shuttleSession.moment.stepCount = 0 := by
    rw [show shuttleSession = _ from session_load_shuttleText Settings.default]
    rfl
  have counted := ends.stepCount_eq.trans (of_transitMany? stopsAfter.reaches).1
  rw [start] at counted
  obtain ⟨-, -, -, unwatched, -⟩ := stdout_of_json rfl admitted "1s"
  obtain ⟨-, -, readBack⟩ := unwatched rfl
  exact ⟨rfl, admitted, _, counted, readBack (by rw [counted]; decide)⟩

/-- A run that is watched can succeed in all its checks and leave no JSON behind. -/
theorem exists_read?_stdout_eq_none :
    ∃ options sources settings text program, options.json = true ∧
      Admitted options sources settings text program ∧ ∀ elapsed,
        Json.read? (Outcome.ofResult (execute options sources elapsed)).transcript.stdout = none :=
  ⟨jsonOptions true, shuttleSources, .default, shuttleText, shuttle, rfl,
    admitted_jsonOptions true, fun elapsed =>
      read?_stdout_of_watched rfl (admitted_jsonOptions true) elapsed rfl⟩

end CommandLine
end TapeWorkbench
