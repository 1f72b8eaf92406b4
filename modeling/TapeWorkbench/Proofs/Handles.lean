import TapeWorkbench.Proofs.Driving
import TapeWorkbench.Proofs.Reachable

/-!
# Handles of timed runs

All that happens to the run control of a session is that it is cancelled, started,
given another speed while it is paused, or started anew at another speed
(`turns_perform`).  The first and the last begin a new generation, so a generation
is never returned to, and while a run goes on nothing about it changes without a
new generation (`RunControl.Precedes`).

A handle that was issued on the way to a session is therefore that of the run which
is going on, or it belongs to a generation of the past (`Issued.past_or_live`); in
the second case it does nothing ever again.
-/

namespace TapeWorkbench

open Relation

namespace RunControl

/-- What can happen to a run control.  Only what is ready is started. -/
inductive Turn (ready : Bool) (control : RunControl) : RunControl → Prop
  | cancelled : Turn ready control control.cancel.value
  | started (loaded : ready = true) : Turn ready control control.start.value
  | retimed (paused : control.isRunning = false) (speed : Nat) :
      Turn ready control { control with speed }
  | restarted (running : control.isRunning = true) (speed : Nat) :
      Turn ready control { control with speed, generation := control.generation + 2 }

abbrev Turns (ready : Bool) : RunControl → RunControl → Prop :=
  ReflTransGen (Turn ready)

/-- A later control belongs to a later generation, unless nothing happened, or nothing
but a change of speed during a pause. -/
def Precedes (control later : RunControl) : Prop :=
  control.generation < later.generation ∨
    later.generation = control.generation ∧
      (later = control ∨ control.isRunning = false ∧ later.isRunning = false)

namespace Precedes

variable {first second third : RunControl}

theorem refl (control : RunControl) : control.Precedes control :=
  .inr ⟨rfl, .inl rfl⟩

theorem generation_le (precedes : first.Precedes second) :
    first.generation ≤ second.generation := by
  rcases precedes with later | ⟨same, _⟩
  · exact later.le
  · exact same.ge

theorem trans (left : first.Precedes second) (right : second.Precedes third) :
    first.Precedes third := by
  have low := left.generation_le
  have high := right.generation_le
  rcases left with later | ⟨same, left⟩
  · exact .inl (by omega)
  rcases right with later | ⟨same', right⟩
  · exact .inl (by omega)
  rcases right with rfl | ⟨paused, paused'⟩
  · exact .inr ⟨same, left⟩
  · rcases left with rfl | ⟨paused'', _⟩
    · exact .inr ⟨same', .inr ⟨paused, paused'⟩⟩
    · exact .inr ⟨same'.trans same, .inr ⟨paused'', paused'⟩⟩

end Precedes

theorem Turn.precedes {ready : Bool} {control later : RunControl}
    (turn : Turn ready control later) : control.Precedes later := by
  cases turn with
  | cancelled =>
      left
      simp
  | started =>
      cases running : control.isRunning with
      | true =>
          rw [value_start_of_running running]
          exact .refl control
      | false =>
          left
          simp [value_start_of_paused running]
  | retimed paused speed => exact .inr ⟨rfl, .inr ⟨paused, paused⟩⟩
  | restarted running speed =>
      left
      simp

theorem Turns.precedes {ready : Bool} {control later : RunControl}
    (turns : Turns ready control later) : control.Precedes later := by
  induction turns with
  | refl => exact .refl control
  | tail _ turn before => exact before.trans turn.precedes

theorem Turn.ready_of_running {ready : Bool} {control later : RunControl}
    (turn : Turn ready control later) (before : control.isRunning = true → ready = true)
    (running : later.isRunning = true) : ready = true := by
  cases turn with
  | cancelled => simp [isRunning] at running
  | started loaded => exact loaded
  | retimed paused speed => exact before running
  | restarted running speed => exact before running

theorem Turns.ready_of_running {ready : Bool} {control later : RunControl}
    (turns : Turns ready control later) (before : control.isRunning = true → ready = true)
    (running : later.isRunning = true) : ready = true := by
  induction turns with
  | refl => exact before running
  | tail _ turn earlier => exact turn.ready_of_running earlier running

theorem Turns.tuned {ready : Bool} {control later : RunControl}
    (turns : Turns ready control later) :
    later.maxSpeed = control.maxSpeed ∧ later.burstSteps = control.burstSteps := by
  induction turns with
  | refl => exact ⟨rfl, rfl⟩
  | @tail middle later _ turn ih =>
      have kept : later.maxSpeed = middle.maxSpeed ∧ later.burstSteps = middle.burstSteps := by
        cases turn with
        | cancelled => simp
        | started loaded =>
            cases running : middle.isRunning with
            | true => simp [value_start_of_running running]
            | false => simp [value_start_of_paused running]
        | retimed | restarted => exact ⟨rfl, rfl⟩
      exact ⟨kept.1.trans ih.1, kept.2.trans ih.2⟩

theorem turns_reset (ready : Bool) (control : RunControl) (speed : Nat) :
    Turns ready control (control.reset speed).value :=
  .tail (.single .cancelled) (.retimed (Session.isRunning_cancel control) speed)

/-- A speed within bounds is taken on, and a run that is going on is started anew. -/
theorem setSpeed_of_valid {control : RunControl} {speed : Nat} (positive : 0 < speed)
    (bounded : speed ≤ control.maxSpeed) :
    ∃ changed, control.setSpeed speed = .ok changed ∧
      changed.value =
        if control.isRunning then { control with speed, generation := control.generation + 2 }
        else { control with speed } := by
  have accepted : (speed = 0 || control.maxSpeed < speed) = false := by
    simp
    omega
  unfold setSpeed
  rw [accepted]
  cases running : control.isRunning with
  | true =>
      refine ⟨_, rfl, ?_⟩
      have status : control.status = .running := by simpa [isRunning] using running
      simp [start, isRunning, status]
  | false => exact ⟨_, rfl, rfl⟩

theorem setSpeed_of_invalid {control : RunControl} {speed : Nat}
    (invalid : ¬ (0 < speed ∧ speed ≤ control.maxSpeed)) :
    control.setSpeed speed = .error (.invalidSpeed speed) := by
  have refused : (speed = 0 || control.maxSpeed < speed) = true := by
    simp
    omega
  simp [setSpeed, refused]

theorem turns_of_setSpeed (ready : Bool) {control : RunControl} {speed : Nat}
    {changed : Logged RunControl} (accepted : control.setSpeed speed = .ok changed) :
    Turns ready control changed.value := by
  by_cases valid : 0 < speed ∧ speed ≤ control.maxSpeed
  · obtain ⟨taken, same, value⟩ := setSpeed_of_valid valid.1 valid.2
    obtain rfl := Except.ok.inj (same.symm.trans accepted)
    rw [value]
    cases running : control.isRunning with
    | true => exact .single (.restarted running speed)
    | false => exact .single (.retimed running speed)
  · rw [setSpeed_of_invalid valid] at accepted
    cases accepted

/-- The handle that can be asked for is the handle of the run that is going on. -/
theorem liveHandle?_eq_some_iff {control : RunControl} {handle : RunHandle} :
    control.liveHandle? = some handle ↔ control.isRunning = true ∧ control.handle = handle := by
  simp [liveHandle?]

theorem isLive_of_liveHandle? {control : RunControl} {handle : RunHandle}
    (live : control.liveHandle? = some handle) : control.isLive handle = true := by
  obtain ⟨running, rfl⟩ := liveHandle?_eq_some_iff.mp live
  simp [isLive, running, RunControl.handle]

theorem isLive_of_generation_lt {control : RunControl} {handle : RunHandle}
    (past : handle.generation < control.generation) : control.isLive handle = false := by
  have other : handle.generation ≠ control.generation := past.ne
  simp [isLive, other]

/-- No run is going on, and no handle drives one. -/
structure Idle (control : RunControl) : Prop where
  status_eq : control.status = .paused
  liveHandle?_eq : control.liveHandle? = none
  isLive_eq (handle : RunHandle) : control.isLive handle = false

theorem idle_of_paused {control : RunControl} (paused : control.isRunning = false) :
    control.Idle where
  status_eq := by
    cases status : control.status with
    | paused => rfl
    | running => simp [isRunning, status] at paused
  liveHandle?_eq := by simp [liveHandle?, paused]
  isLive_eq handle := by simp [isLive, paused]

end RunControl

namespace Session

/-! ## The control after a command -/

/-- Do the attempts of a run with a budget come to an end in the halt state, or with a
refusal? -/
def endsWithin (budget : Nat) (session : Session) : Bool :=
  let last := (attemptUpTo budget session #[]).value
  last.refusal.isSome || last.session.isHalted

theorem control_attempt_of_refused {session : Session} {refusal : Refusal}
    (refused : session.attempt.value.refusal = some refusal) :
    session.attempt.value.session.control = session.control.cancel.value := by
  obtain ⟨fault, paused⟩ := session_attempt_of_refused refused
  rw [paused]

theorem control_attemptUpTo (budget : Nat) (session : Session) (log : Array Notice) :
    let last := (attemptUpTo budget session log).value
    last.session.control =
      if last.refusal.isSome then session.control.cancel.value else session.control := by
  induction budget generalizing session log with
  | zero => rfl
  | succ budget ih =>
      cases halted : session.isHalted with
      | true => simp [attemptUpTo, halted]
      | false =>
          cases refused : session.attempt.value.refusal with
          | some refusal =>
              simp [attemptUpTo, halted, refused, control_attempt_of_refused refused]
          | none =>
              have same := control_of_accepted refused
              simpa [attemptUpTo, halted, refused, same] using
                ih session.attempt.value.session (log ++ session.attempt.log)

theorem control_driven (budget : Nat) (session : Session) :
    (session.driven budget).control =
      if endsWithin budget session then session.control.cancel.value else session.control := by
  have control := control_attemptUpTo budget session #[]
  unfold driven endsWithin concludeRun
  generalize (attemptUpTo budget session #[]).value = last at control ⊢
  obtain ⟨last, refusal⟩ := last
  cases refusal with
  | some refusal => simpa using control
  | none =>
      have same : last.control = session.control := control
      cases halted : last.isHalted with
      | true => simp [halted, finish, cancelRun, same]
      | false => simp [halted, same]

theorem turns_driven (ready : Bool) (budget : Nat) (session : Session) :
    RunControl.Turns ready session.control (session.driven budget).control := by
  rw [control_driven]
  split
  · exact .single .cancelled
  · exact .refl

theorem session_setSpeed_of_valid {session : Session} {speed : Nat} (positive : 0 < speed)
    (bounded : speed ≤ session.control.maxSpeed) :
    (session.setSpeed speed).session =
      { session with
        control :=
          if session.control.isRunning then
            { session.control with speed, generation := session.control.generation + 2 }
          else { session.control with speed } } := by
  obtain ⟨changed, accepted, value⟩ := RunControl.setSpeed_of_valid positive bounded
  simp [setSpeed, accepted, Reply.published, value]

theorem session_setSpeed_of_invalid {session : Session} {speed : Nat}
    (invalid : ¬ (0 < speed ∧ speed ≤ session.control.maxSpeed)) :
    (session.setSpeed speed).session = session := by
  simp [setSpeed, RunControl.setSpeed_of_invalid invalid, Reply.silent]

theorem control_load (session : Session) (text : String) :
    (session.load text).session.control =
      (session.control.reset session.settings.defaultSpeed).value := by
  cases verdict : (Program.read text).value with
  | error fault => rw [session_load_of_rejected verdict, value_cleared]
  | ok program => rw [session_load verdict]

theorem turns_load (ready : Bool) (session : Session) (text : String) :
    RunControl.Turns ready session.control (session.load text).session.control := by
  rw [control_load]
  exact RunControl.turns_reset ready session.control _

theorem turns_step (session : Session) :
    RunControl.Turns session.ready session.control session.step.session.control := by
  unfold step
  split
  · change RunControl.Turns _ _ session.attempt.value.session.control
    cases refused : session.attempt.value.refusal with
    | some refusal =>
        rw [control_attempt_of_refused refused]
        exact .single .cancelled
    | none =>
        rw [control_of_accepted refused]
  · exact .refl

theorem turns_run (session : Session) :
    RunControl.Turns session.ready session.control session.run.session.control := by
  unfold run
  split
  · rename_i ready
    exact .single (.started ready)
  · exact .refl

theorem turns_tick (session : Session) (handle : RunHandle) :
    RunControl.Turns session.ready session.control (session.tick handle).session.control := by
  cases live : session.control.isLive handle with
  | true =>
      rw [session_tick live]
      exact turns_driven session.ready session.control.stepsPerTick session
  | false => rw [session_tick_of_dead live]

theorem turns_runToCompletion (session : Session) (maxSteps : Nat) :
    RunControl.Turns session.ready session.control
      (session.runToCompletion maxSteps).session.control := by
  cases ready : session.ready with
  | true =>
      rw [session_runToCompletion ready]
      exact .head .cancelled (turns_driven true maxSteps session.cancelRun.value)
  | false =>
      rw [session_runToCompletion_of_unready ready]

/-- Nothing else happens to the run control, whatever is done with a session. -/
theorem turns_perform (session : Session) (command : Command) :
    RunControl.Turns session.ready session.control (session.perform command).session.control := by
  cases command with
  | load text => exact turns_load session.ready session text
  | loadFile file =>
      cases file with
      | ok text => exact turns_load session.ready session text
      | error fault => exact .refl
  | clear => exact RunControl.turns_reset session.ready session.control _
  | reset =>
      change RunControl.Turns _ _ session.reset.session.control
      unfold reset
      split
      · exact turns_load session.ready session _
      · exact RunControl.turns_reset session.ready session.control _
  | delete => exact RunControl.turns_reset session.ready session.control _
  | step => exact turns_step session
  | stepBack =>
      change RunControl.Turns _ _ session.stepBack.session.control
      cases popped : session.history.pop? with
      | none => rw [session_stepBack_of_none popped]
      | some newest => rw [session_stepBack popped]
  | run => exact turns_run session
  | tick handle => exact turns_tick session handle
  | runToCompletion maxSteps => exact turns_runToCompletion session maxSteps
  | pause => exact .single .cancelled
  | setSpeed speed =>
      change RunControl.Turns _ _ (session.setSpeed speed).session.control
      unfold setSpeed
      split
      · exact .refl
      · rename_i changed accepted
        exact RunControl.turns_of_setSpeed session.ready accepted
  | setBreakpoint index =>
      change RunControl.Turns _ _ (session.setBreakpoint index).session.control
      cases toggled : session.listing.toggleBreakpoint? index with
      | none => rw [session_setBreakpoint_of_none toggled]
      | some flipped => rw [session_setBreakpoint toggled]
  | subscribe => exact .refl
  | unsubscribe listener => exact .refl

theorem precedes_performAll (session : Session) (commands : List Command) :
    session.control.Precedes (session.performAll commands).control := by
  induction commands generalizing session with
  | nil => exact .refl session.control
  | cons command commands ih =>
      exact (turns_perform session command).precedes.trans (ih _)

/-! ## Only what is ready runs -/

/-- A command that does not keep the program in place pauses, or does nothing. -/
theorem paused_of_replaces (session : Session) {command : Command}
    (replaces : command.keepsProgram = false) :
    (session.perform command).session = session ∨
      (session.perform command).session.control.isRunning = false := by
  have paused (speed : Nat) : (session.control.reset speed).value.isRunning = false := by
    simp [RunControl.isRunning]
  have loaded (text : String) : (session.load text).session.control.isRunning = false := by
    rw [control_load]
    exact paused _
  exact perform_of_replaces (fun after => after.control.isRunning = false) loaded (paused _)
    (paused _) replaces

theorem Reachable.ready_of_running {settings : Settings} {session : Session}
    (reachable : Reachable settings session) (running : session.control.isRunning = true) :
    session.ready = true := by
  induction reachable with
  | new => simp [Session.new, RunControl.atSpeed, RunControl.isRunning] at running
  | @perform session command _ ih =>
      cases keeps : command.keepsProgram with
      | true =>
          have same : (session.perform command).session.ready = session.ready :=
            (maintained_program fun ready _ => ready = session.ready).perform keeps rfl
          rw [same]
          exact (turns_perform session command).ready_of_running ih running
      | false =>
          rcases paused_of_replaces session keeps with same | paused
          · rw [same] at running ⊢
            exact ih running
          · rw [paused] at running
            cases running

/-! ## Handles that were issued -/

end Session

/-- The handle that an answer hands out, if it hands one out. -/
def Answer.handle? : Answer → Option RunHandle
  | handle live => live
  | speed (.ok live) => live
  | _ => none

namespace Session

/-- The handle was issued on the way to the session: it was asked for, or it was in the
answer to a command. -/
inductive Issued (settings : Settings) (handle : RunHandle) : Session → Prop
  | asked {session : Session} (reachable : Reachable settings session)
      (live : session.control.liveHandle? = some handle) : Issued settings handle session
  | answered {session : Session} {command : Command} (reachable : Reachable settings session)
      (answer : (session.perform command).answer.handle? = some handle) :
      Issued settings handle (session.perform command).session
  | kept {session : Session} (command : Command) (issued : Issued settings handle session) :
      Issued settings handle (session.perform command).session

/-- A handle in an answer is the one that can be asked for afterwards. -/
theorem liveHandle?_of_answer {session : Session} {command : Command} {handle : RunHandle}
    (answer : (session.perform command).answer.handle? = some handle) :
    (session.perform command).session.control.liveHandle? = some handle := by
  cases command with
  | run =>
      change session.run.answer = some handle at answer
      change session.run.session.control.liveHandle? = some handle
      unfold run at answer ⊢
      split
      · rename_i ready
        simp only [ready, if_true, Reply.published, Logged.value_map, Option.some.injEq] at answer
        refine RunControl.liveHandle?_eq_some_iff.mpr ⟨?_, answer⟩
        change session.control.start.value.isRunning = true
        cases running : session.control.isRunning with
        | true => rw [RunControl.value_start_of_running running, running]
        | false => simp [RunControl.value_start_of_paused running, RunControl.isRunning]
      · rename_i unready
        simp [unready, Reply.silent] at answer
  | setSpeed speed =>
      change (Answer.speed (session.setSpeed speed).answer).handle? = some handle at answer
      change (session.setSpeed speed).session.control.liveHandle? = some handle
      unfold setSpeed at answer ⊢
      cases accepted : session.control.setSpeed speed with
      | error fault => simp [accepted, Reply.silent, Answer.handle?] at answer
      | ok changed => simpa [accepted, Reply.published, Answer.handle?] using answer
  | _ => cases answer

/-- A handle that was issued is of a generation of the past, or it is the live one. -/
theorem Issued.past_or_live {settings : Settings} {handle : RunHandle} {session : Session}
    (issued : Issued settings handle session) :
    handle.generation < session.control.generation ∨
      session.control.liveHandle? = some handle := by
  induction issued with
  | asked _ live => exact .inr live
  | answered _ answer => exact .inr (liveHandle?_of_answer answer)
  | @kept session command _ ih =>
      have precedes := (turns_perform session command).precedes
      rcases ih with past | live
      · exact .inl (past.trans_le precedes.generation_le)
      -- without a new generation the control of a run that is going on stays what it is
      obtain ⟨running, rfl⟩ := RunControl.liveHandle?_eq_some_iff.mp live
      rcases precedes with later | ⟨_, same | ⟨paused, _⟩⟩
      · exact .inl later
      · right
        rwa [same]
      · rw [running] at paused
        cases paused

theorem Issued.isLive_iff {settings : Settings} {handle : RunHandle} {session : Session}
    (issued : Issued settings handle session) :
    session.control.isLive handle = true ↔ session.control.liveHandle? = some handle := by
  refine ⟨fun live => ?_, RunControl.isLive_of_liveHandle?⟩
  rcases issued.past_or_live with past | same
  · rw [RunControl.isLive_of_generation_lt past] at live
    cases live
  · exact same

/-- The handle is dead: it is not live, and a tick with it does nothing at all. -/
structure Dead (handle : RunHandle) (session : Session) : Prop where
  isLive_eq : session.control.isLive handle = false
  perform_tick : session.perform (.tick handle) = .silent session (.goOn false)

theorem dead_of_generation_lt {handle : RunHandle} {session : Session}
    (past : handle.generation < session.control.generation) : Dead handle session where
  isLive_eq := RunControl.isLive_of_generation_lt past
  perform_tick := by
    have dead := RunControl.isLive_of_generation_lt past
    simp [perform, tick, dead, Reply.map, Reply.silent]

/-- Does the command end the timed run that is going on, whatever its handle? -/
def EndsRun (session : Session) : Command → Prop
  | .pause | .load _ | .loadFile (.ok _) | .reset | .clear | .delete => True
  | .setSpeed speed =>
    session.control.isRunning = true ∧ 0 < speed ∧ speed ≤ session.control.maxSpeed
  | .runToCompletion _ => session.ready = true
  | .step => session.ready = true ∧ session.attempt.value.refusal.isSome = true
  | .tick handle =>
    session.control.isLive handle = true ∧
      endsWithin session.control.stepsPerTick session = true
  | _ => False

theorem generation_lt_of_load (session : Session) (text : String) :
    session.control.generation < (session.load text).session.control.generation := by
  rw [control_load]
  simp

/-- What ends a run begins a new generation. -/
theorem EndsRun.generation_lt {session : Session} {command : Command}
    (ends : session.EndsRun command) :
    session.control.generation < (session.perform command).session.control.generation := by
  have emptied : session.control.generation < session.cleared.value.control.generation := by
    simp [value_cleared]
  cases command with
  | load text => exact generation_lt_of_load session text
  | loadFile file =>
      cases file with
      | ok text => exact generation_lt_of_load session text
      | error fault => exact ends.elim
  | clear => exact emptied
  | reset =>
      change session.control.generation < session.reset.session.control.generation
      unfold reset
      split
      · exact generation_lt_of_load session _
      · exact emptied
  | delete => exact emptied
  | pause =>
      change session.control.generation < session.control.cancel.value.generation
      simp
  | setSpeed speed =>
      obtain ⟨running, positive, bounded⟩ := ends
      change session.control.generation < (session.setSpeed speed).session.control.generation
      rw [session_setSpeed_of_valid positive bounded]
      simp [running]
  | runToCompletion maxSteps =>
      have ready : session.ready = true := ends
      change session.control.generation <
        (session.runToCompletion maxSteps).session.control.generation
      rw [session_runToCompletion ready]
      -- the run that is going on is cancelled before the first step, whatever comes then
      have further :=
        (turns_driven true maxSteps session.cancelRun.value).precedes.generation_le
      have cancelled : session.cancelRun.value.control.generation =
          session.control.generation + 1 := by
        simp [cancelRun]
      omega
  | step =>
      obtain ⟨ready, refused⟩ := ends
      obtain ⟨refusal, refused⟩ := Option.isSome_iff_exists.mp refused
      change session.control.generation < session.step.session.control.generation
      rw [session_step ready, control_attempt_of_refused refused]
      simp
  | tick handle =>
      obtain ⟨live, ended⟩ := ends
      change session.control.generation < (session.tick handle).session.control.generation
      rw [session_tick live, control_driven, ended]
      simp
  | _ => exact ends.elim

theorem Issued.dead_of_endsRun {settings : Settings} {handle : RunHandle} {session : Session}
    (issued : Issued settings handle session) {command : Command}
    (ends : session.EndsRun command) (commands : List Command) :
    Dead handle ((session.perform command).session.performAll commands) := by
  have bounded : handle.generation ≤ session.control.generation := by
    rcases issued.past_or_live with past | live
    · exact past.le
    · obtain ⟨_, rfl⟩ := RunControl.liveHandle?_eq_some_iff.mp live
      exact le_rfl
  have ended := ends.generation_lt
  have later := (precedes_performAll (session.perform command).session commands).generation_le
  exact dead_of_generation_lt (by omega)

theorem Issued.dead_of_not_live {settings : Settings} {handle : RunHandle} {session : Session}
    (issued : Issued settings handle session) (dead : session.control.isLive handle = false)
    (commands : List Command) : Dead handle (session.performAll commands) := by
  rcases issued.past_or_live with past | live
  · exact dead_of_generation_lt
      (past.trans_le (precedes_performAll session commands).generation_le)
  · rw [RunControl.isLive_of_liveHandle? live] at dead
    cases dead

/-- A dead handle never comes back.  Whatever ends a run leaves every handle that was
issued before dead, and a handle that is dead does nothing in whatever comes later.  The
live handles are all one: the handle that can be asked for while a run goes on, with
the period of the present speed.  And only a machine that is ready runs. -/
theorem handles_of_reachable (settings : Settings) (session : Session)
    (reachable : Reachable settings session) :
    (∀ handle, Issued settings handle session →
        (∀ command, session.EndsRun command → ∀ commands,
          Dead handle ((session.perform command).session.performAll commands)) ∧
        (session.control.isLive handle = false → ∀ commands,
          Dead handle (session.performAll commands)) ∧
        (session.control.isLive handle = true ↔ session.control.liveHandle? = some handle) ∧
        ∀ other, Issued settings other session → session.control.isLive handle = true →
          session.control.isLive other = true → other = handle) ∧
      (∀ live, session.control.liveHandle? = some live →
        Issued settings live session ∧
          live.period = 1000000000 / max session.control.speed 1) ∧
      (session.control.liveHandle?.isSome = true ↔ session.control.status = .running) ∧
      (session.control.status = .running → session.ready = true) := by
  refine ⟨fun handle issued => ⟨fun command ends => issued.dead_of_endsRun ends,
    issued.dead_of_not_live, issued.isLive_iff, fun other issued' live live' => ?_⟩,
    fun live asked => ⟨.asked reachable asked, ?_⟩, ?_, fun running => ?_⟩
  · have first := issued.isLive_iff.mp live
    have second := issued'.isLive_iff.mp live'
    exact Option.some.inj (second.symm.trans first)
  · obtain ⟨_, rfl⟩ := RunControl.liveHandle?_eq_some_iff.mp asked
    rfl
  · simp [RunControl.liveHandle?, RunControl.isRunning]
  · exact reachable.ready_of_running (by simp [RunControl.isRunning, running])

/-- A run that was paused and started again: the handle of the first start is dead at the
second, which has a handle of its own. -/
theorem handles_of_reachable_shuttle :
    let session := shuttleSession.performAll [.run]
    let later := (session.perform .pause).session.performAll [.run]
    Reachable Settings.default session ∧
      session.control.liveHandle? = some ⟨2, 100000000⟩ ∧
      later.control.liveHandle? = some ⟨4, 100000000⟩ ∧ Dead ⟨2, 100000000⟩ later := by
  have reachable : Reachable Settings.default (shuttleSession.performAll [.run]) :=
    Reachable.new.performAll [.load shuttleText, .run]
  have asked : (shuttleSession.performAll [.run]).control.liveHandle? = some ⟨2, 100000000⟩ := by
    cbv
  obtain ⟨handles, live, -⟩ := handles_of_reachable Settings.default _ reachable
  have issued := (live _ asked).1
  exact ⟨reachable, asked, by cbv, (handles _ issued).1 .pause trivial [.run]⟩

end Session
end TapeWorkbench
