import TapeWorkbench.Proofs.Outcome
import TapeWorkbench.Settings.Document

/-!
# The pace of a timed run

With settings that were read from a document, the speed of a machine lies between one and the
highest speed in whatever comes later, so a tick asks for at least one step.  A tick that drives
the run takes as many transitions as it asks for, unless the machine stops before.  It wants to go
on exactly if it has taken them all and has not led into the halt state, and otherwise it leaves
no run behind (`Session.tick_of_reachable`).  So a run cannot go on for ever without getting on.
-/

namespace TapeWorkbench

/-! ## Settings that were checked -/

namespace Settings

theorem bounds_of_sound {settings : Settings} (sound : settings.defect? = none) :
    1 ≤ settings.defaultSpeed ∧ settings.defaultSpeed ≤ settings.maxSpeed ∧
      1 ≤ settings.burstSteps := by
  unfold defect? at sound
  split_ifs at sound with slow outside steps burst
  simp at outside
  omega

theorem eq_of_checked {decoded settings : Settings} (accepted : decoded.checked = .ok settings) :
    decoded = settings ∧ settings.defect? = none := by
  unfold checked at accepted
  cases found : decoded.defect? with
  | some defect => simp [found] at accepted
  | none =>
      simp only [found, Except.ok.injEq] at accepted
      exact ⟨accepted, accepted ▸ found⟩

/-- Settings that were read are those in a document, and break no rule. -/
theorem exists_members_of_read {report : String → String} {text : String} {settings : Settings}
    (accepted : read report text = .ok settings) :
    ∃ members, ofMembers members = some settings ∧ settings.defect? = none := by
  unfold read at accepted
  cases contents : (Toml.read? text).bind ofMembers with
  | none => simp [contents, Except.mapError] at accepted
  | some unchecked =>
      have sound : unchecked.checked = .ok settings := by
        cases verdict : unchecked.checked with
        | error defect => simp [contents, verdict, Except.mapError] at accepted
        | ok checked => simpa [contents, verdict, Except.mapError] using accepted
      obtain ⟨members, -, decoded⟩ := Option.bind_eq_some_iff.mp contents
      obtain ⟨rfl, unbroken⟩ := eq_of_checked sound
      exact ⟨members, decoded, unbroken⟩

theorem defect?_of_read {report : String → String} {text : String} {settings : Settings}
    (accepted : read report text = .ok settings) : settings.defect? = none := by
  obtain ⟨members, -, unbroken⟩ := exists_members_of_read accepted
  exact unbroken

end Settings

/-! ## The speed -/

namespace RunControl

theorem speed_start (control : RunControl) : control.start.value.speed = control.speed := by
  cases running : control.isRunning with
  | true => rw [value_start_of_running running]
  | false => rw [value_start_of_paused running]

/-- The pace of a control that does not stand still: its speed is within bounds, and so a tick asks
for a step at least. -/
structure Paced (control : RunControl) : Prop where
  positive : 1 ≤ control.speed
  bounded : control.speed ≤ control.maxSpeed
  burst : 1 ≤ control.burstSteps

namespace Paced

variable {control : RunControl}

theorem period_eq (paced : control.Paced) : control.period = 1000000000 / control.speed := by
  rw [period, max_eq_left paced.positive]

theorem one_le_stepsPerTick (paced : control.Paced) : 1 ≤ control.stepsPerTick := by
  unfold stepsPerTick
  split
  · exact paced.burst
  · exact le_rfl

end Paced
end RunControl

namespace Session

theorem speed_attempt (session : Session) :
    session.attempt.value.session.control.speed = session.control.speed := by
  cases refused : session.attempt.value.refusal with
  | some refusal => simp [control_attempt_of_refused refused]
  | none => rw [control_of_accepted refused]

theorem speed_driven (budget : Nat) (session : Session) :
    (session.driven budget).control.speed = session.control.speed := by
  rw [control_driven]
  split
  · simp
  · rfl

/-- Executing a program does not change the speed, unless it is asked to. -/
theorem speed_of_keepsProgram {session : Session} {command : Command}
    (keeps : command.keepsProgram = true) (other : ∀ speed, command ≠ .setSpeed speed) :
    (session.perform command).session.control.speed = session.control.speed := by
  cases command with
  | step =>
      change session.step.session.control.speed = session.control.speed
      cases ready : session.ready with
      | true => rw [session_step ready, speed_attempt]
      | false => simp [step, ready, Reply.silent]
  | stepBack =>
      change session.stepBack.session.control.speed = session.control.speed
      cases popped : session.history.pop? with
      | none => rw [session_stepBack_of_none popped]
      | some newest => rw [session_stepBack popped]
  | run =>
      change session.run.session.control.speed = session.control.speed
      cases ready : session.ready with
      | true => rw [session_run ready, RunControl.speed_start]
      | false => simp [run, ready, Reply.silent]
  | tick handle =>
      change (session.tick handle).session.control.speed = session.control.speed
      cases live : session.control.isLive handle with
      | true => rw [session_tick live, speed_driven]
      | false => rw [session_tick_of_dead live]
  | runToCompletion maxSteps =>
      change (session.runToCompletion maxSteps).session.control.speed = session.control.speed
      cases ready : session.ready with
      | true =>
          rw [session_runToCompletion ready, speed_driven]
          simp [cancelRun]
      | false => rw [session_runToCompletion_of_unready ready]
  | pause =>
      change session.control.cancel.value.speed = session.control.speed
      simp
  | setSpeed speed => exact absurd rfl (other speed)
  | setBreakpoint index =>
      change (session.setBreakpoint index).session.control.speed = session.control.speed
      cases toggled : session.listing.toggleBreakpoint? index with
      | none => rw [session_setBreakpoint_of_none toggled]
      | some flipped => rw [session_setBreakpoint toggled]
  | subscribe | unsubscribe => rfl
  | load | loadFile | clear | reset | delete => cases keeps

/-- What replaces the program goes back to the default speed, or does nothing. -/
theorem speed_of_replaces {session : Session} {command : Command}
    (replaces : command.keepsProgram = false) :
    (session.perform command).session = session ∨
      (session.perform command).session.control.speed = session.settings.defaultSpeed := by
  have loaded (text : String) :
      (session.load text).session.control.speed = session.settings.defaultSpeed := by
    simp [control_load]
  have emptied : session.cleared.value.control.speed = session.settings.defaultSpeed := by
    simp [value_cleared]
  exact perform_of_replaces (fun after => after.control.speed = session.settings.defaultSpeed)
    loaded emptied emptied replaces

/-- A speed within bounds is taken on, and another one is not. -/
theorem speed_setSpeed (session : Session) (speed : Nat) :
    (session.setSpeed speed).session.control.speed =
      if 0 < speed ∧ speed ≤ session.control.maxSpeed then speed else session.control.speed := by
  split
  · rename_i valid
    rw [session_setSpeed_of_valid valid.1 valid.2]
    cases running : session.control.isRunning with
    | true => rfl
    | false => rfl
  · rename_i invalid
    rw [session_setSpeed_of_invalid invalid]

theorem Reachable.paced {settings : Settings} {session : Session}
    (reachable : Reachable settings session) (sound : settings.defect? = none) :
    session.control.Paced := by
  obtain ⟨positive, bounded, burst⟩ := settings.bounds_of_sound sound
  induction reachable with
  | new => exact ⟨positive, bounded, burst⟩
  | @perform session command reachable ih =>
      obtain ⟨fastest, steps⟩ := (turns_perform session command).tuned
      have kept : 1 ≤ session.control.speed ∧ session.control.speed ≤ session.control.maxSpeed :=
        ⟨ih.positive, ih.bounded⟩
      suffices within : 1 ≤ (session.perform command).session.control.speed ∧
          (session.perform command).session.control.speed ≤ session.control.maxSpeed from
        ⟨within.1, fastest ▸ within.2, steps ▸ ih.burst⟩
      cases keeps : command.keepsProgram with
      | false =>
          rcases speed_of_replaces keeps with same | default
          · rwa [same]
          · rw [default, reachable.sound.settings_eq, reachable.tuned.1]
            exact ⟨positive, bounded⟩
      | true =>
          by_cases asked : ∃ speed, command = .setSpeed speed
          · obtain ⟨speed, rfl⟩ := asked
            change 1 ≤ (session.setSpeed speed).session.control.speed ∧
              (session.setSpeed speed).session.control.speed ≤ session.control.maxSpeed
            rw [speed_setSpeed]
            split
            · assumption
            · exact kept
          · rwa [speed_of_keepsProgram keeps fun speed same => asked ⟨speed, same⟩]

/-! ## Ticks -/

theorem control_of_transit? {session next : Session} (transits : session.transit? = some next) :
    next.control = session.control := by
  simp only [transit?, Option.bind_eq_bind, Option.bind_eq_some_iff, Option.pure_def,
    Option.some.injEq] at transits
  obtain ⟨symbol, -, instruction, -, target, -, rfl⟩ := transits
  rfl

theorem control_of_transitMany? {session last : Session} {count : Nat}
    (transits : session.transitMany? count = some last) : last.control = session.control := by
  induction count generalizing session with
  | zero =>
      obtain rfl := Option.some.inj transits
      rfl
  | succ count ih =>
      obtain ⟨next, first, rest⟩ := Option.bind_eq_some_iff.mp transits
      exact (ih rest).trans (control_of_transit? first)

/-- What a tick that drives the run comes to, after so many transitions. -/
structure Ticked (session : Session) (taken : Nat) (reply : Reply Bool) : Prop where
  reaches : ∃ last, session.transitMany? taken = some last ∧ EndsAt last reply.session
  counted : reply.session.moment.stepCount = session.moment.stepCount + taken
  within : taken ≤ session.control.stepsPerTick
  goesOn_iff : reply.answer = true ↔
    taken = session.control.stepsPerTick ∧ reply.session.isHalted = false
  /-- A run that goes on is not touched. -/
  kept : reply.answer = true → reply.session.control = session.control
  /-- A run that does not go on is over. -/
  ended : reply.answer = false → reply.session.control.Idle

/-- A tick that has paused the run does not want to go on. -/
theorem Ticked.of_paused {session reached : Session} {taken : Nat} {reply : Reply Bool}
    (reaches : session.transitMany? taken = some reached) (ends : EndsAt reached reply.session)
    (within : taken ≤ session.control.stepsPerTick)
    (answer : reply.answer = reply.session.control.isRunning)
    (paused : reply.session.control.isRunning = false)
    (stopped : taken = session.control.stepsPerTick → reply.session.isHalted = true) :
    Ticked session taken reply where
  reaches := ⟨reached, reaches, ends⟩
  counted := ends.stepCount_eq.trans (of_transitMany? reaches).1
  within := within
  goesOn_iff := by
    refine iff_of_false (by simp [answer, paused]) ?_
    rintro ⟨full, moves⟩
    simp [stopped full] at moves
  kept := by simp [answer, paused]
  ended _ := RunControl.idle_of_paused paused

/-- A tick takes transitions up to the place where the machine stops, as far as it may. -/
theorem exists_ticked {session : Session} {handle : RunHandle}
    (live : session.control.isLive handle = true) :
    ∃ taken, Ticked session taken (session.tick handle) := by
  have running : session.control.isRunning = true := by
    simp only [RunControl.isLive, Bool.and_eq_true] at live
    exact live.1
  have answer := answer_tick live
  have after := session_tick live
  have concludes := session.concludes session.control.stepsPerTick
  rw [driven] at after
  generalize (concludeRun _ _).value = came at after concludes
  cases concludes with
  | @halted taken reached stopsAfter within halted =>
      refine ⟨taken, .of_paused stopsAfter.reaches ?_ within answer ?_ fun _ => ?_⟩
      · rw [after]
        exact ⟨rfl, rfl, rfl⟩
      · rw [after]
        exact isRunning_cancel reached.control
      · rw [after]
        exact halted
  | @refused taken reached refusal stopsAfter within moves refuses =>
      have refused := refusal_attempt_eq_some_iff.mpr refuses
      refine ⟨taken, .of_paused stopsAfter.reaches ?_ within.le answer ?_ fun full => ?_⟩
      · obtain ⟨fault, left⟩ := session_attempt_of_refused refused
        rw [after, left]
        exact ⟨rfl, rfl, rfl⟩
      · rw [after]
        exact isRunning_of_refused refused
      · exact absurd full within.ne
  | @limited last reaches unstopped moves =>
      have same := control_of_transitMany? reaches
      refine ⟨session.control.stepsPerTick, ⟨last, reaches, ?_⟩, ?_, le_rfl, ?_, ?_, ?_⟩
      · rw [after]
        exact ⟨rfl, rfl, rfl⟩
      · rw [after]
        exact (of_transitMany? reaches).1
      · simp [answer, after, same, running, moves]
      · exact fun _ => after ▸ same
      · simp [answer, after, same, running]

/-- A tick that wants to go on has got on.  With settings that were read from a document the speed
is within its bounds, the period is that of the speed, and a tick asks for a burst at the highest
speed and for one step below, so for one at least.  A tick with a live handle takes that many
transitions at most.  It answers that the run goes on exactly if it has taken them all and the
machine has not halted; otherwise the machine is paused, without a handle that is live.  So a tick
with this answer has raised the number of steps. -/
theorem tick_of_reachable (report : String → String) (text : String) (settings : Settings)
    (session : Session) (accepted : Settings.read report text = .ok settings)
    (reachable : Reachable settings session) :
    (1 ≤ session.control.speed ∧ session.control.speed ≤ settings.maxSpeed) ∧
      session.control.period = 1000000000 / session.control.speed ∧
      (∀ live, session.control.liveHandle? = some live →
        live.period = 1000000000 / session.control.speed) ∧
      session.control.stepsPerTick =
        (if session.control.speed = settings.maxSpeed then settings.burstSteps else 1) ∧
      1 ≤ session.control.stepsPerTick ∧
      (∀ handle, session.control.isLive handle = true →
        ∃ taken, Ticked session taken (session.tick handle)) ∧
      ∀ handle, (session.tick handle).answer = true →
        session.moment.stepCount < (session.tick handle).session.moment.stepCount := by
  have paced := reachable.paced (Settings.defect?_of_read accepted)
  obtain ⟨fastest, burst⟩ := reachable.tuned
  refine ⟨⟨paced.positive, fastest ▸ paced.bounded⟩, paced.period_eq, fun live asked => ?_, ?_,
    paced.one_le_stepsPerTick, fun handle => exists_ticked, fun handle wanted => ?_⟩
  · obtain ⟨-, rfl⟩ := RunControl.liveHandle?_eq_some_iff.mp asked
    exact paced.period_eq
  · rw [RunControl.stepsPerTick, fastest, burst]
  · cases live : session.control.isLive handle with
    | false => simp [tick, live, Reply.silent] at wanted
    | true =>
        obtain ⟨taken, ticked⟩ := exists_ticked live
        obtain ⟨full, -⟩ := ticked.goesOn_iff.mp wanted
        have steps := paced.one_le_stepsPerTick
        have counted := ticked.counted
        omega

/-- Two steps a tick: the first tick takes both and wants to go on, and the second one finds no
instruction. -/
theorem tick_of_reachable_shuttle :
    let report : String → String := fun _ => "unreadable"
    let text := "max_speed = 10\nburst_steps = 2"
    let settings : Settings := { Settings.default with maxSpeed := 10, burstSteps := 2 }
    let session := (new settings).performAll [.load shuttleText, .run]
    let handle : RunHandle := ⟨2, 100000000⟩
    Settings.read report text = .ok settings ∧ Reachable settings session ∧
      session.control.liveHandle? = some handle ∧ (session.tick handle).answer = true ∧
      session.moment.stepCount < (session.tick handle).session.moment.stepCount ∧
      ((session.tick handle).session.tick handle).answer = false := by
  intro report text settings session handle
  have accepted : Settings.read report text = .ok settings := by cbv
  have reachable : Reachable settings session := Reachable.new.performAll _
  have loaded : ((new settings).perform (.load shuttleText)).session = _ :=
    session_load_shuttleText settings
  have wanted : (session.tick handle).answer = true := by
    unfold session
    rw [performAll_cons, loaded]
    cbv
  obtain ⟨-, -, -, -, -, -, progress⟩ :=
    tick_of_reachable report text settings session accepted reachable
  refine ⟨accepted, reachable, ?_, wanted, progress handle wanted, ?_⟩
  · unfold session
    rw [performAll_cons, loaded]
    cbv
  · unfold session
    rw [performAll_cons, loaded]
    cbv

end Session
end TapeWorkbench
