import TapeWorkbench.Proofs.Preparation
import TapeWorkbench.Proofs.Splitting

/-!
# Runs from the command line

A timed run is driven for a limited number of ticks, and an unthrottled one has a budget of steps.
Either way it does the work of an unthrottled run with as many steps as it may take (`allowance`),
whether it ends on the way or not.  It shows a fault in the end exactly if the machine gets stuck
within these steps (`Session.StuckWithin`).
-/

namespace TapeWorkbench

namespace Session

theorem stepCount_driven_le (session : Session) (budget : Nat) :
    (session.driven budget).moment.stepCount ≤ session.moment.stepCount + budget := by
  have concludes := session.concludes budget
  unfold driven
  generalize (concludeRun budget (attemptUpTo budget session #[]).value).value = came at concludes ⊢
  cases concludes with
  | @halted count reached stopsAfter within halted =>
      have taken := (of_transitMany? stopsAfter.reaches).1
      change reached.moment.stepCount ≤ _
      omega
  | @refused count reached refusal stopsAfter within moves refuses =>
      have taken := (of_transitMany? stopsAfter.reaches).1
      obtain ⟨fault, left⟩ := session_attempt_of_refused (refusal_attempt_eq_some_iff.mpr refuses)
      rw [left]
      change reached.moment.stepCount ≤ _
      omega
  | limited reaches unstopped moves => exact (of_transitMany? reaches).1.le

theorem endsWithin_iff {session : Session} {budget : Nat} :
    endsWithin budget session = true ↔ session.ending budget ≠ .stepLimit := by
  unfold endsWithin ending concludeRun
  generalize (attemptUpTo budget session #[]).value = last
  cases refused : last.refusal with
  | some refusal => simp [refused, Refusal.outcome_ne_stepLimit]
  | none =>
      cases halted : last.session.isHalted with
      | true => simp [refused, halted]
      | false => simp [refused, halted]

/-- Steps that leave a timed run going have not ended it. -/
theorem control_driven_of_running {session : Session} {budget : Nat}
    (running : (session.driven budget).control.isRunning = true) :
    (session.driven budget).control = session.control := by
  rw [control_driven] at running ⊢
  cases ended : endsWithin budget session with
  | true =>
      rw [ended, if_pos rfl, isRunning_cancel] at running
      cases running
  | false => simp

/-- Steps that end a timed run leave nothing for more of them to do. -/
theorem sameWork_driven_of_paused {session : Session} {budget : Nat}
    (running : session.control.isRunning = true)
    (paused : (session.driven budget).control.isRunning = false) (further : Nat) :
    SameWork (session.driven (budget + further)) (session.driven budget) := by
  have ended : endsWithin budget session = true := by
    by_contra goesOn
    rw [control_driven, if_neg goesOn, running] at paused
    cases paused
  have again := (again_of_ended (endsWithin_iff.mp ended) further).1
  exact (sameWork_driven_add session budget further).trans again.symm

end Session

namespace CommandLine

open Session

/-- A session with what was written while it ran. -/
structure Progress where
  session : Session
  transcript : Transcript

namespace Progress

/-- Go on with the session of a reply, and write what its listeners print. -/
def absorb {α : Type} (progress : Progress) (reply : Reply α) : Progress :=
  { session := reply.session
    transcript := progress.transcript.out (watchedLines reply) }

/-- Drive a timed run for the ticks that are left, and keep what is written. -/
def driveTimed (remaining : Nat) (progress : Progress) : Progress :=
  let run := Transcript.surroundings.driveTimed remaining progress.session
  { session := (run progress.transcript).1
    transcript := (run progress.transcript).2 }

/-- Run by a timer, for a limited number of ticks. -/
def runTimed (tickLimit : Nat) (progress : Progress) : Progress :=
  driveTimed tickLimit (progress.absorb progress.session.run)

end Progress

theorem liveHandle?_of_running {control : RunControl} (running : control.isRunning = true) :
    control.liveHandle? = some control.handle :=
  RunControl.liveHandle?_eq_some_iff.mpr ⟨running, rfl⟩

theorem driveTimed_of_paused {progress : Progress}
    (paused : progress.session.control.isRunning = false) (remaining : Nat) :
    progress.driveTimed remaining = progress := by
  have none := (RunControl.idle_of_paused paused).liveHandle?_eq
  cases remaining with
  | zero =>
      simp only [Progress.driveTimed, Surroundings.driveTimed, none]
      rfl
  | succ remaining =>
      simp only [Progress.driveTimed, Surroundings.driveTimed, none]
      rfl

section Running

variable {progress : Progress} (running : progress.session.control.isRunning = true)
include running

theorem driveTimed_zero :
    progress.driveTimed 0 = progress.absorb progress.session.pause := by
  simp only [Progress.driveTimed, Surroundings.driveTimed, liveHandle?_of_running running]
  rfl

theorem driveTimed_succ (remaining : Nat) :
    progress.driveTimed (remaining + 1) =
      (progress.absorb (progress.session.tick progress.session.control.handle)).driveTimed
        remaining := by
  simp only [Progress.driveTimed]
  rw [Surroundings.driveTimed, liveHandle?_of_running running]
  rfl

end Running

/-- Without ticks a run is paused, and with ticks it does the work of as many steps as they ask
for. -/
theorem sameWork_driveTimed (remaining : Nat) {progress : Progress}
    (running : progress.session.control.isRunning = true) :
    SameWork
      (if remaining = 0 then progress.session
        else progress.session.driven (remaining * progress.session.control.stepsPerTick))
      (progress.driveTimed remaining).session := by
  induction remaining generalizing progress with
  | zero =>
      rw [driveTimed_zero running, if_pos rfl]
      exact .paced _ _
  | succ remaining ih =>
      have live := RunControl.isLive_of_liveHandle? (liveHandle?_of_running running)
      have ticked :
          (progress.absorb (progress.session.tick progress.session.control.handle)).session =
            progress.session.driven progress.session.control.stepsPerTick := session_tick live
      rw [driveTimed_succ running]
      generalize progress.absorb (progress.session.tick progress.session.control.handle) = next
        at ticked ⊢
      rw [if_neg (Nat.succ_ne_zero remaining), Nat.succ_mul, Nat.add_comm]
      -- a tick that ends the run leaves nothing to do for the steps of the other ticks
      cases goesOn : next.session.control.isRunning with
      | false =>
          rw [driveTimed_of_paused goesOn, ticked]
          rw [ticked] at goesOn
          exact sameWork_driven_of_paused running goesOn _
      | true =>
          have rest := ih goesOn
          rw [ticked] at goesOn
          rw [ticked, control_driven_of_running goesOn] at rest
          by_cases last : remaining = 0
          · subst last
            rw [if_pos rfl] at rest
            rwa [Nat.zero_mul, Nat.add_zero]
          · rw [if_neg last] at rest
            exact (sameWork_driven_add _ _ _).trans rest

/-! ## Either kind of run -/

/-- Where a run comes to, with all that is written on the way. -/
def finished (options : Options) (elapsed : String) (session : Session) : Progress :=
  if options.unthrottled then
    let maxSteps := stepBudget options session
    let reply := session.runToCompletion maxSteps
    let watched := Transcript.empty.out (watchedLines reply)
    let line := durationLine elapsed reply.session
    let timed := if options.json then watched.err line else watched.out line
    { session := reply.session
      transcript := timed.err (outcomeLine maxSteps (session.ending maxSteps)) }
  else
    Progress.runTimed options.tickLimit { session, transcript := .empty }

/-- How many steps a run may take: as many as its ticks ask for, or its budget. -/
def allowance (options : Options) (settings : Settings) : Nat :=
  if options.unthrottled then
    options.maxSteps.getD settings.maxSteps
  else
    options.tickLimit *
      if options.speed.getD settings.defaultSpeed = settings.maxSpeed then settings.burstSteps
      else 1

/-- A machine that is ready can be run, and what came of it is shown. -/
theorem runPrepared_of_ready {session : Session} (ready : session.ready = true)
    (options : Options) (elapsed : String) :
    runPrepared options elapsed session =
      let finish := finished options elapsed session
      .ok {
        exit := exitCode finish.session
        transcript := finish.transcript.out (finalText options.json finish.session.snapshot) } := by
  cases unthrottled : options.unthrottled with
  | true =>
      have answer := answer_eq_ending ready (stepBudget options session)
      simp only [runPrepared, Surroundings.runAndShow, Surroundings.runUnthrottled, finished,
        unthrottled, if_true]
      generalize session.runToCompletion (stepBudget options session) = reply at answer ⊢
      obtain ⟨last, said, log, deliveries⟩ := reply
      cases answer
      cases options.json with
      | true => rfl
      | false => rfl
  | false =>
      simp only [runPrepared, Surroundings.runAndShow, finished, unthrottled]
      rfl

section Opened

variable {options : Options} {settings : Settings} {program : Program} {session : Session}

theorem sameWork_run (opened : Opened options settings program session) :
    SameWork session session.run.session := by
  rw [session_run opened.ready]
  exact .paced _ _

/-- A run takes the steps that it may take as an unthrottled run does.  A timed run without ticks
is the only one that does not even see whether the machine has halted. -/
theorem sameWork_finished (opened : Opened options settings program session) (elapsed : String) :
    SameWork
      (if options.unthrottled = false ∧ options.tickLimit = 0 then session
        else session.driven (allowance options settings))
      (finished options elapsed session).session := by
  unfold allowance
  cases unthrottled : options.unthrottled with
  | true =>
      simp only [finished, unthrottled, if_true, stepBudget, opened.settings_eq]
      exact sameWork_runToCompletion opened.ready _
  | false =>
      simp only [Bool.false_eq_true, if_false, true_and, ← opened.stepsPerTick_eq]
      have started := RunControl.value_start_of_paused opened.paused
      have running : session.run.session.control.isRunning = true := by
        rw [session_run opened.ready, started]
        rfl
      have pace : session.run.session.control.stepsPerTick = session.control.stepsPerTick := by
        rw [session_run opened.ready, started]
        rfl
      have driven : SameWork
          (if options.tickLimit = 0 then session.run.session
            else session.run.session.driven
              (options.tickLimit * session.run.session.control.stepsPerTick))
          (finished options elapsed session).session := by
        simp only [finished, unthrottled, Bool.false_eq_true, if_false]
        exact sameWork_driveTimed options.tickLimit running
      rw [pace] at driven
      by_cases ticks : options.tickLimit = 0
      · rw [if_pos ticks] at driven ⊢
        exact (sameWork_run opened).trans driven
      · rw [if_neg ticks] at driven ⊢
        exact ((sameWork_run opened).driven _).trans driven

theorem stepCount_finished_le (opened : Opened options settings program session)
    (elapsed : String) :
    (finished options elapsed session).session.moment.stepCount ≤ allowance options settings := by
  have start := opened.stepCount_eq
  rw [sameWork_finished opened elapsed]
  split
  · exact start.trans_le (Nat.zero_le _)
  · have driven := session.stepCount_driven_le (allowance options settings)
    rwa [start, Nat.zero_add] at driven

/-- A machine that stops before it has taken all the steps that it may take is where it stopped. -/
theorem endsAt_finished (opened : Opened options settings program session) (elapsed : String)
    {count : Nat} {reached : Session} (stopsAfter : session.StopsAfter count reached)
    (within : count < allowance options settings) :
    EndsAt reached (finished options elapsed session).session := by
  have same := sameWork_finished opened elapsed
  have steps : ¬ (options.unthrottled = false ∧ options.tickLimit = 0) := by
    rintro ⟨timed, never⟩
    rw [allowance, if_neg (by simp [timed]), never, Nat.zero_mul] at within
    omega
  rw [if_neg steps] at same
  obtain ⟨last, reaches, ends⟩ := (session.concludes _).endsAt same stopsAfter
  rw [min_eq_right within.le, stopsAfter.reaches] at reaches
  obtain rfl := Option.some.inj reaches
  exact ends

end Opened

end CommandLine
end TapeWorkbench
