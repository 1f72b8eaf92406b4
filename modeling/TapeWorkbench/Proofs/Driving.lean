import TapeWorkbench.Proofs.Commands

/-!
# Driving a machine with and without a timer

A timed run takes its steps tick by tick, in bursts or one at a time, and may be
paused and restarted.  An unthrottled run takes its steps in one go.  The budgets
of the ticks add up (`sameWork_driven_add`), because a machine that has halted or
was refused a step stays as it is; so both ways of running do the same work, and
leave sessions that differ in their run control at most.
-/

namespace TapeWorkbench

/-- There is no block zero: going there completes the current lines. -/
theorem Listing.value_advance_zero (listing : Listing) (sections : List TapeSection) :
    (listing.advance 0 sections).value =
      ⟨listing.lines.map (ListingLine.complete sections), 0⟩ :=
  rfl

theorem ListingLine.complete_complete (first second : List TapeSection) (line : ListingLine) :
    (line.complete first).complete second = line.complete first := by
  by_cases current : line.status = .current
  · simp [complete, current]
  · simp [complete, current]

namespace Session

/-- Two sessions that differ in their run control at most. -/
def SameWork (first second : Session) : Prop :=
  second = { first with control := second.control }

namespace SameWork

theorem refl (session : Session) : SameWork session session :=
  rfl

theorem trans {first second third : Session} (left : SameWork first second)
    (right : SameWork second third) : SameWork first third := by
  unfold SameWork at *
  rw [right, left]

theorem symm {first second : Session} (same : SameWork first second) : SameWork second first := by
  unfold SameWork at *
  rw [same]

theorem paced (session : Session) (control : RunControl) :
    SameWork session { session with control } :=
  rfl

theorem isHalted_eq {first second : Session} (same : SameWork first second) :
    second.isHalted = first.isHalted := by
  rw [same]
  rfl

theorem attempt {first second : Session} (same : SameWork first second) :
    SameWork first.attempt.value.session second.attempt.value.session ∧
      second.attempt.value.refusal = first.attempt.value.refusal := by
  rw [same]
  generalize second.control = control
  generalize came : first.attempt.value = attempt
  have reasons : Attempted first attempt := came ▸ attempted first
  cases reasons with
  | stuck found before =>
      have twin : Attempted { first with control } _ := .stuck found before
      rw [twin.value_attempt]
      exact ⟨rfl, rfl⟩
  | held called stops =>
      have twin : Attempted { first with control } _ := .held called stops
      rw [twin.value_attempt]
      exact ⟨rfl, rfl⟩
  | stepped read found follows passes =>
      have twin : Attempted { first with control } _ := .stepped read found follows passes
      rw [twin.value_attempt]
      exact ⟨rfl, rfl⟩

theorem finish {first second : Session} (same : SameWork first second) :
    SameWork first.finish.value second.finish.value := by
  rw [same]
  rfl

end SameWork

/-- The halt procedure leaves nothing for itself to do. -/
theorem sameWork_finish_finish (session : Session) :
    SameWork session.finish.value session.finish.value.finish.value := by
  have lines (first second : List TapeSection) :
      (session.listing.lines.map (ListingLine.complete first)).map
          (ListingLine.complete second) =
        session.listing.lines.map (ListingLine.complete first) := by
    simp [ListingLine.complete_complete]
  have sections := TapeSection.updateAll_updateAll session.sections session.configuration.tape
    session.configuration.tape
  simp only [SameWork, finish, cancelRun, Logged.value_andThen, Logged.value_map,
    Logged.value_saying, Listing.value_advance_zero, configuration, listing] at lines sections ⊢
  simp only [lines, sections]

/-- A refused attempt would be refused again, and change nothing more. -/
theorem sameWork_attempt_attempt {session : Session} {refusal : Refusal}
    (refused : session.attempt.value.refusal = some refusal) :
    SameWork session.attempt.value.session session.attempt.value.session.attempt.value.session ∧
      session.attempt.value.session.attempt.value.refusal = some refusal := by
  generalize came : session.attempt.value = attempt at refused ⊢
  have reasons : Attempted session attempt := came ▸ attempted session
  cases reasons with
  | @stuck fault found before =>
      have again : Attempted
          { session with fault := some fault, control := session.control.cancel.value } _ :=
        .stuck found before
      rw [again.value_attempt]
      exact ⟨rfl, refused⟩
  | held called stops =>
      have again : Attempted { session with control := session.control.cancel.value } _ :=
        .held called stops
      rw [again.value_attempt]
      exact ⟨rfl, refused⟩
  | stepped _ _ _ _ => simp at refused

theorem isHalted_of_refused {session : Session} {refusal : Refusal}
    (refused : session.attempt.value.refusal = some refusal) :
    session.attempt.value.session.isHalted = session.isHalted := by
  obtain ⟨fault, paused⟩ := session_attempt_of_refused refused
  rw [paused]
  rfl

/-! ## Unthrottled runs -/

/-- The budget is named at the end of a run, and counts for nothing there. -/
theorem value_concludeRun (budget other : Nat) (last : Attempt) :
    (concludeRun budget last).value = (concludeRun other last).value := by
  unfold concludeRun
  split
  · rfl
  · split
    · rfl
    · rfl

/-- The session after an unthrottled run with the given budget. -/
def driven (session : Session) (budget : Nat) : Session :=
  (concludeRun budget (attemptUpTo budget session #[]).value).value.1

theorem driven_of_halted {session : Session} (halted : session.isHalted = true) (budget : Nat) :
    session.driven budget = session.finish.value := by
  cases budget with
  | zero => simp [driven, attemptUpTo, concludeRun, halted]
  | succ budget => simp [driven, attemptUpTo, concludeRun, halted]

theorem driven_zero {session : Session} (moves : session.isHalted = false) :
    session.driven 0 = session := by
  simp [driven, attemptUpTo, concludeRun, moves]

theorem driven_succ_of_refused {session : Session} {refusal : Refusal}
    (moves : session.isHalted = false)
    (refused : session.attempt.value.refusal = some refusal) (budget : Nat) :
    session.driven (budget + 1) = session.attempt.value.session := by
  simp [driven, attemptUpTo, concludeRun, moves, refused]

theorem driven_succ {session : Session} (moves : session.isHalted = false)
    (accepted : session.attempt.value.refusal = none) (budget : Nat) :
    session.driven (budget + 1) = session.attempt.value.session.driven budget := by
  simp only [driven, attemptUpTo, moves, accepted, Bool.false_eq_true, if_false]
  rw [value_attemptUpTo, value_concludeRun (budget + 1) budget]

theorem SameWork.driven {first second : Session} (same : SameWork first second) (budget : Nat) :
    SameWork (first.driven budget) (second.driven budget) := by
  induction budget generalizing first second with
  | zero =>
      cases halted : first.isHalted with
      | true =>
          rw [driven_of_halted halted, driven_of_halted (same.isHalted_eq.trans halted)]
          exact same.finish
      | false =>
          rw [driven_zero halted, driven_zero (same.isHalted_eq.trans halted)]
          exact same
  | succ budget ih =>
      cases halted : first.isHalted with
      | true =>
          rw [driven_of_halted halted, driven_of_halted (same.isHalted_eq.trans halted)]
          exact same.finish
      | false =>
          have halted' := same.isHalted_eq.trans halted
          obtain ⟨work, refusal⟩ := same.attempt
          cases refused : first.attempt.value.refusal with
          | some reason =>
              rw [driven_succ_of_refused halted refused,
                driven_succ_of_refused halted' (refusal.trans refused)]
              exact work
          | none =>
              rw [driven_succ halted refused, driven_succ halted' (refusal.trans refused)]
              exact ih work

/-- A machine that has halted properly stays as it is. -/
theorem sameWork_finish_driven {session : Session} (halted : session.isHalted = true)
    (budget : Nat) : SameWork session.finish.value (session.finish.value.driven budget) := by
  have still : session.finish.value.isHalted = true := halted
  rw [driven_of_halted still]
  exact sameWork_finish_finish session

/-- A machine that was refused a step stays as it is. -/
theorem sameWork_attempt_driven {session : Session} {refusal : Refusal}
    (moves : session.isHalted = false)
    (refused : session.attempt.value.refusal = some refusal) (budget : Nat) :
    SameWork session.attempt.value.session (session.attempt.value.session.driven budget) := by
  have still := (isHalted_of_refused refused).trans moves
  obtain ⟨same, again⟩ := sameWork_attempt_attempt refused
  cases budget with
  | zero =>
      rw [driven_zero still]
      exact .refl _
  | succ budget =>
      rw [driven_succ_of_refused still again]
      exact same

/-- A run can be split anywhere: budgets add up. -/
theorem sameWork_driven_add (session : Session) (first second : Nat) :
    SameWork (session.driven (first + second)) ((session.driven first).driven second) := by
  induction first generalizing session with
  | zero =>
      rw [Nat.zero_add]
      cases halted : session.isHalted with
      | true =>
          rw [driven_of_halted halted, driven_of_halted halted]
          exact sameWork_finish_driven halted second
      | false =>
          rw [driven_zero halted]
          exact .refl _
  | succ first ih =>
      rw [Nat.add_right_comm]
      cases halted : session.isHalted with
      | true =>
          rw [driven_of_halted halted, driven_of_halted halted]
          exact sameWork_finish_driven halted second
      | false =>
          cases refused : session.attempt.value.refusal with
          | some reason =>
              rw [driven_succ_of_refused halted refused, driven_succ_of_refused halted refused]
              exact sameWork_attempt_driven halted refused second
          | none =>
              rw [driven_succ halted refused, driven_succ halted refused]
              exact ih _

theorem session_runToCompletion {session : Session} (ready : session.ready = true)
    (maxSteps : Nat) :
    (session.runToCompletion maxSteps).session =
      session.cancelRun.value.driven maxSteps := by
  simp only [runToCompletion, ready, if_true, driven, Reply.published, Logged.value_say,
    Logged.value_andThen]
  rw [value_attemptUpTo]

theorem session_runToCompletion_of_unready {session : Session} (unready : session.ready = false)
    (maxSteps : Nat) : (session.runToCompletion maxSteps).session = session := by
  simp [runToCompletion, unready, Reply.silent]

/-! ## Timed runs -/

/-- The end of a tick: the halt procedure, if the steps led into the halt state. -/
def settled (session : Session) : Session :=
  if session.control.isRunning && session.isHalted then session.finish.value else session

theorem settled_of_paused {session : Session} (paused : session.control.isRunning = false) :
    session.settled = session := by
  simp [settled, paused]

theorem isRunning_cancel (control : RunControl) : control.cancel.value.isRunning = false := by
  unfold RunControl.cancel
  split
  · rfl
  · rfl

theorem isRunning_of_refused {session : Session} {refusal : Refusal}
    (refused : session.attempt.value.refusal = some refusal) :
    session.attempt.value.session.control.isRunning = false := by
  obtain ⟨fault, paused⟩ := session_attempt_of_refused refused
  rw [paused]
  exact isRunning_cancel session.control

theorem control_of_accepted {session : Session}
    (accepted : session.attempt.value.refusal = none) :
    session.attempt.value.session.control = session.control := by
  obtain ⟨symbol, instruction, target, stepped, _⟩ := session_attempt_of_accepted accepted
  rw [stepped]
  rfl

/-- The steps of a tick do the work of an unthrottled run. -/
theorem settled_burst {session : Session} (running : session.control.isRunning = true)
    (steps : Nat) : (burst steps session #[]).value.settled = session.driven steps := by
  induction steps generalizing session with
  | zero =>
      cases halted : session.isHalted with
      | true =>
          rw [driven_of_halted halted]
          simp [burst, settled, running, halted]
      | false =>
          rw [driven_zero halted]
          simp [burst, settled, halted]
  | succ steps ih =>
      cases halted : session.isHalted with
      | true =>
          rw [driven_of_halted halted]
          simp only [burst, halted, if_true]
          exact settled_of_paused (isRunning_cancel session.control)
      | false =>
          cases refused : session.attempt.value.refusal with
          | some reason =>
              rw [driven_succ_of_refused halted refused]
              simp only [burst, halted, refused, Bool.false_eq_true, if_false]
              exact settled_of_paused (isRunning_of_refused refused)
          | none =>
              rw [driven_succ halted refused]
              simp only [burst, halted, refused, Bool.false_eq_true, if_false]
              rw [value_burst]
              exact ih (by rw [control_of_accepted refused, running])

theorem session_tick {session : Session} {handle : RunHandle}
    (live : session.control.isLive handle = true) :
    (session.tick handle).session = session.driven session.control.stepsPerTick := by
  have running : session.control.isRunning = true := by
    simp only [RunControl.isLive, Bool.and_eq_true] at live
    exact live.1
  rw [← settled_burst running]
  simp only [tick, live, if_true, Reply.published, Logged.value_andThen, settled]
  split
  · rfl
  · rfl

theorem session_tick_of_dead {session : Session} {handle : RunHandle}
    (dead : session.control.isLive handle = false) : (session.tick handle).session = session := by
  simp [tick, dead, Reply.silent]

end Session

/-- Does the command belong to a timed run? -/
def Command.isTimed : Command → Bool
  | run | pause | setSpeed _ | tick _ => true
  | _ => false

namespace Session

/-- The steps that a command asks for, if it is a tick with a live handle. -/
def burstOf (session : Session) : Command → List Nat
  | .tick handle =>
    if session.control.isLive handle then [session.control.stepsPerTick] else []
  | _ => []

/-- The steps that the ticks with a live handle ask for, tick by tick. -/
def liveBursts (session : Session) : List Command → List Nat
  | [] => []
  | command :: rest => session.burstOf command ++ (session.perform command).session.liveBursts rest

/-- A command of a timed run does work only if it is a tick with a live handle. -/
theorem sameWork_perform_of_timed (session : Session) {command : Command}
    (timed : command.isTimed = true) :
    (session.burstOf command = [] ∧ SameWork session (session.perform command).session) ∨
      ∃ steps, session.burstOf command = [steps] ∧
        (session.perform command).session = session.driven steps := by
  cases command with
  | run =>
      refine .inl ⟨rfl, ?_⟩
      change SameWork session session.run.session
      unfold run
      split
      · rfl
      · rfl
  | pause => exact .inl ⟨rfl, rfl⟩
  | setSpeed speed =>
      refine .inl ⟨rfl, ?_⟩
      change SameWork session (session.setSpeed speed).session
      unfold setSpeed
      split
      · rfl
      · rfl
  | tick handle =>
      change (_ ∧ SameWork session (session.tick handle).session) ∨
        ∃ steps, _ ∧ (session.tick handle).session = session.driven steps
      cases live : session.control.isLive handle with
      | true =>
          refine .inr ⟨session.control.stepsPerTick, ?_, session_tick live⟩
          simp [burstOf, live]
      | false =>
          refine .inl ⟨by simp [burstOf, live], ?_⟩
          rw [session_tick_of_dead live]
          exact .refl session
  | _ => simp [Command.isTimed] at timed

/-- A timed run does the work of an unthrottled one with the budgets of its ticks
added up, and without a tick it does none. -/
theorem sameWork_performAll_of_timed (session : Session) {commands : List Command}
    (timed : ∀ command ∈ commands, command.isTimed = true) :
    (session.liveBursts commands = [] → SameWork session (session.performAll commands)) ∧
      (session.liveBursts commands ≠ [] →
        SameWork (session.driven (session.liveBursts commands).sum)
          (session.performAll commands)) := by
  induction commands generalizing session with
  | nil => exact ⟨fun _ => rfl, fun ticked => absurd rfl ticked⟩
  | cons command commands ih =>
      rw [List.forall_mem_cons] at timed
      obtain ⟨idle, busy⟩ := ih (session.perform command).session timed.2
      rw [performAll_cons, liveBursts]
      rcases sameWork_perform_of_timed session timed.1 with ⟨none, same⟩ | ⟨steps, one, moved⟩
      · rw [none, List.nil_append]
        exact ⟨fun never => same.trans (idle never),
          fun ticked => (same.driven _).trans (busy ticked)⟩
      · rw [one, List.singleton_append, List.sum_cons]
        refine ⟨fun never => absurd never (List.cons_ne_nil _ _), fun _ => ?_⟩
        rw [moved] at idle busy ⊢
        by_cases never : (session.driven steps).liveBursts commands = []
        · rw [never]
          exact idle never
        · exact (sameWork_driven_add session steps _).trans (busy never)

/-- However a timed run of a loaded machine is paced, paused and restarted: once a
tick with a live handle was among its commands, it has come to where a single
unthrottled run comes with as many steps as these ticks ask for in all.  Everything
is the same but the run control: the configuration, the number of steps, the
sections, the listing, the output, the fault on display and the history. -/
theorem performAll_eq_runToCompletion (session : Session) (commands : List Command)
    (ready : session.ready = true)
    (timed : ∀ command ∈ commands, command.isTimed = true)
    (ticked : session.liveBursts commands ≠ []) :
    let reached := session.performAll commands
    let direct := (session.runToCompletion (session.liveBursts commands).sum).session
    reached = { direct with control := reached.control } := by
  intro reached direct
  have paced : SameWork session session.cancelRun.value := .paced _ _
  have work := (sameWork_performAll_of_timed session timed).2 ticked
  have same : SameWork direct reached := by
    unfold direct
    rw [session_runToCompletion ready]
    exact (paced.driven _).symm.trans work
  exact same

/-- A step at the default speed, a pause, a dead handle, and a burst that runs into a
missing instruction, against a run of 101 steps. -/
theorem performAll_eq_runToCompletion_shuttle :
    let commands : List Command :=
      [.run, .tick ⟨2, 100000000⟩, .pause, .tick ⟨2, 100000000⟩, .setSpeed 1000, .run,
        .tick ⟨4, 1000000⟩]
    let reached := shuttleSession.performAll commands
    let direct := (shuttleSession.runToCompletion (shuttleSession.liveBursts commands).sum).session
    shuttleSession.ready = true ∧ (∀ command ∈ commands, command.isTimed = true) ∧
      shuttleSession.liveBursts commands = [1, 100] ∧
      reached = { direct with control := reached.control } ∧ reached.moment.stepCount = 2 :=
  ⟨by cbv, by decide, by cbv,
    performAll_eq_runToCompletion shuttleSession _ (by cbv) (by decide) (by cbv; simp),
    by cbv⟩

end Session
end TapeWorkbench
