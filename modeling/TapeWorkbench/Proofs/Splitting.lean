import TapeWorkbench.Proofs.Outcome

/-!
# Runs that are split

The budget of an unthrottled run can be spent in one run or in two.  Where the first of two runs
ends in the halt state or with a refusal, the second one ends there again and in the same way, and
changes nothing (`Session.again_of_ended`).  Otherwise the second run goes on where the first one
has left off (`Session.ending_add`).  The halt state is noticed without a step, but a refusal is
not: to find it again the second run must have a step to attempt.

A run that is split has begun more generations than one that is not.  Nothing else tells the two
apart (`Session.Renewed`).
-/

namespace TapeWorkbench
namespace Session

theorem ending_of_halted {session : Session} (halted : session.isHalted = true) (budget : Nat) :
    session.ending budget = .halted := by
  cases budget with
  | zero => simp [ending, attemptUpTo, concludeRun, halted]
  | succ budget => simp [ending, attemptUpTo, concludeRun, halted]

theorem ending_succ_of_refused {session : Session} {refusal : Refusal}
    (moves : session.isHalted = false)
    (refused : session.attempt.value.refusal = some refusal) (budget : Nat) :
    session.ending (budget + 1) = refusal.outcome := by
  simp [ending, attemptUpTo, concludeRun, moves, refused]

theorem ending_succ {session : Session} (moves : session.isHalted = false)
    (accepted : session.attempt.value.refusal = none) (budget : Nat) :
    session.ending (budget + 1) = session.attempt.value.session.ending budget := by
  simp only [ending, attemptUpTo, moves, accepted, Bool.false_eq_true, if_false]
  rw [value_attemptUpTo, value_concludeRun (budget + 1) budget]

/-- A run that is begun after the halt procedure ends in the halt state. -/
theorem ending_finish_of_halted {session : Session} (halted : session.isHalted = true)
    (budget : Nat) : session.finish.value.ending budget = .halted := by
  have still : session.finish.value.isHalted = true := halted
  exact ending_of_halted still budget

/-- A run that is begun after a refusal, and has a step to attempt, meets this refusal. -/
theorem ending_attempt_of_refused {session : Session} {refusal : Refusal}
    (moves : session.isHalted = false)
    (refused : session.attempt.value.refusal = some refusal) {budget : Nat}
    (positive : 0 < budget) : session.attempt.value.session.ending budget = refusal.outcome := by
  obtain ⟨further, rfl⟩ := Nat.exists_eq_succ_of_ne_zero positive.ne'
  have still := (isHalted_of_refused refused).trans moves
  exact ending_succ_of_refused still (sameWork_attempt_attempt refused).2 further

/-- A run that has ended ends again as it did, and leaves everything as it is. -/
theorem again_of_ended {session : Session} {budget : Nat}
    (ended : session.ending budget ≠ .stepLimit) (further : Nat) :
    SameWork (session.driven budget) ((session.driven budget).driven further) ∧
      (0 < further → (session.driven budget).ending further = session.ending budget) := by
  have came := session.concludes budget
  unfold driven ending at *
  generalize (concludeRun budget (attemptUpTo budget session #[]).value).value = reached at *
  cases came with
  | halted _ _ halted =>
      exact ⟨sameWork_finish_driven halted further, fun _ => ending_finish_of_halted halted further⟩
  | refused _ _ moves refuses =>
      have refused := refusal_attempt_eq_some_iff.mpr refuses
      exact ⟨sameWork_attempt_driven moves refused further,
        fun positive => ending_attempt_of_refused moves refused positive⟩
  | limited _ _ _ => exact absurd rfl ended

/-- The second of two runs ends as one run with both budgets does, if it has a step to attempt. -/
theorem ending_add (session : Session) (first : Nat) {second : Nat} (positive : 0 < second) :
    session.ending (first + second) = (session.driven first).ending second := by
  induction first generalizing session with
  | zero =>
      rw [Nat.zero_add]
      cases halted : session.isHalted with
      | true =>
          rw [driven_of_halted halted, ending_of_halted halted, ending_finish_of_halted halted]
      | false => rw [driven_zero halted]
  | succ first ih =>
      rw [Nat.add_right_comm]
      cases halted : session.isHalted with
      | true =>
          rw [driven_of_halted halted, ending_of_halted halted, ending_finish_of_halted halted]
      | false =>
          cases refused : session.attempt.value.refusal with
          | some refusal =>
              rw [driven_succ_of_refused halted refused, ending_succ_of_refused halted refused,
                ending_attempt_of_refused halted refused positive]
          | none =>
              rw [driven_succ halted refused, ending_succ halted refused]
              exact ih _

/-! ## Unthrottled runs as commands -/

/-- The second session is the first one but for the generation of its handles, which nothing that
is shown tells. -/
structure Renewed (first second : Session) : Prop where
  eq : second =
    { first with
      control := { first.control with generation := second.control.generation } }
  snapshot_eq : second.snapshot = first.snapshot
  table_eq : second.table = first.table
  history_eq : second.history = first.history

theorem SameWork.renewed {first second : Session} (same : SameWork first second)
    (control : second.control =
      { first.control with generation := second.control.generation }) :
    Renewed first second := by
  have eq : second =
      { first with
        control := { first.control with generation := second.control.generation } } := by
    rw [← control]
    exact same
  refine ⟨eq, ?_, ?_, ?_⟩
  · rw [eq]
    rfl
  · rw [eq]
  · rw [eq]

/-- A run leaves the session paused at the speed that it had. -/
theorem control_runToCompletion {session : Session} (ready : session.ready = true)
    (budget : Nat) :
    (session.runToCompletion budget).session.control =
      { session.control with
        status := .paused
        generation := (session.runToCompletion budget).session.control.generation } := by
  rw [session_runToCompletion ready, control_driven]
  split
  · simp [cancelRun]
  · simp [cancelRun]

theorem ready_runToCompletion {session : Session} (ready : session.ready = true) (budget : Nat) :
    (session.runToCompletion budget).session.ready = true :=
  (maintained_program fun loaded _ => loaded = true).progresses ready
    (progresses_runToCompletion session budget)

theorem renewed_runToCompletion_add {session : Session} (ready : session.ready = true)
    (first second : Nat) :
    Renewed (session.runToCompletion (first + second)).session
      ((session.runToCompletion first).session.runToCompletion second).session := by
  have readyThen := ready_runToCompletion ready first
  have same : SameWork (session.runToCompletion (first + second)).session
      ((session.runToCompletion first).session.runToCompletion second).session :=
    (sameWork_runToCompletion ready (first + second)).symm.trans
      ((sameWork_driven_add session first second).trans
        (((sameWork_runToCompletion ready first).driven second).trans
          (sameWork_runToCompletion readyThen second)))
  refine same.renewed ?_
  rw [control_runToCompletion readyThen second, control_runToCompletion ready first,
    control_runToCompletion ready (first + second)]

/-- Once a run has ended other than for want of budget, a greater budget makes no difference. -/
theorem runToCompletion_of_ended {session : Session} {budget larger : Nat}
    (ready : session.ready = true)
    (ended : (session.runToCompletion budget).answer ≠ .ok .stepLimit) (le : budget ≤ larger) :
    (session.runToCompletion larger).answer = (session.runToCompletion budget).answer ∧
      Renewed (session.runToCompletion budget).session
        (session.runToCompletion larger).session := by
  have unlimited : session.ending budget ≠ .stepLimit := by
    intro limited
    rw [answer_eq_ending ready, limited] at ended
    exact ended rfl
  obtain ⟨further, rfl⟩ := Nat.exists_eq_add_of_le le
  obtain ⟨same, again⟩ := again_of_ended unlimited further
  constructor
  · rw [answer_eq_ending ready, answer_eq_ending ready]
    rcases Nat.eq_zero_or_pos further with rfl | positive
    · rfl
    · rw [ending_add session budget positive, again positive]
  · have work : SameWork (session.runToCompletion budget).session
        (session.runToCompletion (budget + further)).session :=
      (sameWork_runToCompletion ready budget).symm.trans
        (same.trans ((sameWork_driven_add session budget further).symm.trans
          (sameWork_runToCompletion ready (budget + further))))
    refine work.renewed ?_
    rw [control_runToCompletion ready (budget + further), control_runToCompletion ready budget]

/-- An unthrottled run of a loaded machine can be split anywhere.  Two runs leave what one run
with the sum of their budgets leaves behind, and the second one ends as that run does, provided
that it may take a step.  And once a run has ended other than for want of budget, every greater
budget leads to the same end. -/
theorem runToCompletion_add (session : Session) (first second : Nat)
    (ready : session.ready = true) :
    let half := session.runToCompletion first
    let whole := half.session.runToCompletion second
    let once := session.runToCompletion (first + second)
    Renewed once.session whole.session ∧
      (1 ≤ second → ∃ outcome, once.answer = .ok outcome ∧ whole.answer = .ok outcome) ∧
      (half.answer ≠ .ok .stepLimit → ∀ budget, first ≤ budget →
        let longer := session.runToCompletion budget
        longer.answer = half.answer ∧ Renewed half.session longer.session) := by
  intro half whole once
  refine ⟨renewed_runToCompletion_add ready first second, fun positive => ?_,
    fun ended budget le => runToCompletion_of_ended ready ended le⟩
  refine ⟨session.ending (first + second), answer_eq_ending ready _, ?_⟩
  rw [ending_add session first positive, ← (sameWork_runToCompletion ready first).ending second]
  exact answer_eq_ending (ready_runToCompletion ready first) second

/-- The machine is stuck after two transitions.  A run of two steps and one of a single step come
to this, as one of three does, and every run of more steps. -/
theorem runToCompletion_add_shuttle :
    let half := shuttleSession.runToCompletion 2
    let whole := half.session.runToCompletion 1
    let once := shuttleSession.runToCompletion 3
    shuttleSession.ready = true ∧ half.answer = .ok .stepLimit ∧
      Renewed once.session whole.session ∧ whole.answer = .ok .error ∧
      once.answer ≠ .ok .stepLimit ∧
      (shuttleSession.runToCompletion 100).answer = .ok .error ∧
      Renewed once.session (shuttleSession.runToCompletion 100).session := by
  intro half whole once
  have loaded : shuttleSession = _ := session_load_shuttleText Settings.default
  have ready : shuttleSession.ready = true := by rw [loaded]
  have limited : (shuttleSession.runToCompletion 2).answer = .ok .stepLimit := by
    rw [loaded]
    cbv
  have stuck : (shuttleSession.runToCompletion 3).answer = .ok .error := by
    rw [loaded]
    cbv
  obtain ⟨renewed, same, -⟩ := runToCompletion_add shuttleSession 2 1 ready
  obtain ⟨outcome, one, other⟩ := same le_rfl
  obtain ⟨-, -, longer⟩ := runToCompletion_add shuttleSession 3 1 ready
  have ended : once.answer ≠ .ok .stepLimit := by
    rw [show once.answer = _ from stuck]
    simp
  obtain ⟨again, renewedAgain⟩ := longer ended 100 (by omega)
  refine ⟨ready, limited, renewed, ?_, ended, again.trans stuck, renewedAgain⟩
  rw [other, ← one]
  exact stuck

end Session
end TapeWorkbench
