import TapeWorkbench.Proofs.Forgetting

/-!
# Sessions that run alongside each other

Two sessions that differ in something the execution takes no account of give the same answers,
and go on to differ in nothing else.  What there is to check of such a difference is said by
`Session.Alongside`: a single attempt, the halt procedure and a change of pace keep it.  Then
all commands that execute the program keep it, and are answered alike
(`Session.Alongside.perform`).
-/

namespace TapeWorkbench
namespace Session

/-- The relation is kept by each piece of an execution, and shows in none of them. -/
structure Alongside (relates : Session → Session → Prop) : Prop where
  control_eq {first second : Session} : relates first second → second.control = first.control
  ready_eq {first second : Session} : relates first second → second.ready = first.ready
  isHalted_eq {first second : Session} : relates first second →
    second.isHalted = first.isHalted
  paced {first second : Session} : relates first second → ∀ control : RunControl,
    relates { first with control } { second with control }
  attempt {first second : Session} : relates first second →
    relates first.attempt.value.session second.attempt.value.session ∧
      second.attempt.value.refusal = first.attempt.value.refusal
  finish {first second : Session} : relates first second →
    relates first.finish.value second.finish.value

namespace Alongside

variable {relates : Session → Session → Prop} {first second : Session}

theorem cancelRun (alongside : Alongside relates) (related : relates first second) :
    relates first.cancelRun.value second.cancelRun.value := by
  have control := alongside.control_eq related
  have paced := alongside.paced related first.control.cancel.value
  rw [← control] at paced
  nth_rewrite 1 [control] at paced
  exact paced

theorem attemptUpTo (alongside : Alongside relates) (related : relates first second)
    (budget : Nat) :
    relates (attemptUpTo budget first #[]).value.session
        (attemptUpTo budget second #[]).value.session ∧
      (attemptUpTo budget second #[]).value.refusal =
        (attemptUpTo budget first #[]).value.refusal := by
  induction budget generalizing first second with
  | zero => exact ⟨related, rfl⟩
  | succ budget ih =>
      have same := alongside.isHalted_eq related
      obtain ⟨attempted, refusal⟩ := alongside.attempt related
      cases halted : first.isHalted with
      | true =>
          rw [halted] at same
          simp only [Session.attemptUpTo, halted, same, if_true]
          exact ⟨related, trivial⟩
      | false =>
          rw [halted] at same
          simp only [Session.attemptUpTo, halted, same, refusal, Bool.false_eq_true, if_false]
          cases first.attempt.value.refusal with
          | some reason => exact ⟨attempted, rfl⟩
          | none =>
              -- the notices so far are not the same, but count for nothing
              rw [value_attemptUpTo, value_attemptUpTo budget second.attempt.value.session]
              exact ih attempted

theorem concludeRun (alongside : Alongside relates) (maxSteps : Nat) {last other : Attempt}
    (related : relates last.session other.session) (refusal : other.refusal = last.refusal) :
    relates (concludeRun maxSteps last).value.1 (concludeRun maxSteps other).value.1 ∧
      (concludeRun maxSteps other).value.2 = (concludeRun maxSteps last).value.2 := by
  have same := alongside.isHalted_eq related
  unfold Session.concludeRun
  rw [refusal]
  cases last.refusal with
  | some reason => exact ⟨related, rfl⟩
  | none =>
      cases halted : last.session.isHalted with
      | true =>
          rw [halted] at same
          simp only [same, if_true]
          exact ⟨alongside.finish related, rfl⟩
      | false =>
          rw [halted] at same
          simp only [same, Bool.false_eq_true, if_false]
          exact ⟨related, rfl⟩

theorem driven (alongside : Alongside relates) (related : relates first second) (budget : Nat) :
    relates (first.driven budget) (second.driven budget) := by
  obtain ⟨last, refusal⟩ := alongside.attemptUpTo related budget
  exact (alongside.concludeRun budget last refusal).1

theorem step (alongside : Alongside relates) (related : relates first second) :
    relates first.step.session second.step.session := by
  unfold Session.step
  rw [alongside.ready_eq related]
  cases first.ready with
  | true => exact (alongside.attempt related).1
  | false => exact related

theorem run (alongside : Alongside relates) (related : relates first second) :
    relates first.run.session second.run.session ∧ second.run.answer = first.run.answer := by
  have same := alongside.ready_eq related
  unfold Session.run
  by_cases ready : first.ready = true
  · rw [if_pos ready, if_pos (same.trans ready), alongside.control_eq related]
    exact ⟨alongside.paced related first.control.start.value, rfl⟩
  · rw [if_neg ready, if_neg (by rwa [same])]
    exact ⟨related, rfl⟩

theorem tick (alongside : Alongside relates) (related : relates first second)
    (handle : RunHandle) :
    relates (first.tick handle).session (second.tick handle).session ∧
      (second.tick handle).answer = (first.tick handle).answer := by
  have control := alongside.control_eq related
  cases live : first.control.isLive handle with
  | true =>
      have live' : second.control.isLive handle = true := by rwa [control]
      have moved : relates (first.tick handle).session (second.tick handle).session := by
        rw [session_tick live, session_tick live', control]
        exact alongside.driven related _
      refine ⟨moved, ?_⟩
      rw [answer_tick live, answer_tick live', alongside.control_eq moved]
  | false =>
      have dead : second.control.isLive handle = false := by rwa [control]
      rw [session_tick_of_dead live, session_tick_of_dead dead]
      refine ⟨related, ?_⟩
      simp [Session.tick, live, dead, Reply.silent]

theorem runToCompletion (alongside : Alongside relates) (related : relates first second)
    (maxSteps : Nat) :
    relates (first.runToCompletion maxSteps).session (second.runToCompletion maxSteps).session ∧
      (second.runToCompletion maxSteps).answer = (first.runToCompletion maxSteps).answer := by
  have same := alongside.ready_eq related
  cases ready : first.ready with
  | true =>
      rw [ready] at same
      have cancelled := alongside.cancelRun related
      obtain ⟨last, refusal⟩ := alongside.attemptUpTo cancelled maxSteps
      obtain ⟨concluded, outcome⟩ := alongside.concludeRun maxSteps last refusal
      rw [session_runToCompletion ready, session_runToCompletion same,
        answer_runToCompletion ready, answer_runToCompletion same, outcome]
      exact ⟨concluded, rfl⟩
  | false =>
      rw [ready] at same
      rw [session_runToCompletion_of_unready ready, session_runToCompletion_of_unready same]
      refine ⟨related, ?_⟩
      simp [Session.runToCompletion, ready, same, Reply.silent]

theorem setSpeed (alongside : Alongside relates) (related : relates first second)
    (speed : Nat) :
    relates (first.setSpeed speed).session (second.setSpeed speed).session ∧
      (second.setSpeed speed).answer = (first.setSpeed speed).answer := by
  unfold Session.setSpeed
  rw [alongside.control_eq related]
  split
  · exact ⟨related, rfl⟩
  · rename_i changed accepted
    exact ⟨alongside.paced related changed.value, rfl⟩

/-- The commands that execute the program keep the relation, and their answers do not show on
which side of it they are carried out. -/
theorem perform (alongside : Alongside relates) (related : relates first second)
    {command : Command} (executes : command.isExecution = true) :
    relates (first.perform command).session (second.perform command).session ∧
      (second.perform command).answer = (first.perform command).answer := by
  cases command with
  | step => exact ⟨alongside.step related, rfl⟩
  | run =>
      obtain ⟨moved, answer⟩ := alongside.run related
      exact ⟨moved, congrArg Answer.handle answer⟩
  | tick handle =>
      obtain ⟨moved, answer⟩ := alongside.tick related handle
      exact ⟨moved, congrArg Answer.goOn answer⟩
  | runToCompletion maxSteps =>
      obtain ⟨moved, answer⟩ := alongside.runToCompletion related maxSteps
      exact ⟨moved, congrArg Answer.outcome answer⟩
  | pause => exact ⟨alongside.cancelRun related, rfl⟩
  | setSpeed speed =>
      obtain ⟨moved, answer⟩ := alongside.setSpeed related speed
      exact ⟨moved, congrArg Answer.speed answer⟩
  | _ => simp [Command.isExecution] at executes

end Alongside
end Session
end TapeWorkbench
