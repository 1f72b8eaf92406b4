import Mathlib.Logic.Relation
import TapeWorkbench.Session.Command

/-!
# What attempts can come to

An attempt is refused for a fault of the present configuration, or held at a
breakpoint, or it takes the transition.  `attempted` says so once for all; every
command that executes the program is a chain of such attempts with pauses and
the halt procedure in between (`progresses_perform`), so what these keep, all of
these commands keep.
-/

namespace TapeWorkbench

open Relation

namespace Configuration

/-- The instruction that the state and the symbol under the head call for. -/
def instruction? (table : InstructionTable) (configuration : Configuration) :
    Option Instruction :=
  configuration.read?.bind (table.find? configuration.state)

/-- The fault that keeps a configuration from a transition, if one does. -/
def fault? (table : InstructionTable) (configuration : Configuration) : Option Fault :=
  match configuration.read? with
  | none => some (.headOutOfBounds configuration.head configuration.tape.size)
  | some symbol =>
    match table.find? configuration.state symbol with
    | none => some (.missingTransition configuration.state symbol)
    | some instruction =>
      match configuration.follow? instruction with
      | none =>
        some (.headOutOfBounds (configuration.head + instruction.move.offset)
          configuration.tape.size)
      | some _ => none

theorem instruction?_eq_some {table : InstructionTable} {configuration : Configuration}
    {symbol : Symbol} {instruction : Instruction} (read : configuration.read? = some symbol)
    (found : table.find? configuration.state symbol = some instruction) :
    configuration.instruction? table = some instruction := by
  simp [instruction?, read, found]

theorem fault?_eq_none {table : InstructionTable} {configuration target : Configuration}
    {symbol : Symbol} {instruction : Instruction}
    (read : configuration.read? = some symbol)
    (found : table.find? configuration.state symbol = some instruction)
    (follows : configuration.follow? instruction = some target) :
    configuration.fault? table = none := by
  simp [fault?, read, found, follows]

theorem step?_eq_some {table : InstructionTable} {configuration target : Configuration}
    {symbol : Symbol} {instruction : Instruction}
    (read : configuration.read? = some symbol)
    (found : table.find? configuration.state symbol = some instruction)
    (follows : configuration.follow? instruction = some target) :
    configuration.step? table = some target := by
  simp [step?, read, found, follows]

end Configuration

namespace Session

/-- What an attempt can come to, with the reasons for it. -/
inductive Attempted (session : Session) : Attempt → Prop
  /-- A fault refuses the step.  A breakpoint comes before a move off the tape, but
  after a missing cell or instruction. -/
  | stuck {fault : Fault}
      (found : session.configuration.fault? session.table = some fault)
      (first : session.listing.atBreakpoint = true →
        session.configuration.instruction? session.table = none) :
      Attempted session
        ⟨{ session with fault := some fault, control := session.control.cancel.value },
          some .fault⟩
  | held {instruction : Instruction}
      (found : session.configuration.instruction? session.table = some instruction)
      (stops : session.listing.atBreakpoint = true) :
      Attempted session
        ⟨{ session with control := session.control.cancel.value }, some .breakpoint⟩
  | stepped {symbol : Symbol} {instruction : Instruction} {target : Configuration}
      (read : session.configuration.read? = some symbol)
      (found : session.table.find? session.configuration.state symbol = some instruction)
      (follows : session.configuration.follow? instruction = some target)
      (passes : session.listing.atBreakpoint = false) :
      Attempted session ⟨(session.takeStep symbol instruction target).value, none⟩

/-- Nothing else can come of an attempt. -/
theorem attempted (session : Session) : Attempted session session.attempt.value := by
  simp only [attempt]
  cases read : session.configuration.read? with
  | none =>
      exact .stuck (by simp [Configuration.fault?, read])
        (fun _ => by simp [Configuration.instruction?, read])
  | some symbol =>
      cases found : session.table.find? session.configuration.state symbol with
      | none =>
          simp only [found]
          exact .stuck (by simp [Configuration.fault?, read, found])
            (fun _ => by simp [Configuration.instruction?, read, found])
      | some instruction =>
          have called := Configuration.instruction?_eq_some read found
          simp only [found]
          cases stops : session.listing.atBreakpoint with
          | true =>
              exact .held called stops
          | false =>
              cases follows : session.configuration.follow? instruction with
              | none =>
                  exact .stuck (by simp [Configuration.fault?, read, found, follows])
                    (by simp [stops])
              | some target =>
                  exact .stepped read found follows stops

/-- The reasons leave no choice of what an attempt comes to. -/
theorem Attempted.unique {session : Session} {first second : Attempt}
    (one : Attempted session first) (other : Attempted session second) : first = second := by
  cases one with
  | stuck found before =>
      cases other with
      | stuck found' _ =>
          obtain rfl := Option.some.inj (found.symm.trans found')
          rfl
      | held called stops => simp [before stops] at called
      | stepped read found' follows _ =>
          simp [Configuration.fault?_eq_none read found' follows] at found
  | held called stops =>
      cases other with
      | stuck _ before => simp [before stops] at called
      | held _ _ => rfl
      | stepped _ _ _ passes => simp [stops] at passes
  | stepped read found follows passes =>
      cases other with
      | stuck found' _ => simp [Configuration.fault?_eq_none read found follows] at found'
      | held _ stops => simp [stops] at passes
      | stepped read' found' follows' _ =>
          obtain rfl := Option.some.inj (read.symm.trans read')
          obtain rfl := Option.some.inj (found.symm.trans found')
          obtain rfl := Option.some.inj (follows.symm.trans follows')
          rfl

theorem Attempted.value_attempt {session : Session} {came : Attempt}
    (reasons : Attempted session came) : session.attempt.value = came :=
  (attempted session).unique reasons

/-- A refused attempt pauses, and puts a fault on display or leaves the old one there. -/
theorem session_attempt_of_refused {session : Session} {refusal : Refusal}
    (refused : session.attempt.value.refusal = some refusal) :
    ∃ fault, session.attempt.value.session =
      { session with fault, control := session.control.cancel.value } := by
  generalize came : session.attempt.value = attempt at refused ⊢
  have reasons : Attempted session attempt := came ▸ attempted session
  cases reasons with
  | @stuck fault _ _ => exact ⟨some fault, rfl⟩
  | held _ _ => exact ⟨session.fault, rfl⟩
  | stepped _ _ _ _ => simp at refused

/-- An attempt that is not refused takes a step, which the configuration allows. -/
theorem session_attempt_of_accepted {session : Session}
    (accepted : session.attempt.value.refusal = none) :
    ∃ symbol instruction target,
      session.attempt.value.session = (session.takeStep symbol instruction target).value ∧
        session.configuration.fault? session.table = none := by
  generalize came : session.attempt.value = attempt at accepted ⊢
  have reasons : Attempted session attempt := came ▸ attempted session
  cases reasons with
  | stuck _ _ => simp at accepted
  | held _ _ => simp at accepted
  | @stepped symbol instruction target read found follows _ =>
      exact ⟨symbol, instruction, target, rfl, Configuration.fault?_eq_none read found follows⟩

/-- Whether a run has notices to pass on makes no difference to where it goes. -/
theorem value_attemptUpTo (budget : Nat) (session : Session) (log : Array Notice) :
    (attemptUpTo budget session log).value = (attemptUpTo budget session #[]).value := by
  induction budget generalizing session log with
  | zero => rfl
  | succ budget ih =>
      simp only [attemptUpTo]
      split
      · rfl
      · split
        · rfl
        · rw [ih, ih _ (#[] ++ _)]

theorem value_burst (steps : Nat) (session : Session) (log : Array Notice) :
    (burst steps session log).value = (burst steps session #[]).value := by
  induction steps generalizing session log with
  | zero => rfl
  | succ steps ih =>
      simp only [burst]
      split
      · rfl
      · split
        · rfl
        · rw [ih, ih _ (#[] ++ _)]

/-- What the commands that execute the program are made of. -/
inductive Progress : Session → Session → Prop
  /-- A run is started, paused or given another speed. -/
  | paced (session : Session) (control : RunControl) :
      Progress session { session with control }
  | stuck {session : Session} {fault : Fault}
      (found : session.configuration.fault? session.table = some fault) :
      Progress session { session with fault := some fault }
  | stepped {session : Session} {symbol : Symbol} {instruction : Instruction}
      {target : Configuration}
      (read : session.configuration.read? = some symbol)
      (found : session.table.find? session.configuration.state symbol = some instruction)
      (follows : session.configuration.follow? instruction = some target)
      (passes : session.listing.atBreakpoint = false) :
      Progress session (session.takeStep symbol instruction target).value
  | finished {session : Session} (halted : session.isHalted = true) :
      Progress session session.finish.value

abbrev Progresses : Session → Session → Prop :=
  ReflTransGen Progress

/-- What each piece keeps, a chain of them keeps. -/
theorem Progresses.keeps {property : Session → Prop}
    (piece : ∀ {before after : Session}, property before → Progress before after →
      property after)
    {before after : Session} (holds : property before) (made : Progresses before after) :
    property after := by
  induction made with
  | refl => exact holds
  | tail _ last ih => exact piece ih last

theorem Attempted.progresses {session : Session} {attempt : Attempt}
    (came : Attempted session attempt) : Progresses session attempt.session := by
  cases came with
  | stuck found _ =>
      exact .tail (.single (.stuck found)) (.paced _ session.control.cancel.value)
  | held _ _ => exact .single (.paced session session.control.cancel.value)
  | stepped read found follows passes => exact .single (.stepped read found follows passes)

theorem progresses_attemptUpTo (budget : Nat) (session : Session) (log : Array Notice) :
    Progresses session (attemptUpTo budget session log).value.session := by
  induction budget generalizing session log with
  | zero => exact .refl
  | succ budget ih =>
      simp only [attemptUpTo]
      split
      · exact .refl
      · split
        · exact (attempted session).progresses
        · exact (attempted session).progresses.trans (ih _ _)

theorem progresses_burst (steps : Nat) (session : Session) (log : Array Notice) :
    Progresses session (burst steps session log).value := by
  induction steps generalizing session log with
  | zero => exact .refl
  | succ steps ih =>
      simp only [burst]
      split
      · rename_i halted
        exact .single (.finished halted)
      · split
        · exact (attempted session).progresses
        · exact (attempted session).progresses.trans (ih _ _)

theorem progresses_step (session : Session) : Progresses session session.step.session := by
  unfold step
  split
  · exact (attempted session).progresses
  · exact .refl

theorem progresses_run (session : Session) : Progresses session session.run.session := by
  unfold run
  split
  · exact .single (.paced session session.control.start.value)
  · exact .refl

theorem progresses_tick (session : Session) (handle : RunHandle) :
    Progresses session (session.tick handle).session := by
  unfold tick
  split
  · refine (progresses_burst session.control.stepsPerTick session #[]).trans ?_
    simp only [Reply.published, Logged.value_andThen]
    split
    · rename_i ended
      exact .single (.finished (by simp_all))
    · exact .refl
  · exact .refl

theorem progresses_concludeRun (maxSteps : Nat) (last : Attempt) :
    Progresses last.session (concludeRun maxSteps last).value.1 := by
  unfold concludeRun
  split
  · exact .refl
  · split
    · rename_i halted
      exact .single (.finished halted)
    · exact .refl

theorem progresses_runToCompletion (session : Session) (maxSteps : Nat) :
    Progresses session (session.runToCompletion maxSteps).session := by
  unfold runToCompletion
  split
  · exact ((ReflTransGen.single (.paced session session.control.cancel.value)).trans
      (progresses_attemptUpTo maxSteps _ _)).trans (progresses_concludeRun maxSteps _)
  · exact .refl

theorem progresses_setSpeed (session : Session) (speed : Nat) :
    Progresses session (session.setSpeed speed).session := by
  unfold setSpeed
  split
  · exact .refl
  · rename_i changed _
    exact .single (.paced session changed.value)

end Session
end TapeWorkbench
