import TapeWorkbench.Proofs.Driving
import TapeWorkbench.Proofs.Reachable

/-!
# Undoing

A step files the moment before it in the history, and nothing else that happens
while a program is executed touches the history.  So the moments since any point
of an execution lie on top of those that were there (`Since.filed`), and undoing
as many steps as were taken returns to that point, whatever else happened on the
way: refused steps, blocks that were completed, a change of pace, a halt.

The halt procedure is the one way to change a moment without a step.  It is carried
out in the halt state only, hence never on the moment that is returned to.
-/

namespace TapeWorkbench
namespace Session

/-- The number of steps that a run takes until it halts, is refused a step, or has
used up its budget. -/
def stepsWithin (budget : Nat) (session : Session) : Nat :=
  match budget with
  | 0 => 0
  | budget + 1 =>
    if session.isHalted then 0
    else
      match session.attempt.value.refusal with
      | some _ => 0
      | none => stepsWithin budget session.attempt.value.session + 1

/-- The number of steps that a command takes. -/
def stepsOf (session : Session) : Command → Nat
  | .step => if session.ready && session.attempt.value.refusal.isNone then 1 else 0
  | .tick handle =>
    if session.control.isLive handle then stepsWithin session.control.stepsPerTick session else 0
  | .runToCompletion maxSteps =>
    if session.ready then stepsWithin maxSteps session.cancelRun.value else 0
  | _ => 0

/-- The number of steps that commands take in all, one after the other. -/
def stepsIn (session : Session) : List Command → Nat
  | [] => 0
  | command :: rest => session.stepsOf command + (session.perform command).session.stepsIn rest

/-- A property that counts steps.  Nothing else that comes of the execution of a program
disturbs it. -/
structure Counted (property : Nat → Session → Prop) : Prop where
  paced {count : Nat} {session : Session} : property count session →
    ∀ control fault, property count { session with control, fault }
  taken {count : Nat} {session : Session} : property count session →
    session.attempt.value.refusal = none → property (count + 1) session.attempt.value.session
  finished {count : Nat} {session : Session} : property count session →
    session.isHalted = true → property count session.finish.value

namespace Counted

variable {property : Nat → Session → Prop} {count : Nat} {session : Session}

theorem refused (counted : Counted property) (holds : property count session)
    {refusal : Refusal} (reason : session.attempt.value.refusal = some refusal) :
    property count session.attempt.value.session := by
  obtain ⟨fault, paused⟩ := session_attempt_of_refused reason
  rw [paused]
  exact counted.paced holds session.control.cancel.value fault

theorem driven (counted : Counted property) (holds : property count session) (budget : Nat) :
    property (count + stepsWithin budget session) (session.driven budget) := by
  induction budget generalizing session count with
  | zero =>
      cases halted : session.isHalted with
      | true =>
          rw [driven_of_halted halted]
          exact counted.finished holds halted
      | false =>
          rw [driven_zero halted]
          exact holds
  | succ budget ih =>
      cases halted : session.isHalted with
      | true =>
          rw [driven_of_halted halted]
          simpa [stepsWithin, halted] using counted.finished holds halted
      | false =>
          cases refused : session.attempt.value.refusal with
          | some refusal =>
              rw [driven_succ_of_refused halted refused]
              simpa [stepsWithin, halted, refused] using counted.refused holds refused
          | none =>
              rw [driven_succ halted refused]
              have further := ih (counted.taken holds refused)
              have split : count + stepsWithin (budget + 1) session =
                  count + 1 + stepsWithin budget session.attempt.value.session := by
                simp only [stepsWithin, halted, refused, Bool.false_eq_true, if_false]
                omega
              rw [split]
              exact further

theorem step (counted : Counted property) (holds : property count session) :
    property (count + session.stepsOf .step) session.step.session := by
  unfold Session.step
  cases ready : session.ready with
  | false =>
      simp only [stepsOf, ready, Bool.false_and, Bool.false_eq_true, if_false]
      exact holds
  | true =>
      cases refused : session.attempt.value.refusal with
      | some refusal =>
          simp only [stepsOf, ready, refused, Option.isNone_some, Bool.and_false,
            Bool.false_eq_true, if_false, if_true]
          exact counted.refused holds refused
      | none =>
          simp only [stepsOf, ready, refused, Option.isNone_none, Bool.and_true, if_true]
          exact counted.taken holds refused

/-- Commands that execute the program take the steps that they are said to take. -/
theorem perform (counted : Counted property) (holds : property count session)
    {command : Command} (executes : command.isExecution = true) :
    property (count + session.stepsOf command) (session.perform command).session := by
  cases command with
  | step => exact counted.step holds
  | run =>
      change property count session.run.session
      unfold run
      split
      · exact counted.paced holds _ session.fault
      · exact holds
  | pause => exact counted.paced holds session.control.cancel.value session.fault
  | setSpeed speed =>
      change property count (session.setSpeed speed).session
      unfold setSpeed
      split
      · exact holds
      · exact counted.paced holds _ session.fault
  | tick handle =>
      change property _ (session.tick handle).session
      cases live : session.control.isLive handle with
      | true =>
          rw [session_tick live]
          simpa [stepsOf, live] using counted.driven holds session.control.stepsPerTick
      | false =>
          rw [session_tick_of_dead live]
          simpa [stepsOf, live] using holds
  | runToCompletion maxSteps =>
      change property _ (session.runToCompletion maxSteps).session
      cases ready : session.ready with
      | true =>
          rw [session_runToCompletion ready]
          have cancelled : property count session.cancelRun.value :=
            counted.paced holds session.control.cancel.value session.fault
          simpa [stepsOf, ready] using counted.driven cancelled maxSteps
      | false =>
          rw [session_runToCompletion_of_unready ready]
          simpa [stepsOf, ready] using holds
  | _ => simp [Command.isExecution] at executes

end Counted

/-- The moments before the latest steps, newest first.  They go back to the moment of
`start`, and as many of them as the history has room for are what it remembers first. -/
structure Filed (start session : Session) (recent : List Moment) : Prop where
  origin : (session.moment :: recent).getLast? = some start.moment
  remembered : (∀ limit, start.history.limit = some limit → recent.length ≤ limit) →
    ∃ older, session.history.toList = recent ++ older ∧
      (start.history.limit = none → older = start.history.toList)

/-- What is true of a session that has taken a number of steps since `start`. -/
structure Since (start : Session) (count : Nat) (session : Session) : Prop where
  settings_eq : session.settings = start.settings
  table_eq : session.table = start.table
  limit_eq : session.history.limit = start.history.limit
  sections_eq (tape : Tape) :
    TapeSection.updateAll session.sections tape = TapeSection.updateAll start.sections tape
  stepCount_eq : session.moment.stepCount = start.moment.stepCount + count
  free : 0 < count → start.configuration.fault? start.table = none
  filed : ∃ recent, recent.length = count ∧ Filed start session recent

namespace Since

variable {start session : Session} {count : Nat}

theorem refl (session : Session) : Since session 0 session where
  settings_eq := rfl
  table_eq := rfl
  limit_eq := rfl
  sections_eq _ := rfl
  stepCount_eq := rfl
  free := by simp
  filed := ⟨[], rfl, rfl, fun _ => ⟨session.history.toList, rfl, fun _ => rfl⟩⟩

theorem paced (since : Since start count session) (control : RunControl) (fault : Option Fault) :
    Since start count { session with control, fault } :=
  { since with
    filed := by
      obtain ⟨recent, length, filed⟩ := since.filed
      exact ⟨recent, length, filed.origin, filed.remembered⟩ }

theorem moment_eq (since : Since start 0 session) : session.moment = start.moment := by
  obtain ⟨recent, none, filed⟩ := since.filed
  obtain rfl := List.eq_nil_of_length_eq_zero none
  simpa using filed.origin

theorem finish (since : Since start count session) (moves : start.isHalted = false)
    (halted : session.isHalted = true) : Since start count session.finish.value := by
  obtain ⟨recent, length, filed⟩ := since.filed
  cases recent with
  | nil =>
      -- without a step the moment is still the one that is not halted
      subst length
      have same : session.isHalted = start.isHalted := by
        rw [isHalted, configuration, since.moment_eq, since.settings_eq]
        rfl
      simp [same, moves] at halted
  | cons newest earlier =>
      refine ⟨since.settings_eq, since.table_eq, since.limit_eq, fun tape => ?_,
        since.stepCount_eq, since.free, newest :: earlier, length, ?_, filed.remembered⟩
      · exact (TapeSection.updateAll_updateAll _ _ _).trans (since.sections_eq tape)
      · have origin := filed.origin
        rw [List.getLast?_cons_cons] at origin ⊢
        exact origin

theorem attempt_of_accepted (since : Since start count session)
    (accepted : session.attempt.value.refusal = none) :
    Since start (count + 1) session.attempt.value.session := by
  obtain ⟨symbol, instruction, target, stepped, passes⟩ := session_attempt_of_accepted accepted
  rw [stepped]
  obtain ⟨recent, length, filed⟩ := since.filed
  refine ⟨since.settings_eq, since.table_eq, (History.limit_push _ _).trans since.limit_eq,
    fun tape => ?_, ?_, fun _ => ?_, session.moment :: recent, by simp [length], ?_, ?_⟩
  · exact (TapeSection.updateAll_updateAll _ _ _).trans (since.sections_eq tape)
  · have counted := since.stepCount_eq
    change session.moment.stepCount + 1 = _
    omega
  · -- the first step is taken from the moment of `start`
    cases count with
    | zero =>
        have same := since.moment_eq
        rwa [since.table_eq, configuration, same] at passes
    | succ count => exact since.free (Nat.succ_pos count)
  · rw [List.getLast?_cons_cons]
    exact filed.origin
  · intro room
    obtain ⟨older, remembered, whole⟩ := filed.remembered fun limit bound =>
      (Nat.le_succ _).trans (room limit bound)
    change ∃ older, (session.history.push session.moment).toList = _ ∧ _
    rw [History.toList_push, since.limit_eq, remembered]
    cases bound : start.history.limit with
    | none => exact ⟨older, rfl, fun _ => whole bound⟩
    | some limit =>
        have fits : (session.moment :: recent).length ≤ limit := room limit bound
        refine ⟨older.take (limit - (session.moment :: recent).length), ?_, by simp⟩
        change ((session.moment :: recent) ++ older).take limit = _
        rw [List.take_append, List.take_of_length_le fits]

theorem counted (moves : start.isHalted = false) : Counted (Since start) where
  paced := paced
  taken := attempt_of_accepted
  finished since := since.finish moves

theorem performAll (since : Since start count session) (moves : start.isHalted = false)
    {commands : List Command} (executes : ∀ command ∈ commands, command.isExecution = true) :
    Since start (count + session.stepsIn commands) (session.performAll commands) := by
  induction commands generalizing session count with
  | nil => exact since
  | cons command commands ih =>
      rw [List.forall_mem_cons] at executes
      have further := ih ((counted moves).perform since executes.1) executes.2
      rwa [Nat.add_assoc] at further

end Since

/-- Undoing takes the moments off the history that it remembers first, one by one. -/
theorem performAll_stepBack {session : Session} {recent older : List Moment}
    (remembered : session.history.toList = recent ++ older) :
    let undone := session.performAll (List.replicate recent.length .stepBack)
    (session.moment :: recent).getLast? = some undone.moment ∧
      undone.history.toList = older ∧
      (∀ tape, TapeSection.updateAll undone.sections tape =
        TapeSection.updateAll session.sections tape) ∧
      ((recent = [] → session.fault = none) → undone.fault = none) := by
  induction recent generalizing session with
  | nil => exact ⟨rfl, remembered, fun _ => rfl, fun clean => clean rfl⟩
  | cons moment recent ih =>
      cases popped : session.history.pop? with
      | none => simp [(History.pop?_eq_none_iff _).mp popped] at remembered
      | some taken =>
          obtain ⟨newest, history⟩ := taken
          rw [History.toList_of_pop? popped, List.cons_append, List.cons.injEq] at remembered
          obtain ⟨rfl, rest⟩ := remembered
          rw [List.length_cons, List.replicate_succ, performAll_cons]
          have first : (session.perform .stepBack).session = _ := session_stepBack popped
          generalize (session.perform .stepBack).session = stepped at first ⊢
          have rest' : stepped.history.toList = recent ++ older := by rwa [first]
          obtain ⟨origin, left, layout, clean⟩ := ih rest'
          subst first
          refine ⟨?_, left, fun tape => ?_, fun _ => clean fun _ => rfl⟩
          · rw [List.getLast?_cons_cons]
            exact origin
          · exact (layout tape).trans (TapeSection.updateAll_updateAll _ _ _)

/-- Undo is exact.  Whatever commands execute the program of a loaded machine that
has not halted: if they take at least one step in all, and the history has room for
all of them, then undoing as many steps gives back the moment (the configuration,
the number of steps, the instruction shown and the listing), the sections and the
fault on display, and without a limit also all that could be returned to before. -/
theorem performAll_replicate_stepBack (settings : Settings) (session : Session)
    (commands : List Command) (reachable : Reachable settings session)
    (ready : session.ready = true) (moves : session.isHalted = false)
    (executes : ∀ command ∈ commands, command.isExecution = true)
    (steps : 1 ≤ session.stepsIn commands)
    (room : ∀ limit, settings.historyLimit = some limit → session.stepsIn commands ≤ limit) :
    let reached := session.performAll commands
    let undone := reached.performAll (List.replicate (session.stepsIn commands) .stepBack)
    reached.moment.stepCount = session.moment.stepCount + session.stepsIn commands ∧
      undone.moment = session.moment ∧
      undone.sections = session.sections ∧
      undone.fault = session.fault ∧
      (settings.historyLimit = none → undone.history.toList = session.history.toList) := by
  intro reached undone
  have sound := reachable.sound
  have since : Since session (session.stepsIn commands) reached := by
    have all := (Since.refl session).performAll moves executes
    rwa [Nat.zero_add] at all
  obtain ⟨recent, length, filed⟩ := since.filed
  rw [sound.limit_eq.symm] at room ⊢
  obtain ⟨older, remembered, whole⟩ := filed.remembered (by rwa [length])
  obtain ⟨origin, left, layout, clean⟩ := performAll_stepBack remembered
  rw [length] at origin left layout clean
  have moment : undone.moment = session.moment :=
    Option.some.inj (origin.symm.trans filed.origin)
  have shown : Sound settings undone :=
    ((reachable.performAll commands).performAll _).sound
  refine ⟨since.stepCount_eq, moment, ?_, ?_, fun unlimited => left.trans (whole unlimited)⟩
  · calc
      undone.sections =
          TapeSection.updateAll undone.sections undone.configuration.tape := shown.decoded.symm
      _ = TapeSection.updateAll session.sections undone.configuration.tape :=
        (layout _).trans (since.sections_eq _)
      _ = TapeSection.updateAll session.sections session.configuration.tape := by
        rw [configuration, configuration, moment]
      _ = session.sections := sound.decoded
  · -- at least one step is undone, which clears the display, and `session` had nothing on it
    have some : recent ≠ [] := List.ne_nil_of_length_pos (by omega)
    have before := sound.fault_eq_none ready (since.free (by omega))
    exact (clean fun none => absurd none some).trans before.symm

/-- A program for examples: it goes through two blocks and halts. -/
def relayText : String :=
  "5 2 !1 0 5\n#asm CLEAR\nSTART 1 0 R NEXT\n#asm SET\nNEXT 0 1 L END"

def relay : Program :=
  { tape := #[5, 2, 1, 0, 5]
    head := 2
    table :=
      (InstructionTable.empty.insert "START" 1 ⟨0, .right, "NEXT", 1⟩).insert
        "NEXT" 0 ⟨1, .left, "END", 2⟩
    listing := [⟨"CLEAR", .current, false, []⟩, ⟨"SET", .pending, false, []⟩]
    source := "" }

theorem read_relayText : (Program.read relayText).value = .ok relay := by
  cbv

theorem session_load_relayText (settings : Settings) :
    ((new settings).load relayText).session =
      { new settings with
        table := relay.table
        moment := firstMoment settings relay
        sections := [⟨2, 3, "A", .red, "2"⟩]
        ready := true
        programText := some relayText
        control := { (new settings).control with generation := 1 } } := by
  have sections : TapeSection.updateAll (TapeSection.layout relay.tape) relay.tape =
      [⟨2, 3, "A", .red, "2"⟩] := by
    cbv
  refine (session_load read_relayText).trans ?_
  rw [sections]
  rfl

/-- The program for examples with room for two undone steps. -/
def relaySession : Session :=
  (new { Settings.default with historyLimit := some 2 }).performAll [.load relayText]

/-- Two steps through two blocks into the halt state, and a third that is refused,
undone with room for no more than two. -/
theorem performAll_replicate_stepBack_relay :
    let commands : List Command := [.step, .runToCompletion 7, .step]
    let reached := relaySession.performAll commands
    let undone := reached.performAll (List.replicate (relaySession.stepsIn commands) .stepBack)
    relaySession.ready = true ∧ relaySession.isHalted = false ∧
      (∀ command ∈ commands, command.isExecution = true) ∧
      relaySession.stepsIn commands = 2 ∧
      reached.listing.lines.map ListingLine.status = [.completed, .completed] ∧
      reached.fault = some (.missingTransition "END" 0) ∧
      undone.moment = relaySession.moment ∧ undone.sections = relaySession.sections ∧
      undone.fault = relaySession.fault := by
  have reachable : Reachable { Settings.default with historyLimit := some 2 } relaySession :=
    Reachable.new.performAll [.load relayText]
  have ready : relaySession.ready = true := by cbv
  have moves : relaySession.isHalted = false := by cbv
  have steps : relaySession.stepsIn [.step, .runToCompletion 7, .step] = 2 := by cbv
  obtain ⟨-, undone⟩ :=
    performAll_replicate_stepBack _ relaySession [.step, .runToCompletion 7, .step] reachable
      ready moves (by decide) (by omega) (by
        rintro limit ⟨⟩
        exact steps.le)
  exact ⟨ready, moves, by decide, steps, by cbv, by cbv, undone.1, undone.2.1, undone.2.2.1⟩

end Session
end TapeWorkbench
