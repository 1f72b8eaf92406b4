import TapeWorkbench.Proofs.CheckedAttempts

/-!
# Commands in fixed widths

The commands in fixed widths, those that read a text included.  While the counts that grow with
use are within their width, all of them succeed, and do what the commands do
(`performChecked_eq`); so nothing fails in a session whose counts stay there, whatever commands
it is given (`performAllChecked_eq`).
-/

namespace TapeWorkbench

open JsonForm (sizeBound)

/-! ## Texts -/

namespace Program

/-- Add a statement.  An assembly line makes the count of assembly lines one larger. -/
def Draft.addChecked (draft : Draft) (lineNumber : Nat) :
    Statement → Option (Except Defect (Logged Draft))
  | .assembly text =>
    (Checked.plus sizeBound draft.listing.size 1).map fun _ => .ok (.quiet (draft.addAssembly text))
  | statement => some (draft.add lineNumber statement)

def Draft.addAllChecked (draft : Draft) (log : Array Notice) :
    List (Nat × Statement) → Option (Logged (Except Fault Draft))
  | [] => some ⟨.ok draft, log⟩
  | (lineNumber, statement) :: rest => do
    match ← draft.addChecked lineNumber statement with
    | .ok extended => extended.value.addAllChecked (log ++ extended.log) rest
    | .error defect => return ⟨.error (.malformedLine lineNumber defect.message), log⟩

def ofOutlineChecked (outline : Outline) : Option (Logged (Except Fault Program)) :=
  match loadTape outline.cells with
  | .error defect =>
    some (.quiet (.error (.malformedLine outline.tapeLine.number defect.message)))
  | .ok tape =>
    (Draft.empty.addAllChecked #[] outline.statements).map fun loaded =>
      loaded.map fun result =>
        result.map fun draft =>
          { tape := tape.cells
            head := tape.marked.getD 0
            table := draft.table
            listing := draft.listing.toList
            source := draft.source }

def readChecked (text : String) : Option (Logged (Except Fault Program)) :=
  if sizeLimit < text.utf8ByteSize then
    some (.quiet (.error (.malformedLine 0 (Defect.tooLong text.utf8ByteSize).message)))
  else
    match readLines text.toList with
    | .error fault => some (.quiet (.error fault))
    | .ok outline => ofOutlineChecked outline

/-- A statement adds at most one assembly line. -/
theorem Draft.size_listing_add {draft : Draft} {lineNumber : Nat} {statement : Statement}
    {extended : Logged Draft} (added : draft.add lineNumber statement = .ok extended) :
    extended.value.listing.size ≤ draft.listing.size + 1 := by
  cases statement with
  | blank | comment | source =>
      obtain rfl := Except.ok.inj added
      exact Nat.le_succ _
  | assembly text =>
      obtain rfl := Except.ok.inj added
      simp [addAssembly]
  | rule fields =>
      by_cases offends : Statement.Offends (.rule fields)
      · obtain ⟨defect, refused⟩ := draft.addRule_of_offends lineNumber offends
        cases refused.symm.trans added
      · obtain rfl := Except.ok.inj ((draft.addRule_of_fits lineNumber offends).symm.trans added)
        split <;> exact Nat.le_succ _

theorem Draft.addAllChecked_eq {draft : Draft} {log : Array Notice}
    {numbered : List (Nat × Statement)}
    (small : draft.listing.size + numbered.length < sizeBound) :
    draft.addAllChecked log numbered = some (draft.addAll log numbered) := by
  induction numbered generalizing draft log with
  | nil => rfl
  | cons first numbered ih =>
      obtain ⟨lineNumber, statement⟩ := first
      rw [List.length_cons] at small
      have succeeds :
          draft.addChecked lineNumber statement = some (draft.add lineNumber statement) := by
        cases statement with
        | assembly text =>
            rw [addChecked, Checked.plus_eq (by omega)]
            rfl
        | _ => rfl
      rw [addAllChecked, addAll, succeeds]
      cases added : draft.add lineNumber statement with
      | error defect => rfl
      | ok extended =>
          have grown := size_listing_add added
          exact ih (by omega)

/-- A text has fewer lines than a size can count. -/
theorem readChecked_eq (text : String) : readChecked text = some (read text) := by
  unfold readChecked read
  split
  · rfl
  · rename_i short
    cases lines : readLines text.toList with
    | error fault => rfl
    | ok outline =>
        have few := (length_of_readLines lines).2
        have bytes := length_toList_le text
        have small : Draft.empty.listing.size + outline.statements.length < sizeBound := by
          simp only [Draft.empty, sizeBound, sizeLimit] at short ⊢
          simp only [List.size_toArray, List.length_nil]
          omega
        simp only [ofOutlineChecked, ofOutline, Draft.addAllChecked_eq small]
        cases loadTape outline.cells <;> rfl

end Program

namespace Session

/-! ## Commands -/

def clearedChecked (session : Session) : Option (Logged Session) := do
  let control ← session.control.cancelChecked
  let reset := control.map fun control => { control with speed := session.settings.defaultSpeed }
  return reset.map fun control =>
    { session with
      control
      table := .empty
      moment := blankMoment session.settings
      sections := []
      output := noOutput
      fault := none
      source := ""
      history := session.history.clear }

def installChecked (session : Session) (program : Program) : Option (Logged Session) := do
  let layout ← TapeSection.layoutChecked program.tape
  let sections ← TapeSection.updateAllChecked layout program.tape
  return .saying
    { session with
      table := program.table
      moment :=
        { session.moment with
          configuration :=
            { session.configuration with tape := program.tape, head := program.head }
          listing := .ofLines program.listing }
      source := program.source
      sections
      ready := true }
    (.programLoaded program.tape.size program.table.size program.listing.length)

def loadChecked (session : Session) (text : String) : Option (Reply (Except Fault Unit)) := do
  let cleared ← session.clearedChecked
  let emptied := cleared.map fun cleared => { cleared with programText := some text }
  let read ← Program.readChecked text
  match read.value with
  | .ok program =>
    let work ← emptied.andThenChecked fun session =>
      (Logged.mk () read.log).andThenChecked fun _ => session.installChecked program
    return .published work (.ok ())
  | .error fault =>
    let work := emptied.andThen fun session =>
      (Logged.mk () read.log).andThen fun _ =>
        .saying { session with ready := false, fault := some fault } (.loadFailed fault)
    return .published work (.error fault)

def resetChecked (session : Session) : Option (Reply (Except Fault Unit)) :=
  match session.programText with
  | some text => session.loadChecked text
  | none => do
    let cleared ← session.clearedChecked
    return (Reply.published cleared ()).map fun _ => .error .nothingLoaded

def stepChecked (session : Session) : Option (Reply Unit) :=
  if session.ready then do
    let attempt ← session.attemptChecked
    return .published (attempt.map Attempt.session) ()
  else
    some (.silent session ())

def stepBackChecked (session : Session) : Option (Reply Unit) :=
  match session.history.pop? with
  | none => some (.published (.quiet session) ())
  | some (moment, history) => do
    let sections ← TapeSection.updateAllChecked session.sections moment.configuration.tape
    return .published
      (.saying { session with moment, history, fault := none, sections }
        (.steppedBack moment.stepCount)) ()

def runChecked (session : Session) : Option (Reply (Option RunHandle)) :=
  if session.ready then do
    let started ← session.control.startChecked
    let work := started.map fun control => { session with control }
    let handle ← work.value.control.handleChecked
    return .published work (some handle)
  else
    some (.silent session none)

def tickChecked (session : Session) (handle : RunHandle) : Option (Reply Bool) :=
  if session.control.isLive handle then do
    let steps ← burstChecked session.control.stepsPerTick session #[]
    let work ← steps.andThenChecked fun session =>
      if session.control.isRunning && session.isHalted then session.finishChecked
      else some (.quiet session)
    return .published work work.value.control.isRunning
  else
    some (.silent session false)

def concludeRunChecked (maxSteps : Nat) (last : Attempt) :
    Option (Logged (Session × RunOutcome)) :=
  match last.refusal with
  | some refusal => some (.quiet (last.session, refusal.outcome))
  | none =>
    if last.session.isHalted then
      last.session.finishChecked.map fun finished =>
        finished.map fun finished => (finished, .halted)
    else
      some (.saying (last.session, .stepLimit)
        (.stepLimitReached maxSteps last.session.configuration.state))

def runToCompletionChecked (session : Session) (maxSteps : Nat) :
    Option (Reply (Except Fault RunOutcome)) :=
  if session.ready then do
    let paused ← session.cancelRunChecked
    let last ← attemptUpToChecked maxSteps paused.value paused.log
    let work ← last.andThenChecked (concludeRunChecked maxSteps)
    let (finished, outcome) := work.value
    let steps ← Checked.minus finished.moment.stepCount session.moment.stepCount
    let reported := (Logged.mk finished work.log).say (.runEnded steps outcome)
    return .published reported (.ok outcome)
  else
    some (.silent session (.error .nothingLoaded))

def setSpeedChecked (session : Session) (speed : Nat) :
    Option (Reply (Except Fault (Option RunHandle))) := do
  match ← session.control.setSpeedChecked speed with
  | .error fault => return .silent session (.error fault)
  | .ok changed =>
    let handle ← changed.value.liveHandleChecked
    return .published (changed.map fun control => { session with control }) (.ok handle)

def subscribeChecked (session : Session) : Option (Reply Nat) := do
  let nextListener ← Checked.plus sizeBound session.nextListener 1
  return .silent
    { session with
      listeners := session.listeners ++ [session.nextListener]
      nextListener }
    session.nextListener

/-- Perform a command in fixed widths.  Breakpoints and departing listeners are looked up, which
cannot fail. -/
def performChecked (session : Session) : Command → Option (Reply Answer)
  | .load text => (session.loadChecked text).map fun reply => reply.map .loaded
  | .loadFile (.ok text) => (session.loadChecked text).map fun reply => reply.map .loaded
  | .loadFile (.error fault) => some (.silent session (.loaded (.error fault)))
  | .clear => session.clearedChecked.map fun work => .published work .nothing
  | .reset => session.resetChecked.map fun reply => reply.map .loaded
  | .delete => session.clearedChecked.map fun work =>
    .published
      (work.map fun cleared => { cleared with ready := false, programText := none }) .nothing
  | .step => session.stepChecked.map fun reply => reply.map fun _ => .nothing
  | .stepBack => session.stepBackChecked.map fun reply => reply.map fun _ => .nothing
  | .run => session.runChecked.map fun reply => reply.map .handle
  | .tick handle => (session.tickChecked handle).map fun reply => reply.map .goOn
  | .runToCompletion maxSteps =>
    (session.runToCompletionChecked maxSteps).map fun reply => reply.map .outcome
  | .pause => session.cancelRunChecked.map fun work => .published work .nothing
  | .setSpeed speed => (session.setSpeedChecked speed).map fun reply => reply.map .speed
  | .setBreakpoint index => some ((session.setBreakpoint index).map .breakpoint)
  | .subscribe => session.subscribeChecked.map fun reply => reply.map .listener
  | .unsubscribe listener => some ((session.unsubscribe listener).map .found)

/-- Perform commands one after the other in fixed widths. -/
def performAllChecked (session : Session) : List Command → Option Session
  | [] => some session
  | command :: commands => do
    let reply ← session.performChecked command
    reply.session.performAllChecked commands

theorem clearedChecked_eq {session : Session} (inWidth : session.cleared.value.InWidth) :
    session.clearedChecked = some session.cleared := by
  have generation : session.control.cancel.value.generation < sizeBound := inWidth.generation
  rw [clearedChecked, RunControl.cancelChecked_eq generation]
  rfl

theorem installChecked_eq (session : Session) {program : Program}
    (short : program.tape.size ≤ sizeBound) :
    session.installChecked program = some (session.install program) := by
  rw [installChecked, TapeSection.layoutChecked_eq short]
  simp only [Option.bind_eq_bind, Option.bind_some, TapeSection.updateAllChecked_eq]
  rfl

theorem inWidth_cleared_of_load {session : Session} {text : String}
    (inWidth : (session.load text).session.InWidth) : session.cleared.value.InWidth := by
  cases verdict : (Program.read text).value with
  | error fault =>
      rw [session_load_of_rejected verdict] at inWidth
      exact ⟨inWidth.stepCount, inWidth.generation, inWidth.nextListener⟩
  | ok program =>
      rw [session_load verdict] at inWidth
      exact ⟨inWidth.stepCount, inWidth.generation, inWidth.nextListener⟩

theorem loadChecked_eq {session : Session} {text : String}
    (inWidth : (session.load text).session.InWidth) :
    session.loadChecked text = some (session.load text) := by
  unfold loadChecked load
  simp only [clearedChecked_eq (inWidth_cleared_of_load inWidth), Program.readChecked_eq,
    Option.bind_eq_bind, Option.bind_some]
  cases verdict : (Program.read text).value with
  | error fault => rfl
  | ok program =>
      have size : program.tape.size ≤ 1048576 := (Program.confined_of_read verdict "").size_le
      have short : program.tape.size ≤ sizeBound := by
        simp only [sizeBound]
        omega
      have installs (session : Session) :
          (Logged.mk () (Program.read text).log).andThenChecked
              (fun _ => session.installChecked program) =
            some ((Logged.mk () (Program.read text).log).andThen
              fun _ => session.install program) :=
        Logged.andThenChecked_eq (installChecked_eq session short)
      simp only [installs]
      rfl

theorem resetChecked_eq {session : Session} (inWidth : session.reset.session.InWidth) :
    session.resetChecked = some session.reset := by
  unfold resetChecked
  unfold reset at inWidth ⊢
  cases text : session.programText with
  | some text =>
      simp only [text] at inWidth ⊢
      exact loadChecked_eq inWidth
  | none =>
      simp only [text] at inWidth ⊢
      rw [clearedChecked_eq inWidth]
      rfl

theorem stepChecked_eq {session : Session} (confined : session.configuration.Confined)
    (inWidth : session.step.session.InWidth) : session.stepChecked = some session.step := by
  unfold stepChecked
  unfold step at inWidth ⊢
  cases ready : session.ready with
  | false => rfl
  | true =>
      simp only [ready, if_true] at inWidth ⊢
      rw [attemptChecked_eq confined inWidth]
      rfl

theorem stepBackChecked_eq (session : Session) :
    session.stepBackChecked = some session.stepBack := by
  unfold stepBackChecked stepBack
  cases session.history.pop? with
  | none => rfl
  | some newest =>
      simp only [TapeSection.updateAllChecked_eq]
      rfl

theorem runChecked_eq {session : Session} (inWidth : session.run.session.InWidth) :
    session.runChecked = some session.run := by
  unfold runChecked
  unfold run at inWidth ⊢
  cases ready : session.ready with
  | false => rfl
  | true =>
      simp only [ready, if_true] at inWidth ⊢
      rw [RunControl.startChecked_eq inWidth.generation]
      simp only [Option.bind_eq_bind, Option.bind_some, RunControl.handleChecked_eq]
      rfl

theorem tickChecked_eq {session : Session} {handle : RunHandle}
    (confined : session.configuration.Confined)
    (inWidth : (session.tick handle).session.InWidth) :
    session.tickChecked handle = some (session.tick handle) := by
  unfold tickChecked
  unfold tick at inWidth ⊢
  cases live : session.control.isLive handle with
  | false => rfl
  | true =>
      simp only [live, if_true] at inWidth ⊢
      let ended (session : Session) : Logged Session :=
        if session.control.isRunning && session.isHalted then session.finish else .quiet session
      let steps := burst session.control.stepsPerTick session #[]
      have after : (ended steps.value).value.InWidth := inWidth
      have between : NotAhead steps.value (ended steps.value).value := by
        simp only [ended]
        split
        · exact notAhead_finish _
        · exact .refl _
      have bursts := burstChecked_eq session.control.stepsPerTick #[] confined
        (between.inWidth after)
      have ends : steps.andThenChecked (fun session =>
          if session.control.isRunning && session.isHalted then session.finishChecked
          else some (.quiet session)) = some (steps.andThen ended) := by
        apply Logged.andThenChecked_eq
        simp only [ended] at after ⊢
        split
        · rename_i halts
          rw [if_pos halts] at after
          exact finishChecked_eq after
        · rfl
      rw [bursts]
      simp only [Option.bind_eq_bind, Option.bind_some]
      rw [ends]
      rfl

theorem concludeRunChecked_eq {maxSteps : Nat} {last : Attempt}
    (inWidth : (concludeRun maxSteps last).value.1.InWidth) :
    concludeRunChecked maxSteps last = some (concludeRun maxSteps last) := by
  unfold concludeRunChecked
  unfold concludeRun at inWidth ⊢
  cases refused : last.refusal with
  | some refusal => rfl
  | none =>
      cases halted : last.session.isHalted with
      | false => rfl
      | true =>
          simp only [refused, halted, if_true] at inWidth ⊢
          rw [finishChecked_eq inWidth]
          rfl

theorem notAhead_concludeRun (maxSteps : Nat) (last : Attempt) :
    NotAhead last.session (concludeRun maxSteps last).value.1 := by
  unfold concludeRun
  split
  · exact .refl _
  · split
    · exact notAhead_finish _
    · exact .refl _

theorem runToCompletionChecked_eq {session : Session} {maxSteps : Nat}
    (confined : session.configuration.Confined)
    (inWidth : (session.runToCompletion maxSteps).session.InWidth) :
    session.runToCompletionChecked maxSteps = some (session.runToCompletion maxSteps) := by
  unfold runToCompletionChecked
  unfold runToCompletion at inWidth ⊢
  cases ready : session.ready with
  | false => rfl
  | true =>
      simp only [ready, if_true] at inWidth ⊢
      let paused := session.cancelRun
      let last := attemptUpTo maxSteps paused.value paused.log
      have after : (concludeRun maxSteps last.value).value.1.InWidth := inWidth
      have behind := notAhead_concludeRun maxSteps last.value
      have start := notAhead_attemptUpTo maxSteps paused.value paused.log
      have lastInWidth : last.value.session.InWidth := behind.inWidth after
      have pauses : session.cancelRunChecked = some paused :=
        cancelRunChecked_eq (start.inWidth lastInWidth)
      have attempts : attemptUpToChecked maxSteps paused.value paused.log = some last :=
        attemptUpToChecked_eq maxSteps paused.log confined lastInWidth
      have concludes : last.andThenChecked (concludeRunChecked maxSteps) =
          some (last.andThen (concludeRun maxSteps)) :=
        Logged.andThenChecked_eq (concludeRunChecked_eq after)
      have steps : session.moment.stepCount ≤
          (last.andThen (concludeRun maxSteps)).value.1.moment.stepCount :=
        (start.trans behind).stepCount
      simp only [pauses, Option.bind_eq_bind, Option.bind_some, attempts, concludes]
      rw [Checked.minus_eq steps]
      rfl

theorem setSpeedChecked_eq {session : Session} {speed : Nat}
    (inWidth : (session.setSpeed speed).session.InWidth) :
    session.setSpeedChecked speed = some (session.setSpeed speed) := by
  have changes : session.control.setSpeedChecked speed = some (session.control.setSpeed speed) := by
    apply RunControl.setSpeedChecked_eq
    intro changed accepted
    simp only [setSpeed, accepted] at inWidth
    exact inWidth.generation
  rw [setSpeedChecked, changes, setSpeed]
  simp only [Option.bind_eq_bind, Option.bind_some]
  cases session.control.setSpeed speed with
  | error fault => rfl
  | ok changed =>
      simp only [RunControl.liveHandleChecked_eq]
      rfl

theorem subscribeChecked_eq {session : Session} (inWidth : session.subscribe.session.InWidth) :
    session.subscribeChecked = some session.subscribe := by
  rw [subscribeChecked, Checked.plus_eq inWidth.nextListener]
  rfl

/-- Every command succeeds in fixed widths and does what it does, as long as the counts stay
within their width. -/
theorem performChecked_eq {session : Session} {command : Command}
    (confined : session.configuration.Confined)
    (inWidth : (session.perform command).session.InWidth) :
    session.performChecked command = some (session.perform command) := by
  cases command with
  | load text => rw [performChecked, loadChecked_eq inWidth]; rfl
  | loadFile file =>
      cases file with
      | ok text => rw [performChecked, loadChecked_eq inWidth]; rfl
      | error fault => rfl
  | clear => rw [performChecked, clearedChecked_eq inWidth]; rfl
  | reset => rw [performChecked, resetChecked_eq inWidth]; rfl
  | delete =>
      have cleared : session.cleared.value.InWidth :=
        ⟨inWidth.stepCount, inWidth.generation, inWidth.nextListener⟩
      rw [performChecked, clearedChecked_eq cleared]
      rfl
  | step => rw [performChecked, stepChecked_eq confined inWidth]; rfl
  | stepBack => rw [performChecked, stepBackChecked_eq]; rfl
  | run => rw [performChecked, runChecked_eq inWidth]; rfl
  | tick handle => rw [performChecked, tickChecked_eq confined inWidth]; rfl
  | runToCompletion maxSteps =>
      rw [performChecked, runToCompletionChecked_eq confined inWidth]
      rfl
  | pause => rw [performChecked, cancelRunChecked_eq inWidth]; rfl
  | setSpeed speed => rw [performChecked, setSpeedChecked_eq inWidth]; rfl
  | setBreakpoint index => rfl
  | subscribe => rw [performChecked, subscribeChecked_eq inWidth]; rfl
  | unsubscribe listener => rfl

/-- Whatever the settings are, and whatever commands a new session is given: the head is on a
cell of the tape or at the beginning of an empty one, now and in every moment that can be
returned to; and as long as the counts stay within their width, no index, difference, quotient
or sum in fixed width fails in any of the commands. -/
theorem performAllChecked_eq (settings : Settings) (commands : List Command) :
    ((new settings).performAll commands).Throughout Configuration.Placed ∧
      ((∀ done, done <+: commands → ((new settings).performAll done).InWidth) →
        (new settings).performAllChecked commands =
          some ((new settings).performAll commands)) := by
  constructor
  · have reachable : Reachable settings ((new settings).performAll commands) :=
      Reachable.new.performAll commands
    have confined := reachable.confined
    exact ⟨confined.present.placed, fun moment member => (confined.remembered moment member).placed⟩
  · suffices ∀ session, Reachable settings session →
        (∀ done, done <+: commands → (session.performAll done).InWidth) →
          session.performAllChecked commands = some (session.performAll commands) from
      this _ .new
    induction commands with
    | nil => exact fun _ _ _ => rfl
    | cons command commands ih =>
        intro session reachable inWidth
        have first := inWidth [command] (by simp)
        rw [performAllChecked, performChecked_eq reachable.confined.present first]
        apply ih _ (reachable.perform command)
        intro done isPrefix
        exact inWidth (command :: done) (by simpa using isPrefix)

/-- With settings that no check would accept. -/
theorem performAllChecked_eq_relay :
    let settings : Settings := { Settings.default with defaultSpeed := 0, maxSpeed := 0 }
    let commands : List Command :=
      [.load relayText, .subscribe, .step, .runToCompletion 7, .stepBack]
    let reached := (new settings).performAll commands
    settings.defect?.isSome = true ∧
      (∀ done, done <+: commands → ((new settings).performAll done).InWidth) ∧
      (new settings).performAllChecked commands = some reached ∧
      reached.configuration = ⟨#[5, 2, 0, 0, 5], 3, "NEXT"⟩ ∧ reached.configuration.Placed ∧
      ∀ moment ∈ reached.history.toList, moment.configuration.Placed := by
  intro settings commands reached
  have opened := session_load_relayText settings
  have inWidth : ∀ done, done <+: commands → ((new settings).performAll done).InWidth := by
    intro done isPrefix
    rw [← List.mem_inits] at isPrefix
    simp only [commands, List.inits, List.map_cons, List.map_nil, List.mem_cons, List.not_mem_nil,
      or_false] at isPrefix
    rcases isPrefix with rfl | rfl | rfl | rfl | rfl | rfl
    · exact ⟨by decide, by decide, by decide⟩
    all_goals
      change Session.InWidth (performAll ((new settings).load relayText).session _)
      rw [opened]
      refine ⟨?_, ?_, ?_⟩
    all_goals cbv
  obtain ⟨placed, succeeds⟩ := performAllChecked_eq settings commands
  refine ⟨rfl, inWidth, succeeds inWidth, ?_, placed.present, placed.remembered⟩
  change (performAll ((new settings).load relayText).session _).configuration = _
  rw [opened]
  cbv

end Session
end TapeWorkbench
