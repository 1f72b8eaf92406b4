import TapeWorkbench.Proofs.Decoding
import TapeWorkbench.Proofs.Freshness
import TapeWorkbench.Proofs.Output
import TapeWorkbench.Proofs.Splitting

/-!
# The end of a completed run

A tick or an unthrottled run that leaves the machine in the halt state has carried out the halt
procedure last, and on nothing but a machine in that state (`Session.exists_finish_of_completes`).
So the run is over, no block is open, and the output is the value of register `A`: the register
is looked for in the layout of the tape that was loaded, whatever has become of its marks, and its
cells are decoded as they are at the end.

A machine that was left so is at rest (`Session.AtRest`).  Whoever runs it again has the halt
procedure carried out once more, which finds nothing to do.
-/

namespace TapeWorkbench

/-- The sections are shown with other values, but found by the same names. -/
theorem TapeSection.find?_map_value {sections : List TapeSection} (value : TapeSection → String)
    (name : String) :
    (sections.map fun tapeSection => { tapeSection with value := value tapeSection }).find?
        (fun tapeSection => tapeSection.name = name) =
      (sections.find? fun tapeSection => tapeSection.name = name).map fun tapeSection =>
        { tapeSection with value := value tapeSection } := by
  rw [List.find?_map]
  rfl

namespace Session

/-- The session has been reached, and the tape is the one that was put in place last: by a text
that was loaded, or loaded again, or by emptying the session. -/
inductive LaidOut (settings : Settings) : Tape → Session → Prop
  | new : LaidOut settings #[] (new settings)
  | replaced {session : Session} {command : Command} (reachable : Reachable settings session)
      (replaces : ¬ command.Stays) :
      LaidOut settings (session.perform command).session.configuration.tape
        (session.perform command).session
  | stayed {loaded : Tape} {session : Session} {command : Command}
      (laidOut : LaidOut settings loaded session) (stays : command.Stays) :
      LaidOut settings loaded (session.perform command).session

theorem Reachable.exists_laidOut {settings : Settings} {session : Session}
    (reachable : Reachable settings session) : ∃ loaded, LaidOut settings loaded session := by
  induction reachable with
  | new => exact ⟨_, .new⟩
  | @perform session command reachable ih =>
      by_cases stays : command.Stays
      · obtain ⟨loaded, laidOut⟩ := ih
        exact ⟨loaded, laidOut.stayed stays⟩
      · exact ⟨_, .replaced reachable stays⟩

theorem Fresh.of_replaced (session : Session) {command : Command} (replaces : ¬ command.Stays) :
    Fresh (session.perform command).session.configuration.tape
      (session.perform command).session := by
  cases command with
  | load text => exact .of_opensProgram session rfl
  | loadFile file =>
      cases file with
      | ok text => exact .of_opensProgram session rfl
      | error fault => exact absurd (.inr ⟨fault, rfl⟩) replaces
  | reset => exact .of_opensProgram session rfl
  | clear => exact .of_history_empty rfl rfl rfl rfl
  | delete => exact .of_history_empty rfl rfl rfl rfl
  | _ => exact absurd (.inl rfl) replaces

theorem LaidOut.fresh {settings : Settings} {loaded : Tape} {session : Session}
    (laidOut : LaidOut settings loaded session) : Fresh loaded session := by
  induction laidOut with
  | new =>
      change Fresh (Session.new settings).configuration.tape (Session.new settings)
      exact .of_history_empty rfl rfl rfl rfl
  | replaced _ replaces => exact .of_replaced _ replaces
  | @stayed loaded session command _ stays ih =>
      have only : ∀ other ∈ [command], other.Stays := by simpa using stays
      exact ih.performAll only

/-- The cells of a section. -/
def cellsOf (session : Session) (register : TapeSection) : List Symbol :=
  (session.configuration.tape.extract register.first (register.last + 1)).toList

namespace Fresh

variable {loaded : Tape} {session : Session}

/-- The register is looked for in the layout of the tape that was loaded, and decoded from the
present one. -/
theorem outputOf_sections (fresh : Fresh loaded session) :
    outputOf session.sections =
      ((TapeSection.layout loaded).find? fun register => register.name = "A").elim noOutput
        fun register => TapeSection.decode (session.cellsOf register) := by
  rw [outputOf, fresh.sections_eq_map, TapeSection.find?_map_value]
  cases (TapeSection.layout loaded).find? fun register => register.name = "A" with
  | none => rfl
  | some register => rfl

theorem cellsOf_ne_nil (fresh : Fresh loaded session) {register : TapeSection}
    (member : register ∈ TapeSection.layout loaded) : session.cellsOf register ≠ [] := by
  obtain ⟨ordered, within⟩ := TapeSection.range_layout member
  rw [← fresh.size_eq] at within
  apply List.ne_nil_of_length_pos
  simp only [cellsOf, Array.length_toList, Array.size_extract]
  omega

end Fresh

/-! ## The halt procedure -/

/-- A run that ends in the halt state ends with the halt procedure. -/
theorem exists_finish_of_driven {session : Session} {budget : Nat}
    (halted : (session.driven budget).isHalted = true) :
    ∃ reached : Session, reached.isHalted = true ∧ session.driven budget = reached.finish.value := by
  have came := session.concludes budget
  unfold driven at halted ⊢
  generalize (concludeRun budget (attemptUpTo budget session #[]).value).value = last at *
  cases came with
  | halted _ _ ended => exact ⟨_, ended, rfl⟩
  | refused _ _ moves refuses =>
      have still := isHalted_of_refused (refusal_attempt_eq_some_iff.mpr refuses)
      rw [moves] at still
      cases still.symm.trans halted
  | limited _ _ moves => cases moves.symm.trans halted

theorem exists_finish_of_completes {session : Session} {command : Command}
    (completed : session.completes command = true) :
    ∃ reached : Session, reached.isHalted = true ∧
      (session.perform command).session = reached.finish.value := by
  cases command with
  | tick handle =>
      obtain ⟨live, halted⟩ := Bool.and_eq_true_iff.mp completed
      change ∃ reached : Session, _ ∧ (session.tick handle).session = _
      rw [session_tick live] at halted ⊢
      exact exists_finish_of_driven halted
  | runToCompletion maxSteps =>
      obtain ⟨ready, halted⟩ := Bool.and_eq_true_iff.mp completed
      change ∃ reached : Session, _ ∧ (session.runToCompletion maxSteps).session = _
      rw [session_runToCompletion ready] at halted ⊢
      exact exists_finish_of_driven halted
  | _ => cases completed

/-- A run is completed on a loaded machine only. -/
theorem Reachable.ready_of_completes {settings : Settings} {session : Session} {command : Command}
    (reachable : Reachable settings session) (completed : session.completes command = true) :
    session.ready = true := by
  cases command with
  | tick handle =>
      have live := (Bool.and_eq_true_iff.mp completed).1
      exact reachable.ready_of_running (Bool.and_eq_true_iff.mp live).1
  | runToCompletion maxSteps => exact (Bool.and_eq_true_iff.mp completed).1
  | _ => cases completed

theorem keepsProgram_of_completes {session : Session} {command : Command}
    (completed : session.completes command = true) : command.keepsProgram = true := by
  cases command with
  | tick | runToCompletion => rfl
  | _ => cases completed

theorem status_ne_current_of_finish {session : Session} {line : ListingLine}
    (member : line ∈ session.finish.value.listing.lines) : line.status ≠ .current := by
  obtain ⟨before, -, rfl⟩ := List.mem_map.mp member
  exact before.status_complete_ne_current _

/-! ## Running again -/

/-- The machine has halted and is paused, and the halt procedure would change nothing but the
generation of the handles. -/
structure AtRest (session : Session) : Prop where
  ready : session.ready = true
  halted : session.isHalted = true
  paused : session.control.isRunning = false
  finished : SameWork session session.finish.value

/-- Running the machine again ends at once and changes nothing but the generation of the handles:
neither without a timer, whatever the budget, nor when a run is started and driven by one tick. -/
structure RunsIdle (session : Session) : Prop where
  untimed (budget : Nat) :
    (session.runToCompletion budget).answer = .ok .halted ∧
      Renewed session (session.runToCompletion budget).session
  timed : ∃ handle, session.run.answer = some handle ∧
    session.run.session.control.liveHandle? = some handle ∧
    (session.run.session.tick handle).answer = false ∧
    Renewed session (session.run.session.tick handle).session

namespace AtRest

variable {session : Session}

theorem of_finish (ready : session.ready = true) (halted : session.isHalted = true) :
    AtRest session.finish.value where
  ready := ready
  halted := halted
  paused := isRunning_cancel session.control
  finished := sameWork_finish_finish session

theorem status_eq (rest : AtRest session) : session.control.status = .paused :=
  (RunControl.idle_of_paused rest.paused).status_eq

/-- What ends with the halt procedure, and is paused at the same speed, is as it was. -/
theorem renewed (rest : AtRest session) {after : Session}
    (same : SameWork session.finish.value after)
    (control : after.control =
      { session.control with status := .paused, generation := after.control.generation }) :
    Renewed session after := by
  refine (rest.finished.trans same).renewed ?_
  rw [← rest.status_eq] at control
  exact control

theorem setSpeed (rest : AtRest session) (speed : Nat) :
    AtRest (session.setSpeed speed).session := by
  by_cases valid : 0 < speed ∧ speed ≤ session.control.maxSpeed
  · have still : ¬ session.control.isRunning = true := by simp [rest.paused]
    have paced := SameWork.paced session { session.control with speed }
    rw [session_setSpeed_of_valid valid.1 valid.2, if_neg still]
    exact ⟨rest.ready, rest.halted, rest.paused, (paced.symm.trans rest.finished).trans paced.finish⟩
  · rw [session_setSpeed_of_invalid valid]
    exact rest

theorem runsIdle (rest : AtRest session) : RunsIdle session where
  untimed budget := by
    refine ⟨?_, rest.renewed ?_ (control_runToCompletion rest.ready budget)⟩
    · rw [answer_eq_ending rest.ready, ending_of_halted rest.halted]
    · rw [← driven_of_halted rest.halted budget]
      exact sameWork_runToCompletion rest.ready budget
  timed := by
    have started := session_run rest.ready
    have control := RunControl.value_start_of_paused rest.paused
    have running : session.run.session.control.isRunning = true := by
      rw [started, control]
      rfl
    have asked := RunControl.liveHandle?_eq_some_iff.mpr ⟨running, rfl⟩
    have live := RunControl.isLive_of_liveHandle? asked
    have halted : session.run.session.isHalted = true := by
      rw [started]
      exact rest.halted
    have ticked : (session.run.session.tick session.run.session.control.handle).session =
        session.run.session.finish.value := by
      rw [session_tick live, driven_of_halted halted]
    have paced : SameWork session session.run.session := by
      rw [started]
      exact .paced _ _
    refine ⟨_, answer_run rest.ready, asked, ?_, ?_⟩
    · rw [answer_tick live, ticked]
      exact isRunning_cancel _
    · rw [ticked]
      refine rest.renewed paced.finish ?_
      rw [started, control]
      simp [finish, cancelRun]

end AtRest

theorem Reachable.atRest_of_completes {settings : Settings} {session : Session}
    {command : Command} (reachable : Reachable settings session)
    (completed : session.completes command = true) :
    AtRest (session.perform command).session := by
  obtain ⟨reached, halted, finished⟩ := exists_finish_of_completes completed
  have ready : (session.perform command).session.ready = true :=
    (maintained_program fun loaded _ => loaded = true).perform
      (keepsProgram_of_completes completed) (reachable.ready_of_completes completed)
  rw [finished] at ready ⊢
  exact .of_finish ready halted

/-- The output of a completed run, in terms of the tape that was loaded. -/
theorem LaidOut.output_of_completes {settings : Settings} {loaded : Tape} {session : Session}
    {command : Command} (laidOut : LaidOut settings loaded session)
    (completed : session.completes command = true) :
    let ended := (session.perform command).session
    Fresh loaded ended ∧
      ended.output =
        ((TapeSection.layout loaded).find? fun register => register.name = "A").elim noOutput
          fun register => TapeSection.decode (ended.cellsOf register) := by
  intro ended
  have keeps := keepsProgram_of_completes completed
  have fresh : Fresh loaded ended := (laidOut.stayed (.inl keeps)).fresh
  have shown : ended.output = _ := output_perform keeps
  rw [if_pos completed] at shown
  exact ⟨fresh, shown.trans fresh.outputOf_sections⟩

/-- What a completed run leaves behind.  A tick or an unthrottled run of a machine that can be
reached ends in the halt state only by way of the halt procedure: the machine is paused and no
handle is live, no line is current and the index of the listing is zero, and the output is that of
register `A` in the layout of the tape that was loaded, decoded from the tape as it is now.  It is
the numeral of the number that the cells of the register write, or `x` if one of them holds no
binary digit, and there is no output without the register.

Whoever runs the machine again, at this speed or another, with a timer or without, changes nothing
that can be seen, nor the history. -/
theorem halted_of_completes (settings : Settings) (session : Session) (command : Command)
    (reachable : Reachable settings session) (completed : session.completes command = true) :
    let ended := (session.perform command).session
    ended.control.Idle ∧
      (∀ line ∈ ended.listing.lines, line.status ≠ .current) ∧ ended.listing.current = 0 ∧
      (∃ loaded, LaidOut settings loaded session) ∧
      (∀ loaded, LaidOut settings loaded session →
        let found := (TapeSection.layout loaded).find? fun register => register.name = "A"
        (found = none → ended.output = "?") ∧
          ∀ register, found = some register →
            let cells := ended.cellsOf register
            ended.output = TapeSection.decode cells ∧ cells ≠ [] ∧
              ((∃ cell ∈ cells, cell ≠ 0 ∧ cell ≠ 1) → ended.output = "x") ∧
              ((∀ cell ∈ cells, cell = 0 ∨ cell = 1) →
                Decimal.IsNumeral ended.output (Nat.ofDigits 2 cells.reverse))) ∧
      RunsIdle ended ∧ ∀ speed, RunsIdle (ended.setSpeed speed).session := by
  intro ended
  obtain ⟨reached, halted, finished⟩ := exists_finish_of_completes completed
  have finished : ended = reached.finish.value := finished
  have rest : AtRest ended := reachable.atRest_of_completes completed
  refine ⟨RunControl.idle_of_paused rest.paused, fun line member => ?_, ?_,
    reachable.exists_laidOut, fun loaded laidOut => ?_, rest.runsIdle,
    fun speed => (rest.setSpeed speed).runsIdle⟩
  · rw [finished] at member
    exact status_ne_current_of_finish member
  · rw [finished]
    rfl
  · obtain ⟨fresh, shown⟩ := laidOut.output_of_completes completed
    refine ⟨fun absent => ?_, fun register present => ?_⟩
    · rw [shown, absent, Option.elim_none]
      rfl
    · rw [present, Option.elim_some] at shown
      have filled := fresh.cellsOf_ne_nil (List.mem_of_find?_eq_some present)
      refine ⟨shown, filled, fun foreign => ?_, fun binary => ?_⟩
      · rw [shown, TapeSection.decode_of_foreign (.inr foreign)]
      · rw [shown]
        exact TapeSection.isNumeral_decode filled binary

theorem halted_of_completes_relay :
    let settings := { Settings.default with historyLimit := some 2 }
    let ended := (relaySession.perform (.runToCompletion 7)).session
    ended.control.Idle ∧ ended.listing.current = 0 ∧
      LaidOut settings #[5, 2, 1, 0, 5] relaySession ∧
      ended.cellsOf ⟨2, 3, "A", .red, "x"⟩ = [0, 1] ∧
      ended.output = "1" ∧ Decimal.IsNumeral ended.output 1 ∧
      RunsIdle ended ∧ RunsIdle (ended.setSpeed 1000).session := by
  intro settings ended
  have loaded : relaySession = _ :=
    session_load_relayText { Settings.default with historyLimit := some 2 }
  have reachable : Reachable settings relaySession :=
    Reachable.new.performAll [.load relayText]
  have laidOut : LaidOut settings #[5, 2, 1, 0, 5] relaySession := by
    have replaces : ¬ (Command.load relayText).Stays := by simp [Command.Stays, Command.keepsProgram]
    have replaced : LaidOut settings relaySession.configuration.tape relaySession :=
      .replaced .new replaces
    have tape : relaySession.configuration.tape = #[5, 2, 1, 0, 5] := by
      rw [loaded]
      rfl
    rwa [tape] at replaced
  have completed : relaySession.completes (.runToCompletion 7) = true := by
    rw [loaded]
    cbv
  have cells : ended.cellsOf ⟨2, 3, "A", .red, "x"⟩ = [0, 1] := by
    change (relaySession.perform (.runToCompletion 7)).session.cellsOf _ = _
    rw [loaded]
    cbv
  have present : (TapeSection.layout #[5, 2, 1, 0, 5]).find?
      (fun register => register.name = "A") = some ⟨2, 3, "A", .red, "x"⟩ := by
    cbv
  obtain ⟨idle, -, current, -, shown, again, atAnySpeed⟩ :=
    halted_of_completes settings relaySession (.runToCompletion 7) reachable completed
  obtain ⟨output, -, -, numeral⟩ := (shown _ laidOut).2 _ present
  have numeral : Decimal.IsNumeral ended.output 1 := by
    have binary := numeral (by rw [cells]; decide)
    rwa [cells] at binary
  have one : Decimal.numeral 1 = "1" := by cbv
  have shown : ended.output = "1" :=
    (numeral.unique (TapeSection.isNumeral_numeral 1)).trans one
  exact ⟨idle, current, laidOut, cells, shown, numeral, again, atAnySpeed 1000⟩

end Session
end TapeWorkbench
