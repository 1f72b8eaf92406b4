import TapeWorkbench.Proofs.Commands

/-!
# The machine follows the transition of its program

The transition of a program is a partial function on configurations, and the
configurations that it leads to from the first one are the program's trace.
Whatever is done with a loaded program, the machine stands on the trace, at the
place that its number of steps tells, and so does every moment that can be
returned to.
-/

namespace TapeWorkbench

theorem Move.apply_eq_some_iff {move : Move} {head length target : Nat} :
    move.apply head length = some target ↔
      (target : Int) = head + move.offset ∧ target < length := by
  cases move with
  | left =>
      by_cases first : head = 0
      · simp [apply, offset, first]
      · simp [apply, offset, first]
        omega
  | right =>
      simp [apply, offset]
      omega
  | stay =>
      simp [apply, offset]
      omega

theorem History.eq_or_mem_of_mem_push {α : Type} {history : History α} {value member : α}
    (remembered : member ∈ (history.push value).toList) :
    member = value ∨ member ∈ history.toList := by
  rw [History.toList_push] at remembered
  split at remembered
  · simpa using remembered
  · simpa using List.mem_of_mem_take remembered

namespace Configuration

/-- The textbook transition.  There is a cell under the head, the table has an
instruction for the state and the symbol in that cell, and its move stays on the
tape; then the instruction's symbol is written, the head moves, and the state
changes. -/
def Transits (before : Configuration) (table : InstructionTable) (after : Configuration) : Prop :=
  ∃ (cell : before.head < before.tape.size) (instruction : Instruction),
    table.find? before.state before.tape[before.head] = some instruction ∧
      after.tape = before.tape.set before.head instruction.write ∧
      (after.head : Int) = before.head + instruction.move.offset ∧
      after.head < before.tape.size ∧
      after.state = instruction.nextState

theorem follow?_eq_some_iff {before after : Configuration} {instruction : Instruction}
    (cell : before.head < before.tape.size) :
    before.follow? instruction = some after ↔
      after.tape = before.tape.set before.head instruction.write ∧
        (after.head : Int) = before.head + instruction.move.offset ∧
        after.head < before.tape.size ∧
        after.state = instruction.nextState := by
  obtain ⟨tape, head, state⟩ := after
  simp only [follow?, Option.map_eq_some_iff, Move.apply_eq_some_iff, mk.injEq,
    Array.setIfInBounds, cell, dif_pos]
  constructor
  · rintro ⟨target, moves, rfl, rfl, rfl⟩
    exact ⟨rfl, moves.1, moves.2, rfl⟩
  · rintro ⟨written, moved, within, changed⟩
    exact ⟨head, ⟨moved, within⟩, written.symm, rfl, changed.symm⟩

/-- The partial function that the machine follows is the textbook transition. -/
theorem step?_eq_some_iff_transits {table : InstructionTable} {before after : Configuration} :
    before.step? table = some after ↔ before.Transits table after := by
  by_cases cell : before.head < before.tape.size
  · have read : before.read? = some before.tape[before.head] := by simp [read?, cell]
    simp only [step?, read, Option.bind_eq_bind, Option.bind_some, Option.bind_eq_some_iff,
      follow?_eq_some_iff cell, Transits, cell, exists_true_left]
  · have read : before.read? = none := by simpa [read?] using cell
    simp [step?, read, Transits, cell]

/-- The configuration after a number of transitions, if all of them are defined. -/
def stepMany? (table : InstructionTable) (start : Configuration) : Nat → Option Configuration
  | 0 => some start
  | count + 1 => (start.stepMany? table count).bind (step? table)

end Configuration

/-- A moment stands on a trace at the place that its number of steps tells. -/
def Moment.OnTrace (table : InstructionTable) (start : Configuration) (moment : Moment) : Prop :=
  start.stepMany? table moment.stepCount = some moment.configuration

namespace Session

/-- The present moment and all that can be returned to stand on the trace of a
table. -/
structure Traced (table : InstructionTable) (start : Configuration) (session : Session) : Prop where
  table_eq : session.table = table
  present : session.moment.OnTrace table start
  past : ∀ moment ∈ session.history.toList, moment.OnTrace table start

theorem maintained_traced (table : InstructionTable) (start : Configuration) :
    Maintained (Traced table start) where
  progress := by
    intro before after traced made
    cases made with
    | paced control => exact ⟨traced.table_eq, traced.present, traced.past⟩
    | stuck found => exact ⟨traced.table_eq, traced.present, traced.past⟩
    | finished halted => exact ⟨traced.table_eq, traced.present, traced.past⟩
    | @stepped symbol instruction target read found follows passes =>
        refine ⟨traced.table_eq, ?_, ?_⟩
        · have transition : before.configuration.step? table = some target := by
            rw [← traced.table_eq]
            exact Configuration.step?_eq_some read found follows
          change (start.stepMany? table before.moment.stepCount).bind _ = some target
          rw [traced.present]
          exact transition
        · intro moment member
          rcases History.eq_or_mem_of_mem_push member with rfl | old
          · exact traced.present
          · exact traced.past moment old
  undone := by
    intro session moment older traced popped
    have members := History.toList_of_pop? popped
    refine ⟨traced.table_eq, traced.past moment (by simp [members]), ?_⟩
    intro other member
    exact traced.past other (by simp [members, member])
  toggled traced _ := ⟨traced.table_eq, traced.present, traced.past⟩
  listening _ _ traced := ⟨traced.table_eq, traced.present, traced.past⟩

theorem traced_load {session : Session} {text : String} {program : Program}
    (accepted : (Program.read text).value = .ok program) :
    Traced program.table (firstMoment session.settings program).configuration
      (session.load text).session := by
  rw [session_load accepted]
  exact ⟨rfl, rfl, by simp [History.clear]⟩

/-- Once a text has been loaded, by whatever command, the machine follows the
textbook transition of its program: whatever is done until another text is loaded,
in whatever order, the present configuration is the one that as many transitions
as there are steps lead to, and all of these are defined. -/
theorem stepMany?_eq_configuration (session : Session) (opening : Command) (text : String)
    (program : Program) (commands : List Command)
    (loads : session.textLoadedBy? opening = some text)
    (accepted : (Program.read text).value = .ok program)
    (keep : ∀ command ∈ commands, command.keepsProgram = true) :
    let loaded := session.perform opening
    let reached := loaded.session.performAll commands
    (∀ before after : Configuration,
        before.step? program.table = some after ↔ before.Transits program.table after) ∧
      loaded.answer = .loaded (.ok ()) ∧
      Configuration.stepMany? program.table
          { tape := program.tape, head := program.head, state := session.settings.startState }
          reached.moment.stepCount =
        some reached.configuration := by
  intro loaded reached
  have opened : loaded = (session.load text).map .loaded := perform_eq_load loads
  have initial : Traced program.table (firstMoment session.settings program).configuration
      loaded.session := by
    rw [opened]
    exact traced_load accepted
  refine ⟨fun before after => Configuration.step?_eq_some_iff_transits, ?_, ?_⟩
  · rw [opened]
    exact congrArg Answer.loaded (answer_load accepted)
  · exact ((maintained_traced _ _).performAll keep initial).present

/-- A breakpoint, a run at two speeds, a dead handle, an undone step and a run
into a missing instruction: two transitions in all. -/
theorem stepMany?_eq_configuration_shuttle :
    let commands : List Command :=
      [.setBreakpoint 0, .step, .setBreakpoint 0, .run, .tick ⟨3, 100000000⟩, .setSpeed 1000,
        .tick ⟨3, 100000000⟩, .stepBack, .runToCompletion 7]
    let reached := shuttleSession.performAll commands
    (Program.read shuttleText).value = .ok shuttle ∧
      (∀ command ∈ commands, command.keepsProgram = true) ∧
      Configuration.stepMany? shuttle.table ⟨#[1, 0], 0, "START"⟩ reached.moment.stepCount =
        some reached.configuration ∧
      reached.moment.stepCount = 2 :=
  ⟨read_shuttleText, by decide,
    (stepMany?_eq_configuration (new Settings.default) (.load shuttleText) shuttleText shuttle _
      rfl read_shuttleText (by decide)).2.2,
    by cbv⟩

end Session
end TapeWorkbench
