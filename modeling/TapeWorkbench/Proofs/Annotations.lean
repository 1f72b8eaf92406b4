import TapeWorkbench.Proofs.Alongside
import TapeWorkbench.Proofs.Breakpoints
import TapeWorkbench.Proofs.Excerpt

/-!
# Annotations do not affect the computation

The execution consults the listing for breakpoints only, and the blocks of the instructions for
the listing only.  So as long as there are no breakpoints, two sessions that differ in their
listings, in their sources and in the blocks of their instructions go alongside each other
(`Session.alongside_computesAlike`), and an undo takes both back to moments that differ in their
listings only.  A text and what remains of it without its annotations make such sessions.
-/

namespace TapeWorkbench

/-! ## Instructions without their blocks -/

namespace Configuration

theorem follow?_eq_of_unplaced_eq {first second : Instruction}
    (same : second.unplaced = first.unplaced) (configuration : Configuration) :
    configuration.follow? second = configuration.follow? first := by
  change configuration.follow? second.unplaced = configuration.follow? first.unplaced
  rw [same]

/-- The blocks of the instructions do not keep a configuration from a transition. -/
theorem fault?_eq_of_unplaced_eq {first second : InstructionTable}
    (same : ∀ state symbol, (second.find? state symbol).map Instruction.unplaced =
      (first.find? state symbol).map Instruction.unplaced) (configuration : Configuration) :
    configuration.fault? second = configuration.fault? first := by
  unfold fault?
  cases configuration.read? with
  | none => rfl
  | some symbol =>
      have instructions := same configuration.state symbol
      dsimp only
      cases found : first.find? configuration.state symbol with
      | none =>
          rw [found, Option.map_none, Option.map_eq_none_iff] at instructions
          rw [instructions]
      | some instruction =>
          rw [found, Option.map_some, Option.map_eq_some_iff] at instructions
          obtain ⟨other, found', equal⟩ := instructions
          have move : other.unplaced.move = instruction.unplaced.move := by rw [equal]
          change other.move = instruction.move at move
          rw [found']
          dsimp only
          rw [follow?_eq_of_unplaced_eq equal, move]

end Configuration

/-! ## Moments without their listings -/

def Moment.unlisted (moment : Moment) : Moment :=
  { moment with listing := .empty }

theorem Moment.unlisted_eq_iff {first second : Moment} :
    second.unlisted = first.unlisted ↔
      second.configuration = first.configuration ∧ second.stepCount = first.stepCount ∧
        second.currentInstruction = first.currentInstruction := by
  simp [unlisted]

theorem History.map_toList_push {α β : Type} (f : α → β) {first second : History α}
    (limit : second.limit = first.limit) (same : second.toList.map f = first.toList.map f)
    {value other : α} (equal : f other = f value) :
    (second.push other).toList.map f = (first.push value).toList.map f := by
  rw [toList_push, toList_push, limit]
  cases first.limit with
  | none => simp [same, equal]
  | some limit => simp [List.map_take, same, equal]

/-! ## Listings without breakpoints -/

theorem Listing.atBreakpoint_of_unflagged {listing : Listing}
    (unflagged : ∀ flag ∈ listing.flags, flag = false) : listing.atBreakpoint = false := by
  unfold atBreakpoint
  cases found : listing.currentLine? with
  | none => rfl
  | some line => exact unflagged _ (List.mem_map_of_mem (List.mem_of_find?_eq_some found))

/-- What can be seen of a machine besides its source and its listing. -/
def Snapshot.unannotated (snapshot : Snapshot) : Snapshot :=
  { snapshot with source := "", assembly := [], currentBlock := 0 }

namespace Session

/-- There are no breakpoints, and there were none at the moments that can be returned to. -/
structure Unflagged (session : Session) : Prop where
  present : ∀ flag ∈ session.listing.flags, flag = false
  past : ∀ moment ∈ session.history.toList, ∀ flag ∈ moment.listing.flags, flag = false

namespace Unflagged

variable {session : Session}

theorem takeStep (unflagged : Unflagged session) (symbol : Symbol) (instruction : Instruction)
    (target : Configuration) :
    Unflagged (session.takeStep symbol instruction target).value where
  present := by
    rw [listing_takeStep]
    split
    · exact unflagged.present
    · rw [Listing.flags_advance]
      exact unflagged.present
  past moment member := by
    rcases History.eq_or_mem_of_mem_push member with rfl | old
    · exact unflagged.present
    · exact unflagged.past moment old

theorem finish (unflagged : Unflagged session) : Unflagged session.finish.value where
  present := by
    change ∀ flag ∈ (session.listing.advance 0 session.sections).value.flags, flag = false
    rw [Listing.flags_advance]
    exact unflagged.present
  past := unflagged.past

theorem stepBack (unflagged : Unflagged session) : Unflagged session.stepBack.session := by
  cases popped : session.history.pop? with
  | none => rwa [session_stepBack_of_none popped]
  | some newest =>
      obtain ⟨moment, older⟩ := newest
      have past := unflagged.past
      rw [History.toList_of_pop? popped, List.forall_mem_cons] at past
      rw [session_stepBack popped]
      exact ⟨past.1, past.2⟩

theorem load {text : String} {program : Program} (session : Session)
    (accepted : (Program.read text).value = .ok program) :
    Unflagged (session.load text).session := by
  rw [session_load accepted]
  exact ⟨fun flag member => Program.flags_ofLines accepted member, nofun⟩

end Unflagged

/-! ## Sessions that compute alike -/

/-- The sessions differ in their listings and their sources, and in the blocks of their
instructions, but there is no breakpoint in them. -/
structure ComputesAlike (first second : Session) : Prop where
  settings_eq : second.settings = first.settings
  table_eq : ∀ state symbol, (second.table.find? state symbol).map Instruction.unplaced =
    (first.table.find? state symbol).map Instruction.unplaced
  moment_eq : second.moment.unlisted = first.moment.unlisted
  sections_eq : second.sections = first.sections
  output_eq : second.output = first.output
  fault_eq : second.fault = first.fault
  ready_eq : second.ready = first.ready
  control_eq : second.control = first.control
  history_eq : second.history.toList.map Moment.unlisted =
    first.history.toList.map Moment.unlisted
  limit_eq : second.history.limit = first.history.limit
  unflagged_first : first.Unflagged
  unflagged_second : second.Unflagged

namespace ComputesAlike

variable {first second : Session}

theorem configuration_eq (alike : ComputesAlike first second) :
    second.configuration = first.configuration :=
  (Moment.unlisted_eq_iff.mp alike.moment_eq).1

theorem takeStep (alike : ComputesAlike first second) (symbol : Symbol)
    (instruction other : Instruction) (target : Configuration) :
    ComputesAlike (first.takeStep symbol instruction target).value
      (second.takeStep symbol other target).value := by
  have stepCount := (Moment.unlisted_eq_iff.mp alike.moment_eq).2.1
  exact
    { settings_eq := alike.settings_eq
      table_eq := alike.table_eq
      moment_eq := Moment.unlisted_eq_iff.mpr ⟨rfl, congrArg (· + 1) stepCount, rfl⟩
      sections_eq := congrArg (TapeSection.updateAll · target.tape) alike.sections_eq
      output_eq := alike.output_eq
      fault_eq := alike.fault_eq
      ready_eq := alike.ready_eq
      control_eq := alike.control_eq
      history_eq :=
        History.map_toList_push Moment.unlisted alike.limit_eq alike.history_eq alike.moment_eq
      limit_eq := by
        change (second.history.push second.moment).limit = (first.history.push first.moment).limit
        rw [History.limit_push, History.limit_push, alike.limit_eq]
      unflagged_first := alike.unflagged_first.takeStep symbol instruction target
      unflagged_second := alike.unflagged_second.takeStep symbol other target }

theorem attempt (alike : ComputesAlike first second) :
    ComputesAlike first.attempt.value.session second.attempt.value.session ∧
      second.attempt.value.refusal = first.attempt.value.refusal := by
  have passes := Listing.atBreakpoint_of_unflagged alike.unflagged_first.present
  have passes' := Listing.atBreakpoint_of_unflagged alike.unflagged_second.present
  have configuration := alike.configuration_eq
  generalize came : first.attempt.value = attempt
  have reasons : Attempted first attempt := came ▸ attempted first
  cases reasons with
  | @stuck fault found _ =>
      have found' : second.configuration.fault? second.table = some fault := by
        rw [configuration, Configuration.fault?_eq_of_unplaced_eq alike.table_eq]
        exact found
      have twin : Attempted second _ := .stuck found' (by simp [passes'])
      rw [twin.value_attempt]
      have cancelled : second.control.cancel.value = first.control.cancel.value := by
        rw [alike.control_eq]
      exact
        ⟨{ alike with
            fault_eq := rfl
            control_eq := cancelled
            unflagged_first := ⟨alike.unflagged_first.present, alike.unflagged_first.past⟩
            unflagged_second := ⟨alike.unflagged_second.present, alike.unflagged_second.past⟩ },
          rfl⟩
  | held _ stops => cases passes.symm.trans stops
  | @stepped symbol instruction target read found follows _ =>
      have instructions := alike.table_eq first.configuration.state symbol
      rw [found, Option.map_some, Option.map_eq_some_iff] at instructions
      obtain ⟨other, found', equal⟩ := instructions
      have twin : Attempted second ⟨(second.takeStep symbol other target).value, none⟩ := by
        refine .stepped ?_ ?_ ?_ passes'
        · rwa [configuration]
        · rwa [configuration]
        · rw [configuration, Configuration.follow?_eq_of_unplaced_eq equal, follows]
      rw [twin.value_attempt]
      exact ⟨alike.takeStep symbol instruction other target, rfl⟩

theorem finish (alike : ComputesAlike first second) :
    ComputesAlike first.finish.value second.finish.value := by
  have configuration := alike.configuration_eq
  obtain ⟨-, stepCount, called⟩ := Moment.unlisted_eq_iff.mp alike.moment_eq
  have sections : TapeSection.updateAll second.sections second.configuration.tape =
      TapeSection.updateAll first.sections first.configuration.tape := by
    rw [alike.sections_eq, configuration]
  exact
    { settings_eq := alike.settings_eq
      table_eq := alike.table_eq
      moment_eq := Moment.unlisted_eq_iff.mpr ⟨configuration, stepCount, called⟩
      sections_eq := sections
      output_eq := congrArg outputOf sections
      fault_eq := alike.fault_eq
      ready_eq := alike.ready_eq
      control_eq := by
        change second.control.cancel.value = first.control.cancel.value
        rw [alike.control_eq]
      history_eq := alike.history_eq
      limit_eq := alike.limit_eq
      unflagged_first := alike.unflagged_first.finish
      unflagged_second := alike.unflagged_second.finish }

end ComputesAlike

theorem alongside_computesAlike : Alongside ComputesAlike where
  control_eq alike := alike.control_eq
  ready_eq alike := alike.ready_eq
  isHalted_eq alike := by
    rw [isHalted, isHalted, alike.configuration_eq, alike.settings_eq]
  paced alike control :=
    { alike with
      control_eq := rfl
      unflagged_first := ⟨alike.unflagged_first.present, alike.unflagged_first.past⟩
      unflagged_second := ⟨alike.unflagged_second.present, alike.unflagged_second.past⟩ }
  attempt := ComputesAlike.attempt
  finish := ComputesAlike.finish

namespace ComputesAlike

variable {first second : Session}

theorem stepBack (alike : ComputesAlike first second) :
    ComputesAlike first.stepBack.session second.stepBack.session := by
  have unflagged := alike.unflagged_first.stepBack
  have unflagged' := alike.unflagged_second.stepBack
  have past := alike.history_eq
  cases popped : first.history.pop? with
  | none =>
      rw [(History.pop?_eq_none_iff _).mp popped, List.map_nil, List.map_eq_nil_iff] at past
      rw [session_stepBack_of_none popped,
        session_stepBack_of_none ((History.pop?_eq_none_iff _).mpr past)]
      exact alike
  | some newest =>
      obtain ⟨moment, older⟩ := newest
      rw [History.toList_of_pop? popped] at past
      cases popped' : second.history.pop? with
      | none => simp [(History.pop?_eq_none_iff _).mp popped'] at past
      | some newest' =>
          obtain ⟨moment', older'⟩ := newest'
          rw [History.toList_of_pop? popped', List.map_cons, List.map_cons, List.cons.injEq] at past
          have configuration := (Moment.unlisted_eq_iff.mp past.1).1
          rw [session_stepBack popped] at unflagged ⊢
          rw [session_stepBack popped'] at unflagged' ⊢
          exact
            { alike with
              moment_eq := past.1
              sections_eq := by rw [alike.sections_eq, configuration]
              fault_eq := rfl
              history_eq := past.2
              limit_eq := by
                rw [History.limit_of_pop? popped, History.limit_of_pop? popped', alike.limit_eq]
              unflagged_first := unflagged
              unflagged_second := unflagged' }

theorem load (session : Session) {text other : String} {program remainder : Program}
    (accepted : (Program.read text).value = .ok program)
    (remains : (Program.read other).value = .ok remainder) (agrees : program.Agrees remainder) :
    ComputesAlike (session.load text).session (session.load other).session := by
  have unflagged := Unflagged.load session accepted
  have unflagged' := Unflagged.load session remains
  rw [session_load accepted] at unflagged ⊢
  rw [session_load remains] at unflagged' ⊢
  exact
    { settings_eq := rfl
      table_eq := agrees.table
      moment_eq := by
        rw [Moment.unlisted_eq_iff, firstMoment, firstMoment, agrees.tape, agrees.head]
        exact ⟨rfl, rfl, rfl⟩
      sections_eq := by rw [agrees.tape]
      output_eq := rfl
      fault_eq := rfl
      ready_eq := rfl
      control_eq := rfl
      history_eq := rfl
      limit_eq := rfl
      unflagged_first := unflagged
      unflagged_second := unflagged' }

theorem snapshot_eq (alike : ComputesAlike first second) :
    second.snapshot.unannotated = first.snapshot.unannotated := by
  have stepCount := (Moment.unlisted_eq_iff.mp alike.moment_eq).2.1
  have called := (Moment.unlisted_eq_iff.mp alike.moment_eq).2.2
  simp only [Snapshot.unannotated, snapshot, alike.configuration_eq, stepCount, called,
    alike.ready_eq, alike.control_eq, alike.fault_eq, alike.output_eq, alike.sections_eq]

theorem size_history_eq (alike : ComputesAlike first second) :
    second.history.size = first.history.size := by
  have lengths := congrArg List.length alike.history_eq
  simpa using lengths

theorem perform (alike : ComputesAlike first second) {command : Command}
    (plain : command.isExecution = true ∨ command = .stepBack) :
    ComputesAlike (first.perform command).session (second.perform command).session ∧
      (second.perform command).answer = (first.perform command).answer := by
  rcases plain with executes | rfl
  · exact alongside_computesAlike.perform alike executes
  · exact ⟨alike.stepBack, rfl⟩

theorem performAll (alike : ComputesAlike first second) {commands : List Command}
    (plain : ∀ command ∈ commands, command.isExecution = true ∨ command = .stepBack) :
    ComputesAlike (first.performAll commands) (second.performAll commands) ∧
      (second.transcript commands).map (Prod.map id Snapshot.unannotated) =
        (first.transcript commands).map (Prod.map id Snapshot.unannotated) := by
  induction commands generalizing first second with
  | nil => exact ⟨alike, rfl⟩
  | cons command commands ih =>
      rw [List.forall_mem_cons] at plain
      obtain ⟨moved, answer⟩ := alike.perform plain.1
      obtain ⟨reached, rest⟩ := ih moved plain.2
      refine ⟨reached, ?_⟩
      rw [transcript, transcript, List.map_cons, List.map_cons, rest, Prod.map, Prod.map,
        answer, moved.snapshot_eq]

end ComputesAlike

/-- Annotations do not affect the computation.  If a text is accepted, so is what remains of it
without the directives, comments and blank lines behind its tape line.  Loaded in the same
place, both answer alike whatever is executed and undone, and show the same after each command
except for the source and the listing, with as many steps to undo. -/
theorem transcript_withoutAnnotations (session : Session) {text : String} {program : Program}
    (accepted : (Program.read text).value = .ok program) :
    (∃ remainder, (Program.read (Program.withoutAnnotations text)).value = .ok remainder) ∧
      ∀ commands : List Command,
        (∀ command ∈ commands, command.isExecution = true ∨ command = .stepBack) →
          let annotated := (session.load text).session
          let plain := (session.load (Program.withoutAnnotations text)).session
          (plain.transcript commands).map (Prod.map id Snapshot.unannotated) =
              (annotated.transcript commands).map (Prod.map id Snapshot.unannotated) ∧
            (plain.performAll commands).snapshot.unannotated =
              (annotated.performAll commands).snapshot.unannotated ∧
            (plain.performAll commands).history.size =
              (annotated.performAll commands).history.size := by
  obtain ⟨remainder, remains⟩ := Program.exists_read_withoutAnnotations accepted
  refine ⟨⟨remainder, remains⟩, fun commands plain => ?_⟩
  have agrees := Program.agrees_withoutAnnotations accepted remains
  obtain ⟨reached, same⟩ := (ComputesAlike.load session accepted remains agrees).performAll plain
  exact ⟨same, reached.snapshot_eq, reached.size_history_eq⟩

/-- Of two steps one is undone, and a run leads to the halt state.  What the annotated program
puts out, the plain one puts out as well. -/
theorem transcript_withoutAnnotations_relay :
    let remainder := "5 2 !1 0 5\nSTART 1 0 R NEXT\nNEXT 0 1 L END"
    let annotated := ((new Settings.default).load relayText).session
    let plain := ((new Settings.default).load remainder).session
    let commands : List Command := [.step, .step, .stepBack, .runToCompletion 7]
    (Program.read relayText).value = .ok relay ∧
      Program.withoutAnnotations relayText = remainder ∧
      (plain.transcript commands).map (Prod.map id Snapshot.unannotated) =
        (annotated.transcript commands).map (Prod.map id Snapshot.unannotated) ∧
      (plain.performAll commands).snapshot.output = "1" ∧
      (plain.performAll commands).history.size = 2 := by
  intro remainder annotated plain commands
  have remains : Program.withoutAnnotations relayText = remainder := by decide +kernel
  have executes : ∀ command ∈ commands, command.isExecution = true ∨ command = .stepBack := by
    simp [commands, Command.isExecution]
  obtain ⟨answers, shown, size⟩ :=
    (transcript_withoutAnnotations (new Settings.default) read_relayText).2 commands executes
  rw [remains] at answers shown size
  have loaded : annotated = _ := session_load_relayText Settings.default
  have output : (annotated.performAll commands).snapshot.output = "1" := by
    rw [loaded]
    cbv
  have two : (annotated.performAll commands).history.size = 2 := by
    rw [loaded]
    cbv
  have same : (plain.performAll commands).snapshot.output =
      (annotated.performAll commands).snapshot.output := by
    change (plain.performAll commands).snapshot.unannotated.output = _
    rw [shown]
    rfl
  exact ⟨read_relayText, remains, answers, same.trans output, size.trans two⟩

end Session
end TapeWorkbench
