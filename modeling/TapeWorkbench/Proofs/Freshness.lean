import TapeWorkbench.Proofs.Blocks
import TapeWorkbench.Proofs.Layout
import TapeWorkbench.Proofs.Succession

/-!
# What is derived is up to date

A session shows two things that follow from the others: the sections, whose values are decoded
from the tape, and the name of the instruction that comes next.  Neither is computed where it is
shown.  The sections are laid out once, on the tape that is loaded, and decoded anew by whatever
touches the tape; the name is written down by each step and comes back with the moment that an
undo returns to.

So what keeps them right concerns the past as well (`Session.Fresh`): every moment that can be
returned to has a tape of the length that was loaded, and the name that goes with it.
-/

namespace TapeWorkbench

/-- Before the first step no instruction is named, and then the one that comes next: by the state
and the symbol under the head. -/
def Moment.Named (moment : Moment) : Prop :=
  (moment.stepCount = 0 → moment.currentInstruction = "") ∧
    (moment.stepCount ≠ 0 → ∃ symbol, moment.configuration.read? = some symbol ∧
      moment.currentInstruction = instructionName moment.configuration.state symbol)

/-- Where a moment leads to, the name is the right one. -/
theorem Moment.Leads.named_after {table : InstructionTable} {before after : Moment}
    (leads : before.Leads table after) : after.Named := by
  have counted := leads.counted
  exact ⟨fun first => by omega, fun _ => leads.named⟩

namespace Command

/-- Does the command put a program in the place of the present one? -/
def opensProgram : Command → Bool
  | load _ | loadFile (.ok _) | reset => true
  | _ => false

/-- Does the command leave the program in place, perhaps because its file cannot be read? -/
def Stays (command : Command) : Prop :=
  command.keepsProgram = true ∨ ∃ fault, command = .loadFile (.error fault)

end Command

namespace Session

/-- The sections are those laid out on a tape, decoded from the present one; now and in the past,
the tape has the length of that one and the right instruction is named. -/
structure Fresh (loaded : Tape) (session : Session) : Prop where
  sections_eq : session.sections =
    TapeSection.updateAll (TapeSection.layout loaded) session.configuration.tape
  size_eq : session.configuration.tape.size = loaded.size
  named : session.moment.Named
  past : ∀ moment ∈ session.history.toList,
    moment.configuration.tape.size = loaded.size ∧ moment.Named

namespace Fresh

variable {loaded : Tape} {session : Session}

/-- With nothing to undo, the present moment is all there is to look at. -/
theorem of_history_empty {limit : Option Nat} (forgotten : session.history = .empty limit)
    (first : session.moment.stepCount = 0) (unnamed : session.moment.currentInstruction = "")
    (sections_eq : session.sections =
      TapeSection.updateAll (TapeSection.layout session.configuration.tape)
        session.configuration.tape) :
    Fresh session.configuration.tape session where
  sections_eq := sections_eq
  size_eq := rfl
  named := ⟨fun _ => unnamed, fun later => absurd first later⟩
  past := by simp [forgotten]

theorem progress {after : Session} (fresh : Fresh loaded session)
    (made : Progress session after) : Fresh loaded after := by
  cases made with
  | paced control => exact ⟨fresh.sections_eq, fresh.size_eq, fresh.named, fresh.past⟩
  | stuck _ => exact ⟨fresh.sections_eq, fresh.size_eq, fresh.named, fresh.past⟩
  | @stepped symbol instruction target read found follows _ =>
      have same := (Configuration.within_of_follow? follows).1
      have leads := session.leads_takeStep read found follows
      refine ⟨?_, same.trans fresh.size_eq, leads.named_after, fun moment member => ?_⟩
      · change TapeSection.updateAll session.sections target.tape = _
        rw [fresh.sections_eq, TapeSection.updateAll_updateAll]
        rfl
      · rcases History.eq_or_mem_of_mem_push member with rfl | old
        · exact ⟨fresh.size_eq, fresh.named⟩
        · exact fresh.past moment old
  | finished _ =>
      refine ⟨?_, fresh.size_eq, fresh.named, fresh.past⟩
      change TapeSection.updateAll session.sections session.configuration.tape = _
      rw [fresh.sections_eq, TapeSection.updateAll_updateAll]
      rfl

end Fresh

theorem maintained_fresh (loaded : Tape) : Maintained (Fresh loaded) where
  progress := Fresh.progress
  undone := by
    intro session moment older fresh popped
    have members := History.toList_of_pop? popped
    obtain ⟨size_eq, named⟩ := fresh.past moment (by simp [members])
    refine ⟨?_, size_eq, named, fun other member => fresh.past other (by simp [members, member])⟩
    change TapeSection.updateAll session.sections moment.configuration.tape = _
    rw [fresh.sections_eq, TapeSection.updateAll_updateAll]
    rfl
  toggled fresh _ := ⟨fresh.sections_eq, fresh.size_eq, fresh.named, fresh.past⟩
  listening _ _ fresh := ⟨fresh.sections_eq, fresh.size_eq, fresh.named, fresh.past⟩

namespace Fresh

variable {loaded : Tape} {session : Session}

theorem performAll {commands : List Command} (fresh : Fresh loaded session)
    (stay : ∀ command ∈ commands, command.Stays) : Fresh loaded (session.performAll commands) := by
  induction commands generalizing session with
  | nil => exact fresh
  | cons command commands ih =>
      rw [List.forall_mem_cons] at stay
      refine ih ?_ stay.2
      rcases stay.1 with keeps | ⟨fault, rfl⟩
      · exact (maintained_fresh loaded).perform keeps fresh
      · exact fresh

theorem load (session : Session) (text : String) :
    Fresh (session.load text).session.configuration.tape (session.load text).session := by
  cases verdict : (Program.read text).value with
  | error fault =>
      rw [session_load_of_rejected verdict]
      exact of_history_empty rfl rfl rfl rfl
  | ok program =>
      rw [session_load verdict]
      exact of_history_empty rfl rfl rfl rfl

theorem of_opensProgram (session : Session) {opening : Command}
    (opens : opening.opensProgram = true) :
    Fresh (session.perform opening).session.configuration.tape
      (session.perform opening).session := by
  cases opening with
  | load text => exact load session text
  | loadFile file =>
      cases file with
      | ok text => exact load session text
      | error fault => cases opens
  | reset =>
      change Fresh session.reset.session.configuration.tape session.reset.session
      unfold reset
      split
      · exact load session _
      · exact of_history_empty rfl rfl rfl rfl
  | _ => cases opens

/-- The values of the sections are what their cells write. -/
theorem sections_eq_map (fresh : Fresh loaded session) :
    session.sections = (TapeSection.layout loaded).map fun tapeSection =>
      { tapeSection with
        value := TapeSection.decode
          (session.configuration.tape.extract tapeSection.first (tapeSection.last + 1)).toList } := by
  rw [fresh.sections_eq]
  refine List.map_congr_left fun tapeSection member => ?_
  obtain ⟨ordered, within⟩ := TapeSection.range_layout member
  rw [← fresh.size_eq] at within
  rw [TapeSection.decodeOn_of_inside ordered within]

/-- All cells of the sections are on the present tape. -/
theorem range_sections (fresh : Fresh loaded session) :
    ∀ tapeSection ∈ session.sections, tapeSection.first ≤ tapeSection.last ∧
      tapeSection.last < session.configuration.tape.size := by
  intro tapeSection member
  rw [fresh.sections_eq_map] at member
  obtain ⟨original, laidOut, rfl⟩ := List.mem_map.mp member
  obtain ⟨ordered, within⟩ := TapeSection.range_layout laidOut
  rw [fresh.size_eq]
  exact ⟨ordered, within⟩

/-- Sections that are up to date with one tape differ in their values only. -/
theorem undecoded_eq {other : Session} (fresh : Fresh loaded session)
    (alike : Fresh loaded other) :
    session.sections.map TapeSection.undecoded = other.sections.map TapeSection.undecoded := by
  rw [fresh.sections_eq, alike.sections_eq, TapeSection.map_undecoded_updateAll,
    TapeSection.map_undecoded_updateAll]

end Fresh

/-- Once a text has been loaded, by whatever command, what a session derives from its tape is up
to date until another text is loaded or the session is emptied.  The sections are those of the
tape that was loaded, each with the value that its cells write on the present tape, which reaches
beyond all of them; so their ranges, names and colors are the ones they had at first, and the
tape is as long as it was.  The name on display is that of the instruction for the present state
and the symbol under the head, once a step has been taken. -/
theorem derived_of_commands (session : Session) (opening : Command) (commands : List Command)
    (opens : opening.opensProgram = true) (stay : ∀ command ∈ commands, command.Stays) :
    let loaded := (session.perform opening).session.snapshot
    let shown := ((session.perform opening).session.performAll commands).snapshot
    (shown.sections = (TapeSection.layout loaded.tape).map fun tapeSection =>
        { tapeSection with
          value := TapeSection.decode
            (shown.tape.extract tapeSection.first (tapeSection.last + 1)).toList }) ∧
      (∀ tapeSection ∈ shown.sections,
        tapeSection.first ≤ tapeSection.last ∧ tapeSection.last < shown.tape.size) ∧
      shown.sections.map TapeSection.undecoded = loaded.sections.map TapeSection.undecoded ∧
      shown.tape.size = loaded.tape.size ∧
      (shown.stepCount = 0 → shown.currentInstruction = "") ∧
      (shown.stepCount ≠ 0 → ∃ symbol, shown.tape[shown.head]? = some symbol ∧
        shown.currentInstruction = shown.state ++ "-" ++ Decimal.numeral symbol) := by
  intro loaded shown
  have first := Fresh.of_opensProgram session opens
  have fresh := first.performAll stay
  exact ⟨fresh.sections_eq_map, fresh.range_sections, fresh.undecoded_eq first, fresh.size_eq,
    fresh.named⟩

/-- Through two blocks into the halt state, where a step is refused, and one step back: the
register shows what its cells hold at the second block, and that block's instruction is named. -/
theorem derived_of_commands_relay :
    let commands : List Command :=
      [.step, .loadFile (.error .nothingLoaded), .runToCompletion 7, .step, .stepBack]
    let loaded := ((new Settings.default).perform (.load relayText)).session
    let shown := (loaded.performAll commands).snapshot
    Command.opensProgram (.load relayText) = true ∧ (∀ command ∈ commands, command.Stays) ∧
      shown.sections = [⟨2, 3, "A", .red, "0"⟩] ∧
      shown.sections.map TapeSection.undecoded =
        loaded.snapshot.sections.map TapeSection.undecoded ∧
      shown.tape.size = 5 ∧ shown.stepCount = 1 ∧ shown.currentInstruction = "NEXT-0" := by
  intro commands loaded shown
  have stay : ∀ command ∈ commands, command.Stays := by
    simp [commands, Command.Stays, Command.keepsProgram]
  obtain ⟨sections, -, alike, size, -, -⟩ :=
    derived_of_commands (new Settings.default) (.load relayText) commands rfl stay
  have opened : loaded = _ := session_load_relayText Settings.default
  have moment : (loaded.performAll
      [.step, .loadFile (.error .nothingLoaded), .runToCompletion 7, .step, .stepBack]).moment =
        ⟨⟨#[5, 2, 0, 0, 5], 3, "NEXT"⟩, 1, "NEXT-0",
          ⟨[⟨"CLEAR", .current, false, []⟩, ⟨"SET", .pending, false, []⟩], 1⟩⟩ := by
    rw [opened]
    cbv
  have tape : loaded.snapshot.tape = #[5, 2, 1, 0, 5] := by rw [opened]; rfl
  have later : shown.tape = #[5, 2, 0, 0, 5] := congrArg (fun m => m.configuration.tape) moment
  refine ⟨rfl, stay, ?_, alike, ?_, congrArg Moment.stepCount moment,
    congrArg Moment.currentInstruction moment⟩
  · rw [sections, tape, later]
    cbv
  · rw [size, tape]
    rfl

end Session
end TapeWorkbench
