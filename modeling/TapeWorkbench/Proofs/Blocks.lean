import TapeWorkbench.Proofs.Advance
import TapeWorkbench.Proofs.Contents
import TapeWorkbench.Proofs.Reachable
import TapeWorkbench.Proofs.Trace
import TapeWorkbench.Proofs.Undo

/-!
# Where the listing stands

The listing of a session stands at the block of the instruction executed last: its line is
the only one that is current, and none is if that block is zero.  Before the first block is
entered, the first line is current though.  This is true of the present listing and of all
that can be returned to (`Session.Charted`), whatever is done with the session.

A line that is completed keeps the sections as they are decoded from the tape behind the
step, or in the halt state, that completes it (`Session.Progress.frozen`).
-/

namespace TapeWorkbench

open Relation

/-- The range, the name and the color of a section, whatever its cells hold. -/
def TapeSection.undecoded (tapeSection : TapeSection) : TapeSection :=
  { tapeSection with value := undecodable }

@[simp]
theorem TapeSection.map_undecoded_updateAll (sections : List TapeSection) (tape : Tape) :
    (updateAll sections tape).map undecoded = sections.map undecoded := by
  simp [updateAll, undecoded]

namespace Listing

/-- The block of the instruction executed last is the only one that is current. -/
def Follows (listing : Listing) : Prop :=
  ∀ index, listing.statusAt? index = some .current ↔ listing.current = index + 1

/-- No block has been entered: the first line is current and the others are pending. -/
def Unentered (listing : Listing) : Prop :=
  listing.current = 0 ∧ listing.statusAt? 0 = some .current ∧
    ∀ index status, listing.statusAt? (index + 1) = some status → status = .pending

/-- What is true of the listings of a program with a number of blocks, on a tape with the
given sections. -/
structure Orderly (count : Nat) (sections : List TapeSection) (listing : Listing) : Prop where
  length_eq : listing.lines.length = count
  bounded : listing.current ≤ count
  cursor : listing.Follows ∨ listing.Unentered
  untouched : ∀ line ∈ listing.lines, line.status = .pending → line.sections = []
  frozen : ∀ line ∈ listing.lines, line.status = .completed →
    line.sections.map TapeSection.undecoded = sections.map TapeSection.undecoded

theorem orderly_empty : Orderly 0 [] empty where
  length_eq := rfl
  bounded := le_rfl
  cursor := .inl fun index => by simp [statusAt?, empty]
  untouched := by simp [empty]
  frozen := by simp [empty]

namespace Orderly

variable {count : Nat} {sections copy : List TapeSection} {listing : Listing}

theorem single (orderly : Orderly count sections listing) (first second : Nat)
    (one : listing.statusAt? first = some .current)
    (other : listing.statusAt? second = some .current) : first = second := by
  rcases orderly.cursor with follows | ⟨-, -, pending⟩
  · have here := (follows first).mp one
    have there := (follows second).mp other
    omega
  · -- a line behind the first one is pending
    have front (index : Nat) (current : listing.statusAt? index = some .current) : index = 0 := by
      cases index with
      | zero => rfl
      | succ index => cases pending index .current current
    rw [front first one, front second other]

/-- The sections count with their ranges, names and colors only. -/
theorem congr (orderly : Orderly count sections listing)
    (same : copy.map TapeSection.undecoded = sections.map TapeSection.undecoded) :
    Orderly count copy listing :=
  { orderly with
    frozen := fun line member completed => (orderly.frozen line member completed).trans same.symm }

theorem advance (orderly : Orderly count sections listing) {target : Nat}
    (known : target ≤ count)
    (same : copy.map TapeSection.undecoded = sections.map TapeSection.undecoded) :
    Orderly count sections (listing.advance target copy).value where
  length_eq := by rw [length_lines_advance, orderly.length_eq]
  bounded := by rwa [current_advance]
  cursor := by
    left
    intro index
    rw [current_advance]
    exact statusAt?_advance_eq_current_iff (by rwa [orderly.length_eq]) orderly.single copy index
  untouched := by
    intro after member pending
    obtain ⟨before, old, advances⟩ := exists_advances member
    cases advances with
    | kept => exact orderly.untouched _ old pending
    | completed _ => cases pending
    | entered _ => cases pending
  frozen := by
    intro after member completed
    obtain ⟨before, old, advances⟩ := exists_advances member
    cases advances with
    | kept => exact orderly.frozen _ old completed
    | completed _ => exact same
    | entered _ => cases completed

theorem toggled (orderly : Orderly count sections listing) {flipped : Listing} {index : Nat}
    {flag : Bool} (toggles : listing.toggleBreakpoint? index = some (flag, flipped)) :
    Orderly count sections flipped where
  length_eq := by
    obtain ⟨line, -, -, rfl⟩ := exists_line_of_toggled toggles
    rw [← orderly.length_eq, List.length_set]
  bounded := by
    rw [current_of_toggled toggles]
    exact orderly.bounded
  cursor := by
    have statuses := statusAt?_of_toggled toggles
    simpa only [Follows, Unentered, statuses, current_of_toggled toggles] using orderly.cursor
  untouched := by
    intro after member pending
    obtain ⟨before, old, status, kept⟩ := exists_line_of_mem_toggled toggles member
    rw [kept]
    exact orderly.untouched before old (status.symm.trans pending)
  frozen := by
    intro after member completed
    obtain ⟨before, old, status, kept⟩ := exists_line_of_mem_toggled toggles member
    rw [kept]
    exact orderly.frozen before old (status.symm.trans completed)

end Orderly
end Listing

/-! ## The listing of a program -/

namespace Program

theorem exists_madeOf {text : String} {program : Program}
    (accepted : (read text).value = .ok program) :
    ∃ cells statements, program.MadeOf cells statements := by
  obtain ⟨tapeLine, others, divided⟩ := exists_linesAfter_nil text.toList
  obtain ⟨cells, numbered, -, -, made⟩ := exists_madeOf_of_linesAfter accepted divided
  exact ⟨cells, _, made⟩

theorem getElem?_listingOf_eq_some {texts : List (List Char)} {index : Nat} {line : ListingLine}
    (found : (listingOf texts)[index]? = some line) :
    line.status = (if index = 0 then .current else .pending) ∧ line.breakpoint = false ∧
      line.sections = [] := by
  rw [listingOf, List.getElem?_mapIdx] at found
  obtain ⟨text, -, rfl⟩ := Option.map_eq_some_iff.mp found
  exact ⟨rfl, rfl, rfl⟩

theorem orderly_ofLines {text : String} {program : Program}
    (accepted : (read text).value = .ok program) (sections : List TapeSection) :
    Listing.Orderly program.listing.length sections (.ofLines program.listing) := by
  obtain ⟨cells, statements, made⟩ := exists_madeOf accepted
  have line {index : Nat} {line : ListingLine} (found : program.listing[index]? = some line) :
      line.status = (if index = 0 then .current else .pending) ∧ line.breakpoint = false ∧
        line.sections = [] := by
    rw [made.listing] at found
    exact getElem?_listingOf_eq_some found
  have status {index : Nat} {status : BlockStatus}
      (found : (Listing.ofLines program.listing).statusAt? index = some status) :
      status = if index = 0 then .current else .pending := by
    obtain ⟨shown, here, rfl⟩ := Listing.statusAt?_eq_some_iff.mp found
    exact (line here).1
  refine ⟨rfl, Nat.zero_le _, ?_, ?_, ?_⟩
  · cases first : (Listing.ofLines program.listing).statusAt? 0 with
    | none =>
        left
        intro index
        constructor
        · intro current
          cases index with
          | zero => cases first.symm.trans current
          | succ index => cases status current
        · intro here
          cases here
    | some shown =>
        right
        have current : shown = .current := status first
        subst current
        exact ⟨rfl, first, fun index shown found => status found⟩
  · intro shown member _
    obtain ⟨index, found⟩ := List.mem_iff_getElem?.mp member
    exact (line found).2.2
  · intro shown member completed
    obtain ⟨index, found⟩ := List.mem_iff_getElem?.mp member
    have other := (line found).1
    rw [completed] at other
    split at other <;> cases other

end Program

/-! ## The listing of a session -/

namespace Session

theorem listing_takeStep (session : Session) (symbol : Symbol) (instruction : Instruction)
    (target : Configuration) :
    (session.takeStep symbol instruction target).value.listing =
      if instruction.block = session.listing.current then session.listing
      else
        (session.listing.advance instruction.block
          (TapeSection.updateAll session.sections target.tape)).value := by
  simp only [takeStep, listing, Logged.value_andThen, Logged.value_map]
  exact apply_ite Logged.value _ _ _

/-- The listing and all listings that can be returned to are orderly, and the instructions
belong to the blocks that there are. -/
structure Charted (count : Nat) (session : Session) : Prop where
  blocks : ∀ state symbol instruction, session.table.find? state symbol = some instruction →
    instruction.block ≤ count
  present : session.listing.Orderly count session.sections
  past : ∀ moment ∈ session.history.toList, moment.listing.Orderly count session.sections

namespace Charted

variable {count : Nat} {session : Session}

theorem progress {after : Session} (charted : Charted count session)
    (made : Progress session after) : Charted count after := by
  cases made with
  | paced control => exact ⟨charted.blocks, charted.present, charted.past⟩
  | stuck _ => exact ⟨charted.blocks, charted.present, charted.past⟩
  | @stepped symbol instruction target read found follows passes =>
      have known := charted.blocks _ _ _ found
      have redecoded := TapeSection.map_undecoded_updateAll session.sections target.tape
      refine ⟨charted.blocks, ?_, ?_⟩
      · rw [listing_takeStep]
        change Listing.Orderly count (TapeSection.updateAll session.sections target.tape) _
        split
        · exact charted.present.congr redecoded
        · exact (charted.present.advance known redecoded).congr redecoded
      · intro moment member
        rcases History.eq_or_mem_of_mem_push member with rfl | old
        · exact charted.present.congr redecoded
        · exact (charted.past moment old).congr redecoded
  | finished _ =>
      have redecoded :=
        TapeSection.map_undecoded_updateAll session.sections session.configuration.tape
      refine ⟨charted.blocks, ?_, ?_⟩
      · exact (charted.present.advance (Nat.zero_le count) rfl).congr redecoded
      · intro moment member
        exact (charted.past moment member).congr redecoded

theorem cleared (session : Session) : Charted 0 session.cleared.value := by
  rw [value_cleared]
  refine ⟨?_, Listing.orderly_empty, ?_⟩
  · intro state symbol instruction found
    rw [InstructionTable.find?_empty] at found
    cases found
  · intro moment member
    simp [History.clear] at member

theorem load (session : Session) (text : String) :
    ∃ count, Charted count (session.load text).session := by
  cases verdict : (Program.read text).value with
  | error fault =>
      have empty := cleared session
      rw [session_load_of_rejected verdict]
      exact ⟨0, empty.blocks, empty.present, empty.past⟩
  | ok program =>
      obtain ⟨cells, statements, made⟩ := Program.exists_madeOf verdict
      rw [session_load verdict]
      refine ⟨program.listing.length, made.blocks, Program.orderly_ofLines verdict _, ?_⟩
      intro moment member
      simp [History.clear] at member

end Charted

theorem maintained_charted (count : Nat) : Maintained (Charted count) where
  progress := Charted.progress
  undone := by
    intro session moment history charted popped
    have members := History.toList_of_pop? popped
    have redecoded :=
      TapeSection.map_undecoded_updateAll session.sections moment.configuration.tape
    refine ⟨charted.blocks, ?_, ?_⟩
    · exact (charted.past moment (by simp [members])).congr redecoded
    · intro other member
      exact (charted.past other (by simp [members, member])).congr redecoded
  toggled charted flipped := ⟨charted.blocks, charted.present.toggled flipped, charted.past⟩
  listening _ _ charted := ⟨charted.blocks, charted.present, charted.past⟩

theorem lasting_charted (settings : Settings) :
    Lasting settings fun session => ∃ count, Charted count session where
  toMaintained := .of_each maintained_charted
  initial := by
    refine ⟨0, ?_, Listing.orderly_empty, by simp [new]⟩
    intro state symbol instruction found
    rw [new, InstructionTable.find?_empty] at found
    cases found
  loaded text _ := Charted.load _ text
  emptied _ := ⟨0, Charted.cleared _⟩
  deleted {session} _ := by
    have empty := Charted.cleared session
    rw [session_delete]
    exact ⟨0, empty.blocks, empty.present, empty.past⟩

/-- A line that is completed on the way keeps the sections that there are afterwards. -/
theorem Progress.frozen {before after : Session}
    (decoded : TapeSection.updateAll before.sections before.configuration.tape = before.sections)
    (made : Progress before after) {index : Nat} {line kept : ListingLine}
    (was : before.listing.lines[index]? = some line) (current : line.status = .current)
    (became : after.listing.lines[index]? = some kept) (completed : kept.status = .completed) :
    kept.sections = after.sections := by
  have moved (same : before.listing.lines[index]? = some kept) : False := by
    obtain rfl := Option.some.inj (was.symm.trans same)
    cases current.symm.trans completed
  have copied {target : Nat} {copy : List TapeSection}
      (advanced : (before.listing.advance target copy).value.lines[index]? = some kept) :
      kept.sections = copy := by
    cases Listing.advances was advanced with
    | kept => exact (moved was).elim
    | completed _ => rfl
    | entered _ => cases completed
  cases made with
  | paced control => exact (moved became).elim
  | stuck _ => exact (moved became).elim
  | stepped read found follows passes =>
      rw [listing_takeStep] at became
      split at became
      · exact (moved became).elim
      · exact copied became
  | finished _ =>
      have whole : kept.sections = before.sections := copied became
      exact whole.trans decoded.symm

theorem current_of_accepted {session : Session}
    (accepted : session.attempt.value.refusal = none) :
    ∃ instruction, session.configuration.instruction? session.table = some instruction ∧
      session.attempt.value.session.listing.current = instruction.block := by
  generalize came : session.attempt.value = attempt at accepted ⊢
  have reasons : Attempted session attempt := came ▸ attempted session
  cases reasons with
  | stuck _ _ => cases accepted
  | held _ _ => cases accepted
  | @stepped symbol instruction target read found follows _ =>
      refine ⟨instruction, Configuration.instruction?_eq_some read found, ?_⟩
      rw [listing_takeStep]
      split
      · rename_i same
        exact same.symm
      · exact Listing.current_advance _ _ _

/-- Where the listing of a session stands that can be reached.  Its index is no greater than
the number of lines; no more than one line is current, and that is the line of the index; at
index zero none is, unless no block has been entered.  Pending lines keep no sections, and
completed lines keep sections with the ranges, names and colors of the present ones.

A step leads to the block of its instruction, and so does every step on the way of a command.
All that happens on the way of a command is a chain of pieces, and a line that one of
them completes keeps the sections as they are decoded from the tape behind that piece. -/
theorem listing_of_reachable (settings : Settings) (session : Session)
    (reachable : Reachable settings session) :
    session.listing.current ≤ session.listing.lines.length ∧
      (∀ first second, session.listing.statusAt? first = some .current →
        session.listing.statusAt? second = some .current → first = second) ∧
      (∀ index, session.listing.current = index + 1 →
        session.listing.statusAt? index = some .current) ∧
      (session.listing.current = 0 →
        (∀ index, session.listing.statusAt? index ≠ some .current) ∨
          session.listing.statusAt? 0 = some .current ∧
            ∀ index status, session.listing.statusAt? (index + 1) = some status →
              status = .pending) ∧
      (∀ line ∈ session.listing.lines, line.status = .pending → line.sections = []) ∧
      (∀ line ∈ session.listing.lines, line.status = .completed →
        line.sections.map TapeSection.undecoded = session.sections.map TapeSection.undecoded) ∧
      (session.ready = true → session.attempt.value.refusal = none →
        ∃ instruction, session.configuration.instruction? session.table = some instruction ∧
          session.step.session.listing.current = instruction.block) ∧
      (∀ command, command.isExecution = true →
        Progresses session (session.perform command).session) ∧
      ∀ middle, Progresses session middle →
        (middle.attempt.value.refusal = none →
          ∃ instruction, middle.configuration.instruction? middle.table = some instruction ∧
            middle.attempt.value.session.listing.current = instruction.block) ∧
        ∀ after, Progress middle after → ∀ (index : Nat) (line kept : ListingLine),
          middle.listing.lines[index]? = some line → line.status = .current →
          after.listing.lines[index]? = some kept → kept.status = .completed →
            kept.sections = after.sections ∧
              TapeSection.updateAll after.sections after.configuration.tape = after.sections := by
  obtain ⟨count, charted⟩ := (lasting_charted settings).of_reachable reachable
  have orderly := charted.present
  refine ⟨?_, orderly.single, ?_, ?_, orderly.untouched, orderly.frozen, ?_,
    fun command => progresses_perform session, ?_⟩
  · rw [orderly.length_eq]
    exact orderly.bounded
  · intro index here
    rcases orderly.cursor with follows | ⟨start, -, -⟩
    · exact (follows index).mpr here
    · cases start.symm.trans here
  · intro start
    rcases orderly.cursor with follows | ⟨-, first, pending⟩
    · left
      intro index current
      have here := (follows index).mp current
      omega
    · exact .inr ⟨first, pending⟩
  · intro ready accepted
    have stepped : session.step.session = session.attempt.value.session := by
      simp [step, ready, Reply.published]
    rw [stepped]
    exact current_of_accepted accepted
  · intro middle made
    have sound := (lasting_sound settings).progresses reachable.sound made
    refine ⟨current_of_accepted, ?_⟩
    intro after piece index line kept was current became completed
    exact ⟨piece.frozen sound.decoded was current became completed,
      (sound.progress piece).decoded⟩

/-- A program between its two blocks: the next step completes the first block, and the halt
procedure after it the second one. -/
theorem listing_of_reachable_relay :
    let session := relaySession.performAll [.step]
    let middle := (session.perform .step).session
    Reachable { Settings.default with historyLimit := some 2 } session ∧
      session.ready = true ∧ session.attempt.value.refusal = none ∧
      session.listing.statusAt? 0 = some .current ∧
      session.step.session.listing.current = 2 ∧
      middle.listing.statusAt? 1 = some .current ∧
      ∃ kept, middle.finish.value.listing.lines[1]? = some kept ∧ kept.status = .completed ∧
        kept.sections = [⟨2, 3, "A", .red, "1"⟩] ∧ kept.sections = middle.finish.value.sections := by
  intro session middle
  have reachable : Reachable { Settings.default with historyLimit := some 2 } session :=
    Reachable.new.performAll [.load relayText, .step]
  have loaded : relaySession = _ :=
    session_load_relayText { Settings.default with historyLimit := some 2 }
  have ready : (relaySession.performAll [.step]).ready = true := by
    rw [loaded]
    cbv
  have accepted : (relaySession.performAll [.step]).attempt.value.refusal = none := by
    rw [loaded]
    cbv
  have current : (relaySession.performAll [.step]).listing.current = 1 := by
    rw [loaded]
    cbv
  have instruction : (relaySession.performAll [.step]).configuration.instruction?
      (relaySession.performAll [.step]).table = some ⟨1, .left, "END", 2⟩ := by
    rw [loaded]
    cbv
  have halted : (relaySession.performAll [.step, .step]).isHalted = true := by
    rw [loaded]
    cbv
  have line : (relaySession.performAll [.step, .step]).listing.lines[1]? =
      some ⟨"SET", .current, false, []⟩ := by
    rw [loaded]
    cbv
  have kept : (relaySession.performAll [.step, .step]).finish.value.listing.lines[1]? =
      some ⟨"SET", .completed, false, [⟨2, 3, "A", .red, "1"⟩]⟩ := by
    rw [loaded]
    cbv
  obtain ⟨-, -, follows, -, -, -, stepped, chain, pieces⟩ :=
    listing_of_reachable _ session reachable
  obtain ⟨found, same, block⟩ := stepped ready accepted
  obtain rfl := Option.some.inj (instruction.symm.trans same)
  have frozen := (pieces middle (chain .step rfl)).2 _ (.finished halted) 1 _ _ line rfl kept rfl
  exact ⟨reachable, ready, accepted, follows 0 current, block,
    Listing.statusAt?_eq_some_iff.mpr ⟨_, line, rfl⟩, _, kept, rfl, rfl, frozen.1⟩

end Session
end TapeWorkbench
