import TapeWorkbench.Proofs.Blocks

/-!
# Whose the breakpoints are

The execution of a program leaves the breakpoints alone, and a command flips one of them.
They belong to the listing though, which is part of every moment: undoing a step brings the
breakpoints back as they were before the step, with those flipped since undone.

So the breakpoints stay where no step is undone but those that are undone by the commands that
took them, and those since which no breakpoint was flipped (`Session.Unflipped.performAll`).
-/

namespace TapeWorkbench

theorem ListingLine.Advances.breakpoint_eq {sections : List TapeSection}
    {before after : ListingLine} (advances : before.Advances sections after) :
    after.breakpoint = before.breakpoint := by
  cases advances with
  | kept => rfl
  | completed _ => rfl
  | entered _ => rfl

namespace Listing

/-- The breakpoints, line by line. -/
def flags (listing : Listing) : List Bool :=
  listing.lines.map ListingLine.breakpoint

theorem getElem?_flags (listing : Listing) (index : Nat) :
    listing.flags[index]? = listing.lines[index]?.map ListingLine.breakpoint :=
  List.getElem?_map

@[simp]
theorem flags_advance (listing : Listing) (target : Nat) (sections : List TapeSection) :
    (listing.advance target sections).value.flags = listing.flags :=
  map_lines_advance listing target ListingLine.Advances.breakpoint_eq

theorem toggleBreakpoint?_eq_none_iff {listing : Listing} {index : Nat} :
    listing.toggleBreakpoint? index = none ↔ listing.lines.length ≤ index := by
  rw [toggleBreakpoint?, Option.map_eq_none_iff, List.getElem?_eq_none_iff]

theorem flags_of_toggled {listing toggled : Listing} {index : Nat} {flag : Bool}
    (flipped : listing.toggleBreakpoint? index = some (flag, toggled)) :
    toggled.flags = listing.flags.modify index not ∧ toggled.flags[index]? = some flag := by
  constructor
  · apply List.ext_getElem?
    intro other
    rw [getElem?_flags, getElem?_lines_of_toggled flipped, Option.map_map, List.getElem?_modify,
      getElem?_flags, Option.map_eq_map, Option.map_map]
    congr 1
    funext line
    by_cases here : other = index
    · simp [here]
    · simp [here, Ne.symm here]
  · obtain ⟨line, found, rfl, -⟩ := exists_line_of_toggled flipped
    simp [getElem?_flags, getElem?_lines_of_toggled flipped, found]

/-- The listing without its breakpoints. -/
def unflagged (listing : Listing) : Listing :=
  { listing with lines := listing.lines.map fun line => { line with breakpoint := false } }

/-- A flip leaves everything in the listing alone but the breakpoint. -/
theorem unflagged_of_toggled {listing toggled : Listing} {index : Nat} {flag : Bool}
    (flipped : listing.toggleBreakpoint? index = some (flag, toggled)) :
    toggled.unflagged = listing.unflagged := by
  have lines : (toggled.lines.map fun line => { line with breakpoint := false }) =
      listing.lines.map fun line => { line with breakpoint := false } := by
    apply List.ext_getElem?
    intro other
    rw [List.getElem?_map, List.getElem?_map, getElem?_lines_of_toggled flipped, Option.map_map]
    congr 1
    funext line
    by_cases here : other = index
    · simp [here]
    · simp [here]
  rw [unflagged, unflagged, lines, current_of_toggled flipped]

end Listing

theorem Program.flags_ofLines {text : String} {program : Program}
    (accepted : (read text).value = .ok program) {flag : Bool}
    (member : flag ∈ (Listing.ofLines program.listing).flags) : flag = false := by
  obtain ⟨line, among, rfl⟩ := List.mem_map.mp member
  obtain ⟨index, found⟩ := List.mem_iff_getElem?.mp among
  obtain ⟨cells, statements, made⟩ := exists_madeOf accepted
  change program.listing[index]? = some line at found
  rw [made.listing] at found
  exact (getElem?_listingOf_eq_some found).2.1

/-- The values remembered first are those remembered first before, and the new one. -/
theorem History.eq_or_mem_of_mem_take_push {α : Type} {history : History α} {value member : α}
    {count : Nat} (remembered : member ∈ (history.push value).toList.take (count + 1)) :
    member = value ∨ member ∈ history.toList.take count := by
  rw [← List.mem_cons, ← List.take_succ_cons]
  rw [toList_push] at remembered
  cases bound : history.limit with
  | none => simpa [bound] using remembered
  | some limit =>
      simp only [bound, List.take_take] at remembered
      exact List.take_subset_take_left _ (min_le_left _ _) remembered

/-- What was filed last is returned to first, if anything is remembered at all. -/
theorem History.head?_toList_push {α : Type} {history : History α}
    (remembers : history.limit ≠ some 0) (value : α) :
    (history.push value).toList.head? = some value := by
  rw [toList_push]
  cases bound : history.limit with
  | none => rfl
  | some limit =>
      cases limit with
      | zero => exact absurd bound remembers
      | succ limit => rfl

namespace Session

theorem Progress.flags_eq {before after : Session} (made : Progress before after) :
    after.listing.flags = before.listing.flags := by
  cases made with
  | paced control => rfl
  | stuck _ => rfl
  | stepped _ _ _ _ =>
      rw [listing_takeStep]
      split
      · rfl
      · exact Listing.flags_advance _ _ _
  | finished _ => exact Listing.flags_advance _ _ _

theorem Progresses.flags_eq {before after : Session} (made : Progresses before after) :
    after.listing.flags = before.listing.flags := by
  have keeps {middle last : Session} (same : middle.listing.flags = before.listing.flags)
      (piece : Progress middle last) : last.listing.flags = before.listing.flags :=
    piece.flags_eq.trans same
  exact made.keeps keeps rfl

/-- The breakpoints are as they were at the moments before the latest steps, as many of these
as are counted. -/
structure Unflipped (flags : List Bool) (count : Nat) (session : Session) : Prop where
  present : session.listing.flags = flags
  recent : ∀ moment ∈ session.history.toList.take count, moment.listing.flags = flags

namespace Unflipped

variable {flags : List Bool} {count : Nat} {session : Session}

theorem counted (flags : List Bool) : Counted (Unflipped flags) where
  paced unflipped control fault := ⟨unflipped.present, unflipped.recent⟩
  taken := by
    intro count session unflipped accepted
    have made := (attempted session).progresses.flags_eq
    obtain ⟨symbol, instruction, target, stepped, -⟩ := session_attempt_of_accepted accepted
    refine ⟨made.trans unflipped.present, ?_⟩
    rw [stepped]
    intro moment member
    rcases History.eq_or_mem_of_mem_take_push member with rfl | old
    · exact unflipped.present
    · exact unflipped.recent moment old
  finished unflipped halted :=
    ⟨(Progress.finished halted).flags_eq.trans unflipped.present, unflipped.recent⟩

/-- One of the counted steps is undone, or there is none to undo. -/
theorem stepBack (unflipped : Unflipped flags count session)
    (within : session.history.toList = [] ∨ 0 < count) :
    Unflipped flags (count - 1) session.stepBack.session := by
  cases popped : session.history.pop? with
  | none =>
      rw [session_stepBack_of_none popped]
      refine ⟨unflipped.present, fun moment member => ?_⟩
      rw [(History.pop?_eq_none_iff _).mp popped, List.take_nil] at member
      cases member
  | some taken =>
      obtain ⟨newest, history⟩ := taken
      have remembered := History.toList_of_pop? popped
      rw [session_stepBack popped]
      cases count with
      | zero => simp [remembered] at within
      | succ count =>
          have recent := unflipped.recent
          rw [remembered, List.take_succ_cons, List.forall_mem_cons] at recent
          exact ⟨recent.1, recent.2⟩

end Unflipped

/-- Do the commands undo no steps but the latest ones, as many as are counted, and those that
they take themselves?  When no step is remembered, none is undone. -/
def undoesWithin (session : Session) (count : Nat) : List Command → Bool
  | [] => true
  | command :: rest =>
    let after := (session.perform command).session
    match command with
    | .stepBack =>
      (session.history.isEmpty || 0 < count) && after.undoesWithin (count - 1) rest
    | _ => after.undoesWithin (count + session.stepsOf command) rest

theorem undoesWithin_cons {session : Session} {count : Nat} {command : Command}
    (executes : command.isExecution = true) (rest : List Command) :
    session.undoesWithin count (command :: rest) =
      (session.perform command).session.undoesWithin (count + session.stepsOf command) rest := by
  cases command with
  | stepBack => cases executes
  | _ => rfl

theorem undoesWithin_cons_stepBack (session : Session) (count : Nat) (rest : List Command) :
    session.undoesWithin count (.stepBack :: rest) = true ↔
      (session.history.toList = [] ∨ 0 < count) ∧
        session.stepBack.session.undoesWithin (count - 1) rest = true := by
  rw [← History.isEmpty_iff]
  simp [undoesWithin, perform, Reply.map]

theorem Unflipped.performAll {flags : List Bool} {count : Nat} {session : Session}
    {commands : List Command} (unflipped : Unflipped flags count session)
    (allowed : ∀ command ∈ commands, command.isExecution = true ∨ command = .stepBack)
    (within : session.undoesWithin count commands = true) :
    (session.performAll commands).listing.flags = flags := by
  induction commands generalizing session count with
  | nil => exact unflipped.present
  | cons command commands ih =>
      rw [List.forall_mem_cons] at allowed
      rw [performAll_cons]
      -- the count goes up with the steps that are taken and down with those that are undone
      rcases allowed.1 with executes | rfl
      · rw [undoesWithin_cons executes] at within
        exact ih ((counted flags).perform unflipped executes) allowed.2 within
      · rw [undoesWithin_cons_stepBack] at within
        exact ih (unflipped.stepBack within.1) allowed.2 within.2

theorem flags_performAll {session : Session} {commands : List Command}
    (executes : ∀ command ∈ commands, command.isExecution = true) :
    (session.performAll commands).listing.flags = session.listing.flags := by
  induction commands generalizing session with
  | nil => rfl
  | cons command commands ih =>
      rw [List.forall_mem_cons] at executes
      rw [performAll_cons, ih executes.2]
      exact (progresses_perform session executes.1).flags_eq

theorem moment_stepBack {session : Session} {moment : Moment}
    (newest : session.history.toList.head? = some moment) :
    session.stepBack.session.moment = moment := by
  cases popped : session.history.pop? with
  | none =>
      rw [(History.pop?_eq_none_iff _).mp popped] at newest
      cases newest
  | some taken =>
      obtain ⟨first, history⟩ := taken
      rw [History.toList_of_pop? popped] at newest
      rw [session_stepBack popped]
      exact Option.some.inj newest

/-- Once the history is again as it was right behind a step, undoing returns to the moment
before that step. -/
theorem moment_stepBack_of_accepted {session later : Session}
    (accepted : session.attempt.value.refusal = none)
    (remembers : session.history.limit ≠ some 0)
    (same : later.history.toList = session.attempt.value.session.history.toList) :
    later.stepBack.session.moment = session.moment := by
  obtain ⟨symbol, instruction, target, stepped, -⟩ := session_attempt_of_accepted accepted
  apply moment_stepBack
  rw [same, stepped]
  exact History.head?_toList_push remembers session.moment

theorem flags_setBreakpoint {session : Session} {index : Nat}
    (inside : index < session.listing.lines.length) :
    ∃ flag, (session.setBreakpoint index).answer = .ok flag ∧
      (session.setBreakpoint index).session.listing.flags =
        session.listing.flags.modify index not ∧
      (session.setBreakpoint index).session.listing.flags[index]? = some flag := by
  cases toggled : session.listing.toggleBreakpoint? index with
  | none =>
      have outside := Listing.toggleBreakpoint?_eq_none_iff.mp toggled
      omega
  | some flipped =>
      obtain ⟨flag, listing⟩ := flipped
      have answer : (session.setBreakpoint index).answer = .ok flag := by
        simp [setBreakpoint, toggled, Reply.published]
      rw [session_setBreakpoint toggled]
      exact ⟨flag, answer, Listing.flags_of_toggled toggled⟩

theorem setBreakpoint_of_outside {session : Session} {index : Nat}
    (outside : session.listing.lines.length ≤ index) :
    session.setBreakpoint index = .silent session (.error (.noListingLine index)) := by
  have missing := Listing.toggleBreakpoint?_eq_none_iff.mpr outside
  simp [setBreakpoint, missing]

theorem flags_load (session : Session) (text : String) :
    (session.load text).session.history.toList = [] ∧
      ∀ flag ∈ (session.load text).session.listing.flags, flag = false := by
  cases verdict : (Program.read text).value with
  | error fault =>
      rw [session_load_of_rejected verdict]
      refine ⟨rfl, fun flag member => ?_⟩
      cases member
  | ok program =>
      rw [session_load verdict]
      exact ⟨rfl, fun flag member => Program.flags_ofLines verdict member⟩

/-- A command that replaces the program forgets the breakpoints, unless it fails to read a
file. -/
theorem flags_perform_of_replaces {session : Session} {command : Command}
    (replaces : command.keepsProgram = false) :
    (session.perform command).session = session ∨
      (session.perform command).session.history.toList = [] ∧
        ∀ flag ∈ (session.perform command).session.listing.flags, flag = false := by
  have emptied : session.cleared.value.history.toList = [] ∧
      ∀ flag ∈ session.cleared.value.listing.flags, flag = false := by
    refine ⟨rfl, fun flag member => ?_⟩
    cases member
  exact perform_of_replaces
    (fun after => after.history.toList = [] ∧ ∀ flag ∈ after.listing.flags, flag = false)
    (flags_load session) emptied emptied replaces

/-- No other command changes the breakpoints. -/
theorem flags_perform_eq_or {session : Session} {command : Command}
    (keeps : command.keepsProgram = true) :
    (session.perform command).session.listing.flags = session.listing.flags ∨
      (∃ index, command = .setBreakpoint index ∧ index < session.listing.lines.length) ∨
        command = .stepBack ∧ session.history.toList ≠ [] := by
  cases command with
  | stepBack =>
      cases popped : session.history.pop? with
      | none =>
          left
          change session.stepBack.session.listing.flags = _
          rw [session_stepBack_of_none popped]
      | some taken =>
          have remembered := History.toList_of_pop? popped
          exact .inr (.inr ⟨rfl, by simp [remembered]⟩)
  | setBreakpoint index =>
      by_cases inside : index < session.listing.lines.length
      · exact .inr (.inl ⟨index, rfl, inside⟩)
      · left
        change (session.setBreakpoint index).session.listing.flags = _
        rw [setBreakpoint_of_outside (not_lt.mp inside)]
        rfl
  | subscribe => exact .inl rfl
  | unsubscribe _ => exact .inl rfl
  | load | loadFile | clear | reset | delete => cases keeps
  | step | run | tick | runToCompletion | pause | setSpeed =>
      exact .inl (progresses_perform session rfl).flags_eq

/-- What becomes of the breakpoints.  The execution of the program leaves them as they are, and
so do undos in between, as long as no step is undone before which they were different.  Undoing
a step brings the listing back as it was before the step, breakpoints included, whatever was
done since.  Apart from that they change only when one of them is flipped, and they are
forgotten when the program is replaced. -/
theorem flags_of_commands (session : Session) :
    (∀ commands : List Command, (∀ command ∈ commands, command.isExecution = true) →
      (session.performAll commands).listing.flags = session.listing.flags) ∧
    (∀ (count : Nat) (commands : List Command),
      (∀ command ∈ commands, command.isExecution = true ∨ command = .stepBack) →
      session.undoesWithin count commands = true →
      (∀ moment ∈ session.history.toList.take count,
        moment.listing.flags = session.listing.flags) →
          (session.performAll commands).listing.flags = session.listing.flags) ∧
    (session.attempt.value.refusal = none → session.history.limit ≠ some 0 →
      ∀ commands : List Command,
        let stepped := session.attempt.value.session
        let later := stepped.performAll commands
        later.history.toList = stepped.history.toList →
          later.stepBack.session.listing = session.listing) ∧
    (session.history.toList = [] → session.stepBack.session = session) ∧
    (∀ index, index < session.listing.lines.length →
      ∃ flag, (session.setBreakpoint index).answer = .ok flag ∧
        (session.setBreakpoint index).session.listing.flags =
          session.listing.flags.modify index not ∧
        (session.setBreakpoint index).session.listing.flags[index]? = some flag) ∧
    (∀ index, session.listing.lines.length ≤ index →
      session.setBreakpoint index = .silent session (.error (.noListingLine index))) ∧
    (∀ command : Command, command.keepsProgram = true →
      (session.perform command).session.listing.flags = session.listing.flags ∨
        (∃ index, command = .setBreakpoint index ∧ index < session.listing.lines.length) ∨
          command = .stepBack ∧ session.history.toList ≠ []) ∧
    ∀ command : Command, command.keepsProgram = false →
      (session.perform command).session = session ∨
        (session.perform command).session.history.toList = [] ∧
          ∀ flag ∈ (session.perform command).session.listing.flags, flag = false := by
  refine ⟨fun _ => flags_performAll, ?_, ?_, ?_, fun _ => flags_setBreakpoint,
    fun _ => setBreakpoint_of_outside, fun _ => flags_perform_eq_or,
    fun _ => flags_perform_of_replaces⟩
  · intro count commands allowed within recent
    have unflipped : Unflipped session.listing.flags count session := ⟨rfl, recent⟩
    exact unflipped.performAll allowed within
  · intro accepted remembers commands stepped later same
    have moment := moment_stepBack_of_accepted accepted remembers same
    rw [listing, moment]
    rfl
  · intro nothing
    exact session_stepBack_of_none ((History.pop?_eq_none_iff _).mpr nothing)

/-- A breakpoint that is set behind a step is gone when the step is undone. -/
theorem flags_stepBack_shuttle :
    let session := shuttleSession.performAll [.step, .setBreakpoint 0]
    Reachable Settings.default session ∧ session.listing.flags = [true] ∧
      (session.performAll [.stepBack]).listing.flags = [false] := by
  intro session
  have loaded : shuttleSession = _ := session_load_shuttleText Settings.default
  have reachable : Reachable Settings.default session :=
    (Reachable.new.performAll [.load shuttleText]).performAll [.step, .setBreakpoint 0]
  have set : (shuttleSession.performAll [.step, .setBreakpoint 0]).listing.flags = [true] := by
    rw [loaded]
    cbv
  have gone : (shuttleSession.performAll
      [.step, .setBreakpoint 0, .stepBack]).listing.flags = [false] := by
    rw [loaded]
    cbv
  exact ⟨reachable, set, gone⟩

/-- A breakpoint that is set before the steps stays when these are undone and taken again.
One that is set behind a step is undone with it. -/
theorem flags_of_commands_relay :
    let session := relaySession.performAll [.setBreakpoint 1, .step]
    let commands : List Command := [.step, .stepBack, .runToCompletion 7, .stepBack]
    let flipped := relaySession.attempt.value.session.performAll [.setBreakpoint 1]
    (relaySession.performAll [.step, .run, .step]).listing.flags = relaySession.listing.flags ∧
      session.undoesWithin 1 commands = true ∧
      session.listing.flags = [false, true] ∧
      (session.performAll commands).listing.flags = [false, true] ∧
      relaySession.attempt.value.refusal = none ∧
      flipped.listing.flags = [false, true] ∧
      flipped.stepBack.session.listing = relaySession.listing := by
  intro session commands flipped
  have loaded : relaySession = _ :=
    session_load_relayText { Settings.default with historyLimit := some 2 }
  have within : (relaySession.performAll [.setBreakpoint 1, .step]).undoesWithin 1
      [.step, .stepBack, .runToCompletion 7, .stepBack] = true := by
    rw [loaded]
    cbv
  have set : (relaySession.performAll [.setBreakpoint 1, .step]).listing.flags =
      [false, true] := by
    rw [loaded]
    cbv
  have before : ((relaySession.performAll [.setBreakpoint 1, .step]).history.toList.map
      fun moment => moment.listing.flags) = [[false, true]] := by
    rw [loaded]
    cbv
  have recent : ∀ moment ∈ session.history.toList.take 1,
      moment.listing.flags = session.listing.flags := by
    intro moment member
    have among : moment.listing.flags ∈
        session.history.toList.map fun moment => moment.listing.flags :=
      List.mem_map_of_mem (List.mem_of_mem_take member)
    rw [before, List.mem_singleton] at among
    exact among.trans set.symm
  have accepted : relaySession.attempt.value.refusal = none := by
    rw [loaded]
    cbv
  have remembers : relaySession.history.limit ≠ some 0 := by
    rw [loaded]
    decide
  have shown : (relaySession.attempt.value.session.performAll [.setBreakpoint 1]).listing.flags =
      [false, true] := by
    rw [loaded]
    cbv
  have same : flipped.history.toList = relaySession.attempt.value.session.history.toList := by
    change (relaySession.attempt.value.session.performAll [.setBreakpoint 1]).history.toList = _
    rw [loaded]
    cbv
  obtain ⟨-, undone, -⟩ := flags_of_commands session
  obtain ⟨executed, -, unset, -⟩ := flags_of_commands relaySession
  have still := undone 1 commands (by simp [commands, Command.isExecution]) within recent
  have gone := unset accepted remembers [.setBreakpoint 1] same
  exact ⟨executed _ (by decide), within, set, still.trans set, accepted, shown, gone⟩

end Session
end TapeWorkbench
