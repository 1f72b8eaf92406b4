import TapeWorkbench.Proofs.Alongside
import TapeWorkbench.Proofs.Succession

/-!
# A limit forgets the oldest steps and nothing else

A history with a limit holds the newest of the moments that one without a limit holds, and no
more of them than the limit allows (`History.Recalls`).  Steps file the same moment in both, and
an undo takes the same moment from both as long as the limited one has one left.  A session
with a limit therefore goes alongside one without, and nobody can tell them apart before an undo
asks for a moment that was forgotten.
-/

namespace TapeWorkbench

/-- The limited history holds the newest values of the other one, newest first. -/
structure History.Recalls {α : Type} (limit : Nat) (limited full : History α) : Prop where
  limit_eq : limited.limit = some limit
  unlimited : full.limit = none
  newest : limited.toList <+: full.toList
  bounded : limited.size ≤ limit

namespace History.Recalls

variable {α : Type} {limit : Nat} {limited full : History α}

theorem empty (limit : Nat) : (History.empty (some limit) : History α).Recalls limit (.empty none) :=
  ⟨rfl, rfl, List.prefix_rfl, Nat.zero_le limit⟩

theorem clear (recalls : limited.Recalls limit full) :
    limited.clear.Recalls limit full.clear := by
  rw [History.clear, History.clear, recalls.limit_eq, recalls.unlimited]
  exact empty limit

theorem push (recalls : limited.Recalls limit full) (value : α) :
    (limited.push value).Recalls limit (full.push value) where
  limit_eq := (History.limit_push _ _).trans recalls.limit_eq
  unlimited := (History.limit_push _ _).trans recalls.unlimited
  newest := by
    have whole : (full.push value).toList = value :: full.toList := by
      rw [History.toList_push, recalls.unlimited]
    rw [whole]
    have front := (List.prefix_cons_inj value).mpr recalls.newest
    exact (History.toList_push_prefix limited value).trans front
  bounded := History.size_push_le recalls.limit_eq value

theorem of_pop? (recalls : limited.Recalls limit full) {value : α} {older : History α}
    (popped : limited.pop? = some (value, older)) :
    ∃ others, full.pop? = some (value, others) ∧ older.Recalls limit others := by
  have newest := recalls.newest
  rw [History.toList_of_pop? popped] at newest
  cases taken : full.pop? with
  | none =>
      rw [(History.pop?_eq_none_iff _).mp taken] at newest
      simp at newest
  | some pair =>
      obtain ⟨first, others⟩ := pair
      rw [History.toList_of_pop? taken, List.cons_prefix_cons] at newest
      obtain ⟨rfl, newest⟩ := newest
      have shorter := History.size_of_pop? popped
      have bounded := recalls.bounded
      refine ⟨others, rfl, ?_, ?_, newest, by omega⟩
      · rw [History.limit_of_pop? popped, recalls.limit_eq]
      · rw [History.limit_of_pop? taken, recalls.unlimited]

end History.Recalls

namespace Session

/-- The same session with a limit, and with another history. -/
def remembering (session : Session) (limit : Nat) (history : History Moment) : Session :=
  { session with
    settings := { session.settings with historyLimit := some limit }
    history }

/-- The second session is the first one with a limit. -/
def Curtails (limit : Nat) (full limited : Session) : Prop :=
  ∃ history, limited = full.remembering limit history ∧ history.Recalls limit full.history

theorem alongside_curtails (limit : Nat) : Alongside (Curtails limit) where
  control_eq := by
    rintro full _ ⟨history, rfl, -⟩
    rfl
  ready_eq := by
    rintro full _ ⟨history, rfl, -⟩
    rfl
  isHalted_eq := by
    rintro full _ ⟨history, rfl, -⟩
    rfl
  paced := by
    rintro full _ ⟨history, rfl, recalls⟩ control
    exact ⟨history, rfl, recalls⟩
  attempt := by
    rintro full _ ⟨history, rfl, recalls⟩
    generalize came : full.attempt.value = attempt
    have reasons : Attempted full attempt := came ▸ attempted full
    cases reasons with
    | stuck found before =>
        have twin : Attempted (full.remembering limit history) _ := .stuck found before
        rw [twin.value_attempt]
        exact ⟨⟨history, rfl, recalls⟩, rfl⟩
    | held called stops =>
        have twin : Attempted (full.remembering limit history) _ := .held called stops
        rw [twin.value_attempt]
        exact ⟨⟨history, rfl, recalls⟩, rfl⟩
    | stepped read found follows passes =>
        have twin : Attempted (full.remembering limit history) _ :=
          .stepped read found follows passes
        rw [twin.value_attempt]
        exact ⟨⟨history.push full.moment, rfl, recalls.push full.moment⟩, rfl⟩
  finish := by
    rintro full _ ⟨history, rfl, recalls⟩
    exact ⟨history, rfl, recalls⟩

namespace Curtails

variable {limit : Nat} {full limited : Session}

theorem new (settings : Settings) (limit : Nat) :
    Curtails limit (new { settings with historyLimit := none })
      (new { settings with historyLimit := some limit }) :=
  ⟨.empty (some limit), rfl, .empty limit⟩

theorem load (curtails : Curtails limit full limited) (text : String) :
    Curtails limit (full.load text).session (limited.load text).session := by
  obtain ⟨history, rfl, recalls⟩ := curtails
  cases verdict : (Program.read text).value with
  | error fault =>
      rw [session_load_of_rejected verdict, session_load_of_rejected verdict]
      exact ⟨history.clear, rfl, recalls.clear⟩
  | ok program =>
      rw [session_load verdict, session_load verdict]
      exact ⟨history.clear, rfl, recalls.clear⟩

theorem cleared (curtails : Curtails limit full limited) :
    Curtails limit full.cleared.value limited.cleared.value := by
  obtain ⟨history, rfl, recalls⟩ := curtails
  exact ⟨history.clear, rfl, recalls.clear⟩

theorem reset (curtails : Curtails limit full limited) :
    Curtails limit full.reset.session limited.reset.session ∧
      limited.reset.answer = full.reset.answer := by
  have same : limited.programText = full.programText := by
    obtain ⟨history, rfl, -⟩ := curtails
    rfl
  unfold Session.reset
  rw [same]
  split
  · exact ⟨curtails.load _, answer_load_eq limited full _⟩
  · exact ⟨curtails.cleared, rfl⟩

/-- An undo that finds a moment in both histories, or in neither, goes back to the same one. -/
theorem stepBack (curtails : Curtails limit full limited)
    (finds : limited.history.isEmpty = true → full.history.isEmpty = true) :
    Curtails limit full.stepBack.session limited.stepBack.session := by
  obtain ⟨history, rfl, recalls⟩ := curtails
  cases popped : history.pop? with
  | none =>
      have nothing : history.isEmpty = true :=
        History.isEmpty_iff.mpr ((History.pop?_eq_none_iff _).mp popped)
      have nowhere := (History.pop?_eq_none_iff _).mpr (History.isEmpty_iff.mp (finds nothing))
      rw [session_stepBack_of_none nowhere, session_stepBack_of_none popped]
      exact ⟨history, rfl, recalls⟩
  | some newest =>
      obtain ⟨moment, older⟩ := newest
      obtain ⟨others, taken, recalls⟩ := recalls.of_pop? popped
      rw [session_stepBack taken, session_stepBack popped]
      exact ⟨older, rfl, recalls⟩

theorem setBreakpoint (curtails : Curtails limit full limited) (index : Nat) :
    Curtails limit (full.setBreakpoint index).session (limited.setBreakpoint index).session ∧
      (limited.setBreakpoint index).answer = (full.setBreakpoint index).answer := by
  obtain ⟨history, rfl, recalls⟩ := curtails
  have same : (full.remembering limit history).listing = full.listing := rfl
  unfold Session.setBreakpoint
  rw [same]
  split
  · exact ⟨⟨history, rfl, recalls⟩, rfl⟩
  · exact ⟨⟨history, rfl, recalls⟩, rfl⟩

end Curtails

/-- Does no undo among the commands find the limited history empty while the other one is not? -/
def undoesAlike (full limited : Session) : List Command → Bool
  | [] => true
  | command :: rest =>
    let later := undoesAlike (full.perform command).session (limited.perform command).session rest
    match command with
    | .stepBack => (!limited.history.isEmpty || full.history.isEmpty) && later
    | _ => later

theorem undoesAlike_cons {full limited : Session} {command : Command} {rest : List Command}
    (alike : undoesAlike full limited (command :: rest) = true) :
    (command = .stepBack → limited.history.isEmpty = true → full.history.isEmpty = true) ∧
      undoesAlike (full.perform command).session (limited.perform command).session rest =
        true := by
  cases command with
  | stepBack =>
      simp only [undoesAlike, Bool.and_eq_true, Bool.or_eq_true, Bool.not_eq_true'] at alike
      refine ⟨fun _ empty => ?_, alike.2⟩
      rcases alike.1 with holds | nothing
      · rw [holds] at empty
        cases empty
      · exact nothing
  | _ => exact ⟨nofun, alike⟩

namespace Curtails

variable {limit : Nat} {full limited : Session}

theorem perform (curtails : Curtails limit full limited) (command : Command)
    (finds : command = .stepBack → limited.history.isEmpty = true →
      full.history.isEmpty = true) :
    Curtails limit (full.perform command).session (limited.perform command).session ∧
      (limited.perform command).answer = (full.perform command).answer := by
  have loaded (text : String) := curtails.load text
  have result (text : String) := congrArg Answer.loaded (answer_load_eq limited full text)
  cases command with
  | load text => exact ⟨loaded text, result text⟩
  | loadFile file =>
      cases file with
      | ok text => exact ⟨loaded text, result text⟩
      | error fault => exact ⟨curtails, rfl⟩
  | clear => exact ⟨curtails.cleared, rfl⟩
  | reset =>
      obtain ⟨moved, answer⟩ := curtails.reset
      exact ⟨moved, congrArg Answer.loaded answer⟩
  | delete =>
      obtain ⟨history, emptied, recalls⟩ := curtails.cleared
      refine ⟨⟨history, ?_, recalls⟩, rfl⟩
      change limited.delete.session = full.delete.session.remembering limit history
      rw [session_delete, session_delete, emptied]
      rfl
  | stepBack => exact ⟨curtails.stepBack (finds rfl), rfl⟩
  | setBreakpoint index =>
      obtain ⟨moved, answer⟩ := curtails.setBreakpoint index
      exact ⟨moved, congrArg Answer.breakpoint answer⟩
  | subscribe =>
      obtain ⟨history, rfl, recalls⟩ := curtails
      exact ⟨⟨history, rfl, recalls⟩, rfl⟩
  | unsubscribe listener =>
      obtain ⟨history, rfl, recalls⟩ := curtails
      exact ⟨⟨history, rfl, recalls⟩, rfl⟩
  | step | run | tick | runToCompletion | pause | setSpeed =>
      exact (alongside_curtails limit).perform curtails rfl

theorem snapshot_eq (curtails : Curtails limit full limited) :
    limited.snapshot = full.snapshot := by
  obtain ⟨history, rfl, -⟩ := curtails
  rfl

theorem performAll (curtails : Curtails limit full limited) {commands : List Command}
    (alike : undoesAlike full limited commands = true) :
    Curtails limit (full.performAll commands) (limited.performAll commands) ∧
      limited.transcript commands = full.transcript commands := by
  induction commands generalizing full limited with
  | nil => exact ⟨curtails, rfl⟩
  | cons command commands ih =>
      obtain ⟨finds, alike⟩ := undoesAlike_cons alike
      obtain ⟨moved, answer⟩ := curtails.perform command finds
      obtain ⟨reached, rest⟩ := ih moved alike
      rw [performAll_cons, performAll_cons, transcript, transcript]
      exact ⟨reached, by rw [answer, moved.snapshot_eq, rest]⟩

end Curtails

/-- A limit forgets the oldest steps and nothing else.  Of two new machines, the one with a limit
answers all commands as the one without, and shows the same after each of them, as long as no
undo finds the limited history empty while the other one is not.  The limited history holds no
more moments than the limit allows, and these are the newest ones of the other history, in the
same order. -/
theorem transcript_eq_of_undoesAlike (settings : Settings) (limit : Nat)
    (commands : List Command) :
    let full := new { settings with historyLimit := none }
    let limited := new { settings with historyLimit := some limit }
    undoesAlike full limited commands = true →
      limited.transcript commands = full.transcript commands ∧
        (limited.performAll commands).history.size ≤ limit ∧
        (limited.performAll commands).history.toList <+:
          (full.performAll commands).history.toList := by
  intro full limited alike
  obtain ⟨⟨history, reached, recalls⟩, same⟩ := (Curtails.new settings limit).performAll alike
  refine ⟨same, ?_, ?_⟩
  · rw [reached]
    exact recalls.bounded
  · rw [reached]
    exact recalls.newest

/-- With room for one moment: of two steps one is undone, and a run takes it again. -/
theorem transcript_eq_of_undoesAlike_shuttle :
    let full := new { Settings.default with historyLimit := none }
    let limited := new { Settings.default with historyLimit := some 1 }
    let commands : List Command :=
      [.load shuttleText, .step, .step, .stepBack, .runToCompletion 7]
    undoesAlike full limited commands = true ∧
      limited.transcript commands = full.transcript commands ∧
      (limited.performAll commands).history.toList <+:
        (full.performAll commands).history.toList ∧
      (limited.performAll commands).history.size = 1 ∧
      (full.performAll commands).history.size = 2 := by
  intro full limited commands
  have alike : undoesAlike full limited commands = true := by
    change undoesAlike (full.load shuttleText).session (limited.load shuttleText).session
      [.step, .step, .stepBack, .runToCompletion 7] = true
    rw [session_load_shuttleText, session_load_shuttleText]
    cbv
  obtain ⟨same, -, newest⟩ := transcript_eq_of_undoesAlike Settings.default 1 commands alike
  have one : (limited.performAll commands).history.size = 1 := by
    change ((limited.load shuttleText).session.performAll
      [.step, .step, .stepBack, .runToCompletion 7]).history.size = 1
    rw [session_load_shuttleText]
    cbv
  have two : (full.performAll commands).history.size = 2 := by
    change ((full.load shuttleText).session.performAll
      [.step, .step, .stepBack, .runToCompletion 7]).history.size = 2
    rw [session_load_shuttleText]
    cbv
  exact ⟨alike, same, newest, one, two⟩

end Session
end TapeWorkbench
