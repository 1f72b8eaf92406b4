import TapeWorkbench.Proofs.Trace
import TapeWorkbench.Proofs.Undo

/-!
# What is remembered is a run

The moments that can be returned to are those that the machine came through: from the oldest
one on, each leads to the next by one transition of the present table, and the newest one leads
to the present moment.  So the counts of their steps follow one another without a gap, and as
many steps were taken as are remembered, unless there is a limit.

This is kept by steps, which put the present moment in front of the others, by undos, which take
the first of the others for the present one, and by all that touches the listing only
(`Session.Successive`).
-/

namespace TapeWorkbench

namespace Configuration

/-- Following an instruction keeps the head on a tape of the same length. -/
theorem within_of_follow? {before after : Configuration} {instruction : Instruction}
    (follows : before.follow? instruction = some after) :
    after.tape.size = before.tape.size ∧ after.head < after.tape.size := by
  obtain ⟨head, moves, rfl⟩ := Option.map_eq_some_iff.mp follows
  have same : (before.tape.setIfInBounds before.head instruction.write).size = before.tape.size :=
    Array.size_setIfInBounds
  exact ⟨same, by simpa only [same] using (Move.apply_eq_some_iff.mp moves).2⟩

theorem exists_of_step? {table : InstructionTable} {before after : Configuration}
    (transition : before.step? table = some after) :
    ∃ symbol instruction, before.read? = some symbol ∧
      table.find? before.state symbol = some instruction ∧
      before.follow? instruction = some after := by
  obtain ⟨symbol, read, rest⟩ := Option.bind_eq_some_iff.mp transition
  obtain ⟨instruction, found, follows⟩ := Option.bind_eq_some_iff.mp rest
  exact ⟨symbol, instruction, read, found, follows⟩

end Configuration

/-- One transition leads from a moment to the next one. -/
structure Moment.Leads (table : InstructionTable) (before after : Moment) : Prop where
  counted : after.stepCount = before.stepCount + 1
  transition : before.configuration.step? table = some after.configuration
  /-- The name on display is that of the instruction that comes next. -/
  named : ∃ symbol, after.configuration.read? = some symbol ∧
    after.currentInstruction = instructionName after.configuration.state symbol

namespace Moment.Leads

variable {table : InstructionTable} {before after : Moment}

/-- The listing has no part in it. -/
theorem relisted (leads : before.Leads table after) (listing : Listing) :
    before.Leads table { after with listing } :=
  ⟨leads.counted, leads.transition, leads.named⟩

theorem within (leads : before.Leads table after) :
    before.configuration.head < before.configuration.tape.size ∧
      after.configuration.tape.size = before.configuration.tape.size := by
  obtain ⟨symbol, instruction, read, -, follows⟩ := Configuration.exists_of_step? leads.transition
  obtain ⟨cell, -⟩ := Array.getElem?_eq_some_iff.mp read
  exact ⟨cell, (Configuration.within_of_follow? follows).1⟩

end Moment.Leads

/-- A run, newest moment first. -/
abbrev IsRun (table : InstructionTable) (moments : List Moment) : Prop :=
  moments.IsChain fun after before => before.Leads table after

namespace IsRun

variable {table : InstructionTable} {present : Moment} {past : List Moment}

theorem relisted (run : IsRun table (present :: past)) (listing : Listing) :
    IsRun table ({ present with listing } :: past) :=
  run.imp_head fun leads => leads.relisted listing

/-- Every moment of a run has a tape of the same length, with the head on it. -/
theorem within (run : IsRun table (present :: past)) :
    ∀ moment ∈ past, moment.configuration.tape.size = present.configuration.tape.size ∧
      moment.configuration.head < moment.configuration.tape.size := by
  induction past generalizing present with
  | nil => simp
  | cons newest older ih =>
      obtain ⟨leads, earlier⟩ := List.isChain_cons_cons.mp run
      obtain ⟨cell, same⟩ := leads.within
      refine List.forall_mem_cons.mpr ⟨⟨same.symm, cell⟩, fun moment member => ?_⟩
      obtain ⟨length, head⟩ := ih earlier moment member
      exact ⟨length.trans same.symm, head⟩

theorem length_le (run : IsRun table (present :: past)) : past.length ≤ present.stepCount := by
  induction past generalizing present with
  | nil => exact Nat.zero_le _
  | cons newest older ih =>
      obtain ⟨leads, earlier⟩ := List.isChain_cons_cons.mp run
      have counted := leads.counted
      have shorter := ih earlier
      rw [List.length_cons]
      omega

end IsRun

namespace History

variable {α : Type}

/-- Whether or not something is forgotten, what is remembered is the new value and then what was
remembered before, up to some point. -/
theorem toList_push_prefix (history : History α) (value : α) :
    (history.push value).toList <+: value :: history.toList := by
  rw [toList_push]
  split
  · exact List.prefix_rfl
  · exact List.take_prefix _ _

theorem size_push_of_unlimited {history : History α} (unlimited : history.limit = none)
    (value : α) : (history.push value).size = history.size + 1 := by
  rw [← length_toList, toList_push, unlimited, List.length_cons, length_toList]

theorem size_push_le {history : History α} {limit : Nat} (bounded : history.limit = some limit)
    (value : α) : (history.push value).size ≤ limit := by
  rw [← length_toList, toList_push, bounded]
  exact List.length_take_le _ _

theorem size_of_pop? {history older : History α} {newest : α}
    (popped : history.pop? = some (newest, older)) : history.size = older.size + 1 := by
  rw [← length_toList, toList_of_pop? popped, List.length_cons, length_toList]

end History

namespace Session

/-- A step that is taken leads from the present moment to the one behind it. -/
theorem leads_takeStep (session : Session) {symbol : Symbol} {instruction : Instruction}
    {target : Configuration} (read : session.configuration.read? = some symbol)
    (found : session.table.find? session.configuration.state symbol = some instruction)
    (follows : session.configuration.follow? instruction = some target) :
    session.moment.Leads session.table (session.takeStep symbol instruction target).value.moment := by
  have cell := (Configuration.within_of_follow? follows).2
  have next : target.read? = some target.tape[target.head] := Array.getElem?_eq_getElem cell
  refine ⟨rfl, Configuration.step?_eq_some read found follows, _, next, ?_⟩
  change instructionName target.state (target.read?.getD 0) = _
  rw [next]
  rfl

/-- The history with the present moment in front of it is a run.  It is as long as its limit
allows, and without a limit it goes back to the first step. -/
structure Successive (session : Session) : Prop where
  run : IsRun session.table (session.moment :: session.history.toList)
  whole : session.history.limit = none → session.history.size = session.moment.stepCount
  bounded : ∀ limit, session.history.limit = some limit → session.history.size ≤ limit

namespace Successive

variable {session : Session}

/-- Nothing is remembered at the beginning. -/
theorem of_history_empty {limit : Option Nat} (forgotten : session.history = .empty limit)
    (first : session.moment.stepCount = 0) : Successive session := by
  refine ⟨?_, fun _ => ?_, fun limit _ => ?_⟩
  · rw [forgotten]
    exact .singleton _
  · rw [forgotten, first]
    rfl
  · rw [forgotten]
    exact Nat.zero_le limit

theorem takeStep (successive : Successive session) {symbol : Symbol} {instruction : Instruction}
    {target : Configuration} (read : session.configuration.read? = some symbol)
    (found : session.table.find? session.configuration.state symbol = some instruction)
    (follows : session.configuration.follow? instruction = some target) :
    Successive (session.takeStep symbol instruction target).value := by
  have leads := session.leads_takeStep read found follows
  refine ⟨?_, fun unlimited => ?_, fun limit bounded => ?_⟩
  · have longer : IsRun session.table
        ((session.takeStep symbol instruction target).value.moment ::
          session.moment :: session.history.toList) :=
      List.isChain_cons_cons.mpr ⟨leads, successive.run⟩
    have kept := History.toList_push_prefix session.history session.moment
    exact longer.prefix ((List.prefix_cons_inj _).mpr kept)
  · have before : session.history.limit = none := by rwa [← History.limit_push]
    exact (History.size_push_of_unlimited before _).trans
      (congrArg (· + 1) (successive.whole before))
  · have before : session.history.limit = some limit := by rwa [← History.limit_push]
    exact History.size_push_le before _

theorem progress {after : Session} (successive : Successive session)
    (made : Progress session after) : Successive after := by
  cases made with
  | paced control => exact ⟨successive.run, successive.whole, successive.bounded⟩
  | stuck _ => exact ⟨successive.run, successive.whole, successive.bounded⟩
  | stepped read found follows _ => exact successive.takeStep read found follows
  | finished _ => exact ⟨successive.run.relisted _, successive.whole, successive.bounded⟩

theorem undone (successive : Successive session) {moment : Moment} {older : History Moment}
    (popped : session.history.pop? = some (moment, older)) (sections : List TapeSection)
    (fault : Option Fault) :
    Successive { session with moment, history := older, fault, sections } := by
  have run := successive.run
  rw [History.toList_of_pop? popped] at run
  obtain ⟨leads, earlier⟩ := List.isChain_cons_cons.mp run
  have shorter := History.size_of_pop? popped
  have limit_eq := History.limit_of_pop? popped
  refine ⟨earlier, fun unlimited => ?_, fun limit bounded => ?_⟩
  · have counted := leads.counted
    have whole := successive.whole (limit_eq.symm.trans unlimited)
    change older.size = moment.stepCount
    omega
  · have fits := successive.bounded limit (limit_eq.symm.trans bounded)
    change older.size ≤ limit
    omega

end Successive

theorem lasting_successive (settings : Settings) : Lasting settings Successive where
  progress := Successive.progress
  undone successive popped := successive.undone popped _ _
  toggled successive _ :=
    ⟨successive.run.relisted _, successive.whole, successive.bounded⟩
  listening _ _ successive := ⟨successive.run, successive.whole, successive.bounded⟩
  initial := .of_history_empty rfl rfl
  loaded {session} text _ := by
    cases verdict : (Program.read text).value with
    | error fault =>
        rw [session_load_of_rejected verdict]
        exact .of_history_empty rfl rfl
    | ok program =>
        rw [session_load verdict]
        exact .of_history_empty rfl rfl
  emptied _ := .of_history_empty rfl rfl
  deleted _ := .of_history_empty rfl rfl

/-- The history is a run that leads to the present.  In every state that can be reached, each
moment that is remembered leads to the next one by a transition of the present table, from the
oldest on, and the newest leads to the present moment; all of them have the head on a tape of
the present length.  No more steps are remembered than were taken, and without a limit no fewer;
with one, no more than it allows. -/
theorem history_of_reachable (settings : Settings) (session : Session)
    (reachable : Reachable settings session) :
    let moments := session.history.toList.reverse ++ [session.moment]
    moments.IsChain (Moment.Leads session.table) ∧
      (∀ moment ∈ session.history.toList,
        moment.configuration.tape.size = session.configuration.tape.size ∧
          moment.configuration.head < moment.configuration.tape.size) ∧
      session.history.size ≤ session.moment.stepCount ∧
      (settings.historyLimit = none → session.history.size = session.moment.stepCount) ∧
      ∀ limit, settings.historyLimit = some limit → session.history.size ≤ limit := by
  intro moments
  have successive := (lasting_successive settings).of_reachable reachable
  have limit_eq := reachable.sound.limit_eq
  refine ⟨?_, successive.run.within, ?_, fun unlimited => ?_, fun limit bounded => ?_⟩
  · have newestFirst : moments = (session.moment :: session.history.toList).reverse :=
      List.reverse_cons.symm
    rw [newestFirst, List.isChain_reverse]
    exact successive.run
  · simpa using successive.run.length_le
  · exact successive.whole (limit_eq.trans unlimited)
  · exact successive.bounded limit (limit_eq.trans bounded)

/-- A run into the halt state with room for one moment: the second of its two steps is the one
that is remembered. -/
theorem history_of_reachable_relay :
    let settings := { Settings.default with historyLimit := some 1 }
    let session := (new settings).performAll [.load relayText, .runToCompletion 7]
    Reachable settings session ∧
      (session.history.toList.reverse ++ [session.moment]).IsChain
        (Moment.Leads session.table) ∧
      session.history.size = 1 ∧ session.moment.stepCount = 2 ∧ session.isHalted = true := by
  intro settings session
  have reachable : Reachable settings session :=
    Reachable.new.performAll [.load relayText, .runToCompletion 7]
  obtain ⟨chain, -⟩ := history_of_reachable settings session reachable
  have ran : session = (((new settings).load relayText).session.performAll [.runToCompletion 7]) :=
    rfl
  have counts : session.history.size = 1 ∧ session.moment.stepCount = 2 ∧
      session.isHalted = true := by
    rw [ran, session_load_relayText]
    exact ⟨by cbv, by cbv, by cbv⟩
  exact ⟨reachable, chain, counts⟩

end Session
end TapeWorkbench
