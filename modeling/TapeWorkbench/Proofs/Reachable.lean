import TapeWorkbench.Proofs.Commands

/-!
# Sessions that can be reached

A session is reachable if commands lead to it from a new one.  Besides the steps,
undos and toggles of a loaded program there are only three ways to go on: a text
is loaded, the session is emptied, or it is emptied and forgets its text.  A
property that a new session has and that all of these keep is a property of every
reachable session (`Lasting.of_reachable`).

The properties proved here are that a session keeps its settings, that its
sections show the tape as it is now, and that a fault on display is the fault of
the present configuration (`Reachable.sound`).
-/

namespace TapeWorkbench
namespace Session

/-- The sessions that commands lead to from a new one. -/
inductive Reachable (settings : Settings) : Session → Prop
  | new : Reachable settings (new settings)
  | perform {session : Session} (command : Command) (reachable : Reachable settings session) :
      Reachable settings (session.perform command).session

theorem Reachable.performAll {settings : Settings} {session : Session}
    (reachable : Reachable settings session) (commands : List Command) :
    Reachable settings (session.performAll commands) := by
  induction commands generalizing session with
  | nil => exact reachable
  | cons command commands ih => exact ih (reachable.perform command)

theorem value_cleared (session : Session) :
    session.cleared.value =
      { session with
        control := (session.control.reset session.settings.defaultSpeed).value
        table := .empty
        moment := blankMoment session.settings
        sections := []
        output := noOutput
        fault := none
        source := ""
        history := session.history.clear } :=
  rfl

theorem session_load_of_rejected {session : Session} {text : String} {fault : Fault}
    (rejected : (Program.read text).value = .error fault) :
    (session.load text).session =
      { session.cleared.value with
        programText := some text
        ready := false
        fault := some fault } := by
  simp only [load, rejected]
  rfl

theorem session_delete (session : Session) :
    session.delete.session =
      { session.cleared.value with ready := false, programText := none } :=
  rfl

/-- A command that replaces the program loads a text, empties the session or deletes it, unless
it fails to read a file. -/
theorem perform_of_replaces (property : Session → Prop) {session : Session} {command : Command}
    (loaded : ∀ text, property (session.load text).session)
    (emptied : property session.cleared.value) (deleted : property session.delete.session)
    (replaces : command.keepsProgram = false) :
    (session.perform command).session = session ∨
      property (session.perform command).session := by
  cases command with
  | load text => exact .inr (loaded text)
  | loadFile file =>
      cases file with
      | ok text => exact .inr (loaded text)
      | error fault => exact .inl rfl
  | clear => exact .inr emptied
  | reset =>
      right
      change property session.reset.session
      unfold reset
      split
      · exact loaded _
      · exact emptied
  | delete => exact .inr deleted
  | _ => cases replaces

/-- A property that new sessions have and that every command keeps. -/
structure Lasting (settings : Settings) (property : Session → Prop) : Prop
    extends Maintained property where
  initial : property (new settings)
  loaded {session : Session} (text : String) : property session →
    property (session.load text).session
  emptied {session : Session} : property session → property session.cleared.value
  deleted {session : Session} : property session → property session.delete.session

namespace Lasting

variable {settings : Settings} {property : Session → Prop}

theorem perform (lasting : Lasting settings property) {session : Session} (command : Command)
    (holds : property session) : property (session.perform command).session := by
  cases keeps : command.keepsProgram with
  | true => exact lasting.toMaintained.perform keeps holds
  | false =>
      have loaded (text : String) := lasting.loaded text holds
      have emptied := lasting.emptied holds
      have deleted := lasting.deleted holds
      rcases perform_of_replaces property loaded emptied deleted keeps with same | replaced
      · rwa [same]
      · exact replaced

theorem of_reachable (lasting : Lasting settings property) {session : Session}
    (reachable : Reachable settings session) : property session := by
  induction reachable with
  | new => exact lasting.initial
  | perform command _ holds => exact lasting.perform command holds

end Lasting

/-- What is true of all reachable sessions with the given settings. -/
structure Sound (settings : Settings) (session : Session) : Prop where
  settings_eq : session.settings = settings
  limit_eq : session.history.limit = settings.historyLimit
  /-- The values of the sections are those of the present tape. -/
  decoded : TapeSection.updateAll session.sections session.configuration.tape = session.sections
  /-- While there is a program, a fault on display keeps it from going on. -/
  explained : session.ready = true → ∀ fault, session.fault = some fault →
    session.configuration.fault? session.table = some fault

namespace Sound

variable {settings : Settings} {session : Session}

/-- A session that can take a step displays no fault. -/
theorem fault_eq_none (sound : Sound settings session) (ready : session.ready = true)
    (moves : session.configuration.fault? session.table = none) : session.fault = none := by
  cases shown : session.fault with
  | none => rfl
  | some fault =>
      have stuck := sound.explained ready fault shown
      rw [moves] at stuck
      cases stuck

theorem progress {after : Session} (sound : Sound settings session)
    (made : Progress session after) : Sound settings after := by
  cases made with
  | paced control => exact ⟨sound.settings_eq, sound.limit_eq, sound.decoded, sound.explained⟩
  | stuck found =>
      refine ⟨sound.settings_eq, sound.limit_eq, sound.decoded, fun _ fault shown => ?_⟩
      obtain rfl := Option.some.inj shown
      exact found
  | stepped read found follows _ =>
      have free := Configuration.fault?_eq_none read found follows
      refine ⟨sound.settings_eq, (History.limit_push _ _).trans sound.limit_eq,
        TapeSection.updateAll_updateAll _ _ _, fun ready fault shown => ?_⟩
      -- a fault on display would have kept this step from being taken
      have clean := sound.fault_eq_none ready free
      cases clean.symm.trans shown
  | finished _ =>
      exact ⟨sound.settings_eq, sound.limit_eq, TapeSection.updateAll_updateAll _ _ _,
        sound.explained⟩

theorem cleared (sound : Sound settings session) : Sound settings session.cleared.value := by
  rw [value_cleared]
  refine ⟨sound.settings_eq, sound.limit_eq, rfl, fun _ fault shown => ?_⟩
  cases shown

theorem load (sound : Sound settings session) (text : String) :
    Sound settings (session.load text).session := by
  cases verdict : (Program.read text).value with
  | error fault =>
      rw [session_load_of_rejected verdict]
      refine ⟨sound.settings_eq, sound.limit_eq, rfl, fun ready => ?_⟩
      cases ready
  | ok program =>
      rw [session_load verdict]
      refine ⟨sound.settings_eq, sound.limit_eq, TapeSection.updateAll_updateAll _ _ _,
        fun _ fault shown => ?_⟩
      cases shown

end Sound

theorem lasting_sound (settings : Settings) : Lasting settings (Sound settings) where
  progress := Sound.progress
  undone sound popped := by
    refine ⟨sound.settings_eq, (History.limit_of_pop? popped).trans sound.limit_eq,
      TapeSection.updateAll_updateAll _ _ _, fun _ fault shown => ?_⟩
    cases shown
  toggled sound _ := ⟨sound.settings_eq, sound.limit_eq, sound.decoded, sound.explained⟩
  listening _ _ sound := ⟨sound.settings_eq, sound.limit_eq, sound.decoded, sound.explained⟩
  initial := by
    refine ⟨rfl, rfl, rfl, fun ready => ?_⟩
    cases ready
  loaded text sound := sound.load text
  emptied sound := sound.cleared
  deleted sound := by
    rw [session_delete, value_cleared]
    refine ⟨sound.settings_eq, sound.limit_eq, rfl, fun ready => ?_⟩
    cases ready

theorem Reachable.sound {settings : Settings} {session : Session}
    (reachable : Reachable settings session) : Sound settings session :=
  (lasting_sound settings).of_reachable reachable

end Session
end TapeWorkbench
