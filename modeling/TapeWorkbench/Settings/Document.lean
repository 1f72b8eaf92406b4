import TapeWorkbench.Fault
import TapeWorkbench.FileText
import TapeWorkbench.JsonForm
import TapeWorkbench.Logged
import TapeWorkbench.Toml.Document

/-!
# Settings from a TOML document

A document need only hold the settings that differ from the defaults.  Keys that
are no settings are ignored.
-/

namespace TapeWorkbench
namespace Settings

def naturalBelow? (bound : Nat) : Toml.Item → Option Nat
  | .integer number =>
    if 0 ≤ number && number < bound then some number.toNat else none
  | _ => none

def string? : Toml.Item → Option String
  | .string text => some text
  | _ => none

/-- The value of a key, or its default where the key is missing. -/
def valueOr {α : Type} (members : Toml.Members) (key : String) (fallback : α)
    (read : Toml.Item → Option α) : Option α :=
  match members.find? key with
  | none => some fallback
  | some item => read item

/-- The settings in the contents of a document, unchecked. -/
def ofMembers (members : Toml.Members) : Option Settings := do
  let word := naturalBelow? JsonForm.wordBound
  let size := naturalBelow? JsonForm.sizeBound
  return {
    defaultSpeed := ← valueOr members "default_speed" default.defaultSpeed word
    maxSpeed := ← valueOr members "max_speed" default.maxSpeed word
    burstSteps := ← valueOr members "burst_steps" default.burstSteps size
    startState := ← valueOr members "start_state" default.startState string?
    haltState := ← valueOr members "halt_state" default.haltState string?
    historyLimit := ← valueOr members "history_limit" default.historyLimit fun item =>
      (size item).map some
    maxSteps := ← valueOr members "max_steps" default.maxSteps size }

/-- Settings that break no rule. -/
def checked (settings : Settings) : Except SettingsDefect Settings :=
  match settings.defect? with
  | some defect => .error defect
  | none => .ok settings

/-- The settings in a text.  What is said of a text that is no document, or gives a key a value of
the wrong type or range, is a matter of how documents are read, and so it is left open. -/
def read (report : String → String) (text : String) : Except Fault Settings :=
  let settings : Except SettingsDefect Settings :=
    match (Toml.read? text).bind ofMembers with
    | none => .error (.unreadable (report text))
    | some settings => settings.checked
  settings.mapError .invalidSettings

/-- The settings in a file, from what came of reading it. -/
def ofFile (report : String → String) (path : String) (reading : Except ReadFailure ByteArray) :
    Logged (Except Fault Settings) :=
  match (FileText.ofReading path reading).bind (read report) with
  | .ok settings => .saying (.ok settings) (.settingsLoaded path)
  | .error fault => .quiet (.error fault)

end Settings
end TapeWorkbench
