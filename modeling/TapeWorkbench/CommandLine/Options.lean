import TapeWorkbench.Decimal
import TapeWorkbench.Json.Reader
import TapeWorkbench.JsonForm

/-!
# Options of the command line

Arguments are read from left to right.  A long option takes its value behind an
equals sign or from the next argument, a short one also from the characters
right behind its letter; letters without values can be joined.  Behind `--` all
arguments are operands.  There is one operand, the program file.

Only breakpoints can be given more than once.
-/

namespace TapeWorkbench
namespace CommandLine

/-- What the arguments ask for. -/
structure Options where
  /-- The program file; the standard input is read where none is given. -/
  program : Option String
  settingsFile : Option String
  speed : Option Nat
  breakpoints : List Nat
  debug : Bool
  json : Bool
  maxTicks : Option Nat
  unthrottled : Bool
  maxSteps : Option Nat
  deriving DecidableEq, Repr

def programName : String := "turasm-cli"

/-- What is shown where the version is asked for. -/
def versionLine : String :=
  programName ++ " 0.0.1\n"

/-- Why the arguments do not lead to a run. -/
inductive Interruption where
  | help
  | version
  | misuse (detail : String)
  deriving DecidableEq, Repr

inductive Switch where
  | debug
  | json
  | unthrottled
  | help
  | version
  deriving DecidableEq, Repr

inductive Setting where
  | settingsFile
  | speed
  | breakpoint
  | maxTicks
  | maxSteps
  deriving DecidableEq, Repr

inductive OptionName where
  | switch (switch : Switch)
  | setting (setting : Setting)
  deriving DecidableEq, Repr

namespace OptionName

def ofLong? (name : String) : Option OptionName :=
  match name with
  | "debug" => some (.switch .debug)
  | "json" => some (.switch .json)
  | "unthrottled" => some (.switch .unthrottled)
  | "help" => some (.switch .help)
  | "version" => some (.switch .version)
  | "config" => some (.setting .settingsFile)
  | "speed" => some (.setting .speed)
  | "breakpoint" => some (.setting .breakpoint)
  | "max-ticks" => some (.setting .maxTicks)
  | "max-steps" => some (.setting .maxSteps)
  | _ => none

def ofLetter? (letter : Char) : Option OptionName :=
  match letter with
  | 'd' => some (.switch .debug)
  | 'u' => some (.switch .unthrottled)
  | 'h' => some (.switch .help)
  | 'V' => some (.switch .version)
  | 'c' => some (.setting .settingsFile)
  | 's' => some (.setting .speed)
  | 'b' => some (.setting .breakpoint)
  | _ => none

end OptionName

/-- Reads digits, with a plus sign allowed in front of them. -/
def unsignedBelow? (bound : Nat) (text : List Char) : Option Nat :=
  let digits :=
    match text with
    | '+' :: rest => rest
    | _ => text
  if digits.isEmpty || !digits.all Decimal.isDigit then none
  else Decimal.valueBelow? bound digits

/-- Reads a speed.  Zero may carry a minus sign. -/
def speed? (text : List Char) : Option Nat :=
  match text with
  | '-' :: digits =>
    if digits.isEmpty || !digits.all Decimal.isDigit then none
    else Decimal.valueBelow? 1 digits
  | _ => unsignedBelow? JsonForm.wordBound text

def count? (text : List Char) : Option Nat :=
  unsignedBelow? JsonForm.sizeBound text

namespace Options

def none : Options :=
  { program := .none
    settingsFile := .none
    speed := .none
    breakpoints := []
    debug := false
    json := false
    maxTicks := .none
    unthrottled := false
    maxSteps := .none }

/-- How many ticks a timed run takes at most. -/
def tickLimit (options : Options) : Nat :=
  options.maxTicks.getD 1000000

/-- An option that may be given once was given twice. -/
def repeated : Interruption := .misuse "the option cannot be used multiple times"

/-- A value does not fit its option. -/
def unfit (text : List Char) : Interruption :=
  .misuse ("invalid value '" ++ String.ofList text ++ "'")

def turnOn (options : Options) : Switch → Except Interruption Options
  | .debug => if options.debug then .error repeated else .ok { options with debug := true }
  | .json => if options.json then .error repeated else .ok { options with json := true }
  | .unthrottled =>
    if options.unthrottled then .error repeated else .ok { options with unthrottled := true }
  | .help => .error .help
  | .version => .error .version

/-- The value to be set, if it was read and none has been set before. -/
def once {α : Type} (text : List Char) (old new : Option α) : Except Interruption (Option α) :=
  match new with
  | .none => .error (unfit text)
  | .some value => if old.isSome then .error repeated else .ok (.some value)

/-- Reads the name of a file, which is not empty. -/
def fileName? (text : List Char) : Option String :=
  if text.isEmpty then .none else .some (String.ofList text)

def assign (options : Options) (setting : Setting) (text : List Char) :
    Except Interruption Options := do
  match setting with
  | .settingsFile =>
    return { options with settingsFile := ← once text options.settingsFile (fileName? text) }
  | .speed => return { options with speed := ← once text options.speed (speed? text) }
  | .breakpoint =>
    match count? text with
    | .none => .error (unfit text)
    | .some index => return { options with breakpoints := options.breakpoints ++ [index] }
  | .maxTicks => return { options with maxTicks := ← once text options.maxTicks (count? text) }
  | .maxSteps => return { options with maxSteps := ← once text options.maxSteps (count? text) }

def operand (options : Options) (text : List Char) : Except Interruption Options := do
  return { options with program := ← once text options.program (fileName? text) }

/-- An argument that an option may still take its value from: it does not look like an
option itself. -/
def canBeValue (argument : List Char) : Bool :=
  match argument with
  | '-' :: _ :: _ => false
  | _ => true

/-- What is left to do after an argument: go on, or give the next argument to an
option. -/
inductive Pending where
  | nothing (options : Options)
  | value (options : Options) (setting : Setting)

/-- Reads the letters of an argument with one dash. -/
def readLetters (options : Options) : List Char → Except Interruption Pending
  | [] => .ok (.nothing options)
  | letter :: rest =>
    match OptionName.ofLetter? letter with
    | .none => .error (.misuse "unexpected argument")
    | .some (.switch switch) =>
      match options.turnOn switch with
      | .error interruption => .error interruption
      | .ok options => readLetters options rest
    | .some (.setting setting) =>
      match rest with
      | [] => .ok (.value options setting)
      | '=' :: text => (options.assign setting text).map .nothing
      | text => (options.assign setting text).map .nothing

def readLong (options : Options) (text : List Char) : Except Interruption Pending :=
  let name := String.ofList (text.takeWhile (· != '='))
  let value :=
    match text.dropWhile (· != '=') with
    | [] => Option.none
    | _ :: value => .some value
  match OptionName.ofLong? name, value with
  | .none, _ => .error (.misuse "unexpected argument")
  | .some (.switch switch), .none => (options.turnOn switch).map .nothing
  | .some (.switch _), .some value => .error (unfit value)
  | .some (.setting setting), .none => .ok (.value options setting)
  | .some (.setting setting), .some value => (options.assign setting value).map .nothing

/-- Reads one argument that is not the value of the one before. -/
def readArgument (options : Options) (argument : List Char) : Except Interruption Pending :=
  match argument with
  | '-' :: '-' :: text => options.readLong text
  | '-' :: letter :: letters => options.readLetters (letter :: letters)
  | text => (options.operand text).map .nothing

/-- Reads the arguments that are left. -/
def readAll (options : Options) : List (List Char) → Except Interruption Options
  | [] => .ok options
  | ['-', '-'] :: operands => operands.foldlM operand options
  | argument :: rest =>
    match options.readArgument argument with
    | .error interruption => .error interruption
    | .ok (.nothing options) => readAll options rest
    | .ok (.value options setting) =>
      match rest with
      | [] => .error (.misuse "a value is required")
      | text :: rest =>
        if canBeValue text then
          match options.assign setting text with
          | .error interruption => .error interruption
          | .ok options => readAll options rest
        else
          .error (.misuse "a value is required")

def read (arguments : List String) : Except Interruption Options :=
  readAll none (arguments.map String.toList)

end Options
end CommandLine
end TapeWorkbench
