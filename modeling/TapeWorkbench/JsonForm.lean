import TapeWorkbench.Instruction
import TapeWorkbench.Json.Printer
import TapeWorkbench.Json.Reader
import TapeWorkbench.Settings
import TapeWorkbench.Snapshot

/-!
# The JSON forms of published values

A record is written as an object with its fields in their order.  It is read
from such an object, whose members may stand in any order and may be more than
those known, or from an array of the fields in their order.  A constant of an
enumeration is its name; it is also read from an object whose only member has
that name and the value null.
-/

namespace TapeWorkbench

/-- A type whose values have a JSON form. -/
class JsonForm (α : Type) where
  toJson : α → Json.Value
  ofJson? : Json.Value → Option α

namespace JsonForm

def write {α : Type} [JsonForm α] (value : α) : String :=
  Json.compact (toJson value)

/-- Read a value from its text. -/
def read? (α : Type) [JsonForm α] (text : String) : Option α :=
  (Json.read? text).bind ofJson?

def natural (number : Nat) : Json.Value :=
  .number (Decimal.digits number)

/-- Read a natural number below a bound.  It has to be written in digits alone. -/
def naturalBelow? (bound : Nat) : Json.Value → Option Nat
  | .number literal =>
    if literal.all Decimal.isDigit then Decimal.valueBelow? bound literal else none
  | _ => none

/-- The bound of counts, lengths and positions. -/
def sizeBound : Nat := 18446744073709551616

/-- The bound of symbols and speeds. -/
def wordBound : Nat := 4294967296

def size? : Json.Value → Option Nat :=
  naturalBelow? sizeBound

def word? : Json.Value → Option Nat :=
  naturalBelow? wordBound

def text? : Json.Value → Option String
  | .string text => text
  | _ => none

def bool? : Json.Value → Option Bool
  | .bool value => some value
  | _ => none

def nullable? {α : Type} (read : Json.Value → Option α) : Json.Value → Option (Option α)
  | .null => some none
  | value => (read value).map some

def list? {α : Type} (read : Json.Value → Option α) : Json.Value → Option (List α)
  | .array elements => elements.mapM read
  | _ => none

def nullable {α : Type} (form : α → Json.Value) : Option α → Json.Value
  | none => .null
  | some value => form value

/-- The names in an object's members, if each of them has a text. -/
def memberNames? (members : List (Option String × Json.Value)) : Option (List String) :=
  members.mapM Prod.fst

/-- The values of the named fields of a record, where they are given.  A known field
is given at most once, and an array is not longer than the record. -/
def fields? (names : List String) : Json.Value → Option (List (Option Json.Value))
  | .object members => do
    let given ← memberNames? members
    let known := given.filter fun name => names.contains name
    if known.Nodup then
      return names.map fun name =>
        (members.find? fun (key, _) => key == some name).map Prod.snd
    else
      none
  | .array elements =>
    if elements.length ≤ names.length then
      some ((elements.map some) ++ List.replicate (names.length - elements.length) none)
    else
      none
  | _ => none

/-- The name of a constant. -/
def constantName? : Json.Value → Option String
  | .string text => text
  | .object [(name, .null)] => name
  | _ => none

/-- The constant with the given name, among constants with their names. -/
def constant? {α : Type} (names : List (String × α)) (value : Json.Value) : Option α := do
  let name ← constantName? value
  let (_, constant) ← names.find? fun (known, _) => known == name
  return constant

end JsonForm

open JsonForm

instance : JsonForm Move where
  toJson
    | .left => .ofText "Left"
    | .right => .ofText "Right"
    | .stay => .ofText "Stay"
  ofJson? := constant? [("Left", .left), ("Right", .right), ("Stay", .stay)]

instance : JsonForm Instruction where
  toJson instruction := .ofMembers
    [ ("write", natural instruction.write)
    , ("direction", toJson instruction.move)
    , ("next_state", .ofText instruction.nextState)
    , ("source_index", natural instruction.block) ]
  ofJson? value := do
    match ← fields? ["write", "direction", "next_state", "source_index"] value with
    | [some write, some move, some nextState, some block] =>
      return {
        write := ← word? write
        move := ← ofJson? move
        nextState := ← text? nextState
        block := ← size? block }
    | _ => none

instance : JsonForm RunStatus where
  toJson
    | .running => .ofText "running"
    | .paused => .ofText "paused"
  ofJson? := constant? [("running", .running), ("paused", .paused)]

instance : JsonForm RunOutcome where
  toJson
    | .halted => .ofText "halted"
    | .breakpoint => .ofText "breakpoint"
    | .error => .ofText "error"
    | .stepLimit => .ofText "steplimit"
  ofJson? := constant?
    [("halted", .halted), ("breakpoint", .breakpoint), ("error", .error),
      ("steplimit", .stepLimit)]

instance : JsonForm BlockStatus where
  toJson
    | .pending => .ofText "pending"
    | .current => .ofText "current"
    | .completed => .ofText "completed"
  ofJson? := constant?
    [("pending", .pending), ("current", .current), ("completed", .completed)]

instance : JsonForm SectionColor where
  toJson
    | .blue => .ofText "blue"
    | .red => .ofText "red"
    | .green => .ofText "green"
    | .purple => .ofText "purple"
  ofJson? := constant?
    [("blue", .blue), ("red", .red), ("green", .green), ("purple", .purple)]

instance : JsonForm TapeSection where
  toJson tapeSection := .ofMembers
    [ ("start", natural tapeSection.first)
    , ("end", natural tapeSection.last)
    , ("name", .ofText tapeSection.name)
    , ("color", toJson tapeSection.color)
    , ("value", .ofText tapeSection.value) ]
  ofJson? value := do
    match ← fields? ["start", "end", "name", "color", "value"] value with
    | [some first, some last, some name, some color, some value] =>
      return {
        first := ← size? first
        last := ← size? last
        name := ← text? name
        color := ← ofJson? color
        value := ← text? value }
    | _ => none

instance : JsonForm ListingLine where
  toJson line := .ofMembers
    [ ("text", .ofText line.text)
    , ("status", toJson line.status)
    , ("breakpoint", .bool line.breakpoint)
    , ("sections", .array (line.sections.map toJson)) ]
  ofJson? value := do
    match ← fields? ["text", "status", "breakpoint", "sections"] value with
    | [some text, some status, some breakpoint, some sections] =>
      return {
        text := ← text? text
        status := ← ofJson? status
        breakpoint := ← bool? breakpoint
        sections := ← list? ofJson? sections }
    | _ => none

instance : JsonForm Listing where
  toJson listing := .ofMembers
    [ ("lines", .array (listing.lines.map toJson))
    , ("current", natural listing.current) ]
  ofJson? value := do
    match ← fields? ["lines", "current"] value with
    | [some lines, some current] =>
      return { lines := ← list? ofJson? lines, current := ← size? current }
    | _ => none

/-- A field of the settings keeps its default where it is not given. -/
def Settings.fieldOr {α : Type} (fallback : α) (read : Json.Value → Option α) :
    Option Json.Value → Option α
  | none => some fallback
  | some value => read value

instance : JsonForm Settings where
  toJson settings := .ofMembers
    [ ("default_speed", natural settings.defaultSpeed)
    , ("max_speed", natural settings.maxSpeed)
    , ("burst_steps", natural settings.burstSteps)
    , ("start_state", .ofText settings.startState)
    , ("halt_state", .ofText settings.haltState)
    , ("history_limit", nullable natural settings.historyLimit)
    , ("max_steps", natural settings.maxSteps) ]
  ofJson? value := do
    match ← fields? ["default_speed", "max_speed", "burst_steps", "start_state", "halt_state",
        "history_limit", "max_steps"] value with
    | [defaultSpeed, maxSpeed, burstSteps, startState, haltState, historyLimit, maxSteps] =>
      let fallback := Settings.default
      return {
        defaultSpeed := ← Settings.fieldOr fallback.defaultSpeed word? defaultSpeed
        maxSpeed := ← Settings.fieldOr fallback.maxSpeed word? maxSpeed
        burstSteps := ← Settings.fieldOr fallback.burstSteps size? burstSteps
        startState := ← Settings.fieldOr fallback.startState text? startState
        haltState := ← Settings.fieldOr fallback.haltState text? haltState
        historyLimit := ← Settings.fieldOr fallback.historyLimit (nullable? size?) historyLimit
        maxSteps := ← Settings.fieldOr fallback.maxSteps size? maxSteps }
    | _ => none

instance : JsonForm Snapshot where
  toJson snapshot := .ofMembers
    [ ("tape", .array (snapshot.tape.toList.map natural))
    , ("head", natural snapshot.head)
    , ("state", .ofText snapshot.state)
    , ("step_count", natural snapshot.stepCount)
    , ("ready", .bool snapshot.ready)
    , ("status", toJson snapshot.status)
    , ("speed", natural snapshot.speed)
    , ("error", nullable .ofText snapshot.error)
    , ("source", .ofText snapshot.source)
    , ("current_instruction", .ofText snapshot.currentInstruction)
    , ("output", .ofText snapshot.output)
    , ("sections", .array (snapshot.sections.map toJson))
    , ("assembly", .array (snapshot.assembly.map toJson))
    , ("current_asm_index", natural snapshot.currentBlock) ]
  ofJson? value := do
    match ← fields? ["tape", "head", "state", "step_count", "ready", "status", "speed", "error",
        "source", "current_instruction", "output", "sections", "assembly",
        "current_asm_index"] value with
    | [some tape, some head, some state, some stepCount, some ready, some status, some speed,
        error, some source, some currentInstruction, some output, some sections,
        some assembly, some currentBlock] =>
      return {
        tape := (← list? word? tape).toArray
        head := ← size? head
        state := ← text? state
        stepCount := ← size? stepCount
        ready := ← bool? ready
        status := ← ofJson? status
        speed := ← word? speed
        error := ← (match error with
          | none => some none
          | some error => nullable? text? error)
        source := ← text? source
        currentInstruction := ← text? currentInstruction
        output := ← text? output
        sections := ← list? ofJson? sections
        assembly := ← list? ofJson? assembly
        currentBlock := ← size? currentBlock }
    | _ => none

end TapeWorkbench
