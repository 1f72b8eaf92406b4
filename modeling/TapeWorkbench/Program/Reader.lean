import TapeWorkbench.Fault
import TapeWorkbench.Listing
import TapeWorkbench.Instruction
import TapeWorkbench.Program.Line
import TapeWorkbench.Program.Statement
import TapeWorkbench.Text.WhiteSpace

/-!
# Programs and the reading of their text

A text is a program if all its lines have the right shape.  What such a text
holds is then loaded line by line; a second head marker, or a symbol that is too
large, makes a line that cannot be loaded.  A rule for a state and symbol that
already have one takes the place of the older rule, with a warning.
-/

namespace TapeWorkbench

/-- What a program text says. -/
structure Program where
  tape : Tape
  /-- The place of the marked cell; the first cell if none is marked. -/
  head : Nat
  table : InstructionTable
  listing : List ListingLine
  /-- The high-level source, line by line. -/
  source : String

namespace Program

/-- Program texts have at most this many bytes. -/
def sizeLimit : Nat := 1048576

/-- Why a well-formed line, or a whole text, cannot be loaded. -/
inductive Defect where
  | tooLong (bytes : Nat)
  | secondHeadMarker
  | symbolTooLarge (digits : List Char)
  deriving DecidableEq, Repr

namespace Defect

def message : Defect → String
  | tooLong bytes =>
    "program is " ++ Decimal.numeral bytes ++ " bytes, the limit is " ++
      Decimal.numeral sizeLimit ++ " bytes"
  | secondHeadMarker => "more than one head marker on the tape"
  | symbolTooLarge digits =>
    "invalid symbol '" ++ String.ofList digits ++
      "': number too large to fit in target type"

end Defect

/-- The symbol that digits write, leading zeros allowed. -/
def symbolOfDigits (digits : List Char) : Except Defect Symbol :=
  match Decimal.valueBelow? Symbol.bound digits with
  | some symbol => .ok symbol
  | none => .error (.symbolTooLarge digits)

/-- A tape under construction, with the place of the marked cell. -/
structure TapeDraft where
  cells : Tape
  marked : Option Nat

namespace TapeDraft

/-- Load one more cell.  A second head marker counts before the cell's symbol. -/
def add (draft : TapeDraft) (cell : Cell) : Except Defect TapeDraft := do
  if cell.marked && draft.marked.isSome then
    throw .secondHeadMarker
  let symbol ← symbolOfDigits cell.digits
  let marked := if cell.marked then some draft.cells.size else draft.marked
  return { cells := draft.cells.push symbol, marked }

end TapeDraft

def loadTape (cells : List Cell) : Except Defect TapeDraft :=
  cells.foldlM TapeDraft.add ⟨#[], none⟩

/-- What the lines read so far have contributed. -/
structure Draft where
  listing : Array ListingLine
  source : String
  table : InstructionTable

namespace Draft

def empty : Draft := ⟨#[], "", .empty⟩

/-- A new assembly line; the first one of a program is current from the start. -/
def addAssembly (draft : Draft) (text : List Char) : Draft :=
  let status : BlockStatus := if draft.listing.isEmpty then .current else .pending
  { draft with
    listing := draft.listing.push
      { text := String.ofList (WhiteSpace.trim text), status, breakpoint := false, sections := [] } }

/-- A new line of source.  One blank after the directive separates and does not
count; further ones indent. -/
def addSource (draft : Draft) (text : List Char) : Draft :=
  let indented := if text.head?.any isBlank then text.drop 1 else text
  { draft with
    source := draft.source ++ String.ofList (WhiteSpace.trimEnd indented ++ ['\n']) }

/-- A new rule.  It belongs to the assembly line above it. -/
def addRule (draft : Draft) (lineNumber : Nat) (fields : RuleFields) :
    Except Defect (Logged Draft) := do
  let state := String.ofList fields.state
  let read ← symbolOfDigits fields.read
  let write ← symbolOfDigits fields.write
  let instruction : Instruction :=
    { write
      move := fields.move
      nextState := String.ofList fields.nextState
      block := draft.listing.size }
  let redefines := (draft.table.find? state read).isSome
  let extended := { draft with table := draft.table.insert state read instruction }
  if redefines then
    return .saying extended (.ruleRedefined lineNumber state read)
  else
    return .quiet extended

/-- What one more statement contributes. -/
def add (draft : Draft) (lineNumber : Nat) : Statement → Except Defect (Logged Draft)
  | .blank => .ok (.quiet draft)
  | .comment => .ok (.quiet draft)
  | .assembly text => .ok (.quiet (draft.addAssembly text))
  | .source text => .ok (.quiet (draft.addSource text))
  | .rule fields => draft.addRule lineNumber fields

/-- Load statements with their line numbers, up to the first that cannot be loaded.
The notices given so far are passed on in `log`. -/
def addAll (draft : Draft) (log : Array Notice) :
    List (Nat × Statement) → Logged (Except Fault Draft)
  | [] => ⟨.ok draft, log⟩
  | (lineNumber, statement) :: rest =>
    match draft.add lineNumber statement with
    | .ok extended => extended.value.addAll (log ++ extended.log) rest
    | .error defect => ⟨.error (.malformedLine lineNumber defect.message), log⟩

end Draft

/-- A text each of whose lines has been read by itself. -/
structure Outline where
  tapeLine : Line
  cells : List Cell
  statements : List (Nat × Statement)

/-- The fault of a misread line. -/
def misreadAt (text : List Char) (line : Line) (misreading : Misreading) : Fault :=
  let place := line.start + misreading.offset
  .illFormedText
    (CaretReport.pointingAt (text.take place) (text.drop place) misreading.expected.text)

/-- Read every line of a text, or point at the first that is misread. -/
def readLines (text : List Char) : Except Fault Outline :=
  match Line.split text with
  | [] => .ok ⟨⟨0, 1, []⟩, [], []⟩
  | tapeLine :: others => do
    let cells ← (readTapeLine tapeLine.text).mapError (misreadAt text tapeLine)
    let statements ← others.mapM fun line =>
      ((readStatement line.text).map fun statement => (line.number, statement)).mapError
        (misreadAt text line)
    return ⟨tapeLine, cells, statements⟩

/-- Load what the lines of a text say. -/
def ofOutline (outline : Outline) : Logged (Except Fault Program) :=
  match loadTape outline.cells with
  | .error defect => .quiet (.error (.malformedLine outline.tapeLine.number defect.message))
  | .ok tape =>
    (Draft.empty.addAll #[] outline.statements).map fun loaded =>
      loaded.map fun draft =>
        { tape := tape.cells
          head := tape.marked.getD 0
          table := draft.table
          listing := draft.listing.toList
          source := draft.source }

/-- Read a program text. -/
def read (text : String) : Logged (Except Fault Program) :=
  if sizeLimit < text.utf8ByteSize then
    .quiet (.error (.malformedLine 0 (Defect.tooLong text.utf8ByteSize).message))
  else
    match readLines text.toList with
    | .error fault => .quiet (.error fault)
    | .ok outline => ofOutline outline

end Program
end TapeWorkbench
