import TapeWorkbench.JsonForm
import TapeWorkbench.Snapshot

/-!
# Snapshots for people

The texts in which the command line shows a machine: one line while it runs, and
a summary at the end.
-/

namespace TapeWorkbench
namespace CommandLine

/-- Blanks behind a text up to a width, counted in characters. -/
def padEnd (width : Nat) (text : String) : String :=
  text ++ String.ofList (List.replicate (width - text.length) ' ')

/-- Blanks in front of a text up to a width, counted in characters. -/
def padStart (width : Nat) (text : String) : String :=
  String.ofList (List.replicate (width - text.length) ' ') ++ text

/-- The symbols of the tape, with brackets around the one under the head. -/
def tapeText (snapshot : Snapshot) : String :=
  " ".intercalate (snapshot.tape.toList.mapIdx fun index symbol =>
    if index = snapshot.head then "[" ++ Decimal.numeral symbol ++ "]"
    else Decimal.numeral symbol)

/-- The line that shows a machine while it runs. -/
def progressLine (snapshot : Snapshot) : String :=
  "Step: " ++ Decimal.numeral snapshot.stepCount ++ ", State: " ++ snapshot.state ++
    ", Tape: [" ++ tapeText snapshot ++ "], Head: " ++ Decimal.numeral snapshot.head ++ "\n"

def sectionLine (tapeSection : TapeSection) : String :=
  "  " ++ padEnd 4 tapeSection.name ++ " " ++ padStart 4 (Decimal.numeral tapeSection.first) ++
    "..=" ++ padEnd 4 (Decimal.numeral tapeSection.last) ++ " " ++ tapeSection.value ++ "\n"

/-- The mark of a block's status. -/
def statusMark : BlockStatus → String
  | .completed => "x"
  | .current => ">"
  | .pending => " "

def listingLine (index : Nat) (line : ListingLine) : String :=
  "  " ++ padStart 3 (Decimal.numeral index) ++ " [" ++ statusMark line.status ++ "]" ++
    (if line.breakpoint then "*" else " ") ++ " " ++ line.text ++ "\n"

/-- A part of the summary that is left out where it has no lines. -/
def part (title : String) (lines : List String) : String :=
  if lines.isEmpty then "" else "\n" ++ title ++ ":\n" ++ String.join lines

/-- The summary of a machine. -/
def summary (snapshot : Snapshot) : String :=
  "State: " ++ snapshot.state ++ " (" ++ Decimal.numeral snapshot.stepCount ++ " steps)\n" ++
    "Tape: " ++ tapeText snapshot ++ "\n" ++
    part "Sections" (snapshot.sections.map sectionLine) ++
    part "Assembly" (snapshot.assembly.mapIdx listingLine) ++
    (match snapshot.error with
      | none => ""
      | some error => "\nMachine error: " ++ error ++ "\n") ++
    "\nOutput: " ++ snapshot.output ++ "\n"

/-- What is shown at the end, as a summary or as JSON. -/
def finalText (json : Bool) (snapshot : Snapshot) : String :=
  if json then Json.indented (JsonForm.toJson snapshot) ++ "\n" else summary snapshot

end CommandLine
end TapeWorkbench
