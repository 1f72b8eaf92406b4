import TapeWorkbench.Decimal
import TapeWorkbench.Tape

/-!
# Sections of the tape

The cells between the first and the last one are divided into sections.  A mark
opens a section at the next cell, unless a separator follows it at once: then
it opens nothing.  A section reaches to the last of its cells that is neither a
mark nor a separator, and sections without such a cell are left out.  What lies
before the first mark is a storage section.

Registers are named by their mark, storage sections are numbered from the
right.  The value of a section is the number that its cells write in binary.
-/

namespace TapeWorkbench

/-- The color in which a section is shown. -/
inductive SectionColor where
  | blue
  | red
  | green
  | purple
  deriving DecidableEq, Repr

/-- A named range of cells, both ends included, with its decoded value. -/
structure TapeSection where
  first : Nat
  last : Nat
  name : String
  color : SectionColor
  value : String
  deriving DecidableEq, Repr

namespace TapeSection

/-- The value shown for cells that hold anything but binary digits. -/
def undecodable : String := "x"

/-- The number that binary digits write, most significant first. -/
def binaryValue (cells : List Symbol) : Nat :=
  cells.foldl (fun total digit => 2 * total + digit) 0

/-- The decimal numeral of a nonempty run of binary digits. -/
def decode (cells : List Symbol) : String :=
  if cells.isEmpty then undecodable
  else if cells.all fun cell => cell == Symbol.zero || cell == Symbol.one then
    Decimal.numeral (binaryValue cells)
  else undecodable

/-- The decoded value of a section's range on a tape. -/
def decodeOn (tape : Tape) (tapeSection : TapeSection) : String :=
  if tapeSection.first ≤ tapeSection.last && tapeSection.last < tape.size then
    decode (tape.extract tapeSection.first (tapeSection.last + 1)).toList
  else undecodable

theorem decodeOn_of_inside {tape : Tape} {tapeSection : TapeSection}
    (ordered : tapeSection.first ≤ tapeSection.last) (bounded : tapeSection.last < tape.size) :
    tapeSection.decodeOn tape =
      decode (tape.extract tapeSection.first (tapeSection.last + 1)).toList := by
  simp [decodeOn, ordered, bounded]

theorem decodeOn_of_not_inside {tape : Tape} {tapeSection : TapeSection}
    (outside : ¬ (tapeSection.first ≤ tapeSection.last ∧ tapeSection.last < tape.size)) :
    tapeSection.decodeOn tape = undecodable := by
  rw [decodeOn, if_neg (by simpa using outside)]

/-- Decode every section anew, leaving ranges, names and colors alone. -/
def updateAll (sections : List TapeSection) (tape : Tape) : List TapeSection :=
  sections.map fun tapeSection => { tapeSection with value := tapeSection.decodeOn tape }

/-- Only the last of several tapes counts. -/
theorem updateAll_updateAll (sections : List TapeSection) (first second : Tape) :
    updateAll (updateAll sections first) second = updateAll sections second := by
  simp [updateAll, decodeOn]

/-- The name and color of the section that a symbol opens, if it is a mark. -/
def openedBy (symbol : Symbol) : Option (String × SectionColor) :=
  if symbol = Symbol.markA then some ("A", .red)
  else if symbol = Symbol.markB then some ("B", .green)
  else if symbol = Symbol.markC then some ("C", .purple)
  else if symbol = Symbol.storageMark then some ("S", .blue)
  else none

/-- A section that has no cell yet and would have its first one at `first`. -/
def opened (name : String) (color : SectionColor) (first : Nat) : TapeSection :=
  { first, last := first - 1, name, color, value := undecodable }

/-- Does the section have a cell? -/
def isInhabited (tapeSection : TapeSection) : Bool :=
  tapeSection.first ≤ tapeSection.last

/-- Walks the cells from `index` on, all but the last, with the section that is
open and those already closed, newest first. -/
def divide (index : Nat) (cells : List Symbol) (current : TapeSection)
    (closed : List TapeSection) : List TapeSection :=
  match cells with
  | symbol :: next :: rest =>
    if symbol = Symbol.separator then
      divide (index + 1) (next :: rest) current closed
    else
      match openedBy symbol with
      | some (name, color) =>
        if next = Symbol.separator then
          divide (index + 1) (next :: rest) current closed
        else
          divide (index + 1) (next :: rest) (opened name color (index + 1)) (current :: closed)
      | none =>
        divide (index + 1) (next :: rest) { current with last := index } closed
  | _ => (current :: closed).reverse

/-- Put a section in front of numbered ones, of which some are storage sections. -/
def numberNext (tapeSection : TapeSection) :
    List TapeSection × Nat → List TapeSection × Nat
  | (numbered, toTheRight) =>
    match tapeSection.color with
    | .blue =>
      ({ tapeSection with name := "S" ++ Decimal.numeral toTheRight } :: numbered, toTheRight + 1)
    | _ => (tapeSection :: numbered, toTheRight)

/-- Give each storage section the number of storage sections to its right. -/
def numberStorage (sections : List TapeSection) : List TapeSection :=
  (sections.foldr numberNext ([], 0)).1

/-- The sections of a tape in their order on it, not yet decoded. -/
def layout (tape : Tape) : List TapeSection :=
  let walked := divide 1 (tape.toList.drop 1) (opened "S" .blue 1) []
  numberStorage (walked.filter isInhabited)

end TapeSection
end TapeWorkbench
