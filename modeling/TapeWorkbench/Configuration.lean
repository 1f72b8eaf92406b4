import TapeWorkbench.Instruction

/-!
# Configurations and the machine's transition

A configuration is a tape with the head on one of its cells, and a state.  The
transition `step?` is the textbook one: it reads the cell under the head, looks
up the instruction, writes, moves and changes state.  It is undefined where
there is no cell to read, no instruction to follow, or a move off the tape.
-/

namespace TapeWorkbench

structure Configuration where
  tape : Tape
  head : Nat
  state : String
  deriving DecidableEq, Repr

namespace Configuration

/-- The symbol under the head, if there is a cell there. -/
def read? (configuration : Configuration) : Option Symbol :=
  configuration.tape[configuration.head]?

/-- Follow an instruction: write under the head, move and change state.
Undefined if the move leaves the tape. -/
def follow? (configuration : Configuration) (instruction : Instruction) : Option Configuration :=
  (instruction.move.apply configuration.head configuration.tape.size).map fun head =>
    { tape := configuration.tape.setIfInBounds configuration.head instruction.write
      head
      state := instruction.nextState }

/-- The transition under a table of instructions. -/
def step? (table : InstructionTable) (configuration : Configuration) : Option Configuration := do
  let symbol ← configuration.read?
  let instruction ← table.find? configuration.state symbol
  configuration.follow? instruction

end Configuration
end TapeWorkbench
