import Std.Data.TreeMap
import TapeWorkbench.Decimal
import TapeWorkbench.Tape

/-!
# Instructions and the table that holds them

An instruction is filed under the state and the symbol at which it applies.
The table lists its instructions in the order of their keys: by state in the
order of code points, then by symbol.
-/

namespace TapeWorkbench

/-- One transition: what to write, where to move and the state to go to. -/
structure Instruction where
  write : Symbol
  move : Move
  nextState : String
  /-- The ordinal of the assembly block that the instruction belongs to, counted
  from one; zero for an instruction above the first block. -/
  block : Nat
  deriving DecidableEq, Repr

/-- How the instruction for a state and symbol is called. -/
def instructionName (state : String) (symbol : Symbol) : String :=
  state ++ "-" ++ Decimal.numeral symbol

/-- The instructions of a program, at most one for each state and symbol. -/
structure InstructionTable where
  entries : Std.TreeMap (String × Symbol) Instruction
    (compareLex (compareOn Prod.fst) (compareOn Prod.snd))

namespace InstructionTable

def empty : InstructionTable := ⟨∅⟩

/-- The instruction for a state and the symbol read. -/
def find? (table : InstructionTable) (state : String) (symbol : Symbol) : Option Instruction :=
  table.entries[(state, symbol)]?

/-- File an instruction, in place of an older one for the same state and symbol. -/
def insert (table : InstructionTable) (state : String) (symbol : Symbol)
    (instruction : Instruction) : InstructionTable :=
  ⟨table.entries.insert (state, symbol) instruction⟩

def size (table : InstructionTable) : Nat :=
  table.entries.size

/-- The instructions with their keys, in the order of the keys. -/
def toList (table : InstructionTable) : List ((String × Symbol) × Instruction) :=
  table.entries.toList

@[simp] theorem find?_empty (state : String) (symbol : Symbol) :
    empty.find? state symbol = none := by
  simp [empty, find?]

/-- The newest instruction for a key is the one that counts. -/
theorem find?_insert (table : InstructionTable) (state state' : String)
    (symbol symbol' : Symbol) (instruction : Instruction) :
    (table.insert state symbol instruction).find? state' symbol' =
      if state = state' ∧ symbol = symbol' then some instruction
      else table.find? state' symbol' := by
  simp [insert, find?, Std.TreeMap.getElem?_insert, compareLex, compareOn,
    Ordering.then_eq_eq]

end InstructionTable
end TapeWorkbench
