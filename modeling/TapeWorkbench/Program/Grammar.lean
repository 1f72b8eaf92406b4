import TapeWorkbench.Program.Expression

/-!
# The grammar of program texts

The whole text is one expression: the tape line, then lines that are blank or hold a
directive, a comment or a rule.  Where a text does not match it, the failure names the
furthest place at which something was tried, and all that was tried there.
-/

namespace TapeWorkbench
namespace Program

/-- The named parts of a program text, in the order in which they are listed in reports. -/
inductive RuleName where
  | endOfText
  | program
  | tape
  | cell
  | head
  | symbol
  | assembly
  | source
  | text
  | instruction
  | state
  | direction
  deriving DecidableEq, Repr

namespace RuleName

def inOrder : List RuleName :=
  [endOfText, program, tape, cell, head, symbol, assembly, source, text, instruction, state,
    direction]

def name : RuleName → String
  | endOfText => "EOI"
  | program => "program"
  | tape => "tape"
  | cell => "cell"
  | head => "head"
  | symbol => "symbol"
  | assembly => "asm"
  | source => "source"
  | text => "text"
  | instruction => "instruction"
  | state => "state"
  | direction => "direction"

/-- Names in their order, each of them once. -/
def sorted (names : List RuleName) : List RuleName :=
  inOrder.filter fun name => name ∈ names

/-- A list of alternatives in words. -/
def alternatives : List RuleName → String
  | [] => ""
  | [only] => only.name
  | [first, second] => first.name ++ " or " ++ second.name
  | names => ", ".intercalate (names.dropLast.map name) ++ ", or " ++
      ((names.getLast?.map name).getD "")

end RuleName

namespace Grammar

open Expression

def space : Expression RuleName := .word [' ']

def tab : Expression RuleName := .word ['\t']

def newline : Expression RuleName :=
  .choice (.word ['\n']) <| .choice (.word ['\r', '\n']) (.word ['\r'])

/-- What ends the text is a rule of its own, which can be expected. -/
def finish : Expression RuleName := .rule .endOfText .endOfText

def blanks : Expression RuleName := oneOrMore (.choice space tab)

def symbol : Expression RuleName :=
  .rule .symbol <| .atomic <| oneOrMore (.one Decimal.isDigit)

def head : Expression RuleName := .rule .head (.word ['!'])

def cell : Expression RuleName := .rule .cell <| .sequence (.optional head) symbol

/-- The cells after the first one. -/
def moreCells : Expression RuleName := .many (.sequence blanks cell)

/-- Cells with blanks between them, and behind them or not. -/
def cells : Expression RuleName :=
  .sequence (.optional (.sequence cell moreCells)) (.optional blanks)

def tape : Expression RuleName := .rule .tape <| .sequence (.optional blanks) cells

/-- All that is left of a line. -/
def remainder : Expression RuleName :=
  .many (.sequence (.notAhead newline) (.one fun _ => true))

def text : Expression RuleName := .rule .text (.atomic remainder)

/-- The name of a directive is a whole word. -/
def directiveEnd : Expression RuleName :=
  .ahead <| .choice space <| .choice tab <| .choice newline finish

def directive (name : RuleName) (word : String) : Expression RuleName :=
  .rule name <| .sequence (.word word.toList) <| .sequence directiveEnd text

def assembly : Expression RuleName := directive .assembly "#asm"

def source : Expression RuleName := directive .source "#program"

def comment : Expression RuleName := .sequence (.word ['#']) remainder

def state : Expression RuleName :=
  .rule .state <| .atomic <| oneOrMore <|
    .sequence (.notAhead (.choice space (.choice tab newline))) (.one fun _ => true)

def direction : Expression RuleName :=
  .rule .direction <| .choice (.word ['L']) <| .choice (.word ['R']) (.word ['S'])

def fields : Expression RuleName :=
  .sequence state <| .sequence blanks <| .sequence symbol <| .sequence blanks <|
    .sequence symbol <| .sequence blanks <| .sequence direction <| .sequence blanks state

def instruction : Expression RuleName := .rule .instruction fields

def statement : Expression RuleName :=
  .choice assembly <| .choice source <| .choice comment instruction

def line : Expression RuleName :=
  .sequence (.optional blanks) <| .sequence (.optional statement) (.optional blanks)

/-- The lines after the first one. -/
def moreLines : Expression RuleName := .many (.sequence newline line)

def program : Expression RuleName :=
  .rule .program <| .sequence .startOfText <| .sequence tape <| .sequence moreLines finish

/-- Where a text fails to match the grammar, and what was tried there. -/
def failure? (text : List Char) : Option (Attempts RuleName) :=
  match program.run .plain (Cursor.ofLine text) .none with
  | (some _, _) => none
  | (none, attempts) =>
    some { attempts with
      expected := RuleName.sorted attempts.expected
      unexpected := RuleName.sorted attempts.unexpected }

/-- What a failure is told as. -/
def message (failure : Attempts RuleName) : String :=
  match failure.unexpected, failure.expected with
  | [], [] => "unknown parsing error"
  | [], expected => "expected " ++ RuleName.alternatives expected
  | unexpected, [] => "unexpected " ++ RuleName.alternatives unexpected
  | unexpected, expected =>
    "unexpected " ++ RuleName.alternatives unexpected ++ "; expected " ++
      RuleName.alternatives expected

end Grammar
end Program
end TapeWorkbench
