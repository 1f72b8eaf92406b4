/-!
# Lines of a program text

A line ends at a line feed, at a carriage return, or at both together in that
usual order, `\r\n`.  A line knows where it starts and its number.  Numbers
count line feeds only, so a carriage return that stands alone ends a line
without changing the number.
-/

namespace TapeWorkbench
namespace Program

/-- One line of a text, without its line end. -/
structure Line where
  /-- How many characters of the text come before the line. -/
  start : Nat
  /-- One more than the number of line feeds before the line. -/
  number : Nat
  text : List Char
  deriving DecidableEq, Repr

namespace Line

/-- Splits what is left of a text.  `current` holds the characters of the line
that is being read and `done` the lines before it, both newest first. -/
def splitFrom (start number : Nat) (current : List Char) (done : List Line) :
    List Char → List Line
  | [] => (⟨start, number, current.reverse⟩ :: done).reverse
  | '\n' :: rest =>
    splitFrom (start + current.length + 1) (number + 1) []
      (⟨start, number, current.reverse⟩ :: done) rest
  | '\r' :: '\n' :: rest =>
    splitFrom (start + current.length + 2) (number + 1) []
      (⟨start, number, current.reverse⟩ :: done) rest
  | '\r' :: rest =>
    splitFrom (start + current.length + 1) number []
      (⟨start, number, current.reverse⟩ :: done) rest
  | c :: rest => splitFrom start number (c :: current) done rest

/-- The lines of a text.  There is always at least one. -/
def split (text : List Char) : List Line :=
  splitFrom 0 1 [] [] text

end Line
end Program
end TapeWorkbench
