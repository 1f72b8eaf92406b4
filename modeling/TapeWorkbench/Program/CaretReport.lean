import TapeWorkbench.Decimal

/-!
# Reports that point at a place in a text

A report quotes the line of the text at which reading failed, puts a caret under
the place, and tells what would have been accepted there.  Lines end at line
feeds.  Lines and columns count from one, columns in characters.
-/

namespace TapeWorkbench

/-- A place in a text with the line it is on and what was expected there. -/
structure CaretReport where
  line : Nat
  column : Nat
  /-- The line as it is shown. -/
  shown : String
  /-- The blanks that bring the caret under its place. -/
  indent : String
  expected : String
  deriving DecidableEq, Repr

namespace CaretReport

/-- Show line ends as visible symbols. -/
def visibleLineEnds (line : List Char) : List Char :=
  line.map fun c => if c = '\r' then '␍' else if c = '\n' then '␊' else c

/-- Leave line ends out. -/
def withoutLineEnds (line : List Char) : List Char :=
  line.filter fun c => c != '\r' && c != '\n'

/-- The first line of a text with the line feed that ends it. -/
def throughLineFeed (text : List Char) : List Char :=
  text.takeWhile (· != '\n') ++ (text.dropWhile (· != '\n')).take 1

/-- Point at the place in a text that comes after `before` and in front of `after`.
Line ends of the quoted line are shown only if the place itself is one. -/
def pointingAt (before after : List Char) (expected : String) : CaretReport :=
  let lineStart := (before.reverse.takeWhile (· != '\n')).reverse
  let quoted := lineStart ++ throughLineFeed after
  let atLineEnd := after.head?.any fun c => c == '\r' || c == '\n'
  let shown := if atLineEnd then visibleLineEnds quoted else withoutLineEnds quoted
  { line := before.count '\n' + 1
    column := lineStart.length + 1
    shown := String.ofList shown
    indent := String.ofList
      ((shown.take lineStart.length).map fun c => if c = '\t' then '\t' else ' ')
    expected }

def render (report : CaretReport) : String :=
  let lineNumber := Decimal.numeral report.line
  let margin := String.ofList (List.replicate lineNumber.length ' ')
  "\n".intercalate
    [ margin ++ "--> " ++ lineNumber ++ ":" ++ Decimal.numeral report.column
    , margin ++ " |"
    , lineNumber ++ " | " ++ report.shown
    , margin ++ " | " ++ report.indent ++ "^---"
    , margin ++ " |"
    , margin ++ " = expected " ++ report.expected ]

end CaretReport
end TapeWorkbench
