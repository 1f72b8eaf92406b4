import TapeWorkbench.Toml.Quoted
import TapeWorkbench.Toml.Scalar

/-!
# Keys, values and the lines of a TOML document

A document is a list of expressions: keys with values, and the headers of tables
and of array elements.  Each stands on a line of its own, apart from values that
span several lines.  What the expressions mean together is not decided here.
-/

namespace TapeWorkbench
namespace Toml

/-- What one line of a document says. -/
inductive Expression where
  | assignment (path : List String) (value : Item)
  | tableHeader (path : List String)
  | elementHeader (path : List String)
  deriving Repr

/-- Arrays and inline tables nest less deep than this, and paths are shorter. -/
def depthLimit : Nat := 80

/-- Is this a character of a key that is not quoted? -/
def isBareKeyChar (c : Char) : Bool :=
  c.isAlphanum || c == '-' || c == '_'

def readSimpleKey (text : List Char) : Option (String × List Char) :=
  match text.takeWhile isBareKeyChar with
  | [] => readShortString text
  | key => some (String.ofList key, text.dropWhile isBareKeyChar)

/-- Reads a path: keys with points between them, and blanks around each. -/
def readPath : (bound : Nat) → (done : List String) → List Char →
    Option (List String × List Char)
  | 0, _, _ => none
  | bound + 1, done, text =>
    match readSimpleKey (skipBlanks text) with
    | none => none
    | some (key, rest) =>
      match skipBlanks rest with
      | '.' :: rest => readPath bound (key :: done) rest
      | rest => some ((key :: done).reverse, rest)

/-- Reads a path that is shorter than the limit. -/
def readKey (text : List Char) : Option (List String × List Char) :=
  readPath (depthLimit - 1) [] text

/-- Go past a comment, if one begins here. -/
def skipComment (text : List Char) : List Char :=
  match text with
  | '#' :: rest => rest.dropWhile isPlain
  | _ => text

/-- Go past blanks, line ends and comments. -/
def skipBetween : (bound : Nat) → List Char → List Char
  | 0, text => text
  | bound + 1, text =>
    match skipComment (skipBlanks text) with
    | [] => []
    | text => match afterLineEnd? text with
      | some rest => skipBetween bound rest
      | none => text

mutual

/-- Reads a value.  `depth` is the number of arrays and inline tables that may still
be opened, `bound` is the length of the whole text. -/
def readValue : (bound depth : Nat) → List Char → Option (Item × List Char)
  | 0, _, _ => none
  | bound + 1, depth, text =>
    match text with
    | '"' :: _ => (readString text).map fun (text, rest) => (.string text, rest)
    | '\'' :: _ => (readString text).map fun (text, rest) => (.string text, rest)
    | '[' :: rest =>
      match depth with
      | 0 => none
      | depth + 1 => readElements bound depth [] rest
    | '{' :: rest =>
      match depth with
      | 0 => none
      | depth + 1 =>
        match skipBlanks rest with
        | '}' :: rest => some (.inlineTable [], rest)
        | rest => readInline bound depth [] rest
    | 't' :: 'r' :: 'u' :: 'e' :: rest => some (.boolean true, rest)
    | 'f' :: 'a' :: 'l' :: 's' :: 'e' :: rest => some (.boolean false, rest)
    | text => readScalar text

/-- Reads the elements that are left of an array, and its end.  Those before are given
newest first.  There may be a comma behind the last one. -/
def readElements : (bound depth : Nat) → (done : List Item) → List Char →
    Option (Item × List Char)
  | 0, _, _, _ => none
  | bound + 1, depth, done, text =>
    match skipBetween bound text with
    | ']' :: rest => some (.array done.reverse, rest)
    | text =>
      match readValue bound depth text with
      | none => none
      | some (element, rest) =>
        match skipBetween bound rest with
        | ',' :: rest => readElements bound depth (element :: done) rest
        | ']' :: rest => some (.array (element :: done).reverse, rest)
        | _ => none

/-- Reads the members that are left of an inline table, and its end.  There is no comma
behind the last one. -/
def readInline : (bound depth : Nat) → (members : Members) → List Char →
    Option (Item × List Char)
  | 0, _, _, _ => none
  | bound + 1, depth, members, text =>
    match readKey text with
    | none => none
    | some (path, rest) =>
      match rest with
      | '=' :: rest =>
        match readValue bound depth (skipBlanks rest) with
        | none => none
        | some (value, rest) =>
          match members.assign value path true with
          | none => none
          | some members =>
            match skipBlanks rest with
            | ',' :: rest => readInline bound depth members rest
            | '}' :: rest => some (.inlineTable members, rest)
            | _ => none
      | _ => none

end

/-- Reads what may stand behind an expression: blanks, a comment, and the end of the
line or of the document. -/
def readTrailing (text : List Char) : Option (List Char) :=
  match skipComment (skipBlanks text) with
  | [] => some []
  | rest => afterLineEnd? rest

def readExpression (bound : Nat) (text : List Char) : Option (Expression × List Char) :=
  match text with
  | '[' :: '[' :: rest => do
    let (path, rest) ← readKey rest
    match rest with
    | ']' :: ']' :: rest => some (.elementHeader path, rest)
    | _ => none
  | '[' :: rest => do
    let (path, rest) ← readKey rest
    match rest with
    | ']' :: rest => some (.tableHeader path, rest)
    | _ => none
  | _ => do
    let (path, rest) ← readKey text
    match rest with
    | '=' :: rest =>
      let (value, rest) ← readValue bound (depthLimit - 1) (skipBlanks rest)
      some (.assignment path value, rest)
    | _ => none

/-- Reads the expressions that are left of a document.  Those before are given newest
first. -/
def readExpressions : (bound : Nat) → (done : List Expression) → List Char →
    Option (List Expression)
  | 0, _, _ => none
  | bound + 1, done, text =>
    match readTrailing text with
    | some [] => some done.reverse
    | some rest => readExpressions bound done rest
    | none =>
      match readExpression (bound + 1) (skipBlanks text) with
      | none => none
      | some (expression, rest) =>
        match readTrailing rest with
        | none => none
        | some [] => some (expression :: done).reverse
        | some rest => readExpressions bound (expression :: done) rest

end Toml
end TapeWorkbench
