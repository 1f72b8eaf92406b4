import TapeWorkbench.Json.Reader

/-!
# Strings in TOML

Basic strings stand between quotation marks and have escapes, literal strings
stand between apostrophes and have none.  Three marks instead of one open a
string of several lines: a line feed right behind the opening marks does not
count, every line end in it becomes a line feed, and up to two marks may stand
right in front of the closing ones.
-/

namespace TapeWorkbench
namespace Toml

/-- Spaces and tabs. -/
def isBlank (c : Char) : Bool :=
  c == ' ' || c == '\t'

/-- The characters allowed in comments and strings: all but control characters, with
the tab as an exception. -/
def isPlain (c : Char) : Bool :=
  c == '\t' || (32 ≤ c.toNat && c.toNat != 127)

def skipBlanks (text : List Char) : List Char :=
  text.dropWhile isBlank

/-- What comes behind a line end, if one comes first. -/
def afterLineEnd? (text : List Char) : Option (List Char) :=
  match text with
  | '\n' :: rest => some rest
  | '\r' :: '\n' :: rest => some rest
  | _ => none

theorem length_of_afterLineEnd? {text rest : List Char} (ended : afterLineEnd? text = some rest) :
    rest.length < text.length := by
  unfold afterLineEnd? at ended
  split at ended <;> simp at ended <;> subst ended <;> simp only [List.length_cons] <;> omega

/-- The character with a code that is one. -/
def charOfCode? (code : Nat) : Option Char :=
  if code < 0xD800 || (0xE000 ≤ code && code < 0x110000) then some (Char.ofNat code) else none

/-- Reads an escape behind its backslash. -/
def readEscape (text : List Char) : Option (Char × List Char) :=
  match text with
  | 'u' :: a :: b :: c :: d :: rest => do
    let c ← (Json.hexNumber? [a, b, c, d]) >>= charOfCode?
    return (c, rest)
  | 'U' :: a :: b :: c :: d :: e :: f :: g :: h :: rest => do
    let c ← (Json.hexNumber? [a, b, c, d, e, f, g, h]) >>= charOfCode?
    return (c, rest)
  | 'b' :: rest => some ('\x08', rest)
  | 't' :: rest => some ('\t', rest)
  | 'n' :: rest => some ('\n', rest)
  | 'f' :: rest => some ('\x0c', rest)
  | 'r' :: rest => some ('\r', rest)
  | '"' :: rest => some ('"', rest)
  | '\\' :: rest => some ('\\', rest)
  | _ => none

theorem length_of_readEscape {text rest : List Char} {c : Char}
    (escaped : readEscape text = some (c, rest)) : rest.length < text.length := by
  unfold readEscape at escaped
  split at escaped <;> simp [Option.bind_eq_some_iff] at escaped
  case h_1 | h_2 =>
    obtain ⟨_, _, _, rfl⟩ := escaped
    simp only [List.length_cons]
    omega
  all_goals
    obtain ⟨_, rfl⟩ := escaped
    simp

/-- The finished text, from its characters newest first. -/
def finished (done : List Char) : String :=
  String.ofList done.reverse

/-- Reads the rest of a string of one line.  The functions for strings take the
characters read before newest first. -/
def readBasic (done text : List Char) : Option (String × List Char) :=
  match text with
  | [] => none
  | '"' :: rest => some (finished done, rest)
  | '\\' :: rest =>
    match escaped : readEscape rest with
    | some (c, behind) =>
      have := length_of_readEscape escaped
      readBasic (c :: done) behind
    | none => none
  | c :: rest => if isPlain c then readBasic (c :: done) rest else none
termination_by text.length
decreasing_by all_goals simp only [List.length_cons]; omega

/-- Reads the rest of a literal string of one line. -/
def readLiteral (done : List Char) : List Char → Option (String × List Char)
  | '\'' :: rest => some (finished done, rest)
  | c :: rest => if isPlain c then readLiteral (c :: done) rest else none
  | [] => none

/-- Go past blanks and line ends. -/
def skipBlankLines : List Char → List Char
  | '\r' :: '\n' :: rest => skipBlankLines rest
  | c :: rest => if c == '\n' || isBlank c then skipBlankLines rest else c :: rest
  | [] => []

theorem length_skipBlankLines_le (text : List Char) :
    (skipBlankLines text).length ≤ text.length := by
  fun_induction skipBlankLines text <;> simp_all <;> omega

/-- The line end that a backslash at the end of a line hides, with all blanks and line
ends behind it. -/
def afterHiddenLineEnd? (text : List Char) : Option (List Char) :=
  (afterLineEnd? (skipBlanks text)).map skipBlankLines

theorem length_of_afterHiddenLineEnd? {text rest : List Char}
    (hidden : afterHiddenLineEnd? text = some rest) : rest.length < text.length := by
  obtain ⟨behind, ended, rfl⟩ := Option.map_eq_some_iff.mp hidden
  have lineEnd := length_of_afterLineEnd? ended
  have lines := length_skipBlankLines_le behind
  have blanks : (skipBlanks text).length ≤ text.length :=
    (List.dropWhile_sublist isBlank).length_le
  omega

/-- Decides about a row of quotation marks or apostrophes inside a string of several
lines: fewer than three belong to the string, three to five end it, and all of those
but the last three belong to it.  The marks that belong to it are returned, and
whether the string ends. -/
def closingMarks? (count : Nat) : Option (Nat × Bool) :=
  if count < 3 then some (count, false)
  else if count ≤ 5 then some (count - 3, true)
  else none

/-- Reads the rest of a string of several lines, with the given mark and with or
without escapes. -/
def readLines (mark : Char) (escapes : Bool) (done text : List Char) :
    Option (String × List Char) :=
  match ended : afterLineEnd? text with
  | some rest =>
    have := length_of_afterLineEnd? ended
    readLines mark escapes ('\n' :: done) rest
  | none =>
    match text with
    | [] => none
    | c :: rest =>
      if c = mark then
        let marks := c :: rest.takeWhile (· == mark)
        let behind := rest.dropWhile (· == mark)
        match closingMarks? marks.length with
        | none => none
        | some (kept, ends) =>
          let done := List.replicate kept mark ++ done
          have : behind.length ≤ rest.length := (List.dropWhile_sublist _).length_le
          if ends then some (finished done, behind)
          else readLines mark escapes done behind
      else if escapes && c = '\\' then
        match hidden : afterHiddenLineEnd? rest with
        | some behind =>
          have := length_of_afterHiddenLineEnd? hidden
          readLines mark escapes done behind
        | none =>
          match escaped : readEscape rest with
          | some (c, behind) =>
            have := length_of_readEscape escaped
            readLines mark escapes (c :: done) behind
          | none => none
      else if isPlain c then readLines mark escapes (c :: done) rest
      else none
termination_by text.length
decreasing_by all_goals grind

/-- What comes behind the first line end, which does not count right behind the
opening marks. -/
def skipFirstLineEnd (text : List Char) : List Char :=
  (afterLineEnd? text).getD text

def readShortString (text : List Char) : Option (String × List Char) :=
  match text with
  | '"' :: rest => readBasic [] rest
  | '\'' :: rest => readLiteral [] rest
  | _ => none

/-- Reads a string of any kind with its opening marks. -/
def readString (text : List Char) : Option (String × List Char) :=
  match text with
  | '"' :: '"' :: '"' :: rest => readLines '"' true [] (skipFirstLineEnd rest)
  | '\'' :: '\'' :: '\'' :: rest => readLines '\'' false [] (skipFirstLineEnd rest)
  | _ => readShortString text

end Toml
end TapeWorkbench
