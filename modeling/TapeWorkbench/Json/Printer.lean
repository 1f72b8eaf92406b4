import TapeWorkbench.Json.Value

/-!
# Writing JSON

The compact form has no space at all.  The indented form puts every element and
member on a line of its own, two spaces deeper than what it belongs to; empty
arrays and objects stay on one line.  Strings escape the quotation mark, the
backslash and the control characters below the space, and nothing else.
-/

namespace TapeWorkbench
namespace Json

/-- The lower-case hexadecimal digit of a number below sixteen. -/
def hexDigitChar (digit : Nat) : Char :=
  if digit < 10 then Char.ofNat (48 + digit) else Char.ofNat (87 + digit)

/-- How a character is written inside a string. -/
def escaped (c : Char) : List Char :=
  if c = '"' then ['\\', '"']
  else if c = '\\' then ['\\', '\\']
  else if c = '\x08' then ['\\', 'b']
  else if c = '\t' then ['\\', 't']
  else if c = '\n' then ['\\', 'n']
  else if c = '\x0c' then ['\\', 'f']
  else if c = '\r' then ['\\', 'r']
  else if c.toNat < 32 then
    ['\\', 'u', '0', '0', hexDigitChar (c.toNat / 16), hexDigitChar (c.toNat % 16)]
  else [c]

def quoted (text : String) : String :=
  "\"" ++ String.ofList (text.toList.flatMap escaped) ++ "\""

/-- A string or a member's name.  One without text is written as the empty string. -/
def quotedText (text : Option String) : String :=
  quoted (text.getD "")

mutual

/-- Writes a value in compact form behind what is written already. -/
def compactOnto (written : String) : Value → String
  | .null => written ++ "null"
  | .bool true => written ++ "true"
  | .bool false => written ++ "false"
  | .number literal => written ++ String.ofList literal
  | .string text => written ++ quotedText text
  | .array elements => compactElementsOnto (written ++ "[") elements ++ "]"
  | .object members => compactMembersOnto (written ++ "\x7b") members ++ "\x7d"

def compactElementsOnto (written : String) : List Value → String
  | [] => written
  | [last] => compactOnto written last
  | element :: rest => compactElementsOnto (compactOnto written element ++ ",") rest

def compactMembersOnto (written : String) : List (Option String × Value) → String
  | [] => written
  | [(name, last)] => compactOnto (written ++ quotedText name ++ ":") last
  | (name, value) :: rest =>
    compactMembersOnto (compactOnto (written ++ quotedText name ++ ":") value ++ ",") rest

end

def compact (value : Value) : String :=
  compactOnto "" value

/-- A line feed and the indentation of the given depth. -/
def newline (depth : Nat) : String :=
  "\n" ++ String.ofList (List.replicate (2 * depth) ' ')

mutual

/-- Writes a value in indented form behind what is written already. -/
def indentedOnto (depth : Nat) (written : String) : Value → String
  | .null => written ++ "null"
  | .bool true => written ++ "true"
  | .bool false => written ++ "false"
  | .number literal => written ++ String.ofList literal
  | .string text => written ++ quotedText text
  | .array [] => written ++ "[]"
  | .array elements =>
    indentedElementsOnto (depth + 1) (written ++ "[" ++ newline (depth + 1)) elements ++
      newline depth ++ "]"
  | .object [] => written ++ "\x7b\x7d"
  | .object members =>
    indentedMembersOnto (depth + 1) (written ++ "\x7b" ++ newline (depth + 1)) members ++
      newline depth ++ "\x7d"

def indentedElementsOnto (depth : Nat) (written : String) : List Value → String
  | [] => written
  | [last] => indentedOnto depth written last
  | element :: rest =>
    indentedElementsOnto depth (indentedOnto depth written element ++ "," ++ newline depth) rest

def indentedMembersOnto (depth : Nat) (written : String) :
    List (Option String × Value) → String
  | [] => written
  | [(name, last)] => indentedOnto depth (written ++ quotedText name ++ ": ") last
  | (name, value) :: rest =>
    indentedMembersOnto depth
      (indentedOnto depth (written ++ quotedText name ++ ": ") value ++ "," ++ newline depth) rest

end

def indented (value : Value) : String :=
  indentedOnto 0 "" value

end Json
end TapeWorkbench
