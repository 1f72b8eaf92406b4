import TapeWorkbench.Decimal
import TapeWorkbench.Json.Value

/-!
# Reading JSON

The reader is strict: one value with white space around it and between its
tokens, no comma before a closing bracket, no leading zeros, no control
characters inside strings.

A reading function takes the characters that are left and returns what it read
together with those behind it.  The functions for nested values are bounded by
a depth that no text of the given length can exceed.
-/

namespace TapeWorkbench
namespace Json

/-- White space between tokens. -/
def isSpace (c : Char) : Bool :=
  c == ' ' || c == '\t' || c == '\n' || c == '\r'

def skipSpace (text : List Char) : List Char :=
  text.dropWhile isSpace

def hexValue? (c : Char) : Option Nat :=
  if '0' ≤ c && c ≤ '9' then some (c.toNat - 48)
  else if 'a' ≤ c && c ≤ 'f' then some (c.toNat - 87)
  else if 'A' ≤ c && c ≤ 'F' then some (c.toNat - 55)
  else none

def hexNumber? (digits : List Char) : Option Nat :=
  digits.foldlM (fun total digit => (hexValue? digit).map (16 * total + ·)) 0

/-- One item of a string: a character, or half of a surrogate pair. -/
inductive StringItem where
  | char (c : Char)
  | surrogate (code : Nat)
  deriving DecidableEq, Repr

namespace StringItem

/-- What the escape with the given code stands for. -/
def ofCode (code : Nat) : StringItem :=
  if 0xD800 ≤ code && code < 0xE000 then .surrogate code else .char (Char.ofNat code)

/-- The text of items, newest last, after those already turned into characters,
newest first.  Halves have to stand in pairs, the upper one first. -/
def textAfter? (done : List Char) : List StringItem → Option String
  | [] => some (String.ofList done.reverse)
  | .char c :: rest => textAfter? (c :: done) rest
  | .surrogate upper :: .surrogate lower :: rest =>
    if upper < 0xDC00 && 0xDC00 ≤ lower then
      textAfter? (Char.ofNat (0x10000 + (upper - 0xD800) * 0x400 + (lower - 0xDC00)) :: done) rest
    else
      none
  | .surrogate _ :: _ => none

end StringItem

/-- The character that an escape with a single letter stands for. -/
def unescaped? (c : Char) : Option Char :=
  if c = '"' then some '"'
  else if c = '\\' then some '\\'
  else if c = '/' then some '/'
  else if c = 'b' then some '\x08'
  else if c = 'f' then some '\x0c'
  else if c = 'n' then some '\n'
  else if c = 'r' then some '\r'
  else if c = 't' then some '\t'
  else none

/-- Reads the rest of a string and its closing quotation mark.  The items before are
given newest first. -/
def readItems (done : List StringItem) : List Char → Option (List StringItem × List Char)
  | [] => none
  | '"' :: rest => some (done.reverse, rest)
  | '\\' :: 'u' :: a :: b :: c :: d :: rest =>
    match hexNumber? [a, b, c, d] with
    | some code => readItems (.ofCode code :: done) rest
    | none => none
  | '\\' :: letter :: rest =>
    match unescaped? letter with
    | some c => readItems (.char c :: done) rest
    | none => none
  | c :: rest => if c.toNat < 32 then none else readItems (.char c :: done) rest

/-- Reads a string behind its opening quotation mark. -/
def readString (text : List Char) : Option (Option String × List Char) :=
  (readItems [] text).map fun (items, rest) => (StringItem.textAfter? [] items, rest)

def readDigits (text : List Char) : Option (List Char × List Char) :=
  if text.head?.any Decimal.isDigit then
    some (text.takeWhile Decimal.isDigit, text.dropWhile Decimal.isDigit)
  else
    none

/-- Reads the digits in front of a fraction or exponent.  A zero stands alone. -/
def readWhole (text : List Char) : Option (List Char × List Char) :=
  match text with
  | '0' :: rest => some (['0'], rest)
  | _ => readDigits text

def readFraction (text : List Char) : Option (List Char × List Char) :=
  match text with
  | '.' :: rest => (readDigits rest).map fun (digits, rest) => ('.' :: digits, rest)
  | _ => some ([], text)

/-- Reads the sign of an exponent, if there is one. -/
def readExponentSign (text : List Char) : List Char × List Char :=
  match text with
  | '+' :: rest => (['+'], rest)
  | '-' :: rest => (['-'], rest)
  | _ => ([], text)

def readExponent (text : List Char) : Option (List Char × List Char) :=
  match text with
  | [] => some ([], [])
  | mark :: rest =>
    if mark = 'e' || mark = 'E' then
      let (sign, rest) := readExponentSign rest
      (readDigits rest).map fun (digits, rest) => (mark :: sign ++ digits, rest)
    else
      some ([], mark :: rest)

/-- Reads a number and returns it as it is written. -/
def readNumber (text : List Char) : Option (List Char × List Char) := do
  let (sign, text) := match text with
    | '-' :: rest => (['-'], rest)
    | _ => ([], text)
  let (whole, text) ← readWhole text
  let (fraction, text) ← readFraction text
  let (exponent, text) ← readExponent text
  return (sign ++ whole ++ fraction ++ exponent, text)

mutual

/-- Reads a value, nested at most as deep as the bound. -/
def readValue : (bound : Nat) → List Char → Option (Value × List Char)
  | 0, _ => none
  | bound + 1, text =>
    match skipSpace text with
    | 'n' :: 'u' :: 'l' :: 'l' :: rest => some (.null, rest)
    | 't' :: 'r' :: 'u' :: 'e' :: rest => some (.bool true, rest)
    | 'f' :: 'a' :: 'l' :: 's' :: 'e' :: rest => some (.bool false, rest)
    | '"' :: rest => (readString rest).map fun (text, rest) => (.string text, rest)
    | '[' :: rest =>
      match skipSpace rest with
      | ']' :: rest => some (.array [], rest)
      | _ => readElements bound [] rest
    | '{' :: rest =>
      match skipSpace rest with
      | '}' :: rest => some (.object [], rest)
      | _ => readMembers bound [] rest
    | text => (readNumber text).map fun (literal, rest) => (.number literal, rest)

/-- Reads the elements that are left of an array, and its end.  Those before are given
newest first. -/
def readElements : (bound : Nat) → (done : List Value) → List Char →
    Option (Value × List Char)
  | 0, _, _ => none
  | bound + 1, done, text =>
    match readValue bound text with
    | none => none
    | some (element, rest) =>
      match skipSpace rest with
      | ',' :: rest => readElements bound (element :: done) rest
      | ']' :: rest => some (.array (element :: done).reverse, rest)
      | _ => none

/-- Reads the members that are left of an object, and its end.  Those before are given
newest first. -/
def readMembers : (bound : Nat) → (done : List (Option String × Value)) → List Char →
    Option (Value × List Char)
  | 0, _, _ => none
  | bound + 1, done, text =>
    match skipSpace text with
    | '"' :: rest =>
      match readString rest with
      | none => none
      | some (name, rest) =>
        match skipSpace rest with
        | ':' :: rest =>
          match readValue bound rest with
          | none => none
          | some (value, rest) =>
            match skipSpace rest with
            | ',' :: rest => readMembers bound ((name, value) :: done) rest
            | '}' :: rest => some (.object ((name, value) :: done).reverse, rest)
            | _ => none
        | _ => none
    | _ => none

end

/-- Reads a text that is one JSON value and nothing else. -/
def read? (text : String) : Option Value :=
  let characters := text.toList
  match readValue (2 * characters.length + 2) characters with
  | some (value, rest) => if (skipSpace rest).isEmpty then some value else none
  | none => none

end Json
end TapeWorkbench
