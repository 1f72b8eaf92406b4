import TapeWorkbench.Decimal
import TapeWorkbench.Json.Reader
import TapeWorkbench.Toml.Item

/-!
# Numbers, dates and times in TOML

Integers have 64 bits and may be written in decimal, hexadecimal, octal or
binary digits with single underscores between digits.  Floats and dates are
recognized and checked, but their values are not kept.

A reading function takes the characters that are left and returns those behind
what it read.
-/

namespace TapeWorkbench
namespace Toml

/-- Reads a digit and any further ones, with single underscores between them, and
returns the digits without the underscores. -/
def readGroups (isDigit : Char → Bool) (done : List Char) :
    List Char → Option (List Char × List Char)
  | [] => none
  | digit :: '_' :: rest =>
    if isDigit digit then readGroups isDigit (digit :: done) rest else none
  | digit :: next :: rest =>
    if isDigit digit then
      if isDigit next then readGroups isDigit (digit :: done) (next :: rest)
      else some ((digit :: done).reverse, next :: rest)
    else none
  | [digit] => if isDigit digit then some ((digit :: done).reverse, []) else none

/-- Reads a sign, if there is one, and tells whether it is a minus. -/
def readSign (text : List Char) : Bool × List Char :=
  match text with
  | '+' :: rest => (false, rest)
  | '-' :: rest => (true, rest)
  | _ => (false, text)

/-- Reads a decimal whole number behind its sign.  A zero in front stands alone. -/
def readWholeDigits (text : List Char) : Option (List Char × List Char) :=
  match text with
  | '0' :: rest => some (['0'], rest)
  | _ => readGroups Decimal.isDigit [] text

/-- Is this a digit of the given base? -/
def isDigitOf (base : Nat) (c : Char) : Bool :=
  (Json.hexValue? c).any (· < base)

/-- The number below a bound that digits of a base write. -/
def baseValueBelow? (base bound : Nat) (digits : List Char) : Option Nat :=
  digits.foldlM (fun total digit => do
    let next := base * total + (← Json.hexValue? digit)
    if next < bound then some next else none) 0

/-- The first number above the 64-bit integers. -/
def integerBound : Nat := 9223372036854775808

/-- Reads digits of a base behind the mark of the base. -/
def readInBase (base : Nat) (text : List Char) : Option (Int × List Char) := do
  let (digits, rest) ← readGroups (isDigitOf base) [] text
  let number ← baseValueBelow? base integerBound digits
  return (number, rest)

def readInteger (text : List Char) : Option (Int × List Char) :=
  match text with
  | '0' :: 'x' :: rest => readInBase 16 rest
  | '0' :: 'o' :: rest => readInBase 8 rest
  | '0' :: 'b' :: rest => readInBase 2 rest
  | _ => do
    let (negative, text) := readSign text
    let (digits, rest) ← readWholeDigits text
    if negative then
      let number ← baseValueBelow? 10 (integerBound + 1) digits
      return (-(number : Int), rest)
    else
      let number ← baseValueBelow? 10 integerBound digits
      return (number, rest)

/-- The least number that rounds to no double: half a unit above the greatest one. -/
def doubleBound : Nat := Nat.pow 2 1024 - Nat.pow 2 970

/-- Does the decimal `digits · 10 ^ exponent` round to more than the greatest double?
The bound is a whole number of 309 digits, so that only the digits in front of the
decimal point are compared with it, and only where there are as many. -/
def exceedsDouble (digits : List Char) (exponent : Int) : Bool :=
  let significant := digits.dropWhile (· == '0')
  let magnitude := (significant.length : Int) + exponent
  if significant.isEmpty || magnitude < 309 then false
  else if 309 < magnitude then true
  else
    let missing := 309 - significant.length
    doubleBound ≤ Decimal.value (significant.take 309 ++ List.replicate missing '0')

/-- The size of an exponent.  From 65536 on the digits that are left are not looked
at. -/
def exponentSize (digits : List Char) : Nat :=
  digits.foldl (fun size digit =>
    if size < 65536 then 10 * size + Decimal.digitValue digit else size) 0

def readFloatExponent (text : List Char) : Option (Option Int × List Char) :=
  match text with
  | [] => some (none, [])
  | mark :: rest =>
    if mark = 'e' || mark = 'E' then do
      let (negative, rest) := readSign rest
      let (digits, rest) ← readGroups Decimal.isDigit [] rest
      let size : Int := exponentSize digits
      return (some (if negative then -size else size), rest)
    else
      some (none, mark :: rest)

/-- Reads a finite float, which has a fraction or an exponent. -/
def readFiniteFloat (text : List Char) : Option (List Char) := do
  let (negative, text) := readSign text
  let (whole, text) ← readWholeDigits text
  let (fraction, text) ← match text with
    | '.' :: rest => (readGroups Decimal.isDigit [] rest).map fun (digits, rest) =>
      (some digits, rest)
    | _ => some (none, text)
  let (exponent, text) ← readFloatExponent text
  if fraction.isNone && exponent.isNone then
    none
  else
    let places := (fraction.getD []).length
    if !negative && exceedsDouble (whole ++ fraction.getD []) (exponent.getD 0 - places) then
      none
    else
      some text

/-- Reads an infinity or something that is not a number. -/
def readSpecialFloat (text : List Char) : Option (List Char) :=
  match (readSign text).2 with
  | 'i' :: 'n' :: 'f' :: rest => some rest
  | 'n' :: 'a' :: 'n' :: rest => some rest
  | _ => none

/-- Reads two digits of a number in a range. -/
def readTwoDigits (least greatest : Nat) (text : List Char) : Option (Nat × List Char) :=
  match text with
  | tens :: ones :: rest =>
    if Decimal.isDigit tens && Decimal.isDigit ones then
      let number := Decimal.value [tens, ones]
      if least ≤ number && number ≤ greatest then some (number, rest) else none
    else none
  | _ => none

/-- Reads one given character. -/
def readMark (mark : Char) (text : List Char) : Option (List Char) :=
  match text with
  | c :: rest => if c = mark then some rest else none
  | [] => none

/-- The days of a month. -/
def daysIn (year month : Nat) : Nat :=
  if month = 2 then
    if year % 4 = 0 && (year % 100 != 0 || year % 400 = 0) then 29 else 28
  else if month = 4 || month = 6 || month = 9 || month = 11 then 30
  else 31

def readDate (text : List Char) : Option (List Char) := do
  let century ← readTwoDigits 0 99 text
  let year ← readTwoDigits 0 99 century.2
  let (month, text) ← readMark '-' year.2 >>= readTwoDigits 1 12
  let (_, text) ← readMark '-' text >>= readTwoDigits 1 (daysIn (century.1 * 100 + year.1) month)
  return text

/-- Reads a time of day, in which a second may be a leap second. -/
def readTime (text : List Char) : Option (List Char) := do
  let (_, text) ← readTwoDigits 0 23 text
  let (_, text) ← readMark ':' text >>= readTwoDigits 0 59
  let (_, text) ← readMark ':' text >>= readTwoDigits 0 60
  match text with
  | '.' :: digit :: rest =>
    if Decimal.isDigit digit then some (rest.dropWhile Decimal.isDigit)
    else some ('.' :: digit :: rest)
  | text => some text

/-- Reads the offset of a time from universal time. -/
def readOffset (text : List Char) : Option (List Char) :=
  match text with
  | [] => none
  | mark :: rest =>
    if mark = 'Z' || mark = 'z' then some rest
    else if mark = '+' || mark = '-' then do
      let (_, text) ← readTwoDigits 0 23 rest
      let (_, text) ← readMark ':' text >>= readTwoDigits 0 59
      return text
    else none

/-- Reads a date, a time, or a date with a time and perhaps an offset. -/
def readDateTime (text : List Char) : Option (List Char) :=
  match readDate text with
  | none => readTime text
  | some behindDate =>
    match behindDate with
    | [] => some []
    | mark :: rest =>
      if mark = 'T' || mark = 't' || mark = ' ' then
        match readTime rest with
        | none => some behindDate
        | some behindTime => some ((readOffset behindTime).getD behindTime)
      else some behindDate

def readScalar (text : List Char) : Option (Item × List Char) :=
  match readDateTime text with
  | some rest => some (.dateTime, rest)
  | none =>
    match (readFiniteFloat text).orElse fun _ => readSpecialFloat text with
    | some rest => some (.float, rest)
    | none => (readInteger text).map fun (number, rest) => (.integer number, rest)

end Toml
end TapeWorkbench
