/-!
# Decimal numerals

Numbers are written in decimal without leading zeros.  A numeral is produced as
a list of digits, most significant first, and is read back by folding the
digits from the left; reading accepts leading zeros.
-/

namespace TapeWorkbench
namespace Decimal

def digitChar (digit : Nat) : Char :=
  Char.ofNat (48 + digit)

/-- Is this one of the ten decimal digits `0` to `9`? -/
def isDigit (c : Char) : Bool :=
  48 ≤ c.toNat && c.toNat ≤ 57

def digitValue (c : Char) : Nat :=
  c.toNat - 48

/-- The digits of a number in front of the digits already written. -/
def digitsOnto (number : Nat) (written : List Char) : List Char :=
  if number < 10 then
    digitChar number :: written
  else
    digitsOnto (number / 10) (digitChar (number % 10) :: written)

/-- The digits of a number, most significant first, without leading zeros. -/
def digits (number : Nat) : List Char :=
  digitsOnto number []

def numeral (number : Nat) : String :=
  String.ofList (digits number)

/-- The numeral of an integer, with a minus sign in front of a negative one. -/
def signedNumeral (number : Int) : String :=
  if number < 0 then "-" ++ numeral number.natAbs else numeral number.natAbs

/-- The number that a list of digits stands for, leading zeros allowed. -/
def value (digits : List Char) : Nat :=
  digits.foldl (fun total digit => 10 * total + digitValue digit) 0

/-- The number that a list of digits stands for, if it is below the bound.  The
digits are given up at the first place where the bound is reached. -/
def valueBelow? (bound : Nat) (digits : List Char) : Option Nat :=
  digits.foldlM (fun total digit =>
    let next := 10 * total + digitValue digit
    if next < bound then some next else none) 0

theorem value_concat (digits : List Char) (digit : Char) :
    value (digits ++ [digit]) = 10 * value digits + digitValue digit := by
  simp [value, List.foldl_append]

/-- Giving up early changes nothing, because further digits never make a number
smaller. -/
theorem valueBelow?_eq (bound : Nat) (digits : List Char) (positive : 0 < bound) :
    valueBelow? bound digits = if value digits < bound then some (value digits) else none := by
  suffices ∀ reversed : List Char,
      valueBelow? bound reversed.reverse =
        if value reversed.reverse < bound then some (value reversed.reverse) else none by
    simpa using this digits.reverse
  intro reversed
  induction reversed with
  | nil => simp [valueBelow?, value, positive]
  | cons digit reversed ih =>
    have step : valueBelow? bound (reversed.reverse ++ [digit]) =
        (valueBelow? bound reversed.reverse).bind fun total =>
          if 10 * total + digitValue digit < bound then
            some (10 * total + digitValue digit)
          else none := by
      simp [valueBelow?, List.foldlM_append]
    rw [List.reverse_cons, step, ih, value_concat]
    by_cases small : value reversed.reverse < bound
    · simp [small]
    · have large : ¬ 10 * value reversed.reverse + digitValue digit < bound := by omega
      simp [small, large]

end Decimal
end TapeWorkbench
