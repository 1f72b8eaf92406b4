import TapeWorkbench.Decimal

/-!
# Decimal numerals and their values

The numeral of a number is made of its last digit and the numeral of what is left without it
(`digits_of_ten_le`), so what is said about numerals here goes by induction on the number of
digits: they consist of digits, stand for the number, and have no zero in front unless the
number is zero.
-/

namespace TapeWorkbench
namespace Decimal

theorem toNat_digitChar {digit : Nat} (small : digit < 10) :
    (digitChar digit).toNat = 48 + digit := by
  revert digit
  decide

theorem isDigit_digitChar {digit : Nat} (small : digit < 10) :
    isDigit (digitChar digit) = true := by
  simp only [isDigit, toNat_digitChar small, Bool.and_eq_true, decide_eq_true_eq]
  omega

theorem digitValue_digitChar {digit : Nat} (small : digit < 10) :
    digitValue (digitChar digit) = digit := by
  rw [digitValue, toNat_digitChar small]
  omega

theorem digitValue_lt_ten {c : Char} (digit : isDigit c = true) : digitValue c < 10 := by
  simp only [isDigit, Bool.and_eq_true, decide_eq_true_eq] at digit
  simp only [digitValue]
  omega

theorem digitChar_digitValue {c : Char} (digit : isDigit c = true) :
    digitChar (digitValue c) = c := by
  simp only [isDigit, Bool.and_eq_true, decide_eq_true_eq] at digit
  have code : 48 + digitValue c = c.toNat := by
    simp only [digitValue]
    omega
  rw [digitChar, code, Char.ofNat_toNat]

theorem digitsOnto_eq_append (number : Nat) (written : List Char) :
    digitsOnto number written = digits number ++ written := by
  induction number using Nat.strongRecOn generalizing written with
  | ind number ih =>
      rw [digits, digitsOnto, digitsOnto.eq_def number []]
      split
      · rfl
      · have shorter : number / 10 < number := by omega
        rw [ih _ shorter, ih _ shorter [_], List.append_assoc]
        rfl

theorem digits_of_lt_ten {number : Nat} (small : number < 10) :
    digits number = [digitChar number] := by
  rw [digits, digitsOnto, if_pos small]

theorem digits_of_ten_le {number : Nat} (large : 10 ≤ number) :
    digits number = digits (number / 10) ++ [digitChar (number % 10)] := by
  rw [digits, digitsOnto, if_neg (Nat.not_lt.mpr large), digitsOnto_eq_append]

theorem digits_ne_nil (number : Nat) : digits number ≠ [] := by
  rcases Nat.lt_or_ge number 10 with small | large
  · simp [digits_of_lt_ten small]
  · simp [digits_of_ten_le large]

theorem isDigit_of_mem_digits {number : Nat} {c : Char} (member : c ∈ digits number) :
    isDigit c = true := by
  induction number using Nat.strongRecOn with
  | ind number ih =>
      rcases Nat.lt_or_ge number 10 with small | large
      · rw [digits_of_lt_ten small, List.mem_singleton] at member
        rw [member]
        exact isDigit_digitChar small
      · rw [digits_of_ten_le large, List.mem_append, List.mem_singleton] at member
        rcases member with front | rfl
        · exact ih _ (by omega) front
        · exact isDigit_digitChar (Nat.mod_lt _ (by omega))

/-- Reading a numeral gives the number back. -/
theorem value_digits (number : Nat) : value (digits number) = number := by
  induction number using Nat.strongRecOn with
  | ind number ih =>
      rcases Nat.lt_or_ge number 10 with small | large
      · simp [digits_of_lt_ten small, value, digitValue_digitChar small]
      · rw [digits_of_ten_le large, value_concat, ih _ (by omega),
          digitValue_digitChar (Nat.mod_lt _ (by omega))]
        omega

/-- Only the numeral of zero begins with a zero. -/
theorem head?_digits_ne_zero {number : Nat} (positive : 0 < number) :
    (digits number).head? ≠ some '0' := by
  induction number using Nat.strongRecOn with
  | ind number ih =>
      rcases Nat.lt_or_ge number 10 with small | large
      · intro zero
        rw [digits_of_lt_ten small, List.head?_cons, Option.some.injEq] at zero
        have code := congrArg Char.toNat zero
        rw [toNat_digitChar small] at code
        change 48 + number = 48 at code
        omega
      · rw [digits_of_ten_le large, List.head?_append,
          Option.or_of_isSome (List.isSome_head?.mpr (digits_ne_nil _))]
        exact ih _ (by omega) (by omega)

theorem digits_zero : digits 0 = ['0'] :=
  digits_of_lt_ten (by omega)

end Decimal
end TapeWorkbench
