import Mathlib.Data.Nat.Digits.Lemmas
import TapeWorkbench.Proofs.Checked

/-!
# What decoding comes to

Cells that hold binary digits are decoded to a decimal numeral, the only one without needless
zeros for the number that they write (`TapeSection.isNumeral_decode`, `Decimal.IsNumeral.unique`).
Both sides of this are said with `Nat.ofDigits`, once for two and once for ten.

Decoding digit by digit keeps a row of decimal digits, the least significant first.  After any
number of cells it is the row of the number that these write (`TapeSection.isRow_of_cells`): its
digits are below ten and there is no zero on top of it, however long it has become.
-/

namespace TapeWorkbench

/-- Folding digits from the left is evaluating them with the last one first. -/
theorem foldl_eq_ofDigits {α : Type} (base : Nat) (digit : α → Nat) (written : List α) :
    written.foldl (fun total next => base * total + digit next) 0 =
      Nat.ofDigits base (written.reverse.map digit) := by
  induction written using List.reverseRecOn with
  | nil => rfl
  | append_singleton front last ih =>
      rw [List.foldl_concat, ih, List.reverse_concat, List.map_cons, Nat.ofDigits_cons,
        Nat.add_comm]

namespace Decimal

/-- The row is that of the decimal digits of the number, the least significant first.  There is
a zero on top of it only if it is the row of zero. -/
structure IsRow (row : List Nat) (number : Nat) : Prop where
  nonempty : row ≠ []
  small : ∀ digit ∈ row, digit < 10
  topmost : row.getLast? = some 0 → row = [0]
  value : Nat.ofDigits 10 row = number

/-- The text is the canonical numeral of the number: it consists of digits that stand for the
number in base ten, and begins with a zero only if this is all of it. -/
structure IsNumeral (text : String) (number : Nat) : Prop where
  digits : ∀ c ∈ text.toList, isDigit c = true
  row : IsRow (text.toList.reverse.map digitValue) number

theorem IsRow.eq_digits {row : List Nat} {number : Nat} (isRow : IsRow row number) :
    row = if number = 0 then [0] else Nat.digits 10 number := by
  by_cases zero : row = [0]
  · have none : number = 0 := by
      rw [← isRow.value, zero]
      rfl
    rw [zero, if_pos none]
  · have top (some : row ≠ []) : row.getLast some ≠ 0 := fun last =>
      zero (isRow.topmost (by rw [List.getLast?_eq_getLast_of_ne_nil some, last]))
    have same := Nat.digits_ofDigits 10 (by omega) row isRow.small top
    rw [isRow.value] at same
    have positive : number ≠ 0 := by
      rintro rfl
      exact isRow.nonempty (same.symm.trans (Nat.digits_zero 10))
    rw [if_neg positive, same]

theorem IsRow.unique {first second : List Nat} {number : Nat} (one : IsRow first number)
    (other : IsRow second number) : first = second :=
  one.eq_digits.trans other.eq_digits.symm

theorem IsNumeral.toList_eq {text : String} {number : Nat} (isNumeral : IsNumeral text number) :
    text.toList = (text.toList.reverse.map digitValue).reverse.map digitChar := by
  have kept : ∀ c ∈ text.toList, digitChar (digitValue c) = c := fun c member =>
    digitChar_digitValue (isNumeral.digits c member)
  rw [← List.map_reverse, List.reverse_reverse, List.map_map]
  exact ((List.map_congr_left kept).trans (List.map_id' _)).symm

/-- A number has one numeral. -/
theorem IsNumeral.unique {first second : String} {number : Nat} (one : IsNumeral first number)
    (other : IsNumeral second number) : first = second := by
  rw [← String.toList_inj, one.toList_eq, other.toList_eq, one.row.unique other.row]

end Decimal

namespace TapeSection

theorem isRow_digitsUpward (number : Nat) : Decimal.IsRow (digitsUpward number) number where
  nonempty := by simp [digitsUpward, Decimal.digits_ne_nil]
  small := by
    intro digit member
    obtain ⟨c, among, rfl⟩ := List.mem_map.mp member
    exact Decimal.digitValue_lt_ten (Decimal.isDigit_of_mem_digits (List.mem_reverse.mp among))
  topmost := by
    intro top
    rcases Nat.eq_zero_or_pos number with rfl | positive
    · exact digitsUpward_of_lt_ten (by omega)
    -- the first digit of a positive number is no zero
    rw [digitsUpward, List.getLast?_map, List.getLast?_reverse, Option.map_eq_some_iff] at top
    obtain ⟨c, first, zero⟩ := top
    have digit := Decimal.isDigit_of_mem_digits (List.mem_of_head? first)
    have same := Decimal.digitChar_digitValue digit
    rw [zero] at same
    rw [← same] at first
    exact absurd first (Decimal.head?_digits_ne_zero positive)
  value := by
    rw [digitsUpward, ← foldl_eq_ofDigits]
    exact Decimal.value_digits number

theorem isNumeral_numeral (number : Nat) : Decimal.IsNumeral (Decimal.numeral number) number where
  digits c member := by
    rw [Decimal.numeral, String.toList_ofList] at member
    exact Decimal.isDigit_of_mem_digits member
  row := by
    rw [Decimal.numeral, String.toList_ofList]
    exact isRow_digitsUpward number

/-- The number that cells write has them as its binary digits. -/
theorem binaryValue_eq_ofDigits (cells : List Symbol) :
    binaryValue cells = Nat.ofDigits 2 cells.reverse := by
  have folded := foldl_eq_ofDigits 2 id cells
  rwa [List.map_id] at folded

theorem decode_of_foreign {cells : List Symbol}
    (foreign : cells = [] ∨ ∃ cell ∈ cells, cell ≠ 0 ∧ cell ≠ 1) : decode cells = "x" := by
  rcases foreign with rfl | ⟨cell, member, notZero, notOne⟩
  · rfl
  · have some : cells.isEmpty = false := by
      rw [List.isEmpty_eq_false_iff]
      exact List.ne_nil_of_mem member
    have mixed : (cells.all fun cell => cell == Symbol.zero || cell == Symbol.one) = false := by
      rw [List.all_eq_false]
      exact ⟨cell, member, by simp [Symbol.zero, Symbol.one, notZero, notOne]⟩
    simp [decode, some, mixed, undecodable]

theorem decode_of_binary {cells : List Symbol} (some : cells ≠ [])
    (binary : ∀ cell ∈ cells, cell = 0 ∨ cell = 1) :
    decode cells = Decimal.numeral (Nat.ofDigits 2 cells.reverse) := by
  have filled : cells.isEmpty = false := List.isEmpty_eq_false_iff.mpr some
  have all : (cells.all fun cell => cell == Symbol.zero || cell == Symbol.one) = true := by
    rw [List.all_eq_true]
    intro cell member
    simpa [Symbol.zero, Symbol.one] using binary cell member
  simp [decode, filled, all, binaryValue_eq_ofDigits]

theorem isNumeral_decode {cells : List Symbol} (some : cells ≠ [])
    (binary : ∀ cell ∈ cells, cell = 0 ∨ cell = 1) :
    Decimal.IsNumeral (decode cells) (Nat.ofDigits 2 cells.reverse) := by
  rw [decode_of_binary some binary]
  exact isNumeral_numeral _

/-- Doubling the row for one cell after the other, digit by digit, leads to the row of the number
that the cells write. -/
theorem isRow_of_cells {cells : List Symbol} (binary : ∀ cell ∈ cells, cell = 0 ∨ cell = 1) :
    ∃ row, cells.foldlM (fun digits cell => doubleChecked cell digits) [0] = some row ∧
      Decimal.IsRow row (Nat.ofDigits 2 cells.reverse) := by
  have bits : ∀ cell ∈ cells, cell ≤ 1 := fun cell member =>
    Nat.le_one_iff_eq_zero_or_eq_one.mpr (binary cell member)
  have start : [0] = digitsUpward 0 := (digitsUpward_of_lt_ten (by omega)).symm
  refine ⟨digitsUpward (binaryValue cells), ?_, ?_⟩
  · rw [start]
    exact foldlM_doubleChecked 0 bits
  · rw [← binaryValue_eq_ofDigits]
    exact isRow_digitsUpward _

/-- What cells are decoded to, however many they are.  Without cells, and with one that holds no
binary digit, it is the mark for what cannot be decoded; otherwise it is the canonical numeral of
the number that has the cells as its binary digits, the most significant first, and no other text.

Decoding digit by digit in bytes, with a row that is doubled for each cell, gives the same, and
after any number of cells the row is that of the number that they write. -/
theorem decode_eq_iff (cells : List Symbol) :
    (∀ text, decode cells = text ↔
      (cells = [] ∨ ∃ cell ∈ cells, cell ≠ 0 ∧ cell ≠ 1) ∧ text = "x" ∨
        cells ≠ [] ∧ (∀ cell ∈ cells, cell = 0 ∨ cell = 1) ∧
          Decimal.IsNumeral text (Nat.ofDigits 2 cells.reverse)) ∧
      decodeChecked cells = some (decode cells) ∧
      ∀ front, front <+: cells → (∀ cell ∈ cells, cell = 0 ∨ cell = 1) →
        ∃ row, front.foldlM (fun digits cell => doubleChecked cell digits) [0] = some row ∧
          Decimal.IsRow row (Nat.ofDigits 2 front.reverse) := by
  refine ⟨fun text => ⟨?_, ?_⟩, decodeChecked_eq cells, fun front begins binary => ?_⟩
  · rintro rfl
    by_cases foreign : cells = [] ∨ ∃ cell ∈ cells, cell ≠ 0 ∧ cell ≠ 1
    · exact .inl ⟨foreign, decode_of_foreign foreign⟩
    · push Not at foreign
      have binary : ∀ cell ∈ cells, cell = 0 ∨ cell = 1 := fun cell member =>
        or_iff_not_imp_left.mpr (foreign.2 cell member)
      exact .inr ⟨foreign.1, binary, isNumeral_decode foreign.1 binary⟩
  · rintro (⟨foreign, rfl⟩ | ⟨some, binary, isNumeral⟩)
    · exact decode_of_foreign foreign
    · exact (isNumeral_decode some binary).unique isNumeral
  · exact isRow_of_cells fun cell member => binary cell (begins.subset member)

end TapeSection
end TapeWorkbench
